import IndexExport.Select.Query
/-!
# Setting parameters

A parameter that is set has its value and keeps its place, and the others stay. So setting
one that has the value already changes nothing, of two settings of one key the last one
counts, and a key that is there can be set before or after another one.
-/
set_option autoImplicit false

namespace IndexExport

namespace Parameters

theorem get?_set_self (key value : String) (ps : Parameters) :
    get? key (set key value ps) = some value := by
  induction ps with
  | nil => simp [set, get?]
  | cons first rest ih =>
      obtain ⟨k, v⟩ := first
      by_cases same : k = key <;> simp [set, get?, same, ih]

theorem get?_set_other {key other : String} (differ : other ≠ key) (value : String)
    (ps : Parameters) : get? other (set key value ps) = get? other ps := by
  induction ps with
  | nil => simp [set, get?, differ.symm]
  | cons first rest ih =>
      obtain ⟨k, v⟩ := first
      by_cases same : k = key
      · subst same
        simp [set, get?, differ.symm]
      · rw [set, if_neg same, get?, get?, ih]

theorem set_set (key first last : String) (ps : Parameters) :
    set key last (set key first ps) = set key last ps := by
  induction ps with
  | nil => simp [set]
  | cons p rest ih =>
      obtain ⟨k, v⟩ := p
      by_cases same : k = key <;> simp [set, same, ih]

theorem set_of_get? {key value : String} {ps : Parameters} (there : get? key ps = some value) :
    set key value ps = ps := by
  induction ps with
  | nil => cases there
  | cons p rest ih =>
      obtain ⟨k, v⟩ := p
      by_cases same : k = key
      · rw [get?, if_pos same] at there
        rw [set, if_pos same, Option.some.inj there]
      · rw [get?, if_neg same] at there
        rw [set, if_neg same, ih there]

/-- A key that is there keeps its place, so another one can be set first. -/
theorem set_comm {key other : String} (differ : key ≠ other) {ps : Parameters}
    (there : (get? key ps).isSome = true) (value otherValue : String) :
    set key value (set other otherValue ps) = set other otherValue (set key value ps) := by
  induction ps with
  | nil => cases there
  | cons p rest ih =>
      obtain ⟨k, v⟩ := p
      by_cases same : k = key
      · subst same
        simp [set, differ]
      · rw [get?, if_neg same] at there
        by_cases isOther : k = other
        · simp [set, isOther, differ.symm]
        · simp [set, same, isOther, ih there]

theorem remove_cons (key : String) (p : String × String) (ps : Parameters) :
    remove key (p :: ps) = if p.1 = key then remove key ps else p :: remove key ps := by
  by_cases same : p.1 = key <;> simp [remove, same]

theorem remove_set_self (key value : String) (ps : Parameters) :
    remove key (set key value ps) = remove key ps := by
  induction ps with
  | nil => simp [set, remove]
  | cons p rest ih =>
      obtain ⟨k, v⟩ := p
      by_cases same : k = key <;> simp [set, remove_cons, same, ih]

theorem remove_set_other {key other : String} (differ : other ≠ key) (value : String)
    (ps : Parameters) : remove key (set other value ps) = set other value (remove key ps) := by
  induction ps with
  | nil => simp [set, remove, differ]
  | cons p rest ih =>
      obtain ⟨k, v⟩ := p
      by_cases same : k = other
      · subst same
        simp [set, remove_cons, differ]
      · by_cases gone : k = key
        · simp [set, remove_cons, gone, differ.symm, ih]
        · simp [set, remove_cons, same, gone, ih]

theorem remove_remove (key : String) (ps : Parameters) :
    remove key (remove key ps) = remove key ps := by
  simp [remove]

theorem get?_remove_self (key : String) (ps : Parameters) : get? key (remove key ps) = none := by
  induction ps with
  | nil => rfl
  | cons p rest ih =>
      by_cases gone : p.1 = key
      · rw [remove_cons, if_pos gone, ih]
      · rw [remove_cons, if_neg gone, get?, if_neg gone, ih]

theorem get?_remove_other {key other : String} (differ : other ≠ key) (ps : Parameters) :
    get? other (remove key ps) = get? other ps := by
  induction ps with
  | nil => rfl
  | cons p rest ih =>
      obtain ⟨k, v⟩ := p
      by_cases gone : k = key
      · subst gone
        rw [remove_cons, if_pos rfl, ih, get?, if_neg differ.symm]
      · rw [remove_cons, if_neg gone, get?, get?, ih]

end Parameters

namespace SelectQuery

/-- A parameter is set, or removed for want of a value. -/
def setOrRemove (key : String) (q : SelectQuery) : Option String → SelectQuery
  | some value => q.set key value
  | none => q.remove key

@[simp] theorem get?_set_self (key value : String) (q : SelectQuery) :
    (q.set key value).get? key = some value :=
  Parameters.get?_set_self key value q.parameters

theorem get?_set_other {key other : String} (differ : other ≠ key) (value : String)
    (q : SelectQuery) : (q.set key value).get? other = q.get? other :=
  Parameters.get?_set_other differ value q.parameters

@[simp] theorem set_set (key first last : String) (q : SelectQuery) :
    (q.set key first).set key last = q.set key last := by
  simp only [set, Parameters.set_set]

theorem set_of_get? {key value : String} {q : SelectQuery} (there : q.get? key = some value) :
    q.set key value = q := by
  simp only [set, Parameters.set_of_get? there]

theorem set_comm {key other : String} (differ : key ≠ other) {q : SelectQuery}
    (there : (q.get? key).isSome = true) (value otherValue : String) :
    (q.set other otherValue).set key value = (q.set key value).set other otherValue := by
  simp only [set, Parameters.set_comm differ there]

@[simp] theorem remove_set_self (key value : String) (q : SelectQuery) :
    (q.set key value).remove key = q.remove key := by
  simp only [set, remove, Parameters.remove_set_self]

theorem remove_set_other {key other : String} (differ : other ≠ key) (value : String)
    (q : SelectQuery) : (q.set other value).remove key = (q.remove key).set other value := by
  simp only [set, remove, Parameters.remove_set_other differ]

@[simp] theorem remove_remove (key : String) (q : SelectQuery) :
    (q.remove key).remove key = q.remove key := by
  simp only [remove, Parameters.remove_remove]

@[simp] theorem get?_remove_self (key : String) (q : SelectQuery) :
    (q.remove key).get? key = none :=
  Parameters.get?_remove_self key q.parameters

theorem get?_remove_other {key other : String} (differ : other ≠ key) (q : SelectQuery) :
    (q.remove key).get? other = q.get? other :=
  Parameters.get?_remove_other differ q.parameters

end SelectQuery

end IndexExport
