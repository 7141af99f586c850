import IndexExport.Proofs.Select.Parameters
import Mathlib.Data.List.Nodup
import Mathlib.Logic.Function.Basic
/-!
# Parameters as a register

A register holds distinct keys in the order of their first setting and a value for each.
However often parameters are set and removed, they are those of the register to which the same
was done.
-/
set_option autoImplicit false

namespace IndexExport

/-- Distinct keys in order, and what each of them maps to. -/
structure Register where
  keys : List String
  distinct : keys.Nodup
  value : String → String

namespace Register

def empty : Register where
  keys := []
  distinct := List.nodup_nil
  value := fun _ => ""

/-- A key that is there keeps its place, a new one comes last. -/
def set (key value : String) (register : Register) : Register where
  keys := if key ∈ register.keys then register.keys else register.keys ++ [key]
  distinct := by
    split_ifs with present
    · exact register.distinct
    · exact List.nodup_append.mpr
        ⟨register.distinct, List.nodup_singleton key, fun other member last single equal =>
          present (List.mem_singleton.mp single ▸ equal ▸ member)⟩
  value := Function.update register.value key value

/-- The other keys keep their order. -/
def remove (key : String) (register : Register) : Register where
  keys := register.keys.filter (· ≠ key)
  distinct := register.distinct.filter _
  value := register.value

def get? (key : String) (register : Register) : Option String :=
  if key ∈ register.keys then some (register.value key) else none

def pairs (register : Register) : Parameters :=
  register.keys.map fun key => (key, register.value key)

end Register

/-! ## One change -/

section Change

variable {keys : List String} {value : String → String} {key new : String}

theorem map_update_of_not_mem (absent : key ∉ keys) :
    (keys.map fun k => (k, Function.update value key new k)) = keys.map fun k => (k, value k) := by
  apply List.map_congr_left
  intro k member
  rw [Function.update_of_ne (ne_of_mem_of_not_mem member absent)]

namespace Parameters

theorem get?_map : get? key (keys.map fun k => (k, value k)) =
    if key ∈ keys then some (value key) else none := by
  induction keys with
  | nil => rfl
  | cons k keys ih =>
      rw [List.map_cons, get?]
      by_cases same : k = key
      · rw [if_pos same, if_pos (List.mem_cons.mpr (.inl same.symm)), same]
      · simp only [if_neg same, ih, List.mem_cons, Ne.symm same, false_or]

theorem set_map (distinct : keys.Nodup) : set key new (keys.map fun k => (k, value k)) =
    (if key ∈ keys then keys else keys ++ [key]).map fun k =>
      (k, Function.update value key new k) := by
  induction keys with
  | nil => simp [set]
  | cons k keys ih =>
      obtain ⟨absent, distinct⟩ := List.nodup_cons.mp distinct
      rw [List.map_cons, set]
      by_cases same : k = key
      · subst same
        rw [if_pos rfl, if_pos List.mem_cons_self, List.map_cons, Function.update_self,
          map_update_of_not_mem absent]
      · have longer : (if key ∈ k :: keys then k :: keys else k :: keys ++ [key]) =
            k :: if key ∈ keys then keys else keys ++ [key] := by
          simp only [List.mem_cons, Ne.symm same, false_or, List.cons_append]
          split_ifs <;> rfl
        rw [if_neg same, ih distinct, longer, List.map_cons, Function.update_of_ne same]

theorem remove_map : remove key (keys.map fun k => (k, value k)) =
    (keys.filter (· ≠ key)).map fun k => (k, value k) := by
  rw [remove, List.filter_map]
  rfl

end Parameters

end Change

/-- What can be done to the parameters. -/
inductive Change where
  | set (key value : String)
  | remove (key : String)
  deriving DecidableEq, Repr

def Register.change (register : Register) : Change → Register
  | .set key value => register.set key value
  | .remove key => register.remove key

def SelectQuery.change (q : SelectQuery) : Change → SelectQuery
  | .set key value => q.set key value
  | .remove key => q.remove key

def Register.changed (register : Register) (changes : List Change) : Register :=
  changes.foldl Register.change register

def SelectQuery.changed (q : SelectQuery) (changes : List Change) : SelectQuery :=
  changes.foldl SelectQuery.change q

namespace SelectQuery

theorem get?_of_pairs {q : SelectQuery} {register : Register} (same : q.parameters = register.pairs)
    (key : String) : q.get? key = register.get? key := by
  rw [get?, same]
  exact Parameters.get?_map

theorem change_pairs {q : SelectQuery} {register : Register}
    (same : q.parameters = register.pairs) (change : Change) :
    (q.change change).parameters = (register.change change).pairs := by
  cases change with
  | set key value =>
      rw [SelectQuery.change, set, same]
      exact Parameters.set_map register.distinct
  | remove key =>
      rw [SelectQuery.change, remove, same]
      exact Parameters.remove_map

/-! ## Changes one after the other -/

theorem changed_pairs {q : SelectQuery} {register : Register}
    (same : q.parameters = register.pairs) (changes : List Change) :
    (q.changed changes).parameters = (register.changed changes).pairs := by
  induction changes generalizing q register with
  | nil => exact same
  | cons change changes ih => exact ih (change_pairs same change)

theorem change_base (q : SelectQuery) (change : Change) : (q.change change).base = q.base := by
  cases change <;> rfl

theorem change_query (q : SelectQuery) (change : Change) : (q.change change).query = q.query := by
  cases change <;> rfl

/-- Address and query text stay. -/
theorem changed_keeps (q : SelectQuery) (changes : List Change) :
    (q.changed changes).base = q.base ∧ (q.changed changes).query = q.query := by
  induction changes generalizing q with
  | nil => exact ⟨rfl, rfl⟩
  | cons change changes ih =>
      obtain ⟨base, query⟩ := ih (q.change change)
      exact ⟨base.trans (change_base q change), query.trans (change_query q change)⟩

end SelectQuery

end IndexExport
