import IndexExport.Proofs.Json.Joining
import IndexExport.Session
/-!
# The ways to write a filters document

A filter is given by what stands under its six keys. Neither the order of the keys nor other keys
beside them count, and the list of the fields gives the same filter. A list of filters may stand
on its own or under the key `data` of an object, where the last such entry counts.
-/
set_option autoImplicit false

namespace IndexExport

/-! ## Members under distinct keys -/

namespace Json.Members

variable {key : String} {value : Json} {members more : Members}

theorem get?_eq_some_iff (once : (members.map Prod.fst).Nodup) :
    get? key members = some value ↔ (key, value) ∈ members := by
  refine ⟨mem_of_get?, fun among => ?_⟩
  induction members with
  | nil => cases among
  | cons first rest ih =>
      obtain ⟨k, v⟩ := first
      rw [List.map_cons, List.nodup_cons] at once
      rw [get?]
      rcases List.mem_cons.mp among with here | later
      · cases here
        rw [if_pos rfl]
      · have other : k ≠ key := by
          rintro rfl
          exact once.1 (List.mem_map.mpr ⟨_, later, rfl⟩)
        rw [if_neg other, ih once.2 later]

theorem get?_of_perm {known : String × Json → Bool} (once : (members.map Prod.fst).Nodup)
    (others : (more.map Prod.fst).Nodup)
    (same : (members.filter known).Perm (more.filter known))
    (among : ∀ value, known (key, value) = true) : get? key members = get? key more := by
  refine Option.ext fun value => ?_
  have both := same.mem_iff (a := (key, value))
  simp only [List.mem_filter, among, and_true] at both
  rw [get?_eq_some_iff once, get?_eq_some_iff others, both]

end Json.Members

namespace Filter

open Json (Mismatch Members)

/-! ## Fields -/

def fieldNames : List String := ["id", "field", "type", "operator", "value", "joinOperator"]

theorem fieldName_cases (key : String) :
    key = "id" ∨ key = "field" ∨ key = "type" ∨ key = "operator" ∨ key = "value" ∨
      key = "joinOperator" ∨ key ∉ fieldNames := by
  simp only [fieldNames, List.mem_cons, List.not_mem_nil, or_false]
  tauto

/-- A field that is read where it is there, and has the given value where it is not. -/
def fieldOr {α : Type} (read : Json → Except Mismatch α) (absent : Except Mismatch α) :
    Option Json → Except Mismatch α
  | some value => read value
  | none => absent

/-- The filter whose six fields stand under their keys. -/
structure HasFields (get : String → Option Json) (f : Filter) : Prop where
  id : fieldOr scalarText (.error (.missingField "id")) (get "id") = .ok f.id
  field : fieldOr plainText (.ok "") (get "field") = .ok f.field
  kind : fieldOr kindOf (.error (.missingField "type")) (get "type") = .ok f.kind
  operator : fieldOr operatorOf (.ok none) (get "operator") = .ok f.operator
  value : fieldOr scalarText (.ok "") (get "value") = .ok f.value
  join : fieldOr joinOf (.ok none) (get "joinOperator") = .ok f.join

/-- What is known of a field after one more look at its key. -/
def taken {α : Type} (read : Json → Except Mismatch α) (before : Option α) :
    Option Json → Except Mismatch (Option α)
  | some value => (read value).map some
  | none => .ok before

/-- The draft with all that stands under its keys. -/
@[mk_iff]
structure Draft.Takes (get : String → Option Json) (draft next : Draft) : Prop where
  id : taken scalarText draft.id (get "id") = .ok next.id
  field : taken plainText draft.field (get "field") = .ok next.field
  kind : taken kindOf draft.kind (get "type") = .ok next.kind
  operator : taken operatorOf draft.operator (get "operator") = .ok next.operator
  value : taken scalarText draft.value (get "value") = .ok next.value
  join : taken joinOf draft.join (get "joinOperator") = .ok next.join

section Drafts

variable {α : Type} {read : Json → Except Mismatch α} {draft next final : Draft}
variable {key name : String} {value : Json} {members more : Members} {f : Filter}

theorem add_eq_ok_iff :
    draft.add key value = .ok next ↔ draft.Takes (Members.get? · [(key, value)]) next := by
  have get (name : String) :
      Members.get? name [(key, value)] = if key = name then some value else none := rfl
  obtain ⟨id, field, kind, operator, text, join⟩ := next
  simp only [Draft.takes_iff, get]
  rcases fieldName_cases key with rfl | rfl | rfl | rfl | rfl | rfl | other
  · cases read : scalarText value <;> simp [Draft.add, taken, Except.map, read]
  · cases read : plainText value <;> simp [Draft.add, taken, Except.map, read]
  · cases read : kindOf value <;> simp [Draft.add, taken, Except.map, read]
  · cases read : operatorOf value <;> simp [Draft.add, taken, Except.map, read]
  · cases read : scalarText value <;> simp [Draft.add, taken, Except.map, read]
  · cases read : joinOf value <;> simp [Draft.add, taken, Except.map, read]
  · simp only [fieldNames, List.mem_cons, List.not_mem_nil, or_false, not_or] at other
    cases draft
    simp [Draft.add, taken, other]

theorem taken_cons (new : key ∉ members.map Prod.fst) (name : String) (before after : Option α) :
    taken read before (Members.get? name ((key, value) :: members)) = .ok after ↔
      ∃ mid, taken read before (Members.get? name [(key, value)]) = .ok mid ∧
        taken read mid (Members.get? name members) = .ok after := by
  by_cases same : key = name
  · subst same
    have absent : Members.get? key members = none := by
      refine Option.eq_none_iff_forall_ne_some.mpr fun v found => new ?_
      exact List.mem_map.mpr ⟨_, Members.mem_of_get? found, rfl⟩
    simp [Members.get?, absent, taken]
  · simp [Members.get?, same, taken]

theorem takes_cons (new : key ∉ members.map Prod.fst) :
    draft.Takes (Members.get? · ((key, value) :: members)) final ↔
      ∃ next, draft.Takes (Members.get? · [(key, value)]) next ∧
        next.Takes (Members.get? · members) final := by
  constructor
  · rintro ⟨id, field, kind, operator, text, join⟩
    rw [taken_cons new] at id field kind operator text join
    obtain ⟨i, id, id'⟩ := id
    obtain ⟨f, field, field'⟩ := field
    obtain ⟨k, kind, kind'⟩ := kind
    obtain ⟨o, operator, operator'⟩ := operator
    obtain ⟨t, text, text'⟩ := text
    obtain ⟨j, join, join'⟩ := join
    exact ⟨⟨i, f, k, o, t, j⟩, ⟨id, field, kind, operator, text, join⟩,
      ⟨id', field', kind', operator', text', join'⟩⟩
  · rintro ⟨next, first, later⟩
    exact ⟨(taken_cons new _ _ _).mpr ⟨_, first.id, later.id⟩,
      (taken_cons new _ _ _).mpr ⟨_, first.field, later.field⟩,
      (taken_cons new _ _ _).mpr ⟨_, first.kind, later.kind⟩,
      (taken_cons new _ _ _).mpr ⟨_, first.operator, later.operator⟩,
      (taken_cons new _ _ _).mpr ⟨_, first.value, later.value⟩,
      (taken_cons new _ _ _).mpr ⟨_, first.join, later.join⟩⟩

theorem addAll_eq_ok_iff (once : (members.map Prod.fst).Nodup) :
    draft.addAll members = .ok final ↔ draft.Takes (Members.get? · members) final := by
  induction members generalizing draft with
  | nil =>
      cases draft
      cases final
      simp [Draft.addAll, Draft.takes_iff, Members.get?, taken]
  | cons first rest ih =>
      obtain ⟨key, value⟩ := first
      rw [List.map_cons, List.nodup_cons] at once
      rw [takes_cons once.1, Draft.addAll]
      simp only [← add_eq_ok_iff, ← ih once.2]
      cases draft.add key value <;> simp

theorem finish_eq_ok_iff :
    draft.finish = .ok f ↔ draft.id = some f.id ∧ draft.field.getD "" = f.field ∧
      draft.kind = some f.kind ∧ draft.operator.getD none = f.operator ∧
      draft.value.getD "" = f.value ∧ draft.join.getD none = f.join := by
  obtain ⟨id, field, kind, operator, value, join⟩ := draft
  cases f
  cases id <;> cases kind <;> simp [Draft.finish]

theorem fieldOr_error_iff {fault : Mismatch} {found : Option Json} {a : α} :
    fieldOr read (.error fault) found = .ok a ↔ taken read none found = .ok (some a) := by
  cases found with
  | none => simp [fieldOr, taken]
  | some value => cases result : read value <;> simp [fieldOr, taken, Except.map, result]

theorem fieldOr_ok_iff {default : α} {found : Option Json} {a : α} :
    fieldOr read (.ok default) found = .ok a ↔
      ∃ seen, taken read none found = .ok seen ∧ seen.getD default = a := by
  cases found with
  | none => simp [fieldOr, taken]
  | some value => cases result : read value <;> simp [fieldOr, taken, Except.map, result]

/-- The members of an object give a filter by what stands under the keys of its fields. -/
theorem ofMembers_eq_ok_iff (once : (members.map Prod.fst).Nodup) :
    ofMembers members = .ok f ↔ HasFields (Members.get? · members) f := by
  have whole : ofMembers members = .ok f ↔
      ∃ draft, Draft.addAll {} members = .ok draft ∧ draft.finish = .ok f := by
    rw [ofMembers]
    cases Draft.addAll {} members <;> simp
  rw [whole]
  simp only [addAll_eq_ok_iff once, finish_eq_ok_iff]
  constructor
  · rintro ⟨draft, ⟨id, field, kind, operator, text, join⟩, id', field', kind', rest⟩
    obtain ⟨operator', text', join'⟩ := rest
    rw [id'] at id
    rw [kind'] at kind
    exact ⟨fieldOr_error_iff.mpr id, fieldOr_ok_iff.mpr ⟨_, field, field'⟩,
      fieldOr_error_iff.mpr kind, fieldOr_ok_iff.mpr ⟨_, operator, operator'⟩,
      fieldOr_ok_iff.mpr ⟨_, text, text'⟩, fieldOr_ok_iff.mpr ⟨_, join, join'⟩⟩
  · rintro ⟨id, field, kind, operator, text, join⟩
    obtain ⟨f', field, field'⟩ := fieldOr_ok_iff.mp field
    obtain ⟨o, operator, operator'⟩ := fieldOr_ok_iff.mp operator
    obtain ⟨t, text, text'⟩ := fieldOr_ok_iff.mp text
    obtain ⟨j, join, join'⟩ := fieldOr_ok_iff.mp join
    exact ⟨⟨some f.id, f', some f.kind, o, t, j⟩,
      ⟨fieldOr_error_iff.mp id, field, fieldOr_error_iff.mp kind, operator, text, join⟩,
      rfl, field', rfl, operator', text', join'⟩

end Drafts

/-! ## Other ways to write a filter -/

def listed (members : Members) : List Json :=
  [(members.get? "id").getD .null, (members.get? "field").getD (.text ""),
    (members.get? "type").getD .null, (members.get? "operator").getD .null,
    (members.get? "value").getD .null, (members.get? "joinOperator").getD .null]

/-- Other ways to write an item of a list. A filter that is accepted may have its keys in another
order and other keys beside them, and it may be written as the list of its fields. -/
inductive Rewritten : Json → Json → Prop where
  | same (item : Json) : Rewritten item item
  | object {members more : Members} {f : Filter} (accepted : ofMembers members = .ok f)
      (fields : (members.filter (·.1 ∈ fieldNames)).Perm (more.filter (·.1 ∈ fieldNames))) :
      Rewritten (.object members) (.object more)
  | list {members : Members} {f : Filter} (accepted : ofMembers members = .ok f) :
      Rewritten (.object members) (.list (listed members))

section Rewritten

variable {α : Type} {read : Json → Except Mismatch α} {members more : Members} {f : Filter}
variable {item other : Json} {items others : List Json}

/-- What is written for an absent field is read as the field that is absent. -/
theorem read_getD {absent : Except Mismatch α} {found : Option Json} {a : α} (blank : Json)
    (held : fieldOr read absent found = .ok a)
    (neutral : ∀ a, absent = .ok a → read blank = .ok a) : read (found.getD blank) = .ok a := by
  cases found with
  | none => exact neutral a held
  | some value => exact held

theorem ofItems_listed (fields : HasFields (Members.get? · members) f) :
    ofItems (listed members) = .ok f := by
  have id := read_getD .null fields.id (by simp)
  have field := read_getD (.text "") fields.field (by simp [plainText])
  have kind := read_getD .null fields.kind (by simp)
  have operator := read_getD .null fields.operator (by simp [operatorOf])
  have value := read_getD .null fields.value (by simp [scalarText])
  have nothing : joinOf .null = .ok none := by rfl
  have join := read_getD .null fields.join (by simp [nothing])
  simp [ofItems, itemOr, listed, id, field, kind, operator, value, join, bind, Except.bind]

theorem hasFields_of_perm (once : (members.map Prod.fst).Nodup)
    (others : (more.map Prod.fst).Nodup)
    (same : (members.filter (·.1 ∈ fieldNames)).Perm (more.filter (·.1 ∈ fieldNames)))
    (fields : HasFields (Members.get? · members) f) : HasFields (Members.get? · more) f := by
  have under : ∀ name ∈ fieldNames, members.get? name = more.get? name := by
    intro name field
    exact Members.get?_of_perm once others same (by simpa using field)
  obtain ⟨id, field, kind, operator, value, join⟩ := fields
  constructor
  all_goals
    rw [← under _ (by decide)]
    assumption

/-- The filter is the same however it is written. -/
theorem ofJson_of_rewritten (rewritten : Rewritten item other) (keyed : item.KeyedOnce)
    (keyedOther : other.KeyedOnce) : ofJson other = ofJson item := by
  cases rewritten with
  | same => rfl
  | object accepted fields =>
      cases keyed with
      | object once _ =>
          cases keyedOther with
          | object others _ =>
              have held := (ofMembers_eq_ok_iff once).mp accepted
              have more := (ofMembers_eq_ok_iff others).mpr (hasFields_of_perm once others fields held)
              rw [ofJson, ofJson, accepted, more]
  | list accepted =>
      cases keyed with
      | object once _ =>
          rw [ofJson, ofJson, accepted, ofItems_listed ((ofMembers_eq_ok_iff once).mp accepted)]

theorem allOfJson_of_rewritten (each : List.Forall₂ Rewritten items others)
    (keyed : ∀ item ∈ items, item.KeyedOnce) (keyedOthers : ∀ other ∈ others, other.KeyedOnce) :
    allOfJson others = allOfJson items := by
  induction each with
  | nil => rfl
  | cons rewritten rest ih =>
      rw [List.forall_mem_cons] at keyed keyedOthers
      rw [allOfJson, allOfJson, ofJson_of_rewritten rewritten keyed.1 keyedOthers.1,
        ih keyed.2 keyedOthers.2]

end Rewritten

/-! ## Other ways to write a document -/

/-- The texts of the filters: their list, each filter written in any way, or an object whose last
entry under `data` is the text of such a list. -/
inductive Document (items : List Json) : String → Prop where
  | list {text : String} {others : List Json} (array : Json.read text = some (.list others))
      (each : List.Forall₂ Rewritten items others) : Document items text
  | object {list text : String} {others : List Json} {members : Members}
      (array : Json.read list = some (.list others)) (each : List.Forall₂ Rewritten items others)
      (whole : Json.read text = some (.object members))
      (last : Json.LastEntry "data" list text) : Document items text

section Documents

variable {list text : String} {items others : List Json} {members : Members}

theorem readAll_of_list (array : Json.read text = some (.list items)) :
    readAll text = (allOfJson items).mapError (Json.Fault.mismatch · none) := by
  rw [readAll, array]
  simp only [ofDocument, listOf, Json.get?, Option.getD_none]
  cases allOfJson items <;> rfl

theorem readAll_of_last (array : Json.read list = some (.list items))
    (whole : Json.read text = some (.object members)) (last : Json.LastEntry "data" list text) :
    readAll text = readAll list := by
  have found := Json.get?_of_lastEntry last array (by simp [Json.bracket?]) whole
  rw [readAll_of_list array, readAll, whole]
  simp only [ofDocument, listOf, Json.get?, found, Option.getD_some]
  cases allOfJson items <;> rfl

theorem keyedOnce_of_read (array : Json.read text = some (.list items)) :
    ∀ item ∈ items, item.KeyedOnce := by
  cases (Json.fits_of_read array).keyed with
  | list each => exact each

theorem readAll_of_rewritten (array : Json.read list = some (.list items))
    (other : Json.read text = some (.list others)) (each : List.Forall₂ Rewritten items others) :
    readAll text = readAll list := by
  rw [readAll_of_list array, readAll_of_list other,
    allOfJson_of_rewritten each (keyedOnce_of_read array) (keyedOnce_of_read other)]

theorem readAll_of_document (array : Json.read list = some (.list items))
    (document : Document items text) : readAll text = readAll list := by
  cases document with
  | list other each => exact readAll_of_rewritten array other each
  | object other each whole last =>
      rw [readAll_of_last other whole last, readAll_of_rewritten array other each]

theorem rewritten_refl (items : List Json) : List.Forall₂ Rewritten items items :=
  List.forall₂_same.mpr fun item _ => .same item

end Documents

/-- Every text of the same filters is read as their list is, failures included, and gives the same
query in either mode. There is such a text around every list that leaves room for the object. -/
theorem every_document_reads_alike {list : String} {items : List Json}
    (array : Json.read list = some (.list items)) :
    (∀ text, Document items text → readAll text = readAll list ∧
      ∀ (settings : Settings) path (files more : Storage.Tree),
        settings.filtersFile = some path → files.readText path = .ok list →
        more.readText path = .ok text →
        Session.compileQuery settings more = Session.compileQuery settings files) ∧
    (Json.nesting list ≤ 126 → Document items (Json.underKey "data" list)) := by
  have closes : (Json.list items).bracket? ≠ none := by simp [Json.bracket?]
  constructor
  · intro text document
    have same := readAll_of_document array document
    refine ⟨same, fun settings path files more named here there => ?_⟩
    simp only [Session.compileQuery, named, Session.loadFilters, here, there, same]
  · intro shallow
    have room : Json.nesting list < Json.deepest := Nat.lt_succ_of_le shallow
    exact .object array (rewritten_refl items) (Json.read_underKey array closes room "data")
      (Json.lastEntry_underKey array closes "data")

/-! Two filters as objects, and then in an object with more than one `data`, the first of them as
a list and the second with its keys in another order and one key more. -/

def plainList : String :=
  "[\x7b\"id\":1,\"type\":\"text\"\x7d,\x7b\"id\":\"2\",\"type\":\"date\"\x7d]"

def plainItems : List Json :=
  [.object [("id", .number (.whole 1)), ("type", .text "text")],
    .object [("id", .text "2"), ("type", .text "date")]]

def variedList : String :=
  "[[1,\"\",\"text\",null,null,null],\x7b\"type\":\"date\",\"z\":[],\"id\":\"2\"\x7d]"

def variedItems : List Json :=
  [.list [.number (.whole 1), .text "", .text "text", .null, .null, .null],
    .object [("type", .text "date"), ("z", .list []), ("id", .text "2")]]

def variedDocument : String :=
  "\x7b\"data\":7,\"data\":" ++ variedList ++ ",\"x\":\x7b\"data\":[]\x7d\x7d"

def variedMembers : Members :=
  [("data", .list variedItems), ("x", .object [("data", .list [])])]

theorem rewritten_variedItems : List.Forall₂ Rewritten plainItems variedItems := by
  have first : ofMembers [("id", .number (.whole 1)), ("type", .text "text")] =
      .ok ⟨"1", "", .text, none, "", none⟩ := by rfl
  have second : ofMembers [("id", .text "2"), ("type", .text "date")] =
      .ok ⟨"2", "", .date, none, "", none⟩ := by rfl
  exact .cons (.list first) (.cons (.object second (List.Perm.swap _ _ [])) .nil)

theorem document_varied : Document plainItems variedDocument := by
  have array : Json.read variedList = some (.list variedItems) := by rfl
  have whole : Json.read variedDocument = some (.object variedMembers) := by rfl
  refine .object array rewritten_variedItems whole ?_
  refine ⟨"\x7b\"data\":7,\"data\":", ",\"x\":\x7b\"data\":[]\x7d\x7d",
    (Json.entries (Json.scan variedDocument.toList)).take 1,
    (Json.entries (Json.scan variedDocument.toList)).drop 2, rfl, ?_, ?_⟩
  · decide +kernel
  · decide +kernel

def fileOf (text : String) : Storage.Tree :=
  Storage.Tree.empty.put ["f"] (.file (.text text))

def fileSettings (mode : Mode) : Settings :=
  { Settings.default with filtersFile := some "f", filterMode := mode }

theorem readAll_variedDocument :
    Json.read plainList = some (.list plainItems) ∧
    readAll plainList =
      .ok [⟨"1", "", .text, none, "", none⟩, ⟨"2", "", .date, none, "", none⟩] ∧
    readAll variedDocument = readAll plainList ∧
    Session.compileQuery (fileSettings .structured) (fileOf variedDocument) =
      Session.compileQuery (fileSettings .structured) (fileOf plainList) ∧
    Session.compileQuery (fileSettings .legacy) (fileOf variedDocument) =
      Session.compileQuery (fileSettings .legacy) (fileOf plainList) ∧
    readAll (Json.underKey "data" plainList) = readAll plainList := by
  have array : Json.read plainList = some (.list plainItems) := by rfl
  have shallow : Json.nesting plainList ≤ 126 := by decide +kernel
  obtain ⟨same, wrapped⟩ := every_document_reads_alike array
  obtain ⟨filters, queries⟩ := same variedDocument document_varied
  refine ⟨array, ?_, filters, queries _ "f" _ _ rfl rfl rfl, queries _ "f" _ _ rfl rfl rfl,
    (same _ (wrapped shallow)).1⟩
  rw [readAll_of_list array]
  rfl

end Filter

end IndexExport
