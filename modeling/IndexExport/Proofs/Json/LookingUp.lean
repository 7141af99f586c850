import IndexExport.Json.Record
import IndexExport.Proofs.Json.Entries
import Mathlib.Tactic.SplitIfs
/-!
# Reading in one pass and looking up

A record can be had in two ways: its fields are read while the text is gone over, or the text is
read as any JSON value and the fields are looked up in it. Where the text is an object in which no
field of the record stands twice, both give the same, failure included.

A field is read in one of the two ways and decoded from a value in the other, and the lemmas hand
up the agreement of the two from the fields to the record.
-/
set_option autoImplicit false

namespace IndexExport.Json

/-! ## How a value begins -/

/-- The lexemes with which a value begins, all of them if it is no list and no object. -/
def Begins (rest : List Lexeme) : Json → List Lexeme → Prop
  | .null, lexemes => lexemes = .null :: rest
  | .boolean b, lexemes => lexemes = .boolean b :: rest
  | .number v, lexemes => ∃ n, n.value? = some v ∧ lexemes = .numeral n :: rest
  | .text s, lexemes => lexemes = .text (some s) :: rest
  | .list _, lexemes => ∃ more, lexemes = .openList :: more
  | .object _, lexemes => ∃ more, lexemes = .openObject :: more

section Begins

variable {room : Nat} {lexemes rest : List Lexeme} {value : Json}

theorem begins_of_readValue (read : readValue room lexemes = some (value, rest)) :
    Begins rest value lexemes := by
  cases lexemes with
  | nil => cases read
  | cons lexeme lexemes =>
      obtain ⟨reached, steps, goesOn⟩ := readFrom_cons_eq_some read
      cases lexeme with
      | null => cases steps; cases goesOn; rfl
      | boolean b => cases steps; cases goesOn; rfl
      | numeral n =>
          obtain ⟨v, found, rfl⟩ := Option.map_eq_some_iff.mp steps
          cases goesOn
          exact ⟨n, found, rfl⟩
      | text s =>
          cases s with
          | none => cases steps
          | some s => cases steps; cases goesOn; rfl
      | openList =>
          simp only [readStep, beginValue, List.length_nil] at steps
          split_ifs at steps
          cases steps
          have list : value.bracket? = some .list := bracket?_of_readFrom rfl goesOn
          cases value with
          | list items => exact ⟨lexemes, rfl⟩
          | _ => cases list
      | openObject =>
          simp only [readStep, beginValue, List.length_nil] at steps
          split_ifs at steps
          cases steps
          have object : value.bracket? = some .object := bracket?_of_readFrom rfl goesOn
          cases value with
          | object members => exact ⟨lexemes, rfl⟩
          | _ => cases object
      | _ => cases steps

end Begins

/-! ## Values of keys -/

namespace Members

variable {key other : String} {value : Json}

theorem get?_put_self (key : String) (value : Json) (members : Members) :
    get? key (members.put key value) = some value := by
  induction members with
  | nil => simp [put, get?]
  | cons member rest ih =>
      obtain ⟨k, v⟩ := member
      by_cases same : k = key <;> simp [put, get?, same, ih]

theorem get?_put_other (differ : other ≠ key) (value : Json) (members : Members) :
    get? other (members.put key value) = get? other members := by
  induction members with
  | nil => simp [put, get?, differ.symm]
  | cons member rest ih =>
      obtain ⟨k, v⟩ := member
      by_cases same : k = key
      · subst same
        simp [put, get?, differ.symm]
      · rw [put, if_neg same, get?, get?, ih]

theorem get?_putAll_of_absent {entries : List Entry} (absent : key ∉ entries.map Entry.key)
    (members : Members) : get? key (members.putAll entries) = get? key members := by
  induction entries generalizing members with
  | nil => rfl
  | cons entry entries ih =>
      rw [List.map_cons, List.mem_cons, not_or] at absent
      rw [putAll, List.foldl_cons, ← putAll, ih absent.2, get?_put_other absent.1]

/-- The value of a key that is written once is the one that is written. -/
theorem get?_putAll_of_mem {entries : List Entry} {entry : Entry}
    (once : (entries.map Entry.key).count entry.key ≤ 1) (member : entry ∈ entries)
    (members : Members) : get? entry.key (members.putAll entries) = some entry.value := by
  induction entries generalizing members with
  | nil => cases member
  | cons first entries ih =>
      rw [List.map_cons, List.count_cons] at once
      rw [putAll, List.foldl_cons, ← putAll]
      rcases List.mem_cons.mp member with rfl | later
      · rw [BEq.rfl, if_pos rfl] at once
        have absent := List.count_eq_zero.mp (Nat.le_zero.mp (Nat.le_of_succ_le_succ once))
        rw [get?_putAll_of_absent absent, get?_put_self]
      · exact ih (by omega) later _

end Members

/-! ## Fields -/

/-- Where the lexemes start with the value, `read` gives what `decode` makes of it, or nothing. -/
def Decodes {α : Type} (room : Nat) (read : Reading α) (decode : Json → Option α)
    (lexemes : List Lexeme) (value : Json) : Prop :=
  ∀ rest, readValue room lexemes = some (value, rest) →
    (read lexemes).toOption = (decode value).map fun a => (a, rest)

/-- `null` is decoded to nothing. -/
def nullable {α : Type} (decode : Json → Option α) : Json → Option (Option α)
  | .null => some none
  | value => (decode value).map some

/-- What is decoded of a field, which need not be there. -/
def fieldOf {α : Type} (decode : Json → Option α) : Option Json → Option (Option (Option α))
  | none => some none
  | some value => (nullable decode value).map some

/-- The number of a value that is a whole one from zero to the greatest. -/
def asCount? : Json → Option Nat
  | .number (.whole (.ofNat n)) => if n ≤ Numeral.wordMax then some n else none
  | _ => none

theorem asCount?_eq_some_iff {value : Json} {n : Nat} :
    asCount? value = some n ↔ n ≤ Numeral.wordMax ∧ value = .number (.whole n) := by
  rw [asCount?.eq_def]
  split
  · split
    · next m fits =>
      constructor
      · rintro ⟨⟩
        exact ⟨fits, rfl⟩
      · rintro ⟨-, ⟨⟩⟩
        rfl
    · next m great =>
      constructor
      · rintro ⟨⟩
      · rintro ⟨fits, ⟨⟩⟩
        exact absurd fits great
  · next other =>
    constructor
    · rintro ⟨⟩
    · rintro ⟨-, rfl⟩
      exact absurd rfl (other n)

theorem asText?_eq_some_iff {value : Json} {s : String} :
    asText? value = some s ↔ value = .text s := by
  cases value <;> simp [asText?]

section Fields

variable {α γ : Type} {room : Nat} {read : Reading α} {decode : Json → Option α}
variable {lexemes : List Lexeme} {value : Json}

theorem toOption_map (result : Except Trouble α) (f : α → γ) :
    (result.map f).toOption = result.toOption.map f := by
  cases result <;> rfl

theorem reading_cases {result : Except Trouble (α × List Lexeme)} {found : Option α}
    {rest : List Lexeme} (same : result.toOption = found.map fun a => (a, rest)) :
    (∃ trouble, result = .error trouble ∧ found = none) ∨
      ∃ a, result = .ok (a, rest) ∧ found = some a := by
  cases result with
  | error trouble => exact .inl ⟨trouble, rfl, Option.map_eq_none_iff.mp same.symm⟩
  | ok pair =>
      obtain ⟨a, held, rfl⟩ := Option.map_eq_some_iff.mp same.symm
      exact .inr ⟨a, rfl, held⟩

theorem decodes_orNull (decodes : Decodes room read decode lexemes value) :
    Decodes room (orNull read) (nullable decode) lexemes value := by
  intro rest found
  have begins := begins_of_readValue found
  rw [orNull.eq_def]
  split
  · cases value <;> simp [Begins] at begins
    subst begins
    rfl
  · next other =>
    rw [toOption_map, decodes rest found, nullable.eq_def]
    split
    · exact absurd begins (other rest)
    · simp [Function.comp_def]

theorem decodes_readText (lexemes : List Lexeme) (value : Json) :
    Decodes room readText asText? lexemes value := by
  intro rest found
  have begins := begins_of_readValue found
  cases value with
  | text s => rw [begins]; rfl
  | null => rw [begins]; rfl
  | boolean b => rw [begins]; rfl
  | number v => obtain ⟨n, -, rfl⟩ := begins; rfl
  | list items => obtain ⟨more, rfl⟩ := begins; rfl
  | object members => obtain ⟨more, rfl⟩ := begins; rfl

theorem le_gather {significand : Nat} (fits : significand ≤ Numeral.wordMax) (ds : List Char) :
    (Numeral.gather significand ds).1 ≤ Numeral.wordMax := by
  induction ds generalizing significand with
  | nil => exact fits
  | cons d ds ih =>
      rw [Numeral.gather]
      split
      · next longer => exact ih longer
      · exact fits

/-- A whole number that is written fits into a word. -/
theorem le_of_value? {n : Numeral} {m : Nat} (whole : n.value? = some (.whole (.ofNat m))) :
    m ≤ Numeral.wordMax := by
  have fits := le_gather (Nat.zero_le _) n.whole
  rw [Numeral.value?] at whole
  generalize Numeral.gather 0 n.whole = gathered at fits whole
  obtain ⟨significand, taken, dropped⟩ := gathered
  dsimp only at fits whole
  split at whole
  · split_ifs at whole with here negative
    · cases whole
      exact fits
    · simp only [Option.some.injEq, Number.whole.injEq] at whole
      rw [Int.ofNat_eq_natCast] at whole
      omega
    · obtain ⟨_, _, double⟩ := Option.map_eq_some_iff.mp whole
      cases double
  · obtain ⟨_, _, double⟩ := Option.map_eq_some_iff.mp whole
    cases double

theorem decodes_readCount (lexemes : List Lexeme) (value : Json) :
    Decodes room readCount asCount? lexemes value := by
  intro rest found
  have begins := begins_of_readValue found
  cases value with
  | number v =>
      obtain ⟨n, number, rfl⟩ := begins
      cases v with
      | whole n =>
          cases n with
          | ofNat n => simp [readCount, number, asCount?, Except.toOption, le_of_value? number]
          | negSucc n => simp [readCount, number, asCount?, Except.toOption]
      | double x => simp [readCount, number, asCount?, Except.toOption]
  | null => rw [begins]; rfl
  | boolean b => rw [begins]; rfl
  | text s => rw [begins]; rfl
  | list items => obtain ⟨more, rfl⟩ := begins; rfl
  | object members => obtain ⟨more, rfl⟩ := begins; rfl

theorem decodes_readAny (lexemes : List Lexeme) (value : Json) :
    Decodes room (readAny room) some lexemes value := by
  intro rest found
  rw [readAny, found]
  rfl

theorem decodes_field_iff (value : Option Json) :
    (∃ field, fieldOf decode value = some field) ↔
      ∀ v ∈ value, v = .null ∨ ∃ a, decode v = some a := by
  cases value with
  | none => exact ⟨fun _ v there => (nomatch there), fun _ => ⟨none, rfl⟩⟩
  | some value =>
      cases value <;> simp [fieldOf, nullable, Option.map_eq_some_iff]

/-- What is there of a field that is decoded. -/
theorem join_of_fieldOf {value : Option Json} {field : Option (Option α)}
    (found : fieldOf decode value = some field) :
    field.join = value.bind fun v => (nullable decode v).join := by
  cases value with
  | none =>
      cases found
      rfl
  | some value =>
      obtain ⟨a, decoded, rfl⟩ := Option.map_eq_some_iff.mp found
      simp [decoded]

theorem join_nullable (nothing : decode .null = none) (value : Json) :
    (nullable decode value).join = decode value := by
  cases value with
  | null => exact nothing.symm
  | _ =>
      simp only [nullable]
      generalize decode _ = decoded
      cases decoded <;> rfl

end Fields

/-! ## Records -/

namespace Record

variable {α β : Type}

/-- The fields of a record that is looked up in an object. -/
def lookUp (r : Record α β) (first : Json → Option α) (second : Json → Option β)
    (members : Members) : Option (Seen α β) := do
  let a ← fieldOf first (members.get? r.firstName)
  let b ← fieldOf second (members.get? r.secondName)
  return ⟨a, b⟩

/-- No field of the record is written in the entries twice, or again if it is a member. -/
def Once (r : Record α β) (members : Members) (entries : List Entry) : Prop :=
  ∀ name, name = r.firstName ∨ name = r.secondName →
    (entries.map Entry.key).count name ≤ 1 ∧
      ((members.get? name).isSome = true → name ∉ entries.map Entry.key)

/-- The fields of the record can be decoded wherever they stand in the entries. -/
structure FieldsDecode (room : Nat) (r : Record α β) (first : Json → Option α)
    (second : Json → Option β) (entries : List Entry) : Prop where
  first : ∀ entry ∈ entries, entry.key = r.firstName →
    Decodes room r.readFirst first entry.lexemes entry.value
  second : ∀ entry ∈ entries, entry.key = r.secondName →
    Decodes room r.readSecond second entry.lexemes entry.value

section Lookup

variable {r : Record α β} {first : Json → Option α} {second : Json → Option β}
variable {room : Nat} {members : Members} {seen : Seen α β} {entry : Entry}
variable {entries : List Entry} {lexemes rest : List Lexeme} {value : Json}

theorem Once.tail (once : r.Once members (entry :: entries)) :
    r.Once (members.put entry.key entry.value) entries := by
  intro name field
  obtain ⟨single, known⟩ := once name field
  rw [List.map_cons, List.count_cons] at single
  refine ⟨by omega, fun there later => ?_⟩
  by_cases same : name = entry.key
  · have positive := List.count_pos_iff.mpr later
    simp only [same, BEq.rfl, if_true] at single positive
    omega
  · rw [Members.get?_put_other same] at there
    exact known there (List.mem_cons_of_mem _ later)

theorem FieldsDecode.tail (decode : FieldsDecode room r first second (entry :: entries)) :
    FieldsDecode room r first second entries :=
  ⟨fun other member => decode.first other (List.mem_cons_of_mem _ member),
    fun other member => decode.second other (List.mem_cons_of_mem _ member)⟩

theorem lookUp_eq_some (found : r.lookUp first second members = some seen) :
    fieldOf first (members.get? r.firstName) = some seen.first ∧
      fieldOf second (members.get? r.secondName) = some seen.second := by
  obtain ⟨a, here, found⟩ := Option.bind_eq_some_iff.mp found
  obtain ⟨b, there, found⟩ := Option.bind_eq_some_iff.mp found
  cases found
  exact ⟨here, there⟩

theorem lookUp_of_fields {a : Option (Option α)} {b : Option (Option β)}
    (here : fieldOf first (members.get? r.firstName) = some a)
    (there : fieldOf second (members.get? r.secondName) = some b) :
    r.lookUp first second members = some ⟨a, b⟩ := by
  rw [lookUp, here, there]
  rfl

/-- A field that is there does not change with more entries. -/
theorem fieldOf_of_putAll {γ : Type} {decode : Json → Option γ} {name : String}
    {field : Option (Option γ)}
    (known : (members.get? name).isSome = true → name ∉ entries.map Entry.key)
    (found : fieldOf decode ((members.putAll entries).get? name) = some field) :
    ∃ before, fieldOf decode (members.get? name) = some before := by
  cases there : members.get? name with
  | none => exact ⟨none, rfl⟩
  | some value =>
      rw [Members.get?_putAll_of_absent (known (by rw [there]; rfl)), there] at found
      exact ⟨field, found⟩

/-- What is decoded with more members can be decoded without them. -/
theorem lookUp_of_putAll (once : r.Once members entries)
    (found : r.lookUp first second (members.putAll entries) = some seen) :
    ∃ before, r.lookUp first second members = some before := by
  obtain ⟨here, there⟩ := lookUp_eq_some found
  obtain ⟨a, first⟩ := fieldOf_of_putAll (once _ (.inl rfl)).2 here
  obtain ⟨b, second⟩ := fieldOf_of_putAll (once _ (.inr rfl)).2 there
  exact ⟨⟨a, b⟩, lookUp_of_fields first second⟩

/-- What has been seen of a field that is still to come: nothing. -/
theorem seen_of_new {γ : Type} {decode : Json → Option γ} {name : String}
    {field : Option (Option γ)} (once : r.Once members (entry :: entries))
    (named : name = r.firstName ∨ name = r.secondName) (same : entry.key = name)
    (found : fieldOf decode (members.get? name) = some field) : field = none := by
  cases there : members.get? name with
  | none =>
      rw [there] at found
      exact (Option.some.inj found).symm
  | some value =>
      have absent := (once name named).2 (by rw [there]; rfl)
      rw [List.map_cons, List.mem_cons, not_or] at absent
      exact absurd same.symm absent.1

theorem lookUp_put_first (distinct : r.firstName ≠ r.secondName) (value : Json)
    (there : fieldOf second (members.get? r.secondName) = some seen.second) :
    r.lookUp first second (members.put r.firstName value) =
      (nullable first value).map fun a => { seen with first := some a } := by
  rw [lookUp, Members.get?_put_self, Members.get?_put_other distinct.symm, there, fieldOf]
  cases nullable first value <;> rfl

theorem lookUp_put_second (distinct : r.firstName ≠ r.secondName) (value : Json)
    (here : fieldOf first (members.get? r.firstName) = some seen.first) :
    r.lookUp first second (members.put r.secondName value) =
      (nullable second value).map fun b => { seen with second := some b } := by
  rw [lookUp, Members.get?_put_self, Members.get?_put_other distinct, here, fieldOf]
  cases nullable second value <;> rfl

theorem lookUp_put_other {key : String} (notFirst : key ≠ r.firstName)
    (notSecond : key ≠ r.secondName) (value : Json) :
    r.lookUp first second (members.put key value) = r.lookUp first second members := by
  rw [lookUp, Members.get?_put_other notFirst.symm, Members.get?_put_other notSecond.symm, lookUp]

theorem readMember_eq_lookUp (distinct : r.firstName ≠ r.secondName)
    (once : r.Once members (entry :: entries))
    (decode : FieldsDecode room r first second (entry :: entries))
    (soFar : r.lookUp first second members = some seen)
    (reads : readValue room entry.lexemes = some (entry.value, rest)) :
    (r.readMember seen (.text (some entry.key) :: .colon :: entry.lexemes)).toOption =
      (r.lookUp first second (members.put entry.key entry.value)).map fun more =>
        (more, rest) := by
  obtain ⟨here, there⟩ := lookUp_eq_some soFar
  rw [readMember]
  split_ifs with isFirst again isSecond again
  · rw [seen_of_new once (.inl rfl) isFirst here] at again
    cases again
  · have decoded := decodes_orNull (decode.first entry List.mem_cons_self isFirst) _ reads
    rw [isFirst, lookUp_put_first distinct entry.value there, afterColon, toOption_map, decoded,
      Option.map_map, Option.map_map]
    rfl
  · rw [seen_of_new once (.inr rfl) isSecond there] at again
    cases again
  · have decoded := decodes_orNull (decode.second entry List.mem_cons_self isSecond) _ reads
    rw [isSecond, lookUp_put_second distinct entry.value here, afterColon, toOption_map, decoded,
      Option.map_map, Option.map_map]
    rfl
  · rw [lookUp_put_other isFirst isSecond, soFar, afterColon, passOver,
      skipValue_of_readValue reads]
    rfl

theorem readMembers_eq_lookUp (distinct : r.firstName ≠ r.secondName)
    (holds : Holds room rest entries lexemes) {fuel : Nat} (enough : lexemes.length ≤ fuel)
    (once : r.Once members entries) (decode : FieldsDecode room r first second entries)
    (soFar : r.lookUp first second members = some seen) :
    (r.readMembers fuel seen lexemes).toOption =
      (r.lookUp first second (members.putAll entries)).map fun final => (final, rest) := by
  -- what has been seen is what is looked up in the members so far
  induction holds generalizing fuel members seen with
  | @last key value lexemes reads =>
      obtain ⟨fuel, rfl⟩ := Nat.exists_eq_add_one.mpr (Nat.lt_of_lt_of_le (Nat.succ_pos _) enough)
      rw [readMembers]
      rcases reading_cases (readMember_eq_lookUp distinct once decode soFar reads) with
        ⟨trouble, member, lost⟩ | ⟨more, member, found⟩
      · rw [member]
        exact (congrArg (Option.map _) lost).symm
      · rw [member]
        exact (congrArg (Option.map fun final => (final, rest)) found).symm
  | @more key value lexemes behind entries reads others ih =>
      obtain ⟨fuel, rfl⟩ := Nat.exists_eq_add_one.mpr (Nat.lt_of_lt_of_le (Nat.succ_pos _) enough)
      have shorter := length_lt_of_readFrom reads
      simp only [List.length_cons] at enough shorter
      rw [readMembers]
      rcases reading_cases (readMember_eq_lookUp distinct once decode soFar reads) with
        ⟨trouble, member, lost⟩ | ⟨more, member, found⟩
      · rw [member]
        cases whole : r.lookUp first second (members.putAll (⟨key, value, lexemes⟩ :: entries)) with
        | none => rfl
        | some final =>
            obtain ⟨before, there⟩ := lookUp_of_putAll once.tail whole
            rw [lost] at there
            cases there
      · rw [member]
        exact ih (by omega) once.tail decode.tail found

theorem once_of_timesWritten
    (holds : Holds room rest entries lexemes)
    (single : ∀ name, name = r.firstName ∨ name = r.secondName →
      timesWritten name (.openObject :: lexemes) ≤ 1) : r.Once [] entries := by
  intro name field
  have written := single name field
  rw [timesWritten, Json.entries, entriesFrom_of_holds holds, List.map_map] at written
  exact ⟨written, fun there => by cases there⟩

/-- A record that is written as an object is read in one pass as it is looked up. -/
theorem read_eq_lookUp (distinct : r.firstName ≠ r.secondName)
    (reads : readValue (room + 1) lexemes = some (.object members, rest))
    (single : ∀ name, name = r.firstName ∨ name = r.secondName → timesWritten name lexemes ≤ 1)
    (firstDecodes : ∀ entry ∈ Json.entries lexemes, entry.1 = r.firstName →
      ∀ value ∈ members.get? r.firstName, Decodes room r.readFirst first entry.2 value)
    (secondDecodes : ∀ entry ∈ Json.entries lexemes, entry.1 = r.secondName →
      ∀ value ∈ members.get? r.secondName, Decodes room r.readSecond second entry.2 value) :
    (r.read lexemes).toOption =
      (r.lookUp first second members).map fun seen => (seen.values, rest) := by
  obtain ⟨lexemes, rfl⟩ := begins_of_readValue reads
  rcases readValue_object reads with ⟨rfl, rfl⟩ | ⟨entries, holds, rfl⟩
  · rfl
  · have written := entriesFrom_of_holds holds
    rw [Json.entries, written] at firstDecodes secondDecodes
    have once := once_of_timesWritten holds single
    have decode : FieldsDecode room r first second entries := by
      refine ⟨fun entry member same => ?_, fun entry member same => ?_⟩
      · refine firstDecodes _ (List.mem_map_of_mem member) same entry.value ?_
        rw [← same]
        exact Members.get?_putAll_of_mem (once _ (.inl same)).1 member []
      · refine secondDecodes _ (List.mem_map_of_mem member) same entry.value ?_
        rw [← same]
        exact Members.get?_putAll_of_mem (once _ (.inr same)).1 member []
    have nothing : r.lookUp first second [] = some ⟨none, none⟩ := rfl
    have whole := readMembers_eq_lookUp distinct holds (Nat.le_refl _) once decode nothing
    have starts : ∀ behind, lexemes ≠ .closeObject :: behind := by
      rintro behind rfl
      cases holds
    rw [Record.read, readObject.eq_def]
    split
    · exact absurd rfl (starts _)
    · rw [toOption_map, whole, Option.map_map]
      rfl

end Lookup

end Record

end IndexExport.Json
