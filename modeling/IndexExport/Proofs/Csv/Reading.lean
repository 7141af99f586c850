import IndexExport.Proofs.Csv.Table
/-!
# Tables are read back

To the reader a field ends at a comma and a record at a line end. Between quotes both stand for
themselves, and two quotes stand for one. Empty lines are passed over.

A field that is written as it is keeps the reader outside quotes, and one between quotes leaves
it behind the closing quote. Either way the reader has the field when it comes to the comma or
the line feed after it. Only where a record starts, a line feed would pass unseen, so a record
must not be written as nothing.
-/
set_option autoImplicit false

namespace IndexExport

namespace Csv

/-! ## The reader -/

/-- Where the reader stands: at the start of a record or of a later field, in a field, in
a field between quotes, or after a quote there. -/
inductive Position where
  | record
  | field
  | bare
  | quoted
  | closed
  deriving DecidableEq, Repr

/-- What the reader has of the record it is in, the last first. -/
structure Pending where
  field : List Char
  fields : List String

namespace Pending

def start : Pending := ⟨[], []⟩

def push (p : Pending) (c : Char) : Pending := { p with field := c :: p.field }

def endField (p : Pending) : Pending := ⟨[], String.ofList p.field.reverse :: p.fields⟩

def record (p : Pending) : Record := p.endField.fields.reverse

end Pending

def readFrom : Position → Pending → List Char → List Record
  | .record, _, [] => []
  | _, p, [] => [p.record]
  | .record, p, '\n' :: rest => readFrom .record p rest
  | .record, p, '\r' :: rest => readFrom .record p rest
  | .record, p, '"' :: rest => readFrom .quoted p rest
  | .field, p, '"' :: rest => readFrom .quoted p rest
  | .quoted, p, '"' :: rest => readFrom .closed p rest
  | .closed, p, '"' :: rest => readFrom .quoted (p.push '"') rest
  | .quoted, p, c :: rest => readFrom .quoted (p.push c) rest
  | _, p, ',' :: rest => readFrom .field p.endField rest
  | _, p, '\n' :: rest => p.record :: readFrom .record .start rest
  | _, p, '\r' :: rest => p.record :: readFrom .record .start rest
  | _, p, c :: rest => readFrom .bare (p.push c) rest

def read (cs : List Char) : List Record :=
  readFrom .record .start cs

/-! ## Steps of the reader -/

section Steps

variable {position : Position} {c : Char}

theorem readFrom_comma (outside : position ≠ .quoted) (p : Pending) (rest : List Char) :
    readFrom position p (',' :: rest) = readFrom .field p.endField rest := by
  cases position <;> first | rfl | exact absurd rfl outside

theorem readFrom_lineFeed (outside : position ≠ .quoted) (within : position ≠ .record)
    (p : Pending) (rest : List Char) :
    readFrom position p ('\n' :: rest) = p.record :: readFrom .record .start rest := by
  cases position <;> first | rfl | exact absurd rfl outside | exact absurd rfl within

def Position.IsStart (position : Position) : Prop :=
  position = .record ∨ position = .field

theorem readFrom_openQuote (starts : position.IsStart) (p : Pending) (rest : List Char) :
    readFrom position p ('"' :: rest) = readFrom .quoted p rest := by
  rcases starts with rfl | rfl <;> rfl

/-- Before a field, or in one that is not between quotes. -/
def Position.IsBare (position : Position) : Prop :=
  position = .record ∨ position = .field ∨ position = .bare

theorem readFrom_bare (outside : position.IsBare) (plain : needsQuotes c = false) (p : Pending)
    (rest : List Char) : readFrom position p (c :: rest) = readFrom .bare (p.push c) rest := by
  simp only [needsQuotes, Bool.or_eq_false_iff, decide_eq_false_iff_not] at plain
  rcases outside with rfl | rfl | rfl <;> simp [readFrom, plain]

theorem readFrom_doubled (c : Char) (p : Pending) (rest : List Char) :
    readFrom .quoted p (doubled c ++ rest) = readFrom .quoted (p.push c) rest := by
  rw [doubled]
  split
  · next quote =>
    rw [quote]
    rfl
  · next other =>
    rw [List.singleton_append, readFrom]
    exact other

end Steps

section Fields

variable {position : Position}

theorem readFrom_plain {cs : List Char} (plain : ∀ c ∈ cs, needsQuotes c = false)
    (some : cs ≠ []) (outside : position.IsBare) (p : Pending) (rest : List Char) :
    readFrom position p (cs ++ rest) =
      readFrom .bare { p with field := cs.reverse ++ p.field } rest := by
  induction cs generalizing position p with
  | nil => exact absurd rfl some
  | cons c cs ih =>
      rw [List.cons_append, readFrom_bare outside (plain c List.mem_cons_self)]
      by_cases last : cs = []
      · subst last
        rfl
      · rw [ih (fun d member => plain d (List.mem_cons_of_mem _ member)) last (.inr (.inr rfl))]
        simp [Pending.push]

theorem readFrom_flatMap_doubled (cs : List Char) (p : Pending) (rest : List Char) :
    readFrom .quoted p (cs.flatMap doubled ++ rest) =
      readFrom .quoted { p with field := cs.reverse ++ p.field } rest := by
  induction cs generalizing p with
  | nil => rfl
  | cons c cs ih =>
      rw [List.flatMap_cons, List.append_assoc, readFrom_doubled, ih]
      simp [Pending.push]

/-- After a field the reader has it and is outside quotes; it has moved if there was anything to
read. -/
theorem readFrom_fieldText (starts : position.IsStart) (field : String) (fields : List String)
    (rest : List Char) :
    ∃ stop, stop ≠ .quoted ∧ (fieldText field ≠ [] ∨ position ≠ .record → stop ≠ .record) ∧
      readFrom position ⟨[], fields⟩ (fieldText field ++ rest) =
        readFrom stop ⟨field.toList.reverse, fields⟩ rest := by
  have outside : position.IsBare := starts.imp_right .inl
  rw [fieldText]
  split
  · refine ⟨.closed, by decide, fun _ => by decide, ?_⟩
    rw [List.cons_append, List.cons_append, readFrom_openQuote starts, List.append_assoc,
      readFrom_flatMap_doubled, List.append_nil]
    rfl
  · next plain =>
    by_cases empty : field.toList = []
    · rw [empty]
      refine ⟨position, ?_, fun moved => moved.resolve_left (absurd rfl), rfl⟩
      rcases starts with rfl | rfl <;> decide
    · refine ⟨.bare, by decide, fun _ => by decide, ?_⟩
      rw [readFrom_plain (by simpa using plain) empty outside, List.append_nil]

end Fields

/-! ## Records -/

theorem fieldsText_cons (field next : String) (rest : Record) :
    fieldsText (field :: next :: rest) = fieldText field ++ ',' :: fieldsText (next :: rest) := by
  simp [fieldsText, Text.joinWith]

/-- By induction on the fields; the ones before are those that the reader has. -/
theorem readFrom_fieldsText {position : Position} (starts : position.IsStart) (field : String)
    (rest : Record) (seen : fieldsText (field :: rest) ≠ [] ∨ position ≠ .record)
    (fields : List String) (more : List Char) :
    readFrom position ⟨[], fields⟩ (fieldsText (field :: rest) ++ '\n' :: more) =
      (fields.reverse ++ field :: rest) :: readFrom .record .start more := by
  induction rest generalizing position field fields with
  | nil =>
      obtain ⟨stop, outside, within, reads⟩ := readFrom_fieldText starts field fields ('\n' :: more)
      have alone : fieldsText [field] = fieldText field := rfl
      rw [alone] at seen ⊢
      rw [reads, readFrom_lineFeed outside (within seen)]
      simp [Pending.record, Pending.endField]
  | cons next rest ih =>
      rw [fieldsText_cons, List.append_assoc, List.cons_append]
      obtain ⟨stop, outside, -, reads⟩ := readFrom_fieldText starts field fields
        (',' :: (fieldsText (next :: rest) ++ '\n' :: more))
      have later : Position.field ≠ .record := by decide
      rw [reads, readFrom_comma outside, Pending.endField, ih (.inr rfl) next (.inr later)]
      simp

theorem eq_of_fieldsText_eq_nil {record : Record} (some : record ≠ [])
    (blank : fieldsText record = []) : record = [""] := by
  match record with
  | [] => exact absurd rfl some
  | field :: next :: rest =>
      rw [fieldsText_cons] at blank
      simp at blank
  | [field] =>
      have nothing : fieldText field = [] := blank
      rw [fieldText] at nothing
      split at nothing
      · cases nothing
      · rw [String.toList_eq_nil_iff.mp nothing]

theorem readFrom_recordText {record : Record} (some : record ≠ []) (more : List Char) :
    readFrom .record .start (recordText record ++ more) =
      record :: readFrom .record .start more := by
  rw [recordText]
  split
  · next blank =>
    rw [eq_of_fieldsText_eq_nil some blank]
    rfl
  · next seen =>
    obtain ⟨field, rest, rfl⟩ := List.exists_cons_of_ne_nil some
    rw [List.append_assoc, List.singleton_append]
    exact readFrom_fieldsText (.inl rfl) field rest (.inl seen) [] more

/-- Records with at least one field are read back. -/
theorem read_recordsText {records : List Record} (some : ∀ record ∈ records, record ≠ []) :
    read (recordsText records) = records := by
  rw [read]
  induction records with
  | nil => rfl
  | cons record rest ih =>
      rw [recordsText, List.flatMap_cons, readFrom_recordText (some record List.mem_cons_self)]
      congr 1
      exact ih fun other member => some other (List.mem_cons_of_mem _ member)

/-- The columns are the keys of one of the documents that have any. -/
theorem exists_columns_eq {documents : List Json} (fields : ∃ d ∈ documents, keys d ≠ []) :
    ∃ d ∈ documents, columns documents = keys d ∧ keys d ≠ [] := by
  obtain ⟨d, member, some⟩ := fields
  rw [columns]
  split
  · next first found =>
    exact ⟨first, List.mem_of_find?_eq_some found, rfl, by simpa using List.find?_some found⟩
  · next none => exact absurd some (by simpa using List.find?_eq_none.mp none d member)

end Csv

end IndexExport
