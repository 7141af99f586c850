import IndexExport.Proofs.Csv.Table
import IndexExport.Proofs.Export.BulkWalk
import IndexExport.Proofs.Export.CursorWalk
import Mathlib.Algebra.Order.Floor.Div
/-!
# Indexes

A finite index holds its documents in a fixed order and has a mark for each place between
them. `Serves` says how it answers: from a mark on, with the mark of the place after the last
document of the answer, or from the beginning where no mark is given.

Cut into pages of equal size, the documents of an index make up each page but the last one,
and behind the last page there is an empty one. So the marks of the pages are a chain of
cursors, one longer than there are pages.
-/
set_option autoImplicit false

namespace IndexExport.Export

/-- Documents in order, with a mark for each place; the first mark is that of the first
cursor. -/
structure Index where
  documents : List Json
  mark : Nat → String
  differ : Function.Injective mark
  first : mark 0 = Cursor.first

namespace Index

variable (index : Index) (rows : Nat)

def size : Nat := index.documents.length

/-- At most `rows` documents from a place on. -/
def slice (start : Nat) : List Json := (index.documents.drop start).take rows

/-- The documents of a page, counted from zero. -/
def page (i : Nat) : List Json := index.slice rows (i * rows)

def place (i : Nat) : Nat := min (i * rows) index.size

def pages : Nat := index.size ⌈/⌉ rows

theorem place_zero : index.place rows 0 = 0 := by
  rw [place, Nat.zero_mul, Nat.zero_min]

theorem place_le (i : Nat) : index.place rows i ≤ index.size := Nat.min_le_right ..

theorem place_succ (i : Nat) :
    min (index.place rows i + rows) index.size = index.place rows (i + 1) := by
  rw [place, place, Nat.succ_mul]
  omega

/-- Behind the last document nothing is left. -/
theorem slice_place (i : Nat) : index.slice rows (index.place rows i) = index.page rows i := by
  rw [page, slice, slice, place]
  by_cases inside : i * rows ≤ index.size
  · rw [Nat.min_eq_left inside]
  · rw [Nat.min_eq_right (by omega), List.drop_eq_nil_of_le (Nat.le_refl index.size),
      List.drop_eq_nil_of_le (show index.size ≤ i * rows by omega)]

theorem length_slice (start : Nat) :
    (index.slice rows start).length = min rows (index.size - start) := by
  rw [slice, List.length_take, List.length_drop, size]

theorem slice_zero {index : Index} {rows : Nat} (covers : index.size ≤ rows) :
    index.slice rows 0 = index.documents := by
  rw [slice, List.drop_zero]
  exact List.take_of_length_le covers

theorem flatMap_page (n : Nat) :
    (List.range n).flatMap (index.page rows) = index.documents.take (n * rows) := by
  induction n with
  | zero => rw [Nat.zero_mul]; rfl
  | succ n ih =>
      rw [List.range_succ, List.flatMap_append, ih, List.flatMap_singleton, Nat.succ_mul,
        List.take_add]
      rfl

section Pages

variable {index} {rows} {i : Nat} (positive : 0 < rows)
include positive

theorem lt_pages_iff : i < index.pages rows ↔ i * rows < index.size := by
  have past : index.pages rows ≤ i ↔ index.size ≤ rows * i := ceilDiv_le_iff_le_mul positive
  rw [Nat.mul_comm] at past
  omega

theorem page_eq_nil_iff : index.page rows i = [] ↔ index.pages rows ≤ i := by
  have inside : i < index.pages rows ↔ i * rows < index.size := lt_pages_iff positive
  have length := index.length_slice rows (i * rows)
  rw [← List.length_eq_zero_iff, page, length]
  omega

theorem page_ne_nil_iff : index.page rows i ≠ [] ↔ i < index.pages rows := by
  rw [ne_eq, page_eq_nil_iff positive, Nat.not_le]

/-- Every page but the last is full. -/
theorem length_page (before : i + 1 < index.pages rows) : (index.page rows i).length = rows := by
  have inside := (lt_pages_iff positive).mp before
  rw [Nat.succ_mul] at inside
  rw [page, length_slice]
  omega

theorem flatMap_pages {n : Nat} (covers : index.pages rows ≤ n) :
    (List.range n).flatMap (index.page rows) = index.documents := by
  have past : n < index.pages rows ↔ n * rows < index.size := lt_pages_iff positive
  rw [flatMap_page]
  exact List.take_of_length_le (show index.size ≤ n * rows by omega)

/-- The place stays where the last document is passed. -/
theorem place_succ_eq_iff :
    index.place rows (i + 1) = index.place rows i ↔ index.pages rows ≤ i := by
  have inside : i < index.pages rows ↔ i * rows < index.size := lt_pages_iff positive
  rw [place, place, Nat.succ_mul]
  omega

theorem pages_eq_zero_iff : index.pages rows = 0 ↔ index.size = 0 := by
  have none : 0 < index.pages rows ↔ 0 * rows < index.size := lt_pages_iff positive
  omega

theorem pages_eq_one (some : 0 < index.size) (few : index.size < rows) : index.pages rows = 1 := by
  have first : 0 < index.pages rows ↔ 0 * rows < index.size := lt_pages_iff positive
  have second : 1 < index.pages rows ↔ 1 * rows < index.size := lt_pages_iff positive
  omega

end Pages

/-! ## Marks as cursors -/

section Marks

variable {index} {rows} {responses : Nat → Select.Response}
variable (marks : ∀ i, (responses i).cursor? = some (index.mark (index.place rows (i + 1))))
include marks

theorem cursorAt_eq (i : Nat) : cursorAt responses i = index.mark (index.place rows i) := by
  cases i with
  | zero => rw [place_zero, index.first]; rfl
  | succ i => rw [cursorAt, marks, Option.getD_some]

/-- The marks of the pages, and of the empty one behind them. -/
theorem chain (positive : 0 < rows) (few : index.pages rows + 1 < UInt32.size) :
    Chain responses (index.pages rows + 1) := by
  refine ⟨Nat.succ_pos _, few, ?_, ?_⟩
  · intro i below
    rw [marks]
    rfl
  · intro i below
    rw [marks, cursorAt_eq marks, Option.some_inj, index.differ.eq_iff,
      place_succ_eq_iff positive]
    omega

end Marks

end Index

/-! ## Answers -/

/-- A request for so many of the documents that match a query. -/
structure Requested (query : SelectQuery) (rows : Nat) (asked : SelectQuery) : Prop where
  base : asked.base = query.base
  text : asked.query = query.query
  rows : asked.get? "rows" = some (toString rows)

/-- A request is answered with success, and the body is this response. -/
def Replied (fetch : Fetcher) (before : Nat) (asked : SelectQuery) (body : String)
    (response : Select.Response) : Prop :=
  Answered fetch before asked body ∧ Select.Response.read body = .ok response

/-- A response has these documents. Where fields are asked for, each document may be cut down to
them. -/
def Shows (asked : SelectQuery) (documents : List Json) (response : Select.Response) : Prop :=
  response.documents.length = documents.length ∧
    (asked.get? "fl" = none → response.documents = documents)

/-- An index answers requests for what matches a query, whatever was asked before: from a mark
on for pages of one size, and without a mark from the beginning. -/
structure Serves (index : Index) (rows : Nat) (query : SelectQuery) (fetch : Fetcher) : Prop where
  marked : ∀ before asked start, Requested query rows asked →
    asked.get? "cursorMark" = some (index.mark start) → start ≤ index.size →
    ∃ body response, Replied fetch before asked body response ∧
      Shows asked (index.slice rows start) response ∧
      response.cursor? = some (index.mark (min (start + rows) index.size)) ∧
      response.count? = some index.size
  unmarked : ∀ before asked count, Requested query count asked →
    asked.get? "cursorMark" = none →
    ∃ body response, Replied fetch before asked body response ∧
      Shows asked (index.slice count 0) response ∧ response.count? = some index.size

/-- The answer to a request for a page. -/
theorem Serves.page {index : Index} {rows : Nat} {query asked : SelectQuery} {fetch : Fetcher}
    (serves : Serves index rows query fetch) (before : Nat) {i : Nat}
    (requested : Requested query rows asked)
    (mark : asked.get? "cursorMark" = some (index.mark (index.place rows i))) :
    ∃ body response, Replied fetch before asked body response ∧
      Shows asked (index.page rows i) response ∧
      response.cursor? = some (index.mark (index.place rows (i + 1))) := by
  obtain ⟨body, response, replied, shows, next, -⟩ :=
    serves.marked before asked _ requested mark (index.place_le rows i)
  rw [Index.slice_place] at shows
  rw [Index.place_succ] at next
  exact ⟨body, response, replied, shows, next⟩

end IndexExport.Export
