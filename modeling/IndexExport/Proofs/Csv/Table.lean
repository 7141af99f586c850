import IndexExport.Page.Writer
/-!
# Writing a table

Each row of a page has a cell for each column, so no record is uneven and every page of
documents can be written as a table.
-/
set_option autoImplicit false

namespace IndexExport

namespace Csv

theorem firstUneven_eq_none {width : Nat} {records : List Record}
    (even : ∀ record ∈ records, record.length = width) : firstUneven width records = none := by
  induction records with
  | nil => rfl
  | cons record rest ih =>
      rw [firstUneven, if_pos (even record List.mem_cons_self),
        ih fun other member => even other (List.mem_cons_of_mem _ member)]

theorem length_row (columns : Record) (document : Json) :
    (row columns document).length = columns.length :=
  List.length_map ..

theorem pageText_eq (documents : List Json) :
    pageText documents =
      .ok (recordsText (columns documents :: documents.map (row (columns documents)))) := by
  have even : ∀ record ∈ documents.map (row (columns documents)),
      record.length = (columns documents).length := by
    intro record member
    obtain ⟨document, -, rfl⟩ := List.mem_map.mp member
    exact length_row _ document
  rw [pageText, tableText, firstUneven_eq_none even]

end Csv

namespace Page

theorem tableContent_eq_ok (documents : List Json) :
    ∃ content, tableContent documents = .ok content := by
  rw [tableContent, Csv.pageText_eq]
  split
  · exact ⟨_, rfl⟩
  · exact ⟨_, rfl⟩

end Page

end IndexExport
