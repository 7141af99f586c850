import IndexExport.Proofs.Csv.Reading
import IndexExport.Proofs.Export.Pages
import IndexExport.Proofs.Json.Records
/-!
# Pages are read back

What a writer makes of a page can be read from its file. In a raw page that is the documents:
they stood inside two brackets, so their list is not too deep to be read on its own. In a table
it is the columns and the cells.
-/
set_option autoImplicit false

namespace IndexExport

namespace Select

/-- The documents, whatever they are, are well formed and leave room for two brackets. -/
def ResultSet.Fits (results : ResultSet) : Prop :=
  ∀ documents ∈ results.documents, Json.Fits Response.documentRoom 0 documents

namespace Response

theorem yields_readResultSet : Json.Yields readResultSet ResultSet.Fits := by
  have anyCount : Json.Yields resultSetRecord.readFirst fun _ => True := fun _ _ _ _ => trivial
  have fields := Json.Record.yields_read anyCount (Json.yields_readAny documentRoom)
  intro lexemes results rest found
  rw [readResultSet] at found
  cases reads : resultSetRecord.read lexemes with
  | error trouble =>
      rw [reads] at found
      cases found
  | ok pair =>
      rw [reads] at found
      cases found
      exact (fields _ _ _ reads).2

theorem fits_of_read {body : String} {response : Response}
    (read : Response.read body = .ok response) :
    ∀ results ∈ response.results, results.Fits := by
  have anyCursor : Json.Yields responseRecord.readSecond fun _ => True := fun _ _ _ _ => trivial
  rw [Response.read] at read
  split at read
  · cases read
  · next found =>
    cases read
    exact (Json.Record.yields_read yields_readResultSet anyCursor _ _ _ found).1
  · cases read

/-- The list of the documents can be read on its own. -/
theorem fits_documents {body : String} {response : Response}
    (read : Response.read body = .ok response) :
    Json.Fits Json.deepest 0 (.list response.documents) := by
  have short : documentRoom ≤ Json.deepest := by decide
  rw [documents]
  split
  · next items found =>
    obtain ⟨results, there, held⟩ := Option.bind_eq_some_iff.mp found
    have fits := fits_of_read read results there (.list items) held
    exact ⟨fits.keyed, Nat.le_trans fits.deep short⟩
  · exact (Json.fits_list_iff []).mpr ⟨by decide, by simp⟩

end Response

end Select

namespace Page

open Storage (Tree Place)

/-- A file that is written holds what the writer makes of the payload. -/
theorem Writer.readText_of_write {writer : Writer} (occasion : Occasion)
    {content path : String} {payload : Payload} {tree : Tree} {place : Place}
    (held : writer.content occasion.moment payload = .ok content)
    (opens : tree.openForWriting path = .ok place) (takes : occasion.medium = .takes) :
    (writer.write occasion payload path tree).result = .ok () ∧
      (writer.write occasion payload path tree).files.readText path = .ok content := by
  obtain ⟨wrote, files⟩ := Writer.write_of_open held opens takes
  have free := (Tree.openForWriting_eq_ok opens).1
  have opensAfter := Tree.openForWriting_put_file free (.text content) opens
  have stands : (tree.put place (.file (.text content))).at? place =
      some (.file (.text content)) := Tree.at?_put_self (Tree.ne_root_of_not_directory free) _
  refine ⟨wrote, ?_⟩
  rw [files, Tree.readText, Tree.read_of_openForWriting opensAfter stands]

/-- What the raw writer writes of an answer is read back from the file. -/
theorem Writer.raw_read_back {body path : String} {response : Select.Response} {tree : Tree}
    {place : Place} (read : Select.Response.read body = .ok response)
    (whole : Json.onlyWholeItems response.documents = true)
    (opens : tree.openForWriting path = .ok place) (moment : String) :
    ∃ more text notices,
      Writer.raw.write ⟨moment, .takes⟩ (.documents response.documents) path tree =
        ⟨.ok (), more, notices⟩ ∧
      more.readText path = .ok text ∧ Json.read text = some (.list response.documents) := by
  have held : Writer.raw.content moment (.documents response.documents) =
      .ok (Json.list response.documents).pretty := rfl
  obtain ⟨written, reads⟩ := Writer.readText_of_write ⟨moment, .takes⟩ held opens rfl
  exact ⟨_, _, _, by rw [← written], reads,
    Json.read_pretty whole (Select.Response.fits_documents read)⟩

/-! An answer with a key that is there twice, a character written as two, and the greatest whole
number. -/

def thornyBody : String :=
  "[[2,[\x7b\"b\":1,\"a\":[null,\x7b\x7d],\"b\":\"\\ud83d\\ude00\\n\"\x7d,18446744073709551615]]]"

def thornyResponse : Select.Response :=
  ⟨some ⟨some 2, some (.list
    [.object [("b", .text "😀\n"), ("a", .list [.null, .object []])],
      .number (.whole 18446744073709551615)])⟩, none⟩

theorem Writer.raw_thorny_read_back : ∃ more text notices,
    Writer.raw.write ⟨"", .takes⟩ (.documents thornyResponse.documents) "page1.json" Tree.empty =
      ⟨.ok (), more, notices⟩ ∧
    more.readText "page1.json" = .ok text ∧
    Json.read text = some (.list thornyResponse.documents) := by
  have read : Select.Response.read thornyBody = .ok thornyResponse := by rfl
  have whole : Json.onlyWholeItems thornyResponse.documents = true := by rfl
  have opens : Tree.empty.openForWriting "page1.json" = .ok ["page1.json"] := by rfl
  exact Writer.raw_read_back read whole opens ""

/-- A table is read back from its file: the columns, and a row of cells for each document. -/
theorem Writer.table_read_back {documents : List Json} {path : String} {tree : Tree}
    {place : Place} (once : ∀ d ∈ documents, (Csv.keys d).Nodup)
    (fields : ∃ d ∈ documents, Csv.keys d ≠ []) (opens : tree.openForWriting path = .ok place)
    (moment : String) :
    ∃ more text notices records,
      Writer.csvTable.write ⟨moment, .takes⟩ (.documents documents) path tree =
        ⟨.ok (), more, notices⟩ ∧
      more.readText path = .ok text ∧ Csv.read text.toList = records ∧
      records = Csv.columns documents :: documents.map (fun document =>
        (Csv.columns documents).map fun column => Csv.cell (document.get? column)) ∧
      records.length = 1 + documents.length ∧ (Csv.columns documents).Nodup ∧
      ∀ record ∈ records, record.length = (Csv.columns documents).length := by
  obtain ⟨keyed, member, same, some⟩ := Csv.exists_columns_eq fields
  have columns : Csv.columns documents ≠ [] := by rwa [same]
  have held : Writer.csvTable.content moment (.documents documents) = .ok (String.ofList
      (Csv.recordsText (Csv.columns documents ::
        documents.map (Csv.row (Csv.columns documents))))) := by
    rw [Writer.content, tableContent, if_neg columns, Csv.pageText_eq]
  have even : ∀ record ∈ Csv.columns documents :: documents.map (Csv.row (Csv.columns documents)),
      record.length = (Csv.columns documents).length := by
    simp [Csv.length_row]
  obtain ⟨written, reads⟩ := Writer.readText_of_write ⟨moment, .takes⟩ held opens rfl
  refine ⟨_, _, _, _, by rw [← written], reads, ?_, rfl, ?_, ?_, even⟩
  · rw [String.toList_ofList]
    apply Csv.read_recordsText
    intro record among empty
    have width := even record among
    rw [empty, List.length_nil] at width
    exact columns (List.length_eq_zero_iff.mp width.symm)
  · simp [Nat.add_comm]
  · rw [same]
    exact once keyed member

/-! One column whose name is a quote and a comma. The documents have a list of texts with a line
end, an empty text, nothing, and no keys at all. -/

def thornyTable : List Json :=
  [.object [], .object [("\",", .list [.text "a\r\n", .text "\"\""])], .object [("\",", .text "")],
    .object [("b", .boolean true)], .null]

theorem Writer.table_thorny_read_back : ∃ more text notices,
    Writer.csvTable.write ⟨"", .takes⟩ (.documents thornyTable) "page1.csv" Tree.empty =
      ⟨.ok (), more, notices⟩ ∧
    more.readText "page1.csv" = .ok text ∧
    Csv.read text.toList = [["\","], [""], ["a\r\n,\"\""], [""], [""], [""]] := by
  have once : ∀ d ∈ thornyTable, (Csv.keys d).Nodup := by
    unfold thornyTable
    decide
  have fields : ∃ d ∈ thornyTable, Csv.keys d ≠ [] := ⟨_, .tail _ (.head _), by decide⟩
  have opens : Tree.empty.openForWriting "page1.csv" = .ok ["page1.csv"] := by rfl
  obtain ⟨more, text, notices, -, written, reads, same, rfl, -⟩ :=
    Writer.table_read_back once fields opens ""
  exact ⟨more, text, notices, written, reads, same⟩

end Page

end IndexExport
