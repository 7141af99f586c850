import IndexExport.Proofs.Export.Pages
/-!
# The files of an export in bulk

An export in bulk writes the answers to its requests for data. `Tables` says what its files
hold then: a table is copied as it came, and documents go through the writer of tables.
-/
set_option autoImplicit false

namespace IndexExport.Export

namespace Job

/-- The documents in an answer, if there is one. -/
def documentsOf (data : Option String) : List Json := data.elim [] documentsIn

/-- Where `dataAt i` is the answer to the request for the data of a page, a table is copied
as it came, and documents become a table, the same at every moment, unless there are none. -/
structure Tables (format : Format) (job : Job) (before : Storage.Tree)
    (dataAt : Nat → Option String) (n : Nat) (p : Progress) : Prop where
  csv : format = .csv →
    p.report.files = ((List.range n).filter fun i => (dataAt i).isSome).map
      (fun i => job.pageFile (i + 1)) ∧
    p.report.documentsWritten = 0 ∧
    ∀ i < n, ∀ body, dataAt i = some body →
      p.files.read (job.pageFile (i + 1)) = .ok (.text body)
  flatCsv : format = .flatCsv →
    p.report.files = ((List.range n).filter fun i => documentsOf (dataAt i) ≠ []).map
      (fun i => job.pageFile (i + 1)) ∧
    p.report.documentsWritten = ((List.range n).map fun i => (documentsOf (dataAt i)).length).sum ∧
    ∀ i < n, documentsOf (dataAt i) ≠ [] → ∃ content,
      (∀ moment, Page.Writer.csvTable.content moment (.documents (documentsOf (dataAt i))) =
        .ok content) ∧
      p.files.read (job.pageFile (i + 1)) = .ok (.text content)
  untouched : ∀ place, (∀ path ∈ p.report.files, before.openForWriting path ≠ .ok place) →
    p.files.at? place = before.at? place

section Tables

variable {format : Format} {job : Job} {files : Storage.Tree} {dataAt : Nat → Option String}
variable {sentAt : Nat → Nat} {n : Nat} {p : Progress}

theorem bind_payloadOf_csv (described : job.descriptor = Format.csv.descriptor)
    (data : Option String) : data.bind job.payloadOf = data.map .tabular := by
  have table : job.payloadOf = fun body => some (.tabular body) := by
    funext body
    rw [payloadOf, described]
    rfl
  rw [table]
  cases data <;> rfl

theorem bind_payloadOf_flatCsv (described : job.descriptor = Format.flatCsv.descriptor)
    (data : Option String) : data.bind job.payloadOf = pageOf (documentsOf data) := by
  have documents : job.payloadOf = fun body => pageOf (documentsIn body) := by
    funext body
    rw [payloadOf, described]
    rfl
  rw [documents]
  cases data <;> rfl

theorem Written.tables (described : job.descriptor = format.descriptor)
    (written : Written job files (fun i => (dataAt i).bind job.payloadOf) sentAt n p) :
    Tables format job files dataAt n p := by
  refine ⟨?_, ?_, written.untouched⟩
  · rintro rfl
    refine ⟨?_, ?_, ?_⟩
    · simp only [written.paths, bind_payloadOf_csv described, Option.isSome_map]
    · rw [written.documents]
      apply List.sum_eq_zero_iff_forall_eq_nat.mpr
      intro count member
      obtain ⟨i, -, rfl⟩ := List.mem_map.mp member
      rw [bind_payloadOf_csv described]
      cases dataAt i <;> rfl
    · intro i below body present
      have payload : (dataAt i).bind job.payloadOf = some (.tabular body) := by
        rw [bind_payloadOf_csv described, present, Option.map_some]
      obtain ⟨content, held, read⟩ := written.read below payload
      rw [described] at held
      cases held
      exact read
  · rintro rfl
    refine ⟨?_, ?_, ?_⟩
    · simp only [written.paths, bind_payloadOf_flatCsv described, isSome_pageOf]
    · simp only [written.documents, bind_payloadOf_flatCsv described, documentCount_pageOf]
    · intro i below nonempty
      have payload : (dataAt i).bind job.payloadOf =
          some (.documents (documentsOf (dataAt i))) := by
        rw [bind_payloadOf_flatCsv described]
        exact pageOf_eq_some.mpr ⟨nonempty, rfl⟩
      obtain ⟨content, held, read⟩ := written.read below payload
      rw [described] at held
      exact ⟨content, fun _ => held, read⟩

end Tables

end Job

end IndexExport.Export
