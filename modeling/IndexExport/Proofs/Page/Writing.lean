import IndexExport.Page.Writer
/-!
# What comes of writing a page

A page is written, or it is not and nothing has changed, or the medium breaks off and what it has
left stands in the file of the page. No other file is touched in any case.
-/
set_option autoImplicit false

namespace IndexExport.Page

open Storage (Cause Content Place Tree)

section Writing

variable {writer : Writer} {occasion : Occasion} {payload : Payload} {path content : String}
variable {medium : Medium} {tree : Tree} {place : Place} {e : Failure}

theorem Medium.opens_of_takes (takes : medium = .takes) (tree : Tree) (path : String) :
    medium.opens tree path = tree.openForWriting path := by
  subst takes
  rw [opens]
  cases tree.openForWriting path <;> rfl

theorem Medium.openForWriting_of_opens (opened : medium.opens tree path = .ok place) :
    tree.openForWriting path = .ok place := by
  rw [opens] at opened
  split at opened
  · cases opened
  · next found =>
    split at opened
    · cases opened
    · rwa [found]

/-- Only XML is dated. -/
theorem Writer.content_of_ne_xml (other : writer ≠ .xml) (moment now : String) (payload : Payload) :
    writer.content moment payload = writer.content now payload := by
  cases writer with
  | xml => exact absurd rfl other
  | raw | embeddedJson | csvTable => cases payload <;> rfl

/-- Whether there is a content does not depend on the clock. -/
theorem Writer.content_of_content {moment : String}
    (held : writer.content moment payload = .ok content) (now : String) :
    ∃ other, writer.content now payload = .ok other := by
  by_cases xml : writer = .xml
  · subst xml
    cases payload with
    | documents items => exact ⟨_, rfl⟩
    | tabular body => cases held
  · exact ⟨content, (content_of_ne_xml xml now moment payload).trans held⟩

/-- A page that is written holds its content. -/
theorem Writer.write_eq_ok (wrote : (writer.write occasion payload path tree).result = .ok ()) :
    ∃ content place, writer.content occasion.moment payload = .ok content ∧
      tree.openForWriting path = .ok place ∧ occasion.medium = .takes ∧
      (writer.write occasion payload path tree).files = tree.put place (.file (.text content)) := by
  obtain ⟨moment, medium⟩ := occasion
  cases held : writer.content moment payload with
  | error e =>
      simp only [write, held] at wrote
      cases wrote
  | ok content =>
      cases found : tree.openForWriting path with
      | error cause =>
          simp only [write, held, Medium.opens, found] at wrote
          cases wrote
      | ok place =>
          cases medium with
          | takes =>
              exact ⟨content, place, rfl, rfl, rfl, by simp only [write, held, Medium.opens, found]⟩
          | refuses | breaksOff =>
              simp only [write, held, Medium.opens, found] at wrote
              cases wrote

theorem Writer.write_of_open (held : writer.content occasion.moment payload = .ok content)
    (opens : tree.openForWriting path = .ok place) (takes : occasion.medium = .takes) :
    (writer.write occasion payload path tree).result = .ok () ∧
      (writer.write occasion payload path tree).files =
        tree.put place (.file (.text content)) := by
  obtain ⟨moment, medium⟩ := occasion
  cases takes
  simp only [write, held, Medium.opens, opens, and_self]

/-- A page is not written for want of a content, as its file is not opened, or as the medium breaks
off. Only the last leaves a trace. -/
theorem Writer.write_eq_error
    (failed : (writer.write occasion payload path tree).result = .error e) :
    (writer.content occasion.moment payload = .error e ∧
      (writer.write occasion payload path tree).files = tree) ∨
    (∃ cause, occasion.medium.opens tree path = .error cause ∧ e = .storage path cause ∧
      (writer.write occasion payload path tree).files = tree) ∨
    ∃ place stage cause left, tree.openForWriting path = .ok place ∧
      occasion.medium = .breaksOff stage cause left ∧
      e = writer.brokenOff path payload cause stage ∧
      (writer.write occasion payload path tree).files = tree.put place (.file left) := by
  obtain ⟨moment, medium⟩ := occasion
  cases held : writer.content moment payload with
  | error fault =>
      simp only [write, held] at failed ⊢
      cases failed
      exact .inl ⟨rfl, trivial⟩
  | ok content =>
      cases opened : medium.opens tree path with
      | error cause =>
          simp only [write, held, opened] at failed ⊢
          cases failed
          exact .inr (.inl ⟨cause, rfl, rfl, trivial⟩)
      | ok place =>
          have found := Medium.openForWriting_of_opens opened
          cases medium with
          | breaksOff stage cause left =>
              simp only [write, held, opened] at failed ⊢
              cases failed
              exact .inr (.inr ⟨place, stage, cause, left, found, rfl, rfl, rfl⟩)
          | takes | refuses =>
              simp only [write, held, opened] at failed
              cases failed

/-! ## What is in the file -/

/-- What the writing of a page puts into its file once that is open: the whole content, or where
the medium breaks off what is left of it. -/
def Writer.stored (writer : Writer) (occasion : Occasion) (payload : Payload) (path : String)
    (tree : Tree) : Option Content :=
  match writer.content occasion.moment payload with
  | .error _ => none
  | .ok content =>
    match occasion.medium.opens tree path with
    | .error _ => none
    | .ok _ =>
      match occasion.medium with
      | .breaksOff _ _ left => some left
      | _ => some (.text content)

theorem Writer.stored_cases (writer : Writer) (occasion : Occasion) (payload : Payload)
    (path : String) (tree : Tree) :
    (writer.stored occasion payload path tree = none ∧
      (writer.write occasion payload path tree).files = tree) ∨
    ∃ held place, writer.stored occasion payload path tree = some held ∧
      tree.openForWriting path = .ok place ∧
      (writer.write occasion payload path tree).files = tree.put place (.file held) := by
  obtain ⟨moment, medium⟩ := occasion
  simp only [stored, write]
  cases writer.content moment payload with
  | error e => exact .inl ⟨rfl, rfl⟩
  | ok content =>
      cases opened : medium.opens tree path with
      | error cause => exact .inl ⟨rfl, rfl⟩
      | ok place =>
          have found := Medium.openForWriting_of_opens opened
          cases medium <;> exact .inr ⟨_, place, rfl, found, rfl⟩

theorem Writer.stored_of_ok (wrote : (writer.write occasion payload path tree).result = .ok ()) :
    ∃ content, writer.content occasion.moment payload = .ok content ∧
      writer.stored occasion payload path tree = some (.text content) := by
  obtain ⟨content, place, held, opens, takes, -⟩ := write_eq_ok wrote
  refine ⟨content, held, ?_⟩
  rw [stored, held, Medium.opens_of_takes takes]
  simp only [opens, takes]

/-- A page that is not written has put something into its file only as the medium broke off. -/
theorem Writer.breaksOff_of_stored {held : Content}
    (failed : (writer.write occasion payload path tree).result = .error e)
    (there : writer.stored occasion payload path tree = some held) :
    ∃ stage cause, occasion.medium = .breaksOff stage cause held ∧
      e = writer.brokenOff path payload cause stage := by
  rw [stored] at there
  rcases write_eq_error failed with
    ⟨lost, -⟩ | ⟨cause, refused, -, -⟩ | ⟨place, stage, cause, left, -, breaks, words, -⟩
  · rw [lost] at there
    cases there
  · rw [refused] at there
    split at there <;> cases there
  · refine ⟨stage, cause, ?_, words⟩
    rw [breaks] at there ⊢
    split at there
    · cases there
    · split at there <;> cases there
      rfl

end Writing

end IndexExport.Page
