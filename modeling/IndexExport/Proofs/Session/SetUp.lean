import IndexExport.Proofs.Storage.Directories
import IndexExport.Session
/-!
# Failures before the first request

A run goes through its stages in order, and the first that fails ends it. `run_cases` lists the
ends that it can come to; what a failure leaves behind is read off them.
-/
set_option autoImplicit false

namespace IndexExport.Session

/-- Failures before the directory for the pages is made. -/
def Failure.isBeforeDirectory : Failure → Bool
  | .settings _ | .filters _ => true
  | _ => false

/-- Failures to make the directory, and those after it and before the first request. -/
def Failure.isBeforeRequests : Failure → Bool
  | .directory .. | .endpoint _ | .headers _ => true
  | _ => false

theorem Failure.isBeforeDirectory_eq_false {failure : Failure}
    (late : failure.isBeforeRequests = true) : failure.isBeforeDirectory = false := by
  cases failure <;> first | rfl | cases late

section Ends

variable (settings : Settings) (around : Surroundings) (fuel : Nat) (files : Storage.Tree)

theorem runInto_cases (query : String) (notices : List Log.Notice) :
    (∃ failure, failure.isBeforeRequests = true ∧
      runInto settings around fuel query files notices = .early failure files notices) ∨
    ∃ told outcome,
      runInto settings around fuel query files notices = .ofOutcome told outcome := by
  rw [runInto]
  split
  · exact .inl ⟨_, rfl, rfl⟩
  · split
    · exact .inl ⟨_, rfl, rfl⟩
    · exact .inr ⟨_, _, rfl⟩

/-- The ends of a run: on its settings, on its filters, between them and the first request, and
after that. -/
theorem run_cases :
    (∃ fault, settings.validate = .error fault ∧
      run settings around fuel files = .early (.settings fault) files []) ∨
    settings.validate = .ok () ∧
      ((∃ e notices, (compileQuery settings files).1 = .error e ∧
        run settings around fuel files = .early (.filters e) files notices) ∨
      (∃ query, (compileQuery settings files).1 = .ok query) ∧
        ((∃ failure more notices, failure.isBeforeRequests = true ∧
          Storage.Tree.Grown (Storage.pieces settings.outputDirectory) files more ∧
          run settings around fuel files = .early failure more notices) ∨
        ∃ told outcome, run settings around fuel files = .ofOutcome told outcome)) := by
  rw [run]
  split
  · next fault invalid => exact .inl ⟨fault, invalid, rfl⟩
  · next valid =>
    refine .inr ⟨valid, ?_⟩
    split
    · next compiled => exact .inl ⟨_, _, by rw [compiled], rfl⟩
    · next query notices compiled =>
      refine .inr ⟨⟨query, by rw [compiled]⟩, ?_⟩
      have grown := Storage.Tree.grown_makeDirectories files settings.outputDirectory
      split
      · next made =>
        rw [made] at grown
        exact .inl ⟨_, _, _, rfl, grown, rfl⟩
      · next more made =>
        rw [made] at grown
        rcases runInto_cases settings around fuel more query (notices ++ [.query query]) with
          ⟨failure, early, ended⟩ | walked
        · exact .inl ⟨failure, more, _, early, grown, ended⟩
        · exact .inr walked

theorem walk_of_ofOutcome {told : List Log.Notice} {outcome : Export.Job.Outcome}
    {failure : Failure} (failed : (Ended.ofOutcome told outcome).result = .failed failure) :
    ∃ e, failure = .walk e := by
  cases outcome <;> cases failed
  exact ⟨_, rfl⟩

end Ends

/-- The settings are checked first and the filters next, and a run that fails on either leaves
everything as it was. One that fails before it asks for anything has made directories at most:
the one for the pages, or some above it. -/
theorem run_failed_before_requests {settings : Settings} {around : Surroundings}
    {fuel : Nat} {files : Storage.Tree} {ended : Ended}
    (ends : run settings around fuel files = ended) :
    (∀ fault, ended.result = .failed (.settings fault) ↔ settings.validate = .error fault) ∧
    (∀ e, ended.result = .failed (.filters e) ↔
      settings.validate = .ok () ∧ (compileQuery settings files).1 = .error e) ∧
    ∀ failure, ended.result = .failed failure →
      (failure.isBeforeDirectory = true → ended.sent = [] ∧ ended.files = files) ∧
      (failure.isBeforeRequests = true → ended.sent = [] ∧
        (∀ place content, ended.files.at? place = some (.file content) ↔
          files.at? place = some (.file content)) ∧
        ∀ place, ended.files.at? place ≠ files.at? place →
          files.at? place = none ∧ ended.files.at? place = some .directory ∧
          ∃ first, first <+: Storage.pieces settings.outputDirectory ∧
            ended.files.walk [] first = .ok place) := by
  subst ends
  rcases run_cases settings around fuel files with ⟨fault, invalid, ended⟩ | ⟨valid,
    ⟨e, notices, refused, ended⟩ | ⟨⟨query, compiled⟩,
      ⟨failure, more, notices, early, grown, ended⟩ | ⟨told, outcome, ended⟩⟩⟩
  · rw [ended]
    refine ⟨by simp [Ended.early, invalid], by simp [Ended.early, invalid], ?_⟩
    rintro - ⟨⟩
    exact ⟨fun _ => ⟨rfl, rfl⟩, fun late => nomatch late⟩
  · rw [ended]
    refine ⟨by simp [Ended.early, valid], by simp [Ended.early, valid, refused], ?_⟩
    rintro - ⟨⟩
    exact ⟨fun _ => ⟨rfl, rfl⟩, fun late => nomatch late⟩
  · rw [ended]
    have noFault : ∀ fault, failure ≠ .settings fault := by
      rintro fault rfl
      cases early
    have noFilter : ∀ e, failure ≠ .filters e := by
      rintro e rfl
      cases early
    refine ⟨by simp [Ended.early, valid, noFault], by simp [Ended.early, compiled, noFilter], ?_⟩
    rintro other ⟨⟩
    refine ⟨fun before => ?_, fun _ => ⟨rfl, grown.file_iff, grown⟩⟩
    rw [Failure.isBeforeDirectory_eq_false early] at before
    cases before
  · rw [ended]
    refine ⟨fun fault => ⟨fun failed => ?_, fun invalid => ?_⟩,
      fun e => ⟨fun failed => ?_, fun refused => ?_⟩, fun failure failed => ?_⟩
    · obtain ⟨-, ⟨⟩⟩ := walk_of_ofOutcome failed
    · rw [valid] at invalid
      cases invalid
    · obtain ⟨-, ⟨⟩⟩ := walk_of_ofOutcome failed
    · rw [compiled] at refused
      cases refused.2
    · obtain ⟨-, rfl⟩ := walk_of_ofOutcome failed
      exact ⟨fun before => (nomatch before), fun late => nomatch late⟩

/-! Settings whose endpoint is no address, where one of two directories is there. -/

def withoutAddress : Settings :=
  { Settings.default with apiKey := "k", outputDirectory := "a/b", endpoint := "" }

def oneDirectory : Storage.Tree := Storage.Tree.empty.put ["a"] .directory

def alone : Surroundings :=
  ⟨Url.Host.asciiOnly, fun _ _ => (.error .closed, []), fun _ => ⟨"", .takes⟩⟩

theorem run_without_address : ∃ ended,
    run withoutAddress alone 1 oneDirectory = ended ∧
    ended.result = .failed (.endpoint ⟨"", .noBase⟩) ∧ ended.sent = [] ∧
    oneDirectory.at? ["a", "b"] = none ∧ ended.files.at? ["a", "b"] = some .directory ∧
    ∃ first, first <+: ["a", "b"] ∧ ended.files.walk [] first = .ok ["a", "b"] := by
  have failed : (run withoutAddress alone 1 oneDirectory).result =
      .failed (.endpoint ⟨"", .noBase⟩) := by rfl
  have new : (run withoutAddress alone 1 oneDirectory).files.at? ["a", "b"] ≠
      oneDirectory.at? ["a", "b"] := by decide
  have ends : run withoutAddress alone 1 oneDirectory = _ := rfl
  obtain ⟨-, -, left⟩ := run_failed_before_requests ends
  obtain ⟨unsent, -, directories⟩ := (left _ failed).2 rfl
  exact ⟨_, rfl, failed, unsent, directories _ new⟩

end IndexExport.Session
