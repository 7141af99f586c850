import IndexExport.Proofs.Export.Numbers
import Mathlib.Data.List.Nodup
/-!
# The files of a history

Each exchange writes the file of its page or none. `Kept` says what the files are after
exchanges: each holds what was put into it last, and nothing else has changed. It is kept by
every exchange, whatever the reply and the medium, and no page stands in the way of another. Only
the last exchange can have left a page that is not whole.

The number of a page is a word, so numbers recur after very many pages. As long as there are
fewer pages than words, each file was written once.
-/
set_option autoImplicit false

namespace IndexExport.Export

namespace Job

end Job

/-! ## What an exchange puts into a file -/

namespace Exchange

open Job

/-- What the file of the page has got: all of the page, or what a medium that broke off has left
of it. -/
def stored (job : Job) (x : Exchange) : Option Storage.Content :=
  if (x.refusal.or (x.unreadable job)).isSome then none
  else
    (x.payload job).bind fun payload =>
      job.descriptor.writer.stored x.occasion payload (job.pagePath x.page) x.files

section Stored

variable {job : Job} {x : Exchange} {payload : Page.Payload} {held : Storage.Content}

theorem left_cases (job : Job) (x : Exchange) :
    (x.stored job = none ∧ x.left job = x.files) ∨
    ∃ held place, x.stored job = some held ∧
      x.files.openForWriting (job.pagePath x.page) = .ok place ∧
      x.left job = x.files.put place (.file held) := by
  rw [stored, left]
  split
  · exact .inl ⟨rfl, rfl⟩
  · rw [attempt]
    cases x.payload job with
    | none => exact .inl ⟨rfl, rfl⟩
    | some payload =>
        exact Page.Writer.stored_cases job.descriptor.writer x.occasion payload
          (job.pagePath x.page) x.files

theorem written_eq_some (wrote : x.written job = some payload) :
    (x.refusal.or (x.unreadable job)).isSome = false ∧ x.unwritten job = none ∧
      x.payload job = some payload := by
  rw [written] at wrote
  split_ifs at wrote with lost
  obtain ⟨lost, unwritten⟩ := Option.or_eq_none_iff.mp (Option.not_isSome_iff_eq_none.mp lost)
  exact ⟨by rw [lost]; rfl, unwritten, wrote⟩

/-- A page that is written is whole, and dated with the moment of its writing. -/
theorem stored_of_written (wrote : x.written job = some payload) : ∃ content,
    job.descriptor.writer.content x.occasion.moment payload = .ok content ∧
      x.stored job = some (.text content) := by
  obtain ⟨readable, unwritten, there⟩ := written_eq_some wrote
  rw [Exchange.unwritten, unwritable_eq_none_iff, attempt, there] at unwritten
  rw [stored, readable, if_neg Bool.false_ne_true, there]
  exact Page.Writer.stored_of_ok unwritten

/-- What is in a file and is no page, a medium has left there that broke off. That is a fault. -/
theorem breaksOff_of_stored (nothing : x.written job = none) (there : x.stored job = some held) :
    (∃ cause, x.fault job = some (.page cause)) ∧
      ∃ stage cause, x.occasion.medium = .breaksOff stage cause held := by
  rw [stored] at there
  split_ifs at there with readable
  obtain ⟨payload, asked, there⟩ := Option.bind_eq_some_iff.mp there
  have readable := Option.not_isSome_iff_eq_none.mp readable
  cases result : (x.attempt job).result with
  | ok done =>
      rw [written, unwritten, unwritable_eq_none_iff.mpr result, readable, asked] at nothing
      cases nothing
  | error e =>
      refine ⟨⟨e, ?_⟩, ?_⟩
      · rw [fault, readable, unwritten, unwritable_eq_some_iff.mpr ⟨e, result, rfl⟩]
        rfl
      · rw [attempt, asked] at result
        obtain ⟨stage, cause, breaks, -⟩ := Page.Writer.breaksOff_of_stored result there
        exact ⟨stage, cause, breaks⟩

end Stored

end Exchange

namespace Job

/-! ## The files after exchanges -/

/-- The exchanges that wrote a page. -/
def writers (job : Job) (xs : List Exchange) : List Exchange :=
  xs.filter fun x => (x.written job).isSome

theorem writers_append (job : Job) (xs ys : List Exchange) :
    job.writers (xs ++ ys) = job.writers xs ++ job.writers ys :=
  List.filter_append ..

theorem writers_single_none {job : Job} {x : Exchange} (nothing : x.written job = none) :
    job.writers [x] = [] := by
  simp [writers, nothing]

theorem writers_single_some {job : Job} {x : Exchange} {payload : Page.Payload}
    (wrote : x.written job = some payload) : job.writers [x] = [x] := by
  simp [writers, wrote]

theorem pagePath_injective {job : Job} (plain : job.Plain) {page other : UInt32}
    (same : job.pagePath page = job.pagePath other) : page = other := by
  have names := congrArg (fun path => (Storage.pieces path).getLast?) same
  simp only [pagePath_eq_pageFile, pageFile,
    Storage.getLast?_pieces_join (pageName_plain plain _)] at names
  exact UInt32.toNat_inj.mp (pageName_injective (Option.some.inj names))

/-- After exchanges each file holds what was put into it last, and nothing else differs from
the files there were before. -/
structure Kept (job : Job) (before : Storage.Tree) (xs : List Exchange) (p : Progress) : Prop where
  paths : p.report.files = (job.writers xs).map fun x => job.pagePath x.page
  opens : ∀ path place, p.files.openForWriting path = .ok place ↔
    before.openForWriting path = .ok place
  stands : ∀ earlier x later held, xs = earlier ++ x :: later → x.stored job = some held →
    (∀ y ∈ later, (y.stored job).isSome = true → y.page ≠ x.page) →
    ∃ place, before.openForWriting (job.pagePath x.page) = .ok place ∧
      p.files.at? place = some (.file held)
  untouched : ∀ place,
    (∀ x ∈ xs, (x.stored job).isSome = true →
      before.openForWriting (job.pagePath x.page) ≠ .ok place) →
    p.files.at? place = before.at? place

theorem eq_of_concat_eq_append_cons {α : Type} {xs earlier later : List α} {x y : α}
    (same : xs ++ [x] = earlier ++ y :: later) :
    (later = [] ∧ y = x) ∨ ∃ rest, later = rest ++ [x] ∧ xs = earlier ++ y :: rest := by
  rcases List.eq_nil_or_concat later with rfl | ⟨rest, last, rfl⟩
  · obtain ⟨-, alone⟩ := List.append_inj' same rfl
    exact .inl ⟨rfl, (List.singleton_inj.mp alone).symm⟩
  · rw [List.concat_eq_append] at same ⊢
    rw [← List.cons_append, ← List.append_assoc] at same
    obtain ⟨front, alone⟩ := List.append_inj' same rfl
    rw [List.singleton_inj.mp alone]
    exact .inr ⟨rest, rfl, front⟩

section Kept

variable {job : Job} {fetch : Fetcher} {before : Storage.Tree} {xs ys : List Exchange}
variable {x : Exchange} {p after : Progress}

theorem Kept.start (report : p.report.files = []) (files : p.files = before) :
    Kept job before [] p where
  paths := report
  opens := by rw [files]; exact fun _ _ => Iff.rfl
  stands := by
    intro earlier x later held split
    exact absurd split (List.append_ne_nil_of_right_ne_nil _ (List.cons_ne_nil _ _)).symm
  untouched := by rw [files]; exact fun _ _ => rfl

theorem paths_of_took (kept : Kept job before xs p) (took : job.Took fetch x p after) :
    after.report.files = (job.writers (xs ++ [x])).map fun x => job.pagePath x.page := by
  rw [took.paths, kept.paths, writers_append, List.map_append, Exchange.paths, pathsOf]
  cases wrote : x.written job with
  | none => rw [writers_single_none wrote]; rfl
  | some payload => rw [writers_single_some wrote]; rfl

/-- A file takes the place of an earlier one of its number only. -/
theorem Kept.took (plain : job.Plain) (kept : Kept job before xs p)
    (took : job.Took fetch x p after) : Kept job before (xs ++ [x]) after := by
  obtain ⟨nothing, files⟩ | ⟨held, place, stored, opens, files⟩ := x.left_cases job
  · have files : after.files = p.files := by rw [took.left, files, took.files]
    refine ⟨paths_of_took kept took, by rw [files]; exact kept.opens, ?_, ?_⟩
    · intro earlier y later held split stored others
      rw [files]
      rcases eq_of_concat_eq_append_cons split with ⟨-, rfl⟩ | ⟨rest, rfl, front⟩
      · rw [nothing] at stored
        cases stored
      · exact kept.stands earlier y rest held front stored
          fun z member => others z (List.mem_append_left _ member)
    · intro other others
      rw [files]
      exact kept.untouched other fun y member => others y (List.mem_append_left _ member)
  · rw [took.files] at opens files
    have files : after.files = p.files.put place (.file held) := took.left.trans files
    have free := (Storage.Tree.openForWriting_eq_ok opens).1
    have opened := (kept.opens _ _).mp opens
    refine ⟨paths_of_took kept took, ?_, ?_, ?_⟩
    · intro path other
      rw [files, Storage.Tree.openForWriting_put_file_iff free, kept.opens]
    · intro earlier y later other split there others
      rw [files]
      rcases eq_of_concat_eq_append_cons split with ⟨-, rfl⟩ | ⟨rest, rfl, front⟩
      · rw [stored] at there
        cases there
        exact ⟨place, opened,
          Storage.Tree.at?_put_self (Storage.Tree.ne_root_of_not_directory free) _⟩
      · obtain ⟨seat, seatOpens, stands⟩ := kept.stands earlier y rest other front there
          fun z member => others z (List.mem_append_left _ member)
        -- Two pages at one place would have one number.
        have apart : seat ≠ place := by
          rintro rfl
          have number := page_of_place plain opened seatOpens
          exact others x (List.mem_append_right _ List.mem_cons_self) (by rw [stored]; rfl)
            (UInt32.toNat_inj.mp number)
        exact ⟨seat, seatOpens, by rw [Storage.Tree.at?_put_other apart, stands]⟩
    · intro other others
      have apart : other ≠ place := by
        rintro rfl
        exact others x (List.mem_append_right _ List.mem_cons_self) (by rw [stored]; rfl) opened
      rw [files, Storage.Tree.at?_put_other apart]
      exact kept.untouched other fun y member => others y (List.mem_append_left _ member)

theorem Kept.takes (plain : job.Plain) (kept : Kept job before xs p)
    (takes : job.Takes fetch ys p after) : Kept job before (xs ++ ys) after := by
  induction takes generalizing xs with
  | nil p =>
      rw [List.append_nil]
      exact kept
  | cons first _ ih =>
      rw [List.append_cons]
      exact ih (kept.took plain first)

end Kept

/-! ## The whole -/

/-- All that an export has sent and written, told by its exchanges. A page stands as it was
written, and a file that is no whole page holds what the medium has left. -/
structure Account (job : Job) (fetch : Fetcher) (before : Storage.Tree) (xs : List Exchange)
    (p : Progress) : Prop where
  sent : p.sent = xs.map Exchange.request
  requests : p.report.requests = xs.length
  replies : ∀ i x, xs[i]? = some x →
    x.reply = (fetch i x.query.url).1 ∧ x.occasion = job.occasion (i + 1)
  paths : p.report.files = (job.writers xs).map fun x => job.pagePath x.page
  whole : ∀ x ∈ xs, ∀ payload, x.written job = some payload → ∃ content,
    job.descriptor.writer.content x.occasion.moment payload = .ok content ∧
      x.stored job = some (.text content)
  stands : ∀ earlier x later held, xs = earlier ++ x :: later → x.stored job = some held →
    (xs.length < UInt32.size ∨ ∀ y ∈ later, (y.stored job).isSome = true → y.page ≠ x.page) →
    p.files.read (job.pagePath x.page) = .ok held
  once : xs.length < UInt32.size →
    xs.Pairwise fun x y => (x.written job).isSome = true → x.page.toNat < y.page.toNat
  untouched : ∀ place,
    (∀ x ∈ xs, (x.stored job).isSome = true →
      before.openForWriting (job.pagePath x.page) ≠ .ok place) →
    p.files.at? place = before.at? place

section Account

variable {format : Format} {job : Job}

theorem kept_start (job : Job) (query : SelectQuery) (files : Storage.Tree) :
    Kept job files [] (job.prepare (.start query files)) :=
  .start (by rw [(job.alike_prepare _).report]; rfl) (job.alike_prepare _).files

/-- Nothing comes after a fault. -/
theorem later_eq_nil_of_fault {e? : Option Failure} {earlier later : List Exchange} {x : Exchange}
    (faults : FaultIs job (earlier ++ x :: later) e?) (fault : x.fault job ≠ none) :
    later = [] := by
  cases e? with
  | none => exact absurd (faults x (List.mem_append_right _ List.mem_cons_self)) fault
  | some e =>
      obtain ⟨front, last, split, clean, -⟩ := faults
      rcases eq_of_concat_eq_append_cons split.symm with ⟨empty, -⟩ | ⟨rest, -, before⟩
      · exact empty
      · refine absurd (clean x ?_) fault
        rw [before]
        exact List.mem_append_right _ List.mem_cons_self

theorem account_of_run (described : job.descriptor = format.descriptor) (fetch : Fetcher)
    (fuel : Nat) (query : SelectQuery) (files : Storage.Tree) :
    Account job fetch files (job.history fetch fuel query files)
      (job.run fetch fuel query files).progress := by
  obtain ⟨takes, faults⟩ := run_accounts described fetch fuel query files
  have alike := job.alike_prepare (.start query files)
  have kept := (job.kept_start query files).takes (plain_of_format described) takes
  have once : (job.history fetch fuel query files).length < UInt32.size →
      (job.history fetch fuel query files).Pairwise
        fun x y => (x.written job).isSome = true → x.page.toNat < y.page.toNat := by
    intro few
    have fewer : (listings (job.history fetch fuel query files)).length ≤
        (job.history fetch fuel query files).length := List.length_filter_le ..
    apply (pages_increase described (ready_start files) _).2
    rw [page_firstState]
    rw [history] at few fewer
    omega
  refine ⟨run_sent described fetch fuel query files, ?_, ?_, kept.paths,
    fun x _ payload wrote => Exchange.stored_of_written wrote, ?_, once, kept.untouched⟩
  · rw [takes.requests, alike.report]
    exact Nat.zero_add _
  · intro i x there
    have reply := takes.replies there
    rw [alike.sent] at reply
    have count : (Progress.start query files).sent.length + i = i := Nat.zero_add i
    rwa [count] at reply
  · intro earlier x later held split stored others
    have apart : ∀ y ∈ later, (y.stored job).isSome = true → y.page ≠ x.page := by
      rcases others with few | apart
      · intro y member _ same
        -- What is no whole page was left by the last exchange.
        cases wrote : x.written job with
        | none =>
            obtain ⟨⟨cause, fault⟩, -⟩ := Exchange.breaksOff_of_stored wrote stored
            rw [split] at faults
            rw [later_eq_nil_of_fault faults (by rw [fault]; exact Option.some_ne_none _)] at member
            cases member
        | some payload =>
            have ordered := once few
            rw [split] at ordered
            have less := (List.pairwise_cons.mp (List.pairwise_append.mp ordered).2.1).1 y member
              (by rw [wrote]; rfl)
            rw [same] at less
            exact Nat.lt_irrefl _ less
      · exact apart
    obtain ⟨place, opens, stands⟩ := kept.stands earlier x later held split stored apart
    exact Storage.Tree.read_of_openForWriting ((kept.opens _ _).mpr opens) stands

variable {fetch : Fetcher} {before : Storage.Tree} {earlier : List Exchange} {last : Exchange}
variable {p : Progress}

/-- What the last exchange has written stands. -/
theorem Account.listed (account : Account job fetch before (earlier ++ [last]) p)
    {payload : Page.Payload} (wrote : last.written job = some payload) :
    job.pagePath last.page ∈ p.report.files ∧
      ∃ content, job.descriptor.writer.content last.occasion.moment payload = .ok content ∧
        p.files.read (job.pagePath last.page) = .ok (.text content) := by
  refine ⟨?_, ?_⟩
  · rw [account.paths, writers_append, writers_single_some wrote]
    exact List.mem_map_of_mem (List.mem_append_right _ List.mem_cons_self)
  · obtain ⟨content, held, stored⟩ := Exchange.stored_of_written wrote
    exact ⟨content, held, account.stands earlier last [] _ rfl stored
      (.inr fun y member => absurd member List.not_mem_nil)⟩

/-- Where the last exchange has written nothing, no earlier one has written its page. -/
theorem Account.unlisted (described : job.descriptor = format.descriptor)
    (account : Account job fetch before (earlier ++ [last]) p)
    (nothing : last.written job = none) (few : earlier.length + 1 < UInt32.size) :
    job.pagePath last.page ∉ p.report.files := by
  intro listed
  rw [account.paths, writers_append, writers_single_none nothing, List.append_nil] at listed
  obtain ⟨x, writer, same⟩ := List.mem_map.mp listed
  obtain ⟨member, wrote⟩ := List.mem_filter.mp writer
  have ordered := account.once (by rw [List.length_append]; exact few)
  have less := (List.pairwise_append.mp ordered).2.2 x member last List.mem_cons_self wrote
  rw [pagePath_injective (plain_of_format described) same] at less
  exact Nat.lt_irrefl _ less

end Account

/-! ## Each file is written once -/

section Once

variable {format : Format} {job : Job} {fetch : Fetcher} {query : SelectQuery}
variable {files : Storage.Tree} {fuel : Nat} {xs earlier later : List Exchange}

theorem writers_increase (ordered : xs.Pairwise fun x y =>
    (x.written job).isSome = true → x.page.toNat < y.page.toNat) :
    (job.writers xs).Pairwise fun x y => x.page.toNat < y.page.toNat := by
  apply (ordered.filter _).imp_of_mem
  intro x y writer _ less
  exact less (List.mem_filter.mp writer).2

theorem paths_nodup (plain : job.Plain)
    (ordered : (job.writers xs).Pairwise fun x y => x.page.toNat < y.page.toNat) :
    ((job.writers xs).map fun x => job.pagePath x.page).Nodup := by
  apply List.pairwise_map.mpr
  apply ordered.imp
  intro x y less same
  rw [pagePath_injective plain same] at less
  exact Nat.lt_irrefl _ less

theorem pages_of_history (described : job.descriptor = format.descriptor)
    (few : job.walked fetch fuel query files + 1 < UInt32.size) :
    (job.history fetch fuel query files).Pairwise
      fun x y => (x.written job).isSome = true → x.page.toNat < y.page.toNat := by
  apply (pages_increase described (ready_start files) _).2
  have asked := job.length_listings_le fetch query fuel job.firstState
    (job.prepare (.start query files))
  rw [page_firstState]
  rw [walked] at few
  omega

theorem page_of_run (described : job.descriptor = format.descriptor)
    (few : job.walked fetch fuel query files + 1 < UInt32.size) {steps : Nat}
    (within : steps ≤ fuel) {state : State} {p : Progress}
    (stands : job.run fetch steps query files = .unfinished state p) :
    state.page.toNat = 1 + job.moves fetch steps query files := by
  have moved := job.moves_le_walked fetch steps query files
  have sooner : job.walked fetch steps query files ≤ job.walked fetch fuel query files :=
    countFrom_le_of_le within _ _
  have number := page_of_walk described (ready_start files) stands
  rw [page_firstState] at number
  rw [moves] at moved ⊢
  exact number (by omega)

/-- At every point of an export that has walked fewer pages than there are numbers for, the
page that it is about is the one after all moves of the cursor, and each of the files so far
was written in exactly one exchange, in the order of their pages. -/
theorem run_writes_each_file_once (described : job.descriptor = format.descriptor)
    (few : job.walked fetch fuel query files + 1 < UInt32.size) :
    (∀ state p, job.run fetch fuel query files = .unfinished state p →
      state.page.toNat = 1 + job.moves fetch fuel query files) ∧
    (∀ x ∈ job.history fetch fuel query files, ∃ steps < fuel, ∃ state p,
      job.run fetch steps query files = .unfinished state p ∧
      x ∈ job.turn fetch query state p ∧
      x.page.toNat = 1 + job.moves fetch steps query files) ∧
    ∀ earlier later, job.history fetch fuel query files = earlier ++ later →
      ∃ p, job.Takes fetch earlier (job.prepare (.start query files)) p ∧
        job.Takes fetch later p (job.run fetch fuel query files).progress ∧
        p.report.files = (job.writers earlier).map (fun x => job.pagePath x.page) ∧
        (job.writers earlier).Pairwise (fun x y => x.page.toNat < y.page.toNat) ∧
        p.report.files.Nodup ∧
        (∀ path ∈ p.report.files,
          (job.writers earlier).countP (fun x => job.pagePath x.page == path) = 1) ∧
        p.report.pagesWritten = (job.writers earlier).length := by
  refine ⟨?_, ?_, ?_⟩
  · intro state p stands
    exact page_of_run described few (Nat.le_refl fuel) stands
  · intro x member
    obtain ⟨steps, below, state, p, stands, turn, -⟩ := mem_historyFrom member
    refine ⟨steps, below, state, p, stands, turn, ?_⟩
    rw [page_of_mem_turn turn]
    exact page_of_run described few (Nat.le_of_lt below) stands
  · intro earlier later split
    obtain ⟨takes, -⟩ := run_accounts described fetch fuel query files
    rw [split] at takes
    obtain ⟨p, front, back⟩ := takes.split
    have plain := plain_of_format described
    have paths := ((job.kept_start query files).takes plain front).paths
    rw [List.nil_append] at paths
    have ordered := pages_of_history described few
    rw [split] at ordered
    have increase := writers_increase (List.pairwise_append.mp ordered).1
    have distinct := paths_nodup plain increase
    refine ⟨p, front, back, paths, increase, by rwa [paths], ?_, ?_⟩
    · intro path member
      rw [paths] at member
      have once := List.count_eq_one_of_mem distinct member
      rwa [List.count, List.countP_map] at once
    · rw [Report.pagesWritten, paths, List.length_map]

end Once

/-! Three pages in bulk, of which the second lists no documents. -/

theorem run_writes_two_files_once :
    (∃ p, csvJob.run (replying bulkBodies) 3 default emptyDirectory =
      .unfinished (.paging ⟨"n", "m", 3, false⟩) p) ∧
    csvJob.moves (replying bulkBodies) 3 default emptyDirectory = 2 ∧
    ∃ paths, (csvJob.run (replying bulkBodies) 4 default emptyDirectory).progress.report.files =
      paths ∧ paths = ["out/page1.csv", "out/page3.csv"] ∧ paths.Nodup := by
  have described : csvJob.descriptor = Format.csv.descriptor := rfl
  have two : csvJob.walked (replying bulkBodies) 3 default emptyDirectory = 2 := rfl
  have three : csvJob.walked (replying bulkBodies) 4 default emptyDirectory = 3 := rfl
  obtain ⟨p, stands⟩ : ∃ p, csvJob.run (replying bulkBodies) 3 default emptyDirectory =
      .unfinished (.paging ⟨"n", "m", 3, false⟩) p := ⟨_, rfl⟩
  obtain ⟨number, -, -⟩ := run_writes_each_file_once described (by rw [two]; decide)
  obtain ⟨-, -, points⟩ := run_writes_each_file_once described (by rw [three]; decide)
  have moved := number _ p stands
  obtain ⟨middle, -, rest, -, -, distinct, -⟩ := points _ [] (List.append_nil _).symm
  cases rest
  refine ⟨⟨p, stands⟩, Nat.add_left_cancel moved.symm, _, rfl, ?_, distinct⟩
  decide +kernel

end Job

end IndexExport.Export
