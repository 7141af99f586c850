import IndexExport.Proofs.Export.Steady
import IndexExport.Proofs.Url.Form
import Mathlib.Dynamics.PeriodicPts.Lemmas
/-!
# Chains of cursors and their ends

An index whose replies depend on nothing but the address follows each cursor with one other,
so the cursors of a walk are the iterates of a function. The walk compares each cursor with
the one before it only. `GoesOn` says that it has found no two alike yet. So it is over as
soon as a cursor is followed by itself, having met no cursor twice, and where the chain runs
into a longer cycle it is never over.
-/
set_option autoImplicit false

namespace IndexExport.Export

open Function

/-! ## Iterates -/

/-- None of the first `i` cursors of the chain is followed by itself. -/
def GoesOn (next : String → String) (i : Nat) : Prop :=
  ∀ j < i, ¬IsFixedPt next (next^[j] Cursor.first)

section Chains

variable {next : String → String} {i j k m : Nat}

theorem GoesOn.iterate_ne (goes : GoesOn next k)
    (fixed : IsFixedPt next (next^[k] Cursor.first)) (before : i < j) (within : j ≤ k) :
    next^[i] Cursor.first ≠ next^[j] Cursor.first := by
  intro same
  -- From the first of two equal cursors the way to the last one is as long as from the second.
  have early : next^[k - j + i] Cursor.first = next^[k] Cursor.first := by
    rw [iterate_add_apply, same, ← iterate_add_apply, Nat.sub_add_cancel within]
  apply goes (k - j + i) (by omega)
  rwa [early]

theorem GoesOn.cursors_nodup (goes : GoesOn next k)
    (fixed : IsFixedPt next (next^[k] Cursor.first)) :
    ((List.range (k + 1)).map fun i => next^[i] Cursor.first).Nodup := by
  apply List.pairwise_map.mpr
  apply List.pairwise_lt_range.imp_of_mem
  intro i j _ among before
  exact goes.iterate_ne fixed before (Nat.lt_succ_iff.mp (List.mem_range.mp among))

theorem not_isFixedPt_of_cycle (cycle : 2 ≤ minimalPeriod next (next^[m] Cursor.first))
    (k : Nat) : ¬IsFixedPt next (next^[k] Cursor.first) := by
  intro fixed
  have rest : next^[k] (next^[m] Cursor.first) = next^[k] Cursor.first := by
    rw [← iterate_add_apply, Nat.add_comm, iterate_add_apply]
    exact fixed.iterate m
  have periodic : next^[m] Cursor.first ∈ periodicPts next :=
    minimalPeriod_pos_iff_mem_periodicPts.mp (by omega)
  have period := minimalPeriod_apply_iterate periodic k
  rw [rest, minimalPeriod_eq_one_iff_isFixedPt.mpr fixed] at period
  omega

end Chains

def Ask.cursor? : Ask → Option String
  | .page cursor | .next cursor | .data cursor => some cursor
  | .count | .all _ => none

namespace Job

/-! ## The walk along a chain -/

/-- The steps before the first page. -/
def lead (job : Job) : Nat := if job.descriptor.paginates then 0 else 1

/-- What is asked for until `n` cursors of the chain have been sent. -/
def asksUpTo (job : Job) (fetch : Fetcher) (query : SelectQuery) (next : String → String)
    (n : Nat) : List Ask :=
  (if job.descriptor.paginates then [] else [.count]) ++
    (List.range n).flatMap fun i => job.visit fetch query (next^[i] Cursor.first)

/-- Every reply is a success, can be written, and follows the cursor that it is asked for with
the next one. The medium takes what is written. In bulk there are documents enough for a walk. -/
structure Guides (job : Job) (fetch : Fetcher) (query : SelectQuery) (files : Storage.Tree)
    (next : String → String) : Prop where
  steady : Steady fetch
  takes : ∀ sent, (job.occasion sent).medium = .takes
  counts : job.descriptor.paginates = false → ∃ total, 0 < total ∧ job.rowsPerPage ≤ total ∧
    ∀ x ∈ job.turn fetch query .counting (.start query files),
      x.fault job = none ∧ countIn x.body = some total
  answers : ∀ i, GoesOn next i → ∀ cursor : Cursor, cursor.current = next^[i] Cursor.first →
    cursor.page = UInt32.ofNat (i + 1) →
    ∀ x ∈ job.turn fetch query (.paging cursor) (.start query files),
      x.fault job = none ∧ (x.ask.isListing = true → cursorIn x.body = some (next cursor.current))

/-- The export stands before the `i`th cursor of the chain. -/
structure AtCursor (job : Job) (fetch : Fetcher) (query : SelectQuery) (files : Storage.Tree)
    (next : String → String) (i : Nat) (cursor : Cursor) (p : Progress) : Prop where
  stands : job.run fetch (job.lead + i) query files = .unfinished (.paging cursor) p
  current : cursor.current = next^[i] Cursor.first
  page : cursor.page = UInt32.ofNat (i + 1)
  going : cursor.done = false
  asks : (job.history fetch (job.lead + i) query files).map Exchange.ask =
    job.asksUpTo fetch query next i
  walked : job.walked fetch (job.lead + i) query files = i

section Along

variable {format : Format} {job : Job} {fetch : Fetcher} {query : SelectQuery}
variable {files : Storage.Tree} {next : String → String} {i : Nat} {cursor : Cursor}
variable {p : Progress}

theorem asksUpTo_succ (job : Job) (fetch : Fetcher) (query : SelectQuery)
    (next : String → String) (n : Nat) : job.asksUpTo fetch query next (n + 1) =
      job.asksUpTo fetch query next n ++ job.visit fetch query (next^[n] Cursor.first) := by
  rw [asksUpTo, asksUpTo, List.range_succ, List.flatMap_append, List.flatMap_singleton,
    List.append_assoc]

/-- The replies at the start are those of any later time, and the same files can be opened. -/
theorem turn_of_run (described : job.descriptor = format.descriptor) (guides : Guides job fetch
      query files next) (goes : GoesOn next i)
    (here : AtCursor job fetch query files next i cursor p) :
    ∀ x ∈ job.turn fetch query (.paging cursor) p,
      x.fault job = none ∧
        (x.ask.isListing = true → cursorIn x.body = some (next cursor.current)) := by
  intro x member
  obtain ⟨y, first, sent, rfl⟩ := mem_turn_of_steady guides.steady files member
  obtain ⟨clean, guided⟩ := guides.answers i goes cursor here.current here.page y first
  obtain ⟨takes, -⟩ := run_accounts described fetch (job.lead + i) query files
  have kept := (job.kept_start query files).takes (plain_of_format described) takes
  rw [here.stands] at kept
  refine ⟨fault_of_opens ?_ (guides.takes sent) clean, guided⟩
  rw [files_of_mem_turn first]
  exact kept.opens

theorem AtCursor.step (described : job.descriptor = format.descriptor)
    (guides : Guides job fetch query files next) (goes : GoesOn next i)
    (here : AtCursor job fetch query files next i cursor p) :
    ∃ after, job.step fetch (.paging cursor) p =
      (.ok (follow cursor (next cursor.current)), after) := by
  have turn := turn_of_run described guides goes here
  obtain ⟨ready, -⟩ := ready_of_walk described (ready_start files) here.stands
  exact step_of_clean described ready (fun x member => (turn x member).1)
    fun x member => (turn x member).2

theorem AtCursor.turned (described : job.descriptor = format.descriptor)
    (guides : Guides job fetch query files next) (goes : GoesOn next i)
    (here : AtCursor job fetch query files next i cursor p) :
    (job.history fetch (job.lead + (i + 1)) query files).map Exchange.ask =
        job.asksUpTo fetch query next (i + 1) ∧
      job.walked fetch (job.lead + (i + 1)) query files = i + 1 := by
  have turn := turn_of_run described guides goes here
  obtain ⟨after, steps⟩ := here.step described guides goes
  refine ⟨?_, ?_⟩
  · have before := here.asks
    rw [history] at before
    rw [history, ← Nat.add_assoc, historyFrom_more here.stands, List.map_append, before,
      asks_of_turn guides.steady fun x member => (turn x member).1, asksUpTo_succ, here.current]
  · have before := here.walked
    rw [Job.walked] at before
    rw [Job.walked, ← Nat.add_assoc, countFrom_more here.stands, before, countFrom_succ steps]
    rfl

theorem AtCursor.move (described : job.descriptor = format.descriptor)
    (guides : Guides job fetch query files next) (goes : GoesOn next i)
    (here : AtCursor job fetch query files next i cursor p)
    (moves : ¬IsFixedPt next (next^[i] Cursor.first)) :
    ∃ other after, AtCursor job fetch query files next (i + 1) other after := by
  obtain ⟨after, steps⟩ := here.step described guides goes
  obtain ⟨asks, walked⟩ := here.turned described guides goes
  have moves : next cursor.current ≠ cursor.current := by rwa [here.current]
  rw [follow, Cursor.advance, if_neg moves, here.going] at steps
  refine ⟨⟨next cursor.current, cursor.current, cursor.page + 1, false⟩, after, ?_, ?_, ?_, rfl,
    asks, walked⟩
  · rw [run, ← Nat.add_assoc, walk_more here.stands, walk_succ steps]
    rfl
  · rw [iterate_succ_apply', here.current]
  · rw [here.page, UInt32.ofNat_add (i + 1) 1]
    rfl

theorem AtCursor.finish (described : job.descriptor = format.descriptor)
    (guides : Guides job fetch query files next) (goes : GoesOn next i)
    (here : AtCursor job fetch query files next i cursor p)
    (fixed : IsFixedPt next (next^[i] Cursor.first)) :
    ∃ after, job.run fetch (job.lead + (i + 1)) query files = .finished after := by
  obtain ⟨after, steps⟩ := here.step described guides goes
  have fixed : next cursor.current = cursor.current := by rwa [here.current]
  rw [follow, Cursor.advance, if_pos fixed] at steps
  refine ⟨after, ?_⟩
  rw [run, ← Nat.add_assoc, walk_more here.stands, walk_succ steps]
  rfl

theorem atCursor_zero (guides : Guides job fetch query files next) :
    ∃ p, AtCursor job fetch query files next 0 .start p := by
  by_cases native : job.descriptor.paginates = true
  · refine ⟨job.prepare (.start query files), ?_, rfl, rfl, rfl, ?_, ?_⟩
    · rw [run, lead, if_pos native, firstState, if_pos native]
      rfl
    · rw [history, lead, asksUpTo, if_pos native, if_pos native]
      rfl
    · rw [walked, lead, if_pos native]
      rfl
  · obtain ⟨total, positive, enough, answered⟩ := guides.counts (Bool.eq_false_iff.mpr native)
    let x := job.exchange fetch query .counting files 0 .count
    obtain ⟨clean, counted⟩ := answered x List.mem_cons_self
    obtain ⟨after, -, ⟨e, fault, -⟩ | ⟨-, other, found, went, -⟩⟩ :=
      job.countStep_cases (p := .start query files) (x := x) rfl rfl rfl rfl rfl
    · rw [clean] at fault
      cases fault
    rw [counted] at found
    cases found
    have steps : job.step fetch job.firstState (job.prepare (.start query files)) =
        (.ok (.paging .start), after) := by
      rw [firstState, if_neg native, prepare, if_neg native, Job.step, went, afterCount,
        if_neg (Nat.ne_of_gt positive), if_neg (Nat.not_lt.mpr enough)]
    refine ⟨after, ?_, rfl, rfl, rfl, ?_, ?_⟩
    · rw [run, lead, if_neg native, walk_succ steps]
      rfl
    · rw [history, lead, if_neg native, historyFrom_one, firstState, if_neg native, asksUpTo,
        if_neg native]
      rfl
    · rw [walked, lead, if_neg native, countFrom_succ steps, firstState, if_neg native]
      rfl

/-- As long as no cursor is followed by itself, the export goes on along the chain. -/
theorem exists_atCursor (described : job.descriptor = format.descriptor)
    (guides : Guides job fetch query files next) (goes : GoesOn next i) :
    ∃ cursor p, AtCursor job fetch query files next i cursor p := by
  induction i with
  | zero => exact ⟨_, atCursor_zero guides⟩
  | succ i ih =>
      have before : GoesOn next i := fun j below => goes j (Nat.lt_succ_of_lt below)
      obtain ⟨cursor, p, here⟩ := ih before
      exact here.move described guides before (goes i (Nat.lt_succ_self i))

end Along

/-! ## Nothing is asked for twice -/

section Ends

variable {format : Format} {job : Job} {fetch : Fetcher} {query : SelectQuery}
variable {files : Storage.Tree} {next : String → String} {k : Nat}

theorem visit_nodup (job : Job) (fetch : Fetcher) (query : SelectQuery) (cursor : String) :
    (job.visit fetch query cursor).Nodup := by
  simp only [visit]
  split_ifs <;> simp

theorem cursor_of_mem_visit {cursor : String} {ask : Ask}
    (member : ask ∈ job.visit fetch query cursor) : ask.cursor? = some cursor := by
  simp only [visit] at member
  split_ifs at member
  · rw [List.mem_singleton.mp member]
    rfl
  · rw [List.mem_singleton.mp member]
    rfl
  · rcases List.mem_pair.mp member with rfl | rfl <;> rfl

theorem asksUpTo_nodup (goes : GoesOn next k)
    (fixed : IsFixedPt next (next^[k] Cursor.first)) (job : Job) (fetch : Fetcher)
    (query : SelectQuery) : (job.asksUpTo fetch query next (k + 1)).Nodup := by
  have visits : ((List.range (k + 1)).flatMap fun i =>
      job.visit fetch query (next^[i] Cursor.first)).Nodup := by
    apply List.nodup_flatMap.mpr
    refine ⟨fun i _ => job.visit_nodup fetch query _, ?_⟩
    apply (List.pairwise_map.mp (goes.cursors_nodup fixed)).imp
    intro i j apart ask first second
    apply apart
    exact Option.some.inj ((cursor_of_mem_visit first).symm.trans (cursor_of_mem_visit second))
  rw [asksUpTo]
  split_ifs
  · exact visits
  · refine List.nodup_cons.mpr ⟨?_, visits⟩
    intro member
    obtain ⟨i, -, asked⟩ := List.mem_flatMap.mp member
    cases cursor_of_mem_visit asked

/-! ## The end of a chain -/

theorem run_unfinished_of_moves (described : job.descriptor = format.descriptor)
    (guides : Guides job fetch query files next)
    (moves : ∀ k, ¬IsFixedPt next (next^[k] Cursor.first)) (fuel : Nat) :
    ∃ state p, job.run fetch fuel query files = .unfinished state p := by
  rcases Nat.lt_or_ge fuel job.lead with early | late
  · by_cases native : job.descriptor.paginates = true
    · rw [lead, if_pos native] at early
      cases early
    · rw [lead, if_neg native] at early
      obtain rfl := Nat.lt_one_iff.mp early
      rw [run, firstState, if_neg native]
      exact ⟨_, _, rfl⟩
  · obtain ⟨cursor, p, here⟩ :=
      exists_atCursor (i := fuel - job.lead) described guides fun j _ => moves j
    have stands := here.stands
    rw [Nat.add_sub_cancel' late] at stands
    exact ⟨_, p, stands⟩

theorem run_finished_of_fixed (described : job.descriptor = format.descriptor)
    (guides : Guides job fetch query files next)
    (fixed : IsFixedPt next (next^[k] Cursor.first)) (goes : GoesOn next k) {fuel : Nat}
    (enough : job.lead + (k + 1) ≤ fuel) :
    ∃ p, job.run fetch fuel query files = .finished p ∧
      (job.history fetch fuel query files).map Exchange.ask =
        job.asksUpTo fetch query next (k + 1) ∧
      job.walked fetch fuel query files = k + 1 := by
  obtain ⟨cursor, p, here⟩ := exists_atCursor described guides goes
  obtain ⟨asks, pages⟩ := here.turned described guides goes
  obtain ⟨after, finished⟩ := here.finish described guides goes fixed
  obtain ⟨ended, history, walked⟩ :=
    walk_of_finished query finished (fuel - (job.lead + (k + 1)))
  rw [Nat.add_sub_cancel' enough] at ended history walked
  exact ⟨after, ended, (congrArg _ history).trans asks, walked.trans pages⟩

/-- Where each cursor is always followed by the same one, an export ends exactly if the chain
comes to a cursor that is followed by itself. Then it has walked one page for each cursor up to
the first such one, and as these differ it has asked for nothing twice and has written no page
twice. Along a chain that runs into a longer cycle it never ends. -/
theorem run_ends_at_fixed_cursor (described : job.descriptor = format.descriptor)
    (guides : Guides job fetch query files next) :
    ((∃ fuel p, job.run fetch fuel query files = .finished p) ↔
      ∃ k, IsFixedPt next (next^[k] Cursor.first)) ∧
    (∀ k, IsFixedPt next (next^[k] Cursor.first) →
      (∀ j < k, ¬IsFixedPt next (next^[j] Cursor.first)) →
      ((List.range (k + 1)).map fun i => next^[i] Cursor.first).Nodup ∧
      ∀ fuel, job.lead + (k + 1) ≤ fuel → ∃ p, job.run fetch fuel query files = .finished p ∧
        job.walked fetch fuel query files = k + 1 ∧
        p.sent.map Request.query =
          (job.asksUpTo fetch query next (k + 1)).map (Ask.query job query) ∧
        (job.asksUpTo fetch query next (k + 1)).Nodup ∧
        (job.history fetch fuel query files).map Exchange.ask =
          job.asksUpTo fetch query next (k + 1) ∧
        p.report.files =
          (job.writers (job.history fetch fuel query files)).map (fun x => job.pagePath x.page) ∧
        ((job.writers (job.history fetch fuel query files)).map Exchange.ask).Nodup ∧
        (k + 2 < UInt32.size → p.report.files.Nodup)) ∧
    ∀ m, 2 ≤ minimalPeriod next (next^[m] Cursor.first) →
      ∀ fuel, ∃ state p, job.run fetch fuel query files = .unfinished state p := by
  refine ⟨⟨?_, ?_⟩, ?_, ?_⟩
  · rintro ⟨fuel, p, finished⟩
    by_contra moves
    obtain ⟨state, q, stands⟩ :=
      run_unfinished_of_moves described guides (not_exists.mp moves) fuel
    rw [finished] at stands
    cases stands
  · intro reached
    classical
    obtain ⟨p, finished, -⟩ := run_finished_of_fixed described guides (Nat.find_spec reached)
      (fun j => Nat.find_min reached) (Nat.le_refl _)
    exact ⟨_, p, finished⟩
  · intro k fixed goes
    refine ⟨GoesOn.cursors_nodup goes fixed, ?_⟩
    intro fuel enough
    obtain ⟨p, finished, asks, pages⟩ := run_finished_of_fixed described guides fixed goes enough
    have distinct := asksUpTo_nodup goes fixed job fetch query
    have account := account_of_run described fetch fuel query files
    rw [finished] at account
    have paths : p.report.files = _ := account.paths
    have sent : p.sent = _ := account.sent
    refine ⟨p, finished, pages, ?_, distinct, asks, paths, ?_, ?_⟩
    · rw [sent, ← asks, ← queries_of_history, List.map_map]
      rfl
    · rw [← asks] at distinct
      exact distinct.sublist (List.filter_sublist.map _)
    · intro few
      rw [paths]
      apply paths_nodup (plain_of_format described)
      exact writers_increase (pages_of_history described (by rw [pages]; exact few))
  · intro m cycle
    exact run_unfinished_of_moves described guides (not_isFixedPt_of_cycle cycle)

end Ends

/-! A chain of two cursors, the second of which is followed by itself, and one that goes back
and forth between two. -/

/-- Answers by the cursor alone. -/
def telling (body : String → String) : Fetcher := fun _ url =>
  let asked := (url.query.bind Url.Form.decode).getD []
  (.ok ⟨200, body ((Parameters.get? "cursorMark" asked).getD "")⟩, [])

theorem reply_telling (body : String → String) (before : Nat) (cursor : String) :
    (telling body before (solrJob.pageQuery default cursor).url).1 = .ok ⟨200, body cursor⟩ := by
  have bare : (solrJob.pageQuery default cursor).base.query = none := rfl
  have pairs : ((solrJob.pageQuery default cursor).url.query.bind Url.Form.decode).getD [] =
      (solrJob.pageQuery default cursor).pairs := by
    simp only [SelectQuery.url, bare, Option.bind_some, Url.Form.decode_encode, Option.getD_some]
  have mark : Parameters.get? "cursorMark" (solrJob.pageQuery default cursor).pairs =
      some cursor := pageQuery_cursor solrJob default cursor
  simp only [telling, pairs, mark, Option.getD_some]

def restingBody (_ : String) : String := threeBodies.getD 0 ""

def circlingBody (cursor : String) : String :=
  if cursor = "*" then "\x7b\"nextCursorMark\":\"m\"\x7d"
  else "\x7b\"nextCursorMark\":\"*\"\x7d"

def circling (cursor : String) : String := if cursor = "*" then "m" else "*"

theorem clean_of_held (response : Select.Response) {x : Exchange} {cursor body mark : String}
    (asked : x.ask = .page cursor) (reply : x.reply = .ok ⟨200, body⟩)
    (held : Select.Response.read body = .ok response) (follows : response.cursor? = some mark)
    (written : unwritable
      (solrJob.attempt x.occasion x.page x.files (pageOf response.documents)) = none) :
    x.fault solrJob = none ∧ cursorIn x.body = some mark := by
  have arrived : x.body = body := by rw [Exchange.body, reply]
  have found : cursorIn x.body = some mark := by
    rw [arrived, cursorIn, held]
    exact follows
  refine ⟨Exchange.fault_eq_none_iff.mpr ⟨?_, ?_, ?_, ?_⟩, found⟩
  · rw [Exchange.refusal, reply]
    rfl
  · rw [Exchange.unreadable, asked, arrived, held]
    rfl
  · rw [Exchange.unwritten, Exchange.attempt, Exchange.payload, asked, arrived, documentsIn, held]
    exact written
  · rw [Exchange.incomplete, asked, found]
    rfl

theorem guides_resting :
    Guides solrJob (telling restingBody) default emptyDirectory fun _ => "m" := by
  refine ⟨fun _ _ => rfl, fun _ => rfl, nofun, ?_⟩
  rintro i goes ⟨current, previous, page, done⟩ - number x member
  obtain rfl := List.mem_singleton.mp member
  have early : i < 2 := by
    by_contra late
    exact goes 1 (by omega) rfl
  have written : unwritable (solrJob.attempt (counted 1) page emptyDirectory
      (pageOf (threeResponses 0).documents)) = none := by
    obtain rfl : page = UInt32.ofNat (i + 1) := number
    obtain rfl | rfl : i = 0 ∨ i = 1 := by omega
    · rfl
    · rfl
  obtain ⟨clean, found⟩ := clean_of_held (threeResponses 0)
    (x := solrJob.exchange (telling restingBody) default (.paging ⟨current, previous, page, done⟩)
      emptyDirectory 0 (.page current)) rfl rfl (read_threeBodies 0 (by decide)) rfl written
  exact ⟨clean, fun _ => found⟩

theorem guides_circling :
    Guides solrJob (telling circlingBody) default emptyDirectory circling := by
  refine ⟨fun _ _ => rfl, fun _ => rfl, nofun, ?_⟩
  intro i goes cursor _ _ x member
  obtain rfl := List.mem_singleton.mp member
  let x := solrJob.exchange (telling circlingBody) default (.paging cursor) emptyDirectory 0
    (.page cursor.current)
  have reply : x.reply = .ok ⟨200, circlingBody cursor.current⟩ :=
    reply_telling circlingBody 0 cursor.current
  have guided : x.fault solrJob = none ∧ cursorIn x.body = some (circling cursor.current) := by
    rw [circling]
    rw [circlingBody] at reply
    split_ifs at reply ⊢
    · exact clean_of_held ⟨none, some "m"⟩ rfl reply rfl rfl rfl
    · exact clean_of_held ⟨none, some "*"⟩ rfl reply rfl rfl rfl
  exact ⟨guided.1, fun _ => guided.2⟩

theorem run_rests_or_circles :
    (∃ p, solrJob.run (telling restingBody) 2 default emptyDirectory = .finished p ∧
      solrJob.walked (telling restingBody) 2 default emptyDirectory = 2 ∧
      p.report.files.Nodup) ∧
    ∀ fuel, ∃ state p,
      solrJob.run (telling circlingBody) fuel default emptyDirectory = .unfinished state p := by
  have described : solrJob.descriptor = Format.solr.descriptor := rfl
  refine ⟨?_, ?_⟩
  · obtain ⟨-, rests, -⟩ := run_ends_at_fixed_cursor described guides_resting
    have moves : ∀ j < 1, ¬IsFixedPt (fun _ => "m") ((fun _ => "m")^[j] Cursor.first) := by
      intro j below
      obtain rfl := Nat.lt_one_iff.mp below
      exact (by decide : "m" ≠ "*")
    obtain ⟨-, ends⟩ := rests 1 rfl moves
    obtain ⟨p, finished, pages, -, -, -, -, -, distinct⟩ := ends 2 (Nat.le_refl 2)
    exact ⟨p, finished, pages, distinct (by decide)⟩
  · obtain ⟨-, -, circles⟩ := run_ends_at_fixed_cursor described guides_circling
    apply circles 0
    have periodic : IsPeriodicPt circling 2 Cursor.first := rfl
    have positive := periodic.minimalPeriod_pos Nat.two_pos
    have moves : minimalPeriod circling Cursor.first ≠ 1 := by
      intro fixed
      exact absurd (minimalPeriod_eq_one_iff_isFixedPt.mp fixed) (by decide : "m" ≠ "*")
    exact Nat.lt_of_le_of_ne positive moves.symm

end Job

end IndexExport.Export
