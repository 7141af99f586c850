import IndexExport.Proofs.Export.Kept
/-!
# How exports end

An export that fails has sent nothing after the exchange with its fault, and what was written
before stays. Where the cursor is missing, a page that came with it has been written already,
and data that was still to be asked for has not been asked for.

An export in bulk that finishes has written the data of each page. Only documents that turn
out to be none leave no file.
-/
set_option autoImplicit false

namespace IndexExport.Export

namespace Job

section Faults

variable {job : Job} {fetch : Fetcher} {query : SelectQuery} {state : State} {p : Progress}
variable {x : Exchange} {e : Failure}

/-- An answer that can be read, without a cursor. -/
structure LacksCursor (job : Job) (x : Exchange) : Prop where
  arrived : x.refusal = none
  read : x.unreadable job = none
  missing : cursorIn x.body = none

theorem unwritten_eq_page (lost : x.unwritten job = some e) : ∃ cause, e = .page cause := by
  obtain ⟨cause, -, rfl⟩ := unwritable_eq_some_iff.mp lost
  exact ⟨cause, rfl⟩

theorem LacksCursor.fault_page (lacks : LacksCursor job x) {cursor : String}
    (asked : x.ask = .page cursor) :
    x.fault job = (x.unwritten job).or (some (.request (.withoutCursor x.url))) := by
  have incomplete : x.incomplete = some (.request (.withoutCursor x.url)) := by
    simp only [Exchange.incomplete, asked, lacks.missing]
    rfl
  rw [Exchange.fault_of_arrived job lacks.arrived, lacks.read, Option.none_or, incomplete]

/-- Nothing is written before the cursor is looked for. -/
theorem LacksCursor.fault_next (lacks : LacksCursor job x) {cursor : String}
    (asked : x.ask = .next cursor) :
    x.fault job = some (.request (.withoutCursor x.url)) ∧ x.written job = none := by
  have payload : x.payload job = none := by rw [Exchange.payload, asked]
  obtain ⟨unwritten, nothing, -⟩ := Exchange.idle_of_no_payload payload
  have incomplete : x.incomplete = some (.request (.withoutCursor x.url)) := by
    simp only [Exchange.incomplete, asked, lacks.missing]
    rfl
  refine ⟨?_, nothing⟩
  rw [Exchange.fault_of_arrived job lacks.arrived, lacks.read, unwritten, incomplete]
  rfl

/-- The documents have been written when the cursor is looked for. -/
theorem LacksCursor.written_page (lacks : LacksCursor job x) {cursor : String}
    (asked : x.ask = .page cursor) (kept : x.unwritten job = none) :
    x.written job = pageOf (documentsIn x.body) := by
  rw [Exchange.written_of_arrived lacks.arrived (by rw [lacks.read, kept]; rfl),
    Exchange.payload, asked]

/-- Documents without a cursor are lost, or have been written when the cursor is missed. -/
theorem LacksCursor.ends_page (lacks : LacksCursor job x) {cursor : String}
    (asked : x.ask = .page cursor) (documents : documentsIn x.body ≠ [])
    (lost : x.fault job = some e) :
    (x.unwritten job = some e ∧ ∃ cause, e = .page cause) ∨
      (e = .request (.withoutCursor x.url) ∧
        x.written job = some (.documents (documentsIn x.body))) := by
  have fault := lacks.fault_page asked
  rw [lost] at fault
  cases unwritten : x.unwritten job with
  | some cause =>
      rw [unwritten, Option.some_or] at fault
      cases fault
      exact .inl ⟨rfl, unwritten_eq_page unwritten⟩
  | none =>
      rw [unwritten, Option.none_or] at fault
      cases fault
      refine .inr ⟨rfl, ?_⟩
      rw [lacks.written_page asked unwritten, pageOf, if_neg documents]

theorem LacksCursor.fault_ne_none (lacks : LacksCursor job x) {cursor : String}
    (asked : x.ask = .page cursor ∨ x.ask = .next cursor) : x.fault job ≠ none := by
  rcases asked with page | next
  · rw [lacks.fault_page page]
    intro none
    cases (Option.or_eq_none_iff.mp none).2
  · rw [(lacks.fault_next next).1]
    exact Option.some_ne_none _

theorem eq_last_of_fault {earlier : List Exchange} {last : Exchange}
    (clean : ∀ x ∈ earlier, x.fault job = none) (member : x ∈ earlier ++ [last])
    (fault : x.fault job ≠ none) : x = last := by
  rcases List.mem_append.mp member with before | here
  · exact absurd (clean x before) fault
  · exact List.mem_singleton.mp here

theorem written_of_clean (clean : x.fault job = none) : x.written job = x.payload job := by
  obtain ⟨refused, unread, unwritten, -⟩ := Exchange.fault_eq_none_iff.mp clean
  apply Exchange.written_of_arrived refused
  rw [unread, unwritten, Option.none_or]

/-- A format that paginates by itself asks for nothing but pages. -/
theorem asked_of_native (native : job.descriptor.paginates = true)
    (ready : job.Ready query state p) (member : x ∈ job.turn fetch query state p) :
    ∃ cursor, x.ask = .page cursor := by
  obtain ⟨-, asked⟩ := ask_of_mem_turn member
  cases state with
  | counting =>
      rw [ready.1] at native
      cases native
  | single total =>
      rw [ready.1] at native
      cases native
  | paging cursor =>
      rw [MayAsk, if_pos native] at asked
      exact ⟨cursor.current, asked⟩
  | done => exact absurd asked id

/-- Only the count is asked for to count. -/
theorem counting_of_ask (asked : x.ask = .count) (member : x ∈ job.turn fetch query state p) :
    state = .counting := by
  obtain ⟨-, may⟩ := ask_of_mem_turn member
  rw [asked] at may
  cases state with
  | counting => rfl
  | single total => cases may
  | paging cursor =>
      rw [MayAsk] at may
      by_cases native : job.descriptor.paginates = true
      · rw [if_pos native] at may
        cases may
      · rw [if_neg native] at may
        rcases may with next | data
        · cases next
        · cases data
  | done => exact absurd may id

/-- Where documents are listed, their data is asked for next. -/
theorem data_of_listing {xs : List Exchange} {cursor : String} (clean : x.fault job = none)
    (asked : x.ask = .next cursor) (documents : documentsIn x.body ≠ [])
    (member : x ∈ job.turn fetch query state p) (within : job.turn fetch query state p ⊆ xs) :
    ∃ y ∈ xs, y.ask = .data cursor ∧ y.page = x.page := by
  cases state with
  | counting =>
      rw [List.mem_singleton.mp member] at asked
      cases asked
  | single total =>
      rw [List.mem_singleton.mp member] at asked
      cases asked
  | paging other =>
      rw [turn] at member within
      simp only at member within
      split_ifs at member within with native listed
      · rw [List.mem_singleton.mp member] at asked
        cases asked
      · rcases List.mem_cons.mp member with rfl | data
        · cases asked
          exact ⟨_, within (List.mem_cons_of_mem _ List.mem_cons_self), rfl, rfl⟩
        · rw [List.mem_singleton.mp data] at asked
          cases asked
      · obtain rfl := List.mem_singleton.mp member
        rw [clean] at listed
        exact absurd ⟨rfl, documents⟩ listed
  | done => cases member

/-- Where the count is small, all documents are asked for next. -/
theorem data_of_count {next : State} {after : Progress} {total : Nat} (asked : x.ask = .count)
    (counted : countIn x.body = some total) (positive : 0 < total)
    (few : total < job.rowsPerPage) (ready : job.Ready query state p)
    (member : x ∈ job.turn fetch query state p)
    (steps : job.step fetch state p = (.ok next, after)) : next = .single total := by
  obtain rfl := counting_of_ask asked member
  obtain rfl := List.mem_singleton.mp member
  have asks : (job.exchange fetch query .counting p.files p.sent.length .count).query =
      countQuery p.query := by
    rw [ready.2]
    rfl
  obtain ⟨middle, -, ⟨e, -, failed⟩ | ⟨-, count, found, went, -⟩⟩ :=
    job.countStep_cases rfl rfl rfl asks rfl
  · rw [step, failed] at steps
    cases steps
  · rw [step, went] at steps
    rw [counted] at found
    cases found
    cases steps
    rw [afterCount, if_neg (Nat.ne_of_gt positive), if_pos few]

end Faults

section Ends

variable {format : Format} {job : Job} {fetch : Fetcher} {query : SelectQuery}
variable {files : Storage.Tree} {fuel : Nat} {e : Failure} {p : Progress}

theorem asked_of_mem_history (described : job.descriptor = format.descriptor)
    (native : job.descriptor.paginates = true) {x : Exchange}
    (member : x ∈ job.history fetch fuel query files) : ∃ cursor, x.ask = .page cursor := by
  obtain ⟨steps, -, state, middle, stands, turn, -⟩ := mem_historyFrom member
  exact asked_of_native native (ready_of_walk described (ready_start files) stands).1 turn

/-- Beside the files of the report, a fault touches no file but one that the medium broke off. -/
theorem Account.untouched_beside {earlier : List Exchange} {last : Exchange}
    (account : Account job fetch files (earlier ++ [last]) p)
    (clean : ∀ x ∈ earlier, x.fault job = none) (lost : last.fault job = some e)
    {place : Storage.Place}
    (others : ∀ path ∈ p.report.files, files.openForWriting path ≠ .ok place)
    (target : ∀ cause, e = .page cause → last.occasion.medium.holds = false →
      files.openForWriting (job.pagePath last.page) ≠ .ok place) :
    p.files.at? place = files.at? place := by
  apply account.untouched place
  intro x member stored
  cases wrote : x.written job with
  | some payload =>
      apply others
      rw [account.paths]
      exact List.mem_map_of_mem (List.mem_filter.mpr ⟨member, by rw [wrote]; rfl⟩)
  | none =>
      obtain ⟨held, there⟩ := Option.isSome_iff_exists.mp stored
      obtain ⟨⟨cause, fault⟩, stage, why, breaks⟩ := Exchange.breaksOff_of_stored wrote there
      obtain rfl := eq_last_of_fault clean member (by rw [fault]; exact Option.some_ne_none _)
      rw [lost] at fault
      exact target cause (Option.some.inj fault) (by rw [breaks]; rfl)

/-- An export that fails does so with its first fault, in the last request that it sends. It
keeps the pages it has written, and beside their files none has changed but the one of a page
that the medium broke off. Where the cursor is missing, a format that paginates by itself
has written the documents that came without it; a format in bulk has not asked for data. -/
theorem run_failed_with_first_fault (described : job.descriptor = format.descriptor)
    (failed : job.run fetch fuel query files = .failed e p) :
    ∃ earlier last, job.history fetch fuel query files = earlier ++ [last] ∧
      (∀ x ∈ earlier, x.fault job = none) ∧ last.fault job = some e ∧
      Account job fetch files (earlier ++ [last]) p ∧
      (∀ place, (∀ path ∈ p.report.files, files.openForWriting path ≠ .ok place) →
        (∀ cause, e = .page cause → last.occasion.medium.holds = false →
          files.openForWriting (job.pagePath last.page) ≠ .ok place) →
        p.files.at? place = files.at? place) ∧
      (job.descriptor.paginates = true →
        ∀ x ∈ earlier ++ [last], LacksCursor job x → documentsIn x.body ≠ [] →
          x = last ∧ ((x.unwritten job = some e ∧ ∃ cause, e = .page cause) ∨
            (e = .request (.withoutCursor x.url) ∧ job.pagePath x.page ∈ p.report.files ∧
              ∃ content, job.descriptor.writer.content x.occasion.moment
                  (.documents (documentsIn x.body)) = .ok content ∧
                p.files.read (job.pagePath x.page) = .ok (.text content)))) ∧
      (job.descriptor.paginates = false →
        ∀ x ∈ earlier ++ [last], ∀ cursor, x.ask = .next cursor → LacksCursor job x →
          x = last ∧ e = .request (.withoutCursor x.url) ∧ x.written job = none ∧
            p.files = x.files ∧
            (earlier.length + 1 < UInt32.size → job.pagePath x.page ∉ p.report.files)) := by
  have account := account_of_run described fetch fuel query files
  obtain ⟨takes, fault⟩ := run_accounts described fetch fuel query files
  rw [failed] at account takes fault
  change job.Account fetch files _ p at account
  change job.Takes fetch _ _ p at takes
  obtain ⟨earlier, last, split, clean, lost⟩ := fault
  have asked : job.descriptor.paginates = true → ∀ x ∈ earlier ++ [last],
      ∃ cursor, x.ask = .page cursor := by
    intro native x member
    rw [← split] at member
    exact asked_of_mem_history described native member
  rw [split] at account takes
  refine ⟨earlier, last, split, clean, lost, account,
    fun place others target => account.untouched_beside clean lost others target, ?_, ?_⟩
  · intro native x member lacks documents
    obtain ⟨cursor, paged⟩ := asked native x member
    obtain rfl := eq_last_of_fault clean member (lacks.fault_ne_none (.inl paged))
    refine ⟨rfl, (lacks.ends_page paged documents lost).imp_right ?_⟩
    exact fun ⟨missed, wrote⟩ => ⟨missed, account.listed wrote⟩
  · intro bulk x member cursor next lacks
    obtain rfl := eq_last_of_fault clean member (lacks.fault_ne_none (.inr next))
    obtain ⟨fault, nothing⟩ := lacks.fault_next next
    rw [lost] at fault
    obtain ⟨middle, took⟩ := takes.concat
    have payload : x.payload job = none := by rw [Exchange.payload, next]
    obtain ⟨-, -, left⟩ := Exchange.idle_of_no_payload payload
    exact ⟨rfl, Option.some.inj fault, nothing, took.left.trans left,
      account.unlisted described nothing⟩

/-! A second page that comes without a cursor, after one that took the place of another file. And
a third page whose file is cut short. -/

def uncursoredBodies : List String :=
  [threeBodies.getD 0 "", "\x7b\"response\":\x7b\"docs\":[\x7b\"id\":2\x7d]\x7d\x7d"]

/-- There is room for so much of the third page. -/
def fullMedium (sent : Nat) : Page.Occasion :=
  ⟨"", if sent = 3 then .breaksOff .closing (.other "No space left on device (os error 28)")
    (.text "[\n") else .takes⟩

def fullJob : Job := { solrJob with occasion := fullMedium }

theorem uncursored_second : ∃ x,
    (solrJob.history (replying uncursoredBodies) 2 default oldFiles)[1]? = some x ∧
      LacksCursor solrJob x ∧ documentsIn x.body = [.object [("id", .number (.whole 2))]] ∧
      x.page = 2 ∧ x.unwritten solrJob = none :=
  ⟨_, rfl, ⟨rfl, rfl, rfl⟩, rfl, rfl, rfl⟩

theorem full_history : ∃ x y z,
    fullJob.history (replying threeBodies) 3 default oldFiles = [x, y, z] ∧
      x.written fullJob = some (.documents [.object [("id", .number (.whole 1))]]) ∧
      x.page = 1 ∧ z.stored fullJob = some (.text "[\n") ∧ z.page = 3 :=
  ⟨_, _, _, rfl, rfl, rfl, rfl, rfl⟩

theorem run_without_cursor : (∃ url p,
    solrJob.run (replying uncursoredBodies) 2 default oldFiles =
      .failed (.request (.withoutCursor url)) p ∧
    p.report.requests = 2 ∧ "out/page2.json" ∈ p.report.files ∧
    p.files.read "out/page2.json" = .ok (.text "[\n  \x7b\n    \"id\": 2\n  \x7d\n]")) ∧
    ∃ e p, fullJob.run (replying threeBodies) 3 default oldFiles =
        .failed (.page e) p ∧
      p.files.read "out/page1.json" = .ok (.text "[\n  \x7b\n    \"id\": 1\n  \x7d\n]") ∧
      p.files.read "out/page3.json" = .ok (.text "[\n") ∧
      p.files.at? ["out", "page2.json"] = none := by
  have described : solrJob.descriptor = Format.solr.descriptor := rfl
  refine ⟨?_, ?_⟩
  · obtain ⟨e, p, failed⟩ : ∃ e p,
        solrJob.run (replying uncursoredBodies) 2 default oldFiles = .failed e p := ⟨_, _, rfl⟩
    obtain ⟨x, second, lacks, documents, page, kept⟩ := uncursored_second
    have long : (solrJob.history (replying uncursoredBodies) 2 default oldFiles).length = 2 := rfl
    have some : documentsIn x.body ≠ [] := by
      rw [documents]
      exact List.cons_ne_nil _ _
    obtain ⟨earlier, last, split, -, -, account, -, native, -⟩ :=
      run_failed_with_first_fault described failed
    rw [split] at second long
    obtain ⟨-, ⟨unwritten, -⟩ | ⟨rfl, listed, content, held, stands⟩⟩ :=
      native rfl x (List.mem_of_getElem? second) lacks some
    · rw [kept] at unwritten
      cases unwritten
    · rw [documents] at held
      cases held
      rw [page] at listed stands
      exact ⟨x.url, p, failed, account.requests.trans long, listed, stands⟩
  · have full : fullJob.descriptor = Format.solr.descriptor := rfl
    obtain ⟨e, p, failed, files⟩ : ∃ e p,
        fullJob.run (replying threeBodies) 3 default oldFiles = .failed (.page e) p ∧
          p.report.files = ["out/page1.json"] := ⟨_, _, rfl, rfl⟩
    obtain ⟨x, y, z, history, first, firstPage, third, thirdPage⟩ := full_history
    obtain ⟨earlier, last, split, -, -, account, untouched, -, -⟩ :=
      run_failed_with_first_fault full failed
    rw [← split, history] at account
    have whole : earlier ++ [last] = [x, y] ++ [z] := split.symm.trans history
    obtain ⟨-, alone⟩ := List.append_inj' whole rfl
    obtain rfl := List.singleton_inj.mp alone
    have few : [x, y, last].length < UInt32.size := by
      change 3 < 4294967296
      omega
    obtain ⟨content, held, stored⟩ := account.whole x List.mem_cons_self _ first
    cases held
    have page1 := account.stands [] x [y, last] _ rfl stored (.inl few)
    have page3 := account.stands [x, y] last [] _ rfl third (.inl few)
    rw [firstPage] at page1
    rw [thirdPage] at page3
    have opened : oldFiles.openForWriting "out/page1.json" = .ok ["out", "page1.json"] := rfl
    have target : oldFiles.openForWriting "out/page3.json" = .ok ["out", "page3.json"] := rfl
    have other : fullJob.pagePath last.page = "out/page3.json" := by
      rw [thirdPage]
      rfl
    refine ⟨e, p, failed, page1, page3, ?_⟩
    rw [untouched ["out", "page2.json"]]
    · rfl
    · intro path member
      rw [files] at member
      rw [List.mem_singleton.mp member, opened]
      simp
    · intro _ _ _
      rw [other, target]
      simp

/-- An export in bulk that finishes has got an answer to each request for data, and has
written it. Only where documents are asked for and none come there is no file. Data was asked
for where the count was small, and on every page where documents were listed. -/
theorem run_finished_with_data (bulk : format.descriptor.paginates = false)
    (described : job.descriptor = format.descriptor)
    (finished : job.run fetch fuel query files = .finished p) :
    p.sent = (job.history fetch fuel query files).map Exchange.request ∧
    (∀ x ∈ job.history fetch fuel query files, x.ask.isData = true →
      x.fault job = none ∧
      (format = .csv → job.pagePath x.page ∈ p.report.files) ∧
      (format = .flatCsv →
        (documentsIn x.body ≠ [] → job.pagePath x.page ∈ p.report.files) ∧
        (documentsIn x.body = [] → x.written job = none))) ∧
    (∀ x ∈ job.history fetch fuel query files, ∀ total, x.ask = .count →
      countIn x.body = some total → 0 < total → total < job.rowsPerPage →
      ∃ y ∈ job.history fetch fuel query files, y.ask = .all total ∧ y.page = 1) ∧
    ∀ x ∈ job.history fetch fuel query files, ∀ cursor, x.ask = .next cursor →
      documentsIn x.body ≠ [] →
      ∃ y ∈ job.history fetch fuel query files, y.ask = .data cursor ∧ y.page = x.page := by
  have account := account_of_run described fetch fuel query files
  have clean := (run_accounts described fetch fuel query files).2
  have followed := fun x (member : x ∈ job.history fetch fuel query files) =>
    next_turn described (ready_start files) finished member
  rw [finished] at account clean
  change job.Account fetch files _ p at account
  change ∀ x ∈ job.history fetch fuel query files, x.fault job = none at clean
  have listed : ∀ x ∈ job.history fetch fuel query files, ∀ payload,
      x.written job = some payload → job.pagePath x.page ∈ p.report.files := by
    intro x member payload wrote
    rw [account.paths]
    apply List.mem_map_of_mem
    exact List.mem_filter.mpr ⟨member, by rw [wrote]; rfl⟩
  refine ⟨account.sent, ?_, ?_, ?_⟩
  · intro x member data
    have wrote : x.written job = job.payloadOf x.body := by
      rw [written_of_clean (clean x member), Exchange.payload_of_data data]
    refine ⟨clean x member, ?_, ?_⟩
    · rintro rfl
      have table : job.payloadOf x.body = some (.tabular x.body) :=
        bind_payloadOf_csv described (some x.body)
      exact listed x member _ (wrote.trans table)
    · rintro rfl
      have page : job.payloadOf x.body = pageOf (documentsIn x.body) :=
        bind_payloadOf_flatCsv described (some x.body)
      rw [page, pageOf] at wrote
      refine ⟨?_, ?_⟩
      · intro documents
        rw [if_neg documents] at wrote
        exact listed x member _ wrote
      · intro empty
        rw [wrote, if_pos empty]
  · intro x member total asked counted positive few
    obtain ⟨here, before, next, after, ready, turn, steps, within⟩ := followed x member
    obtain rfl := data_of_count asked counted positive few ready turn steps
    exact ⟨_, within List.mem_cons_self, rfl, rfl⟩
  · intro x member cursor asked documents
    obtain ⟨steps, -, state, middle, -, turn, within⟩ := mem_historyFrom member
    exact data_of_listing (clean x member) asked documents turn within

end Ends

/-! One document by the count. Then it comes, or none does and there is no file. -/

def flatJob : Job := ⟨Format.flatCsv.descriptor, 2, "out", counted⟩

def fewBodies : List String := [countBody "1", threeBodies.getD 0 ""]

theorem run_few_with_data : ∃ p,
    flatJob.run (replying fewBodies) 2 default emptyDirectory = .finished p ∧
    "out/page1.csv" ∈ p.report.files := by
  have bulk : Format.flatCsv.descriptor.paginates = false := rfl
  have described : flatJob.descriptor = Format.flatCsv.descriptor := rfl
  obtain ⟨p, finished⟩ : ∃ p,
      flatJob.run (replying fewBodies) 2 default emptyDirectory = .finished p := ⟨_, rfl⟩
  obtain ⟨x, second, data, page, documents⟩ : ∃ x,
      (flatJob.history (replying fewBodies) 2 default emptyDirectory)[1]? = some x ∧
      x.ask.isData = true ∧ x.page = 1 ∧
      documentsIn x.body = [.object [("id", .number (.whole 1))]] := ⟨_, rfl, rfl, rfl, rfl⟩
  obtain ⟨-, answered, -⟩ := run_finished_with_data bulk described finished
  obtain ⟨-, -, flat⟩ := answered x (List.mem_of_getElem? second) data
  have listed := (flat rfl).1 (by rw [documents]; exact List.cons_ne_nil _ _)
  rw [page] at listed
  exact ⟨p, finished, listed⟩

theorem run_few_without_data : ¬∀ (format : Format) (job : Job) (fetch : Fetcher) (fuel : Nat)
    (query : SelectQuery) (files : Storage.Tree) (p : Progress),
    format.descriptor.paginates = false → job.descriptor = format.descriptor →
    job.run fetch fuel query files = .finished p →
    ∀ x ∈ job.history fetch fuel query files, x.ask.isData = true →
      job.pagePath x.page ∈ p.report.files := by
  intro claim
  have bulk : Format.flatCsv.descriptor.paginates = false := rfl
  obtain ⟨p, finished, nothing⟩ : ∃ p,
      flatJob.run (replying [countBody "1", "\x7b\x7d"]) 2 default emptyDirectory =
        .finished p ∧ p.report.files = [] := ⟨_, rfl, rfl⟩
  obtain ⟨x, second, data⟩ : ∃ x,
      (flatJob.history (replying [countBody "1", "\x7b\x7d"]) 2 default emptyDirectory)[1]? =
        some x ∧ x.ask.isData = true := ⟨_, rfl, rfl⟩
  have listed := claim .flatCsv flatJob _ 2 default emptyDirectory p bulk rfl finished x
    (List.mem_of_getElem? second) data
  rw [nothing] at listed
  exact List.not_mem_nil listed

end Job

end IndexExport.Export
