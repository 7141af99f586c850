import IndexExport.Proofs.Export.Kept
/-!
# Replies that depend on the address alone

Where each address has one reply, the turn of a state is the same at all times, but for the
files and for what the writing of a page meets. And the files that can be opened stay the same,
so as long as the medium takes everything, what is without fault at the start is without fault
later. A turn of a cursor without fault leads on by the cursor in its reply.
-/
set_option autoImplicit false

namespace IndexExport.Export

/-- The replies depend on nothing but the address. -/
def Steady (fetch : Fetcher) : Prop :=
  ∀ before url, (fetch before url).1 = (fetch 0 url).1

/-- The same at another time. -/
def Exchange.later (x : Exchange) (files : Storage.Tree) (occasion : Page.Occasion) : Exchange :=
  { x with files, occasion }

namespace Job

/-! ## Replies at other times -/

section Steady

variable {job : Job} {fetch : Fetcher} {query : SelectQuery} {files after : Storage.Tree}
variable {x : Exchange} {occasion : Page.Occasion}

theorem unwritten_of_opens (opens : ∀ path place, after.openForWriting path = .ok place ↔
      x.files.openForWriting path = .ok place) (takes : occasion.medium = .takes)
    (written : x.unwritten job = none) : (x.later after occasion).unwritten job = none := by
  rw [Exchange.unwritten, unwritable_eq_none_iff, Exchange.attempt] at written ⊢
  have still : (x.later after occasion).payload job = x.payload job := rfl
  rw [still]
  cases wanted : x.payload job with
  | none => rfl
  | some payload =>
      rw [wanted] at written
      obtain ⟨content, place, held, opened, -⟩ := Page.Writer.write_eq_ok written
      obtain ⟨other, now⟩ := Page.Writer.content_of_content held occasion.moment
      have opened : after.openForWriting (job.pagePath x.page) = .ok place :=
        (opens _ _).mpr opened
      exact (Page.Writer.write_of_open now opened takes).1

theorem fault_of_opens (opens : ∀ path place, after.openForWriting path = .ok place ↔
      x.files.openForWriting path = .ok place) (takes : occasion.medium = .takes)
    (clean : x.fault job = none) : (x.later after occasion).fault job = none := by
  obtain ⟨refused, unread, unwritten, complete⟩ := Exchange.fault_eq_none_iff.mp clean
  exact Exchange.fault_eq_none_iff.mpr
    ⟨refused, unread, unwritten_of_opens opens takes unwritten, complete⟩

theorem fault_of_no_payload (nothing : x.payload job = none) (after : Storage.Tree)
    (occasion : Page.Occasion) : (x.later after occasion).fault job = x.fault job := by
  have still : (x.later after occasion).payload job = none := nothing
  obtain ⟨unwritten, -, -⟩ := Exchange.idle_of_no_payload nothing
  obtain ⟨laterUnwritten, -, -⟩ := Exchange.idle_of_no_payload still
  rw [Exchange.fault, Exchange.fault, unwritten, laterUnwritten]
  rfl

theorem exchange_of_steady (job : Job) (query : SelectQuery) (steady : Steady fetch)
    (files after : Storage.Tree) (state : State) (before sent : Nat) (ask : Ask) :
    job.exchange fetch query state after sent ask =
      (job.exchange fetch query state files before ask).later after (job.occasion (sent + 1)) := by
  rw [exchange, exchange, steady before, steady sent]
  rfl

/-- What is exchanged in a state is exchanged in it at the start, too. -/
theorem mem_turn_of_steady (steady : Steady fetch) (files : Storage.Tree) {state : State}
    {p : Progress} (member : x ∈ job.turn fetch query state p) :
    ∃ y ∈ job.turn fetch query state (.start query files), ∃ sent,
      x = y.later p.files (job.occasion sent) := by
  have now := job.exchange_of_steady query steady files p.files state
  cases state with
  | counting =>
      rw [List.mem_singleton.mp member]
      exact ⟨_, List.mem_cons_self, _, now 0 _ _⟩
  | single total =>
      rw [List.mem_singleton.mp member]
      exact ⟨_, List.mem_cons_self, _, now 0 _ _⟩
  | paging cursor =>
      by_cases native : job.descriptor.paginates = true
      · rw [turn, if_pos native] at member ⊢
        rw [List.mem_singleton.mp member]
        exact ⟨_, List.mem_cons_self, _, now 0 _ _⟩
      · let first := job.exchange fetch query (.paging cursor) files 0 (.next cursor.current)
        let listing := job.exchange fetch query (.paging cursor) p.files p.sent.length
          (.next cursor.current)
        have here : job.turn fetch query (.paging cursor) p =
            if (listing.fault job).isNone ∧ documentsIn listing.body ≠ [] then
              [listing, job.exchange fetch query (.paging cursor) p.files (p.sent.length + 1)
                (.data cursor.current)]
            else [listing] := if_neg native
        have start : job.turn fetch query (.paging cursor) (.start query files) =
            if (first.fault job).isNone ∧ documentsIn first.body ≠ [] then
              [first, job.exchange fetch query (.paging cursor) files 1 (.data cursor.current)]
            else [first] := if_neg native
        have same : listing = first.later p.files (job.occasion (p.sent.length + 1)) := now 0 _ _
        have fault : listing.fault job = first.fault job := by
          rw [same]
          exact fault_of_no_payload rfl _ _
        have body : listing.body = first.body := by
          rw [same]
          rfl
        rw [here, fault, body] at member
        rw [start]
        split_ifs at member ⊢
        · rcases List.mem_pair.mp member with rfl | rfl
          · exact ⟨_, List.mem_cons_self, _, same⟩
          · exact ⟨_, List.mem_cons_of_mem _ List.mem_cons_self, _, now 1 _ _⟩
        · rw [List.mem_singleton.mp member]
          exact ⟨_, List.mem_cons_self, _, same⟩
  | done => cases member

theorem exchange_of_mem_turn {state : State} {p : Progress}
    (member : x ∈ job.turn fetch query state p) :
    ∃ before ask, x = job.exchange fetch query state p.files before ask := by
  cases state with
  | counting => exact ⟨_, _, List.mem_singleton.mp member⟩
  | single total => exact ⟨_, _, List.mem_singleton.mp member⟩
  | paging cursor =>
      simp only [turn] at member
      split_ifs at member
      · exact ⟨_, _, List.mem_singleton.mp member⟩
      · rcases List.mem_pair.mp member with rfl | rfl <;> exact ⟨_, _, rfl⟩
      · exact ⟨_, _, List.mem_singleton.mp member⟩
  | done => cases member

theorem files_of_mem_turn {state : State} {p : Progress}
    (member : x ∈ job.turn fetch query state p) : x.files = p.files := by
  obtain ⟨before, ask, rfl⟩ := exchange_of_mem_turn member
  rfl

theorem queries_of_history (job : Job) (fetch : Fetcher) (fuel : Nat) (query : SelectQuery)
    (files : Storage.Tree) : (job.history fetch fuel query files).map Exchange.query =
      ((job.history fetch fuel query files).map Exchange.ask).map (Ask.query job query) := by
  rw [List.map_map]
  apply List.map_congr_left
  intro x member
  obtain ⟨-, -, state, p, -, turn, -⟩ := mem_historyFrom member
  obtain ⟨before, ask, rfl⟩ := exchange_of_mem_turn turn
  rfl

end Steady

/-! ## The turn of a cursor -/

/-- What is asked for on the page of a cursor. Data is asked for apart where documents are
listed. -/
def visit (job : Job) (fetch : Fetcher) (query : SelectQuery) (cursor : String) : List Ask :=
  let listing := job.exchange fetch query (.paging { Cursor.start with current := cursor }) default
    0 (.next cursor)
  if job.descriptor.paginates then [.page cursor]
  else if documentsIn listing.body = [] then [.next cursor]
  else [.next cursor, .data cursor]

section Turn

variable {format : Format} {job : Job} {fetch : Fetcher} {query : SelectQuery}
variable {cursor : Cursor} {next : State} {p after : Progress} {mark : String}

theorem asks_of_turn (steady : Steady fetch)
    (clean : ∀ x ∈ job.turn fetch query (.paging cursor) p, x.fault job = none) :
    (job.turn fetch query (.paging cursor) p).map Exchange.ask =
      job.visit fetch query cursor.current := by
  by_cases native : job.descriptor.paginates = true
  · rw [turn, if_pos native, visit, if_pos native]
    rfl
  · let x := job.exchange fetch query (.paging cursor) p.files p.sent.length (.next cursor.current)
    let y := job.exchange fetch query (.paging cursor) p.files (p.sent.length + 1)
      (.data cursor.current)
    have here : job.turn fetch query (.paging cursor) p =
        if (x.fault job).isNone ∧ documentsIn x.body ≠ [] then [x, y] else [x] := if_neg native
    have first : x ∈ job.turn fetch query (.paging cursor) p := by
      rw [here]
      split_ifs <;> exact List.mem_cons_self
    have body : (job.exchange fetch query (.paging { Cursor.start with current := cursor.current })
        default 0 (.next cursor.current)).body = x.body := by
      rw [Exchange.body, Exchange.body, exchange, ← steady p.sent.length]
      rfl
    rw [here, clean x first, visit, if_neg native, body]
    by_cases empty : documentsIn x.body = []
    · rw [if_neg (fun both => both.2 empty), if_pos empty]
      rfl
    · rw [if_pos ⟨rfl, empty⟩, if_neg empty]
      rfl

theorem follow_of_step (ready : job.Ready query (.paging cursor) p)
    (steps : job.step fetch (.paging cursor) p = (.ok next, after)) :
    ∃ x ∈ job.turn fetch query (.paging cursor) p, x.ask.isListing = true ∧
      ∃ mark, cursorIn x.body = some mark ∧ next = follow cursor mark := by
  by_cases native : job.descriptor.paginates = true
  · rw [Ready, if_pos native] at ready
    rw [step, if_pos native] at steps
    let x := job.exchange fetch query (.paging cursor) p.files p.sent.length (.page cursor.current)
    have turn : job.turn fetch query (.paging cursor) p = [x] := if_pos native
    obtain ⟨middle, -, ⟨e, -, failed⟩ | ⟨-, mark, found, went⟩⟩ :=
      job.pageStep_cases (x := x) rfl rfl rfl rfl (ready cursor.current).symm rfl
    · rw [failed] at steps
      cases steps
    · rw [went] at steps
      cases steps
      exact ⟨x, by rw [turn]; exact List.mem_cons_self, rfl, mark, found, rfl⟩
  · rw [Ready, if_neg native] at ready
    rw [step, if_neg native] at steps
    let x := job.exchange fetch query (.paging cursor) p.files p.sent.length (.next cursor.current)
    have turn : x ∈ job.turn fetch query (.paging cursor) p := by
      rw [turn, if_neg native]
      simp only
      split_ifs <;> exact List.mem_cons_self
    obtain ⟨middle, -, ⟨e, -, failed⟩ | ⟨-, mark, found, went⟩⟩ :=
      job.bulkStep_cases (x := x) rfl rfl rfl (ready cursor.current).symm rfl
    · rw [failed] at steps
      cases steps
    · refine ⟨x, turn, rfl, mark, found, ?_⟩
      rw [went] at steps
      split_ifs at steps
      · cases steps
        rfl
      · split at steps
        · cases steps
        · cases steps
          rfl

theorem step_of_clean (described : job.descriptor = format.descriptor)
    (ready : job.Ready query (.paging cursor) p)
    (clean : ∀ x ∈ job.turn fetch query (.paging cursor) p, x.fault job = none)
    (guided : ∀ x ∈ job.turn fetch query (.paging cursor) p, x.ask.isListing = true →
      cursorIn x.body = some mark) :
    ∃ after, job.step fetch (.paging cursor) p = (.ok (follow cursor mark), after) := by
  have accounts : job.Accounts fetch query _ p (job.turn fetch query (.paging cursor) p)
      (job.step fetch (.paging cursor) p) := step_accounts described ready
  cases steps : job.step fetch (.paging cursor) p with
  | mk result after =>
      rw [steps] at accounts
      cases result with
      | error e =>
          obtain ⟨-, earlier, last, turn, -, fault⟩ := accounts
          rw [clean last (by rw [turn]; exact List.mem_concat_self ..)] at fault
          cases fault
      | ok next =>
          obtain ⟨x, member, listing, other, found, rfl⟩ := follow_of_step ready steps
          rw [guided x member listing] at found
          cases found
          exact ⟨after, rfl⟩

end Turn

end Job

end IndexExport.Export
