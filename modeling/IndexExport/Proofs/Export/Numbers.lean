import IndexExport.Proofs.Export.Histories
/-!
# Numbers of pages

The pages of a walk are numbered from one, and the number grows by one with each move of the
cursor. Numbers are words, so this holds as long as there are fewer moves than words. Until
then a state is about a page beyond those that have been written.
-/
set_option autoImplicit false

namespace IndexExport.Export

def State.moves : State → State → Bool
  | .paging here, .paging next => here.current ≠ next.current
  | _, _ => false

def State.isPaging : State → Bool
  | .paging _ => true
  | _ => false

/-- A page of a walk is asked for, whether its data come with it or not. -/
def Ask.isListing : Ask → Bool
  | .page _ | .next _ => true
  | _ => false

namespace Job

def listings (xs : List Exchange) : List Exchange :=
  xs.filter fun x => x.ask.isListing

/-- How many steps of a walk count, each from a state to the one that follows it. -/
def countFrom (job : Job) (fetch : Fetcher) (counts : State → State → Bool) :
    Nat → State → Progress → Nat
  | 0, _, _ => 0
  | fuel + 1, state, p =>
    match job.step fetch state p with
    | (.error _, _) => 0
    | (.ok next, after) =>
      (if counts state next then 1 else 0) + countFrom job fetch counts fuel next after

/-- How many pages an export has walked. -/
def walked (job : Job) (fetch : Fetcher) (fuel : Nat) (query : SelectQuery)
    (files : Storage.Tree) : Nat :=
  job.countFrom fetch (fun state _ => state.isPaging) fuel job.firstState
    (job.prepare (.start query files))

/-- How often the cursor of an export has moved. -/
def moves (job : Job) (fetch : Fetcher) (fuel : Nat) (query : SelectQuery)
    (files : Storage.Tree) : Nat :=
  job.countFrom fetch State.moves fuel job.firstState (job.prepare (.start query files))

section Counts

variable {job : Job} {fetch : Fetcher} {counts others : State → State → Bool}
variable {state next : State} {p after : Progress} {e : Failure} {fuel : Nat}

theorem countFrom_failed (steps : job.step fetch state p = (.error e, after)) (fuel : Nat) :
    job.countFrom fetch counts (fuel + 1) state p = 0 := by
  rw [countFrom, steps]

theorem countFrom_succ (steps : job.step fetch state p = (.ok next, after)) (fuel : Nat) :
    job.countFrom fetch counts (fuel + 1) state p =
      (if counts state next then 1 else 0) + job.countFrom fetch counts fuel next after := by
  rw [countFrom, steps]

theorem countFrom_le_of_imp (fewer : ∀ s t, counts s t = true → others s t = true) (fuel : Nat)
    (state : State) (p : Progress) :
    job.countFrom fetch counts fuel state p ≤ job.countFrom fetch others fuel state p := by
  induction fuel generalizing state p with
  | zero => exact Nat.le_refl 0
  | succ fuel ih =>
      cases steps : job.step fetch state p with
      | mk result after =>
          cases result with
          | error e => rw [countFrom_failed steps, countFrom_failed steps]
          | ok next =>
              rw [countFrom_succ steps, countFrom_succ steps]
              apply Nat.add_le_add _ (ih next after)
              by_cases here : counts state next = true
              · rw [if_pos here, if_pos (fewer state next here)]
              · rw [if_neg here]
                exact Nat.zero_le _

theorem countFrom_le_of_le {steps : Nat} (within : steps ≤ fuel) (state : State) (p : Progress) :
    job.countFrom fetch counts steps state p ≤ job.countFrom fetch counts fuel state p := by
  induction steps generalizing fuel state p with
  | zero => exact Nat.zero_le _
  | succ steps ih =>
      obtain ⟨fuel, rfl⟩ : ∃ rest, fuel = rest + 1 := ⟨fuel - 1, by omega⟩
      cases result : job.step fetch state p with
      | mk reached after =>
          cases reached with
          | error e => rw [countFrom_failed result, countFrom_failed result]
          | ok next =>
              rw [countFrom_succ result, countFrom_succ result]
              exact Nat.add_le_add_left (ih (by omega) next after) _

theorem countFrom_more (stands : job.walk fetch fuel state p = .unfinished next after) :
    job.countFrom fetch counts (fuel + 1) state p =
      job.countFrom fetch counts fuel state p + job.countFrom fetch counts 1 next after := by
  induction fuel generalizing state p with
  | zero =>
      obtain ⟨rfl, rfl, -⟩ := walk_zero_eq_unfinished stands
      exact (Nat.zero_add _).symm
  | succ fuel ih =>
      obtain ⟨other, middle, steps, goes⟩ := walk_succ_eq_unfinished stands
      rw [countFrom_succ steps, countFrom_succ steps, ih goes, Nat.add_assoc]

theorem countFrom_done (fuel : Nat) (p : Progress) :
    job.countFrom fetch (fun state _ => state.isPaging) fuel .done p = 0 := by
  induction fuel with
  | zero => rfl
  | succ fuel ih =>
      have steps : job.step fetch .done p = (.ok .done, p) := rfl
      rw [countFrom_succ steps, ih]
      rfl

/-- A walk that is over stays as it is. -/
theorem walk_of_finished (query : SelectQuery)
    {whole : Progress}
    (finished : job.walk fetch fuel state p = .finished whole) (more : Nat) :
    job.walk fetch (fuel + more) state p = .finished whole ∧
      job.historyFrom fetch query (fuel + more) state p =
        job.historyFrom fetch query fuel state p ∧
      job.countFrom fetch (fun state _ => state.isPaging) (fuel + more) state p =
        job.countFrom fetch (fun state _ => state.isPaging) fuel state p := by
  induction fuel generalizing state p with
  | zero =>
      cases state with
      | done =>
          rw [walk_done] at finished
          rw [walk_done, historyFrom_done, historyFrom_done, countFrom_done, countFrom_done]
          exact ⟨finished, rfl, rfl⟩
      | counting => cases finished
      | single total => cases finished
      | paging cursor => cases finished
  | succ fuel ih =>
      obtain ⟨next, after, steps, goes⟩ := walk_succ_eq_finished finished
      obtain ⟨ended, history, count⟩ := ih goes
      rw [Nat.add_right_comm, walk_succ steps, historyFrom_succ steps, historyFrom_succ steps,
        countFrom_succ steps, countFrom_succ steps, ended, history, count]
      exact ⟨rfl, rfl, rfl⟩

theorem moves_le_walked (job : Job) (fetch : Fetcher) (fuel : Nat) (query : SelectQuery)
    (files : Storage.Tree) :
    job.moves fetch fuel query files ≤ job.walked fetch fuel query files := by
  apply countFrom_le_of_imp
  intro here next moved
  cases here with
  | paging cursor => rfl
  | counting => cases moved
  | single total => cases moved
  | done => cases moved

end Counts

/-! ## The number of a state -/

section Numbers

variable {format : Format} {job : Job} {fetch : Fetcher} {query : SelectQuery}
variable {state next : State} {p after : Progress} {x : Exchange} {fuel : Nat}

/-- After a page the walk is over, or the cursor moves to another one. -/
theorem paging_of_leads {cursor : Cursor} (leads : job.Leads (.paging cursor) next)
    (going : next ≠ .done) : ∃ other, other ≠ cursor.current ∧
      next = .paging
        { cursor with previous := cursor.current, current := other, page := cursor.page + 1 } := by
  obtain ⟨other, rfl⟩ := leads
  have moved : other ≠ cursor.current := by
    rintro rfl
    rw [follow, Cursor.advance, if_pos rfl] at going
    exact going rfl
  refine ⟨other, moved, ?_⟩
  rw [follow, Cursor.advance, if_neg moved] at going ⊢
  by_cases last : cursor.done = true
  · exact absurd (if_pos last) going
  · exact if_neg last

theorem page_firstState (job : Job) : job.firstState.page.toNat = 1 := by
  rw [firstState]
  split <;> rfl

theorem page_of_counting (leads : job.Leads .counting next) (going : next ≠ .done) :
    next.page = 1 := by
  obtain ⟨total, rfl⟩ := leads
  rw [afterCount]
  split_ifs <;> rfl

theorem moves_of_leads (leads : job.Leads state next) (going : next ≠ .done) :
    state.moves next = state.isPaging := by
  cases state with
  | counting => cases next <;> rfl
  | single total => exact absurd leads going
  | paging cursor =>
      obtain ⟨other, moved, rfl⟩ := paging_of_leads leads going
      exact decide_eq_true moved.symm
  | done => exact absurd leads going

theorem page_of_leads (leads : job.Leads state next) (going : next ≠ .done)
    (fits : state.page.toNat + (if state.isPaging then 1 else 0) < UInt32.size) :
    next.page.toNat = state.page.toNat + (if state.isPaging then 1 else 0) := by
  cases state with
  | counting => rw [page_of_counting leads going]; rfl
  | single total => exact absurd leads going
  | paging cursor =>
      obtain ⟨other, -, rfl⟩ := paging_of_leads leads going
      have page : (cursor.page + 1).toNat = cursor.page.toNat + 1 := by
        rw [UInt32.toNat_add]
        exact Nat.mod_eq_of_lt fits
      exact page
  | done => exact absurd leads going

/-- A walk that is not over stands before the page whose number counts the moves. By induction
on the steps. -/
theorem page_of_walk (described : job.descriptor = format.descriptor)
    (ready : job.Ready query state p)
    (stands : job.walk fetch fuel state p = .unfinished next after)
    (fits : state.page.toNat + job.countFrom fetch State.moves fuel state p < UInt32.size) :
    next.page.toNat = state.page.toNat + job.countFrom fetch State.moves fuel state p := by
  induction fuel generalizing state p with
  | zero =>
      obtain ⟨rfl, rfl, -⟩ := walk_zero_eq_unfinished stands
      rfl
  | succ fuel ih =>
      obtain ⟨other, middle, steps, goes⟩ := walk_succ_eq_unfinished stands
      have accounts : job.Accounts fetch query state p (job.turn fetch query state p)
          (job.step fetch state p) := step_accounts described ready
      rw [steps] at accounts
      obtain ⟨-, -, readyNext, leads⟩ := accounts
      have going : other ≠ .done := by
        rintro rfl
        rw [walk_done] at goes
        cases goes
      rw [countFrom_succ steps, moves_of_leads leads going] at fits ⊢
      have number := page_of_leads leads going (by omega)
      rw [ih readyNext goes (by omega), number, Nat.add_assoc]

theorem page_of_mem_turn (member : x ∈ job.turn fetch query state p) : x.page = state.page := by
  rw [Exchange.page, (ask_of_mem_turn member).1]

/-! ## Pages in order -/

theorem written_of_no_payload (nothing : x.payload job = none) : x.written job = none := by
  rw [Exchange.written, nothing, ite_self]

/-- Only the last exchange of a turn may write, so after it comes another turn. -/
theorem turn_pairwise (job : Job) (fetch : Fetcher) (query : SelectQuery) (state : State)
    (p : Progress) : (job.turn fetch query state p).Pairwise
      fun x y => (x.written job).isSome = true → x.page.toNat < y.page.toNat := by
  cases state with
  | counting => exact List.pairwise_singleton _ _
  | single total => exact List.pairwise_singleton _ _
  | paging cursor =>
      rw [turn]
      simp only
      split_ifs
      · exact List.pairwise_singleton _ _
      · refine List.pairwise_pair.mpr ?_
        rw [written_of_no_payload rfl]
        intro wrote
        cases wrote
      · exact List.pairwise_singleton _ _
  | done => exact .nil

theorem listings_append (xs ys : List Exchange) :
    listings (xs ++ ys) = listings xs ++ listings ys :=
  List.filter_append ..

theorem length_listings_turn (job : Job) (fetch : Fetcher) (query : SelectQuery) (state : State)
    (p : Progress) : (listings (job.turn fetch query state p)).length =
      if state.isPaging then 1 else 0 := by
  cases state with
  | counting => rfl
  | single total => rfl
  | paging cursor =>
      rw [turn, State.isPaging, if_pos rfl]
      simp only
      split_ifs <;> rfl
  | done => rfl

/-- All pages that are asked for but the last one have been walked. -/
theorem length_listings_le (job : Job) (fetch : Fetcher) (query : SelectQuery) (fuel : Nat)
    (state : State) (p : Progress) :
    (listings (job.historyFrom fetch query fuel state p)).length ≤
      job.countFrom fetch (fun state _ => state.isPaging) fuel state p + 1 := by
  induction fuel generalizing state p with
  | zero => exact Nat.zero_le _
  | succ fuel ih =>
      have turn := job.length_listings_turn fetch query state p
      cases steps : job.step fetch state p with
      | mk result after =>
          cases result with
          | error e =>
              rw [historyFrom_failed steps, countFrom_failed steps, turn]
              split_ifs <;> decide
          | ok next =>
              have rest := ih next after
              rw [historyFrom_succ steps, countFrom_succ steps, listings_append,
                List.length_append, turn]
              omega

theorem listings_pos {cursor : Cursor}
    (some : job.historyFrom fetch query fuel (.paging cursor) p ≠ []) :
    0 < (listings (job.historyFrom fetch query fuel (.paging cursor) p)).length := by
  cases fuel with
  | zero => exact absurd rfl some
  | succ fuel =>
      rw [historyFrom, listings_append, List.length_append, length_listings_turn, State.isPaging,
        if_pos rfl]
      omega

/-- Where another page is asked for, its number is still a word. -/
theorem room_of_listings (fetch : Fetcher) (query : SelectQuery) (after : Progress)
    (leads : job.Leads state next) (going : next ≠ .done)
    (some : job.historyFrom fetch query fuel next after ≠ [])
    (fits : state.page.toNat + ((if state.isPaging then 1 else 0) +
      (listings (job.historyFrom fetch query fuel next after)).length) ≤ UInt32.size) :
    state.page.toNat + (if state.isPaging then 1 else 0) < UInt32.size := by
  cases state with
  | counting => exact UInt32.toNat_lt 1
  | single total => exact absurd leads going
  | paging cursor =>
      obtain ⟨other, -, rfl⟩ := paging_of_leads leads going
      have more := listings_pos some
      omega
  | done => exact absurd leads going

theorem lt_next_page (leads : job.Leads state next) (going : next ≠ .done)
    (fits : state.page.toNat + (if state.isPaging then 1 else 0) < UInt32.size)
    (member : x ∈ job.turn fetch query state p) (wrote : (x.written job).isSome = true) :
    x.page.toNat < next.page.toNat := by
  have number := page_of_leads leads going fits
  rw [page_of_mem_turn member, number]
  cases state with
  | counting =>
      rw [List.mem_singleton.mp member, written_of_no_payload rfl] at wrote
      cases wrote
  | single total => exact absurd leads going
  | paging cursor => exact Nat.lt_succ_self _
  | done => exact absurd leads going

/-- What a state is about comes after the pages that were written, as long as the numbers do
not run over. By induction on the steps: the next state is about the same page only where none
was written. -/
theorem pages_increase (described : job.descriptor = format.descriptor)
    (ready : job.Ready query state p)
    (fits : state.page.toNat + (listings (job.historyFrom fetch query fuel state p)).length ≤
      UInt32.size) :
    (∀ x ∈ job.historyFrom fetch query fuel state p, state.page.toNat ≤ x.page.toNat) ∧
      (job.historyFrom fetch query fuel state p).Pairwise
        fun x y => (x.written job).isSome = true → x.page.toNat < y.page.toNat := by
  induction fuel generalizing state p with
  | zero => exact ⟨fun x member => absurd member List.not_mem_nil, .nil⟩
  | succ fuel ih =>
      have accounts : job.Accounts fetch query state p (job.turn fetch query state p)
          (job.step fetch state p) := step_accounts described ready
      have alone : (∀ x ∈ job.turn fetch query state p, state.page.toNat ≤ x.page.toNat) ∧
          (job.turn fetch query state p).Pairwise
            fun x y => (x.written job).isSome = true → x.page.toNat < y.page.toNat :=
        ⟨fun x member => by rw [page_of_mem_turn member], job.turn_pairwise fetch query state p⟩
      cases steps : job.step fetch state p with
      | mk result after =>
          rw [steps] at accounts
          cases result with
          | error e =>
              rw [historyFrom_failed steps]
              exact alone
          | ok next =>
              obtain ⟨-, -, readyNext, leads⟩ := accounts
              have asked := job.length_listings_turn fetch query state p
              rw [historyFrom_succ steps] at fits ⊢
              rw [listings_append, List.length_append, asked] at fits
              by_cases ended : job.historyFrom fetch query fuel next after = []
              · rw [ended, List.append_nil]
                exact alone
              have going : next ≠ .done := by
                rintro rfl
                exact ended (historyFrom_done job fetch query fuel after)
              have room := room_of_listings fetch query after leads going ended (by omega)
              have number := page_of_leads leads going room
              obtain ⟨least, increase⟩ := ih readyNext (by omega)
              refine ⟨?_, List.pairwise_append.mpr ⟨alone.2, increase, ?_⟩⟩
              · intro x member
                rcases List.mem_append.mp member with first | later
                · exact alone.1 x first
                · have beyond := least x later
                  omega
              · intro x first y later wrote
                exact Nat.lt_of_lt_of_le (lt_next_page leads going room first wrote)
                  (least y later)

end Numbers

end Job

end IndexExport.Export
