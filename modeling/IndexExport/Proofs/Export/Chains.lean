import IndexExport.Export.Walk
import IndexExport.Select.Response
/-!
# Chains of cursors

The cursor of a page comes with the answer to the page before it. A chain of `n` pages is
over when the last page, and no page before it, is answered with its own cursor. `Stands`
says where a walk along a chain is after so many pages; each answer takes it one page on,
and the count of pages never runs over.

A run is followed by an invariant that each step takes from one number to the next.
-/
set_option autoImplicit false

namespace IndexExport.Export

/-- The cursors of the pages, from the answers that they come with. -/
def cursorAt (responses : Nat → Select.Response) : Nat → String
  | 0 => Cursor.first
  | i + 1 => (responses i).cursor?.getD ""

/-- The answers to `n` pages, of which the last one and no other repeats its cursor. -/
structure Chain (responses : Nat → Select.Response) (n : Nat) : Prop where
  nonempty : 0 < n
  fits : n < UInt32.size
  present : ∀ i < n, (responses i).cursor?.isSome = true
  repeats : ∀ i < n, (responses i).cursor? = some (cursorAt responses i) ↔ i + 1 = n

/-! A chain of three pages: one document, none, and one with the cursor that asked for it. -/

def threeBodies : List String :=
  ["\x7b\"response\":\x7b\"docs\":[\x7b\"id\":1\x7d]\x7d,\"nextCursorMark\":\"m\"\x7d",
    "\x7b\"nextCursorMark\":\"n\"\x7d",
    "\x7b\"response\":\x7b\"docs\":[\x7b\"id\":2\x7d]\x7d,\"nextCursorMark\":\"n\"\x7d"]

def threeResponses (i : Nat) : Select.Response :=
  [⟨some ⟨none, some (.list [.object [("id", .number (.whole 1))]])⟩, some "m"⟩,
    ⟨none, some "n"⟩,
    ⟨some ⟨none, some (.list [.object [("id", .number (.whole 2))]])⟩, some "n"⟩].getD i default

theorem chain_threeResponses : Chain threeResponses 3 :=
  ⟨by decide, by decide, by decide, by decide⟩

theorem read_threeBodies : ∀ i < 3,
    Select.Response.read (threeBodies.getD i "") = .ok (threeResponses i) := by
  intro i below
  obtain rfl | rfl | rfl : i = 0 ∨ i = 1 ∨ i = 2 := by omega
  · rfl
  · rfl
  · rfl

/-- Before the page with the number `i`, counted from zero. -/
structure Cursor.Before (responses : Nat → Select.Response) (i : Nat) (cursor : Cursor) :
    Prop where
  current : cursor.current = cursorAt responses i
  page : cursor.page.toNat = i + 1
  undone : cursor.done = false

/-- After `i` pages of a chain of `n`. -/
def Stands (responses : Nat → Select.Response) (n i : Nat) (state : State) : Prop :=
  if i < n then ∃ cursor, state = .paging cursor ∧ cursor.Before responses i else state = .done

theorem Cursor.before_start (responses : Nat → Select.Response) :
    Cursor.start.Before responses 0 := ⟨rfl, rfl, rfl⟩

theorem Chain.cursor_eq {responses : Nat → Select.Response} {n i : Nat}
    (chain : Chain responses n) (below : i < n) :
    (responses i).cursor? = some (cursorAt responses (i + 1)) := by
  obtain ⟨next, found⟩ := Option.isSome_iff_exists.mp (chain.present i below)
  rw [cursorAt, found, Option.getD_some]

theorem Chain.stands_zero {responses : Nat → Select.Response} {n : Nat}
    (chain : Chain responses n) : Stands responses n 0 (.paging .start) := by
  rw [Stands, if_pos chain.nonempty]
  exact ⟨.start, rfl, Cursor.before_start responses⟩

theorem Stands.paging {responses : Nat → Select.Response} {n i : Nat} {state : State}
    (stands : Stands responses n i state) (below : i < n) :
    ∃ cursor, state = .paging cursor ∧ cursor.Before responses i := by
  rwa [Stands, if_pos below] at stands

theorem Stands.done {responses : Nat → Select.Response} {n : Nat} {state : State}
    (stands : Stands responses n n state) : state = .done := by
  rwa [Stands, if_neg (Nat.lt_irrefl n)] at stands

/-- The answer to a page takes the walk one page on. -/
theorem Chain.stands_follow {responses : Nat → Select.Response} {n i : Nat}
    (chain : Chain responses n) (below : i < n) {cursor : Cursor}
    (before : cursor.Before responses i) :
    Stands responses n (i + 1) (Job.follow cursor (cursorAt responses (i + 1))) := by
  have answered := chain.cursor_eq below
  by_cases last : i + 1 = n
  · have same : cursorAt responses (i + 1) = cursor.current := by
      rw [before.current]
      exact Option.some.inj (answered.symm.trans (((chain.repeats i below).mpr last)))
    rw [Stands, if_neg (by omega), Job.follow, Cursor.advance, if_pos same, if_pos rfl]
  · have inside : i + 1 < n := by omega
    have differ : cursorAt responses (i + 1) ≠ cursor.current := by
      intro same
      rw [before.current] at same
      exact last ((chain.repeats i below).mp (by rw [answered, same]))
    -- Another page follows, so its number is at most `n`, which fits into the word.
    have page : (cursor.page + 1).toNat = i + 1 + 1 := by
      have fits := chain.fits
      rw [UInt32.toNat_add, before.page]
      exact Nat.mod_eq_of_lt (show i + 1 + 1 < UInt32.size by omega)
    rw [Stands, if_pos inside, Job.follow, Cursor.advance, if_neg differ]
    rw [before.undone]
    exact ⟨_, rfl, ⟨rfl, page, rfl⟩⟩

/-! ## Runs -/

namespace Job

theorem walk_done (job : Job) (fetch : Fetcher) (fuel : Nat) (p : Progress) :
    job.walk fetch fuel .done p = .finished p := by
  cases fuel <;> rfl

theorem walk_succ {job : Job} {fetch : Fetcher} {state next : State} {p after : Progress}
    (steps : job.step fetch state p = (.ok next, after)) (fuel : Nat) :
    job.walk fetch (fuel + 1) state p = job.walk fetch fuel next after := by
  cases state with
  | done =>
      cases steps
      rw [walk_done, walk_done]
  | counting => rw [walk, steps]; simp
  | single rows => rw [walk, steps]; simp
  | paging cursor => rw [walk, steps]; simp

/-- A walk of `n` steps, each of which takes `Reached` one on. By induction on the steps that
are left. -/
theorem walk_of_steps {job : Job} {fetch : Fetcher} {n : Nat}
    {Reached : Nat → State → Progress → Prop}
    (steps : ∀ i < n, ∀ state p, Reached i state p →
      ∃ next after, job.step fetch state p = (.ok next, after) ∧ Reached (i + 1) next after)
    (finish : ∀ state p, Reached n state p → state = .done) {i : Nat} (within : i ≤ n)
    {state : State} {p : Progress} (reached : Reached i state p) {fuel : Nat}
    (enough : n - i ≤ fuel) :
    ∃ after, job.walk fetch fuel state p = .finished after ∧ Reached n .done after := by
  induction left : n - i generalizing i state p fuel with
  | zero =>
      have here : i = n := by omega
      subst here
      obtain rfl := finish state p reached
      exact ⟨p, walk_done job fetch fuel p, reached⟩
  | succ left ih =>
      obtain ⟨next, after, step, further⟩ := steps i (by omega) state p reached
      obtain ⟨fuel, rfl⟩ : ∃ rest, fuel = rest + 1 := ⟨fuel - 1, by omega⟩
      rw [walk_succ step]
      exact ih (by omega) further (by omega) (by omega)

end Job

end IndexExport.Export
