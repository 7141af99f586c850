import IndexExport.Export.Cursor
import Mathlib.Algebra.Group.Nat.Defs
import Mathlib.Data.List.Destutter
/-!
# The history of a cursor

A cursor is told one answer after the other, whether its walk is over or not. What it holds can
be read off the answers: `history` is the first cursor and the answers, each run of equal ones
taken as one. The step from one answer to the next is `Closed.advance`, and the rest is induction
on the answers from the end.
-/
set_option autoImplicit false

namespace IndexExport.Export

namespace Cursor

/-- After these answers, from the first cursor on. -/
def after (answers : List String) : Cursor :=
  answers.foldl (fun cursor next => cursor.advance next) .start

/-- What the cursor says to each answer: whether the walk is over. -/
def told : Cursor → List String → List Bool
  | _, [] => []
  | cursor, next :: rest => (cursor.advance next).done :: told (cursor.advance next) rest

/-- The first cursor and the answers, without repetitions of neighbours. -/
def history (answers : List String) : List String :=
  (first :: answers).destutter (· ≠ ·)

/-- The answer with the number `i`, counted from zero, is the cursor that was asked with. -/
def RepeatsAt (answers : List String) (i : Nat) : Prop :=
  answers[i]? = some (after (answers.take i)).current

section History

variable {answers : List String} {next : String} {cursor : Cursor}

theorem destutter_concat (first next : String) (answers : List String) :
    (answers ++ [next]).destutter' (· ≠ ·) first =
      if (answers.destutter' (· ≠ ·) first).getLast? = some next
      then answers.destutter' (· ≠ ·) first
      else answers.destutter' (· ≠ ·) first ++ [next] := by
  induction answers generalizing first with
  | nil =>
      rw [List.nil_append, List.destutter'_singleton, List.destutter'_nil, List.getLast?_singleton]
      by_cases same : first = next
      · simp [same]
      · simp [same]
  | cons second answers ih =>
      by_cases same : first = second
      · have kept : ¬first ≠ second := not_not.mpr same
        rw [List.cons_append, List.destutter'_cons_neg _ kept, List.destutter'_cons_neg _ kept]
        exact ih first
      · have last : (first :: answers.destutter' (· ≠ ·) second).getLast? =
            (answers.destutter' (· ≠ ·) second).getLast? := by
          have some : answers.destutter' (· ≠ ·) second ≠ [] := List.destutter'_ne_nil _ _
          obtain ⟨c, more, shape⟩ := List.exists_cons_of_ne_nil some
          rw [shape, List.getLast?_cons_cons]
        rw [List.cons_append, List.destutter'_cons_pos _ same, List.destutter'_cons_pos _ same,
          last, ih second]
        split <;> rfl

theorem history_concat (answers : List String) (next : String) :
    history (answers ++ [next]) =
      if (history answers).getLast? = some next then history answers
      else history answers ++ [next] := by
  rw [history, history, List.destutter_cons', List.destutter_cons']
  exact destutter_concat first next answers

theorem length_history_le (answers : List String) :
    (history answers).length ≤ answers.length + 1 :=
  (List.destutter_sublist _ _).length_le

theorem after_concat (answers : List String) (next : String) :
    after (answers ++ [next]) = (after answers).advance next := by
  rw [after, List.foldl_append]
  rfl

/-! ## One answer -/

/-- What the cursor holds of the history. -/
structure Closed (answers : List String) (cursor : Cursor) : Prop where
  current : (history answers).getLast? = some cursor.current
  previous : cursor.previous = (history answers).dropLast.getLastD ""
  page : cursor.page.toNat = (history answers).length

theorem closed_start : Closed [] .start := ⟨rfl, rfl, rfl⟩

theorem Closed.advance (closed : Closed answers cursor) (room : answers.length < 2 ^ 32 - 2)
    (next : String) : Closed (answers ++ [next]) (cursor.advance next) := by
  have short := length_history_le answers
  by_cases same : next = cursor.current
  · have kept : history (answers ++ [next]) = history answers := by
      rw [history_concat, if_pos (by rw [closed.current, same])]
    rw [Cursor.advance, if_pos same]
    exact ⟨kept ▸ closed.current, kept ▸ closed.previous, kept ▸ closed.page⟩
  · have grown : history (answers ++ [next]) = history answers ++ [next] := by
      rw [history_concat, closed.current, if_neg fun e => same (Option.some.inj e).symm]
    rw [Cursor.advance, if_neg same]
    refine ⟨?_, ?_, ?_⟩
    · rw [grown, List.getLast?_concat]
    · rw [grown, List.dropLast_concat, List.getLastD_eq_getLast?, closed.current]
      rfl
    · -- The history is no longer than the answers and one more, so the word does not run over.
      rw [grown, List.length_append, List.length_singleton, ← closed.page]
      rw [← closed.page] at short
      rw [UInt32.toNat_add]
      apply Nat.mod_eq_of_lt
      show cursor.page.toNat + 1 < 2 ^ 32
      omega

theorem done_advance (cursor : Cursor) (next : String) :
    (cursor.advance next).done = true ↔ cursor.done = true ∨ next = cursor.current := by
  rw [Cursor.advance]
  by_cases same : next = cursor.current
  · simp [same]
  · simp [same]

/-! ## All answers -/

theorem closed_after (few : answers.length < 2 ^ 32 - 1) : Closed answers (after answers) := by
  induction answers using List.reverseRecOn with
  | nil => exact closed_start
  | append_singleton answers next ih =>
      rw [List.length_append, List.length_singleton] at few
      rw [after_concat]
      exact (ih (by omega)).advance (by omega) next

theorem repeatsAt_append (more : List String) {i : Nat} (inside : i < answers.length) :
    RepeatsAt (answers ++ more) i ↔ RepeatsAt answers i := by
  rw [RepeatsAt, RepeatsAt, List.getElem?_append_left inside,
    List.take_append_of_le_length inside.le]

theorem done_after_iff (answers : List String) :
    (after answers).done = true ↔ ∃ i < answers.length, RepeatsAt answers i := by
  induction answers using List.reverseRecOn with
  | nil => simp [after, start]
  | append_singleton answers next ih =>
      have last : RepeatsAt (answers ++ [next]) answers.length ↔ next = (after answers).current := by
        rw [RepeatsAt, List.getElem?_concat_length, List.take_left, Option.some_inj]
      rw [after_concat, done_advance, ih, ← last, List.length_append, List.length_singleton]
      constructor
      · rintro (⟨i, inside, repeats⟩ | repeats)
        · exact ⟨i, by omega, (repeatsAt_append [next] inside).mpr repeats⟩
        · exact ⟨answers.length, by omega, repeats⟩
      · rintro ⟨i, inside, repeats⟩
        by_cases earlier : i < answers.length
        · exact .inl ⟨i, earlier, (repeatsAt_append [next] earlier).mp repeats⟩
        · obtain rfl : i = answers.length := by omega
          exact .inr repeats

theorem done_after_append (finished : (after answers).done = true) (more : List String) :
    (after (answers ++ more)).done = true := by
  rw [done_after_iff] at finished ⊢
  obtain ⟨i, inside, repeats⟩ := finished
  refine ⟨i, ?_, (repeatsAt_append more inside).mpr repeats⟩
  rw [List.length_append]
  omega

theorem getElem?_told (cursor : Cursor) (answers : List String) {k : Nat}
    (inside : k < answers.length) : (told cursor answers)[k]? =
      some ((answers.take (k + 1)).foldl (fun cursor next => cursor.advance next) cursor).done := by
  induction answers generalizing cursor k with
  | nil => exact absurd inside (Nat.not_lt_zero k)
  | cons next rest ih =>
      cases k with
      | zero => simp [told]
      | succ k =>
          have later : k < rest.length := Nat.lt_of_succ_lt_succ inside
          rw [told, List.getElem?_cons_succ, ih _ later, List.take_succ_cons, List.foldl_cons]

theorem told_start_iff {k : Nat} (inside : k < answers.length) :
    (told .start answers)[k]? = some true ↔ ∃ i ≤ k, RepeatsAt answers i := by
  rw [getElem?_told _ _ inside, Option.some_inj]
  have repeated := done_after_iff (answers.take (k + 1))
  rw [after] at repeated
  rw [repeated, List.length_take]
  constructor
  · rintro ⟨i, early, repeats⟩
    refine ⟨i, by omega, ?_⟩
    rw [← List.take_append_drop (k + 1) answers]
    exact (repeatsAt_append _ (by rw [List.length_take]; exact early)).mpr repeats
  · rintro ⟨i, early, repeats⟩
    have within : i < (answers.take (k + 1)).length := by
      rw [List.length_take]
      omega
    rw [← List.take_append_drop (k + 1) answers] at repeats
    exact ⟨i, by omega, (repeatsAt_append _ within).mp repeats⟩

theorem length_told (cursor : Cursor) (answers : List String) :
    (told cursor answers).length = answers.length := by
  induction answers generalizing cursor with
  | nil => rfl
  | cons next rest ih => rw [told, List.length_cons, List.length_cons, ih]

end History

/-- After any answers the cursor is read off their history: it is the last one there, the one
before it is the previous one, and their number is the number of the page. The walk is over
from the first answer on that repeats its cursor, and stays so. -/
theorem after_reads_history (answers : List String) (few : answers.length < 2 ^ 32 - 1) :
    (history answers).getLast? = some (after answers).current ∧
      (after answers).previous = (history answers).dropLast.getLastD "" ∧
      (after answers).page.toNat = (history answers).length ∧
      ((after answers).done = true ↔ ∃ i < answers.length, RepeatsAt answers i) ∧
      (told .start answers).length = answers.length ∧
      (∀ k < answers.length,
        (told .start answers)[k]? = some true ↔ ∃ i ≤ k, RepeatsAt answers i) ∧
      ∀ more, (after answers).done = true → (after (answers ++ more)).done = true := by
  have closed := closed_after few
  refine ⟨closed.current, closed.previous, closed.page, done_after_iff answers,
    length_told _ _, ?_, ?_⟩
  · intro k inside
    exact told_start_iff inside
  · intro more finished
    exact done_after_append finished more

theorem after_repeated_answers : ["a", "a", "b", "a"].length < 2 ^ 32 - 1 ∧
    history ["a", "a", "b", "a"] = ["*", "a", "b", "a"] ∧
    (after ["a", "a", "b", "a"]).previous = "b" ∧ (after ["a", "a", "b", "a"]).page.toNat = 4 ∧
    (after ["a", "a", "b", "a"]).done = true := by
  have few : ["a", "a", "b", "a"].length < 2 ^ 32 - 1 := by decide
  have shape : history ["a", "a", "b", "a"] = ["*", "a", "b", "a"] := by decide
  obtain ⟨-, previous, page, done, -⟩ := after_reads_history ["a", "a", "b", "a"] few
  rw [shape] at previous page
  exact ⟨few, shape, previous, page, done.mpr ⟨1, by decide, rfl⟩⟩

end Cursor

end IndexExport.Export
