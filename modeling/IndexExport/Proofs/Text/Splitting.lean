import IndexExport.Text.Split
import Mathlib.Data.List.TakeWhile
import Mathlib.Tactic.SplitIfs
/-!
# Splitting and joining undo each other
-/
set_option autoImplicit false

namespace IndexExport.Text

section Splitting

variable {cut : Char → Bool} {cs piece : List Char}

theorem splitBy_ne_nil (cut : Char → Bool) (cs : List Char) : splitBy cut cs ≠ [] := by
  cases cs with
  | nil => simp [splitBy]
  | cons c rest =>
      rw [splitBy]
      split
      · simp
      · split <;> simp

theorem splitBy_of_uncut (uncut : ∀ c ∈ piece, cut c = false) : splitBy cut piece = [piece] := by
  induction piece with
  | nil => rfl
  | cons c piece ih =>
      have kept : ¬cut c = true := ne_true_of_eq_false (uncut c List.mem_cons_self)
      rw [splitBy, if_neg kept, ih fun d member => uncut d (List.mem_cons_of_mem _ member)]

/-- A cut ends one piece and starts the next. -/
theorem splitBy_append_cut {c : Char} (cuts : cut c = true) (before after : List Char) :
    splitBy cut (before ++ c :: after) = splitBy cut before ++ splitBy cut after := by
  induction before with
  | nil => simp [splitBy, cuts]
  | cons d before ih =>
      by_cases cutsHere : cut d = true
      · simp [splitBy, cutsHere, ih]
      · rw [List.cons_append, splitBy, if_neg cutsHere, ih, splitBy, if_neg cutsHere]
        cases split : splitBy cut before with
        | nil => exact absurd split (splitBy_ne_nil cut before)
        | cons piece more => rfl

/-- Pieces that hold no mark come apart as they were joined. -/
theorem splitBy_joinWith {mark : Char} (cuts : cut mark = true) {pieces : List (List Char)}
    (some : pieces ≠ []) (uncut : ∀ piece ∈ pieces, ∀ c ∈ piece, cut c = false) :
    splitBy cut (joinWith [mark] pieces) = pieces := by
  induction pieces with
  | nil => exact absurd rfl some
  | cons piece rest ih =>
      have alone := uncut piece List.mem_cons_self
      cases rest with
      | nil => exact splitBy_of_uncut alone
      | cons next rest =>
          rw [joinWith, List.append_assoc, List.singleton_append, splitBy_append_cut cuts,
            splitBy_of_uncut alone, ih (List.cons_ne_nil _ _) fun other member =>
              uncut other (List.mem_cons_of_mem _ member)]
          rfl

theorem uncut_of_mem_splitBy (member : piece ∈ splitBy cut cs) : ∀ c ∈ piece, cut c = false := by
  induction cs generalizing piece with
  | nil =>
      rw [List.mem_singleton.mp member]
      simp
  | cons c cs ih =>
      rw [splitBy] at member
      split at member
      · rcases List.mem_cons.mp member with rfl | later
        · simp
        · exact ih later
      · next kept =>
        split at member
        · rw [List.mem_singleton.mp member]
          simpa using kept
        · next first more split =>
          rw [split] at ih
          rcases List.mem_cons.mp member with rfl | later
          · exact List.forall_mem_cons.mpr ⟨by simpa using kept, ih List.mem_cons_self⟩
          · exact ih (List.mem_cons_of_mem _ later)

theorem intercalate_eq_joinWith (between : List Char) (texts : List (List Char)) :
    between.intercalate texts = joinWith between texts := by
  induction texts with
  | nil => rfl
  | cons text rest ih =>
      cases rest with
      | nil => simp [joinWith]
      | cons next rest => rw [List.intercalate_cons_cons, ih, joinWith, List.append_assoc]

/-! ## Up to what stops the reading -/

theorem dropWhile_append_stop {α : Type} (keeps : α → Bool) {a : α} (stops : keeps a = false)
    (as rest : List α) :
    (as ++ a :: rest).dropWhile keeps = as.dropWhile keeps ++ a :: rest := by
  rw [List.dropWhile_append, List.dropWhile_cons_of_neg (ne_true_of_eq_false stops)]
  split_ifs with through
  · rw [List.isEmpty_iff.mp through, List.nil_append]
  · rfl

/-- What begins where the reading stops is kept. -/
theorem suffix_dropWhile {α : Type} {keeps : α → Bool} {a : α} {rest as : List α}
    (stops : keeps a = false) (left : a :: rest <:+ as) : a :: rest <:+ as.dropWhile keeps := by
  obtain ⟨front, rfl⟩ := left
  rw [dropWhile_append_stop keeps stops]
  exact List.suffix_append _ _

theorem mem_dropWhile_iff {α : Type} (keeps : α → Bool) {a : α} {as : List α}
    (stops : keeps a = false) : a ∈ as.dropWhile keeps ↔ a ∈ as := by
  refine ⟨fun member => (List.dropWhile_suffix _).subset member, fun member => ?_⟩
  obtain ⟨front, rest, rfl⟩ := List.append_of_mem member
  exact (suffix_dropWhile stops (List.suffix_append front _)).subset List.mem_cons_self

theorem takeWhile_append_stop {α : Type} (keeps : α → Bool) {a : α} (stops : keeps a = false)
    (as rest : List α) : (as ++ a :: rest).takeWhile keeps = as.takeWhile keeps := by
  rw [List.takeWhile_append, List.takeWhile_cons_of_neg (ne_true_of_eq_false stops)]
  split_ifs with through
  · rw [List.append_nil, (List.takeWhile_prefix keeps).eq_of_length through]
  · rfl

theorem breakAt_append_stop {stop : Char → Bool} {mark : Char} (stops : stop mark = true)
    (cs rest : List Char) : breakAt stop (cs ++ mark :: rest) =
      ((breakAt stop cs).1, (breakAt stop cs).2 ++ mark :: rest) := by
  have halts : (!stop mark) = false := by rw [stops]; rfl
  rw [breakAt, takeWhile_append_stop (fun c => !stop c) halts,
    dropWhile_append_stop (fun c => !stop c) halts]
  rfl

theorem breakAt_of_free {stop : Char → Bool} (free : ∀ c ∈ cs, stop c = false) :
    breakAt stop cs = (cs, []) := by
  have through : ∀ c ∈ cs, (!stop c) = true := fun c member => by rw [free c member]; rfl
  rw [breakAt, List.takeWhile_eq_self_iff.mpr through, List.dropWhile_eq_nil_iff.mpr through]

theorem breakAt_append_cons {stop : Char → Bool} {front : List Char}
    (free : ∀ c ∈ front, stop c = false) {mark : Char} (stops : stop mark = true)
    (rest : List Char) : breakAt stop (front ++ mark :: rest) = (front, mark :: rest) := by
  rw [breakAt_append_stop stops, breakAt_of_free free, List.nil_append]

end Splitting

end IndexExport.Text
