import IndexExport.Text.Removal
import Mathlib.Data.List.Infix
import Mathlib.Data.List.Nodup
/-!
# What one pass removes

A pass from the left cuts an occurrence of a word out where it finds one and goes on behind it.
`Pass` is this rule on characters that each carry a mark, and `removeAll` is what it leaves of
the characters. The marks tell the characters apart: with different marks no occurrence gets
through a pass with its first character, so an occurrence that is left has come together from
pieces.
-/
set_option autoImplicit false

namespace IndexExport.Text

/-- `word` stands somewhere in the text without a gap. -/
def occursIn (word : List Char) : List Char → Bool
  | [] => word.isEmpty
  | c :: rest => word.isPrefixOf (c :: rest) || occursIn word rest

section Words

variable {word cs : List Char} {c : Char}

theorem occursIn_iff (word cs : List Char) : occursIn word cs = true ↔ word <:+: cs := by
  induction cs with
  | nil => rw [occursIn, List.isEmpty_iff, List.infix_nil]
  | cons c rest ih =>
      rw [occursIn, Bool.or_eq_true, List.isPrefixOf_iff_prefix, ih, List.infix_cons_iff]

theorem removeFrom_eq (word : List Char) (skip : Nat) (cs : List Char) :
    removeFrom word skip cs = removeAll word (cs.drop skip) := by
  induction cs generalizing skip with
  | nil => simp [removeAll, removeFrom]
  | cons c rest ih =>
      cases skip with
      | zero => rfl
      | succ skip => rw [removeFrom, ih, List.drop_succ_cons]

theorem removeAll_append (some : word ≠ []) (rest : List Char) :
    removeAll word (word ++ rest) = removeAll word rest := by
  cases word with
  | nil => exact absurd rfl some
  | cons c tail =>
      have first : (c :: tail).isPrefixOf (c :: (tail ++ rest)) = true :=
        List.isPrefixOf_iff_prefix.mpr (List.prefix_append (c :: tail) rest)
      rw [List.cons_append, removeAll, removeFrom, if_pos first, removeFrom_eq,
        List.length_cons, Nat.add_sub_cancel, List.drop_left]

theorem removeAll_cons (elsewhere : ¬word <+: c :: cs) :
    removeAll word (c :: cs) = c :: removeAll word cs := by
  have other : ¬word.isPrefixOf (c :: cs) = true :=
    fun first => elsewhere (List.isPrefixOf_iff_prefix.mp first)
  rw [removeAll, removeFrom, if_neg other, removeAll]

end Words

/-- One pass from the left: where the word stands it is cut out, and a character at which it
does not begin is kept. -/
inductive Pass {α : Type} (word : List Char) : List (Char × α) → List (Char × α) → Prop
  | done : Pass word [] []
  | cut {occurrence rest kept : List (Char × α)} (spells : occurrence.map Prod.fst = word)
      (pass : Pass word rest kept) : Pass word (occurrence ++ rest) kept
  | keep {c : Char × α} {rest kept : List (Char × α)}
      (elsewhere : ¬word <+: (c :: rest).map Prod.fst) (pass : Pass word rest kept) :
      Pass word (c :: rest) (c :: kept)

namespace Pass

variable {α : Type} {word : List Char} {text kept : List (Char × α)}

theorem exists_kept (some : word ≠ []) (text : List (Char × α)) : ∃ kept, Pass word text kept := by
  induction size : text.length using Nat.strongRecOn generalizing text with
  | ind n ih =>
      cases text with
      | nil => exact ⟨[], .done⟩
      | cons c rest =>
          by_cases first : word <+: (c :: rest).map Prod.fst
          · have long := List.length_pos_iff.mpr some
            have spells : ((c :: rest).take word.length).map Prod.fst = word := by
              rw [List.map_take, ← List.prefix_iff_eq_take.mp first]
            have shorter : ((c :: rest).drop word.length).length < n := by
              rw [List.length_drop, ← size, List.length_cons]
              omega
            obtain ⟨kept, pass⟩ := ih _ shorter _ rfl
            refine ⟨kept, ?_⟩
            rw [← List.take_append_drop word.length (c :: rest)]
            exact .cut spells pass
          · obtain ⟨kept, pass⟩ := ih rest.length (by rw [← size, List.length_cons]; omega) _ rfl
            exact ⟨c :: kept, .keep first pass⟩

theorem map_fst (some : word ≠ []) (pass : Pass word text kept) :
    kept.map Prod.fst = removeAll word (text.map Prod.fst) := by
  induction pass with
  | done => rfl
  | cut spells _ ih => rw [List.map_append, spells, removeAll_append some, ih]
  | keep elsewhere _ ih => rw [List.map_cons, List.map_cons, removeAll_cons elsewhere, ih]

theorem sublist (pass : Pass word text kept) : kept.Sublist text := by
  induction pass with
  | done => exact .refl _
  | cut _ _ ih => exact ih.trans (List.sublist_append_right _ _)
  | keep _ _ ih => exact ih.cons_cons _

/-- A pass that finds nothing keeps all, and another one shortens the text. -/
theorem eq_or_shorter (some : word ≠ []) (pass : Pass word text kept) :
    (¬word <:+: text.map Prod.fst ∧ kept = text) ∨ kept.length < text.length := by
  induction pass with
  | done => exact .inl ⟨fun occurs => some (List.infix_nil.mp occurs), rfl⟩
  | @cut occurrence rest kept spells pass _ =>
      right
      have long : 0 < occurrence.length := by
        rw [← List.length_map (f := Prod.fst), spells]
        exact List.length_pos_iff.mpr some
      have short := pass.sublist.length_le
      rw [List.length_append]
      omega
  | keep elsewhere _ ih =>
      rcases ih with ⟨absent, rfl⟩ | shorter
      · left
        refine ⟨fun occurs => ?_, rfl⟩
        rcases List.infix_cons_iff.mp occurs with first | later
        · exact elsewhere first
        · exact absent later
      · right
        simpa using shorter

/-- An occurrence of the word loses its first character: either it is cut out there, or an
occurrence before it that reaches over it is. -/
theorem first_not_mem {c : Char × α} {before occurrence after : List (Char × α)}
    (pass : Pass word text kept) (distinct : text.Nodup)
    (stands : text = before ++ (c :: occurrence) ++ after)
    (spells : (c :: occurrence).map Prod.fst = word) : c ∉ kept := by
  induction pass generalizing before with
  | done => simp at stands
  | @cut found rest kept foundSpells pass ih =>
      -- The occurrence begins behind what is cut out here, or inside of it.
      have apart := List.nodup_append.mp distinct
      rw [List.append_assoc] at stands
      rcases List.append_eq_append_iff.mp stands with ⟨before', rfl, later⟩ | ⟨overlap, here, later⟩
      · exact ih apart.2.1 (by rw [later, List.append_assoc])
      · cases overlap with
        | nil =>
            have first : rest = [] ++ (c :: occurrence) ++ after := by
              rw [List.nil_append] at later ⊢
              exact later.symm
            exact ih apart.2.1 first
        | cons d overlap =>
            obtain ⟨rfl, _⟩ := List.cons.inj later
            intro left
            exact apart.2.2 c (by rw [here]; simp) c (pass.sublist.subset left) rfl
  | @keep d rest kept elsewhere pass ih =>
      cases before with
      | nil =>
          refine absurd ?_ elsewhere
          rw [stands, List.nil_append, List.map_append, spells]
          exact List.prefix_append _ _
      | cons e before =>
          obtain ⟨rfl, later⟩ := List.cons.inj stands
          have apart := List.nodup_cons.mp distinct
          intro left
          rcases List.mem_cons.mp left with rfl | left
          · exact apart.1 (by rw [later]; simp)
          · exact ih apart.2 later left

end Pass

section Lengths

variable {word : List Char}

theorem exists_pass (some : word ≠ []) (cs : List Char) :
    ∃ kept, Pass word cs.zipIdx kept ∧ kept.map Prod.fst = removeAll word cs := by
  obtain ⟨kept, pass⟩ := Pass.exists_kept some cs.zipIdx
  refine ⟨kept, pass, ?_⟩
  rw [pass.map_fst some, List.zipIdx_map_fst]

theorem removeAll_sublist (some : word ≠ []) (cs : List Char) :
    (removeAll word cs).Sublist cs := by
  obtain ⟨kept, pass, chars⟩ := exists_pass some cs
  rw [← chars]
  simpa only [List.zipIdx_map_fst] using pass.sublist.map Prod.fst

theorem removeAll_eq_or_shorter (some : word ≠ []) (cs : List Char) :
    (¬word <:+: cs ∧ removeAll word cs = cs) ∨ (removeAll word cs).length < cs.length := by
  obtain ⟨kept, pass, chars⟩ := exists_pass some cs
  rw [← chars]
  rcases pass.eq_or_shorter some with ⟨absent, rfl⟩ | shorter
  · left
    rw [List.zipIdx_map_fst] at absent ⊢
    exact ⟨absent, rfl⟩
  · right
    simpa using shorter

theorem removeAll_of_absent {cs : List Char} (absent : ¬word <:+: cs) :
    removeAll word cs = cs := by
  induction cs with
  | nil => rfl
  | cons c rest ih =>
      rw [List.infix_cons_iff, not_or] at absent
      rw [removeAll_cons absent.1, ih absent.2]

end Lengths

end IndexExport.Text
