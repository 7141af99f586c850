import IndexExport.Proofs.Text.Removal
import IndexExport.Text.Cleaning
import Mathlib.Data.List.Chain
import Mathlib.Data.List.Perm.Subperm
import Mathlib.Logic.Function.Iterate
/-!
# Cleaning texts for the query

Cleaning puts plain quotes in the place of typographic ones and then makes one pass for each of
two words. It changes nothing in a harmless text and no other text. What it leaves of a word has
been joined across a gap, and cleaning again either finds nothing or shortens the text, so it
comes to an end.
-/
set_option autoImplicit false

namespace IndexExport.Text

/-- A text with no typographic quote and with neither of the words that call a function. -/
structure Harmless (cs : List Char) : Prop where
  unquoted : ∀ c ∈ cs, isStylizedQuote c = false
  function : occursIn functionWord cs = false
  value : occursIn valueWord cs = false

/-- The characters with plain quotes, each with its place. -/
def placed (cs : List Char) : List (Char × Nat) :=
  (cs.map plainQuote).zipIdx

section Quotes

variable {cs : List Char} {c : Char}

theorem isStylizedQuote_plainQuote (c : Char) : isStylizedQuote (plainQuote c) = false := by
  rw [plainQuote]
  split
  · rfl
  · next other => simpa using other

theorem plainQuote_of_unquoted (unquoted : isStylizedQuote c = false) : plainQuote c = c := by
  rw [plainQuote, unquoted]
  rfl

theorem unquoted_of_mem_map (member : c ∈ cs.map plainQuote) : isStylizedQuote c = false := by
  obtain ⟨d, _, rfl⟩ := List.mem_map.mp member
  exact isStylizedQuote_plainQuote d

theorem map_plainQuote_eq_self_iff :
    cs.map plainQuote = cs ↔ ∀ c ∈ cs, isStylizedQuote c = false := by
  constructor
  · intro same c member
    rw [← same] at member
    exact unquoted_of_mem_map member
  · intro unquoted
    rw [List.map_congr_left fun c member => plainQuote_of_unquoted (unquoted c member),
      List.map_id']

end Quotes

/-! ## What is left -/

section Cleaning

variable {cs : List Char} {c : Char}

theorem functionWord_ne_nil : functionWord ≠ [] := List.cons_ne_nil _ _

theorem valueWord_ne_nil : valueWord ≠ [] := List.cons_ne_nil _ _

theorem absent_iff (word cs : List Char) : occursIn word cs = false ↔ ¬word <:+: cs := by
  rw [← occursIn_iff, Bool.not_eq_true]

theorem cleanChars_of_harmless (harmless : Harmless cs) : cleanChars cs = cs := by
  rw [cleanChars, map_plainQuote_eq_self_iff.mpr harmless.unquoted,
    removeAll_of_absent ((absent_iff _ _).mp harmless.function),
    removeAll_of_absent ((absent_iff _ _).mp harmless.value)]

theorem unquoted_cleanChars (member : c ∈ cleanChars cs) : isStylizedQuote c = false := by
  have between := (removeAll_sublist valueWord_ne_nil _).subset member
  exact unquoted_of_mem_map ((removeAll_sublist functionWord_ne_nil _).subset between)

theorem harmless_or_shorter (cs : List Char) :
    (Harmless (cs.map plainQuote) ∧ cleanChars cs = cs.map plainQuote) ∨
      (cleanChars cs).length < cs.length := by
  have second := removeAll_eq_or_shorter valueWord_ne_nil
    (removeAll functionWord (cs.map plainQuote))
  rcases removeAll_eq_or_shorter functionWord_ne_nil (cs.map plainQuote) with
    ⟨noFunction, first⟩ | shorter
  · rw [first] at second
    rcases second with ⟨noValue, same⟩ | shorter
    · left
      refine ⟨⟨fun c member => unquoted_of_mem_map member, ?_, ?_⟩, ?_⟩
      · exact (absent_iff _ _).mpr noFunction
      · exact (absent_iff _ _).mpr noValue
      · rw [cleanChars, first, same]
    · right
      rw [List.length_map] at shorter
      rwa [cleanChars, first]
  · right
    calc (cleanChars cs).length
        ≤ (removeAll functionWord (cs.map plainQuote)).length :=
          (removeAll_sublist valueWord_ne_nil _).length_le
      _ < (cs.map plainQuote).length := shorter
      _ = cs.length := List.length_map plainQuote

theorem length_cleanChars_le (cs : List Char) : (cleanChars cs).length ≤ cs.length := by
  rcases harmless_or_shorter cs with ⟨_, same⟩ | shorter
  · rw [same, List.length_map]
  · exact shorter.le

theorem cleanChars_eq_self_iff : cleanChars cs = cs ↔ Harmless cs := by
  refine ⟨fun same => ?_, cleanChars_of_harmless⟩
  rcases harmless_or_shorter cs with ⟨harmless, plain⟩ | shorter
  · rwa [← plain, same] at harmless
  · rw [same] at shorter
    exact absurd shorter (Nat.lt_irrefl _)

theorem cleanChars_fixed_or_shorter (unquoted : ∀ c ∈ cs, isStylizedQuote c = false) :
    cleanChars cs = cs ∨ (cleanChars cs).length < cs.length := by
  rcases harmless_or_shorter cs with ⟨_, same⟩ | shorter
  · left
    rw [same, map_plainQuote_eq_self_iff.mpr unquoted]
  · exact .inr shorter

end Cleaning

/-! ## Where it comes from -/

section Places

theorem increasing_placed (cs : List Char) : (placed cs).Pairwise fun a b => a.2 < b.2 := by
  apply List.pairwise_map.mp
  rw [placed, List.zipIdx_map_snd]
  exact List.pairwise_lt_range'

theorem nodup_placed (cs : List Char) : (placed cs).Nodup := by
  apply (increasing_placed cs).imp
  rintro a b before rfl
  exact Nat.lt_irrefl _ before

/-- What stands together in a text stands together in what is left of it, if all of it is. -/
theorem infix_of_sublist {α : Type} {left whole piece : List α} (distinct : whole.Nodup)
    (sub : left.Sublist whole) (together : piece <:+: whole) (stays : ∀ a ∈ piece, a ∈ left) :
    piece <:+: left := by
  obtain ⟨before, after, rfl⟩ := together
  obtain ⟨front, back, rfl, subFront, subBack⟩ := List.sublist_append_iff.mp sub
  obtain ⟨start, middle, rfl, subStart, subMiddle⟩ := List.sublist_append_iff.mp subFront
  obtain ⟨distinctFront, _, apartBack⟩ := List.nodup_append.mp distinct
  obtain ⟨_, distinctPiece, apartFront⟩ := List.nodup_append.mp distinctFront
  -- Nothing of the piece stands before or behind it, so what is left there holds none of it.
  have inMiddle : piece ⊆ middle := by
    intro a member
    rcases List.mem_append.mp (stays a member) with inFront | inBack
    · rcases List.mem_append.mp inFront with inStart | inMiddle
      · exact absurd rfl (apartFront a (subStart.subset inStart) a member)
      · exact inMiddle
    · exact absurd rfl (apartBack a (List.mem_append_right _ member) a (subBack.subset inBack))
  have whole : middle = piece :=
    subMiddle.eq_of_length_le (distinctPiece.subperm inMiddle).length_le
  rw [whole]
  exact ⟨start, back, rfl⟩

theorem drop_zipIdx_of_mem {cs : List Char} {c : Char × Nat} (member : c ∈ cs.zipIdx) :
    cs.zipIdx.drop c.2 = c :: cs.zipIdx.drop (c.2 + 1) := by
  obtain ⟨within, here⟩ :=
    List.getElem?_eq_some_iff.mp (List.mem_zipIdx_iff_getElem?.mp member)
  have inside : c.2 < cs.zipIdx.length := by rwa [List.length_zipIdx]
  rw [List.drop_eq_getElem_cons inside, List.getElem_zipIdx, here, Nat.zero_add]

/-- Characters whose places follow one another stand together. -/
theorem prefix_of_consecutive {cs : List Char} {c : Char × Nat} {more : List (Char × Nat)}
    (consecutive : (c :: more).IsChain fun a b => b.2 = a.2 + 1)
    (stand : ∀ a ∈ c :: more, a ∈ cs.zipIdx) : c :: more <+: cs.zipIdx.drop c.2 := by
  induction more generalizing c with
  | nil =>
      rw [drop_zipIdx_of_mem (stand c List.mem_cons_self)]
      exact List.cons_prefix_cons.mpr ⟨rfl, List.nil_prefix⟩
  | cons d more ih =>
      obtain ⟨next, later⟩ := List.isChain_cons_cons.mp consecutive
      rw [drop_zipIdx_of_mem (stand c List.mem_cons_self), ← next]
      have together := ih later fun a member => stand a (List.mem_cons_of_mem _ member)
      exact List.cons_prefix_cons.mpr ⟨rfl, together⟩

theorem exists_gap {cs : List Char} {found : List (Char × Nat)} (some : found ≠ [])
    (sub : found.Sublist (placed cs)) (apart : ¬found <:+: placed cs) :
    ∃ before a b after, found = before ++ a :: b :: after ∧ a.2 + 1 < b.2 := by
  have gap : ¬found.IsChain fun a b => b.2 = a.2 + 1 := by
    intro consecutive
    obtain ⟨c, more, rfl⟩ := List.exists_cons_of_ne_nil some
    have together := prefix_of_consecutive consecutive fun a member => sub.subset member
    exact apart (together.isInfix.trans (List.drop_suffix _ _).isInfix)
  rw [List.isChain_iff_forall_rel_of_append_cons_cons] at gap
  push Not at gap
  obtain ⟨a, b, before, after, rfl, distant⟩ := gap
  refine ⟨before, a, b, after, rfl, ?_⟩
  have increasing := (List.pairwise_append.mp ((increasing_placed cs).sublist sub)).2.1
  have later : a.2 < b.2 := (List.pairwise_cons.mp increasing).1 b List.mem_cons_self
  omega

theorem mem_placed_of_lt {cs : List Char} {b : Char × Nat} (member : b ∈ placed cs) {i : Nat}
    (below : i < b.2) : ∃ c, (c, i) ∈ placed cs := by
  obtain ⟨within, -⟩ :=
    List.getElem?_eq_some_iff.mp (List.mem_zipIdx_iff_getElem?.mp member)
  have inside : i < (cs.map plainQuote).length := by omega
  refine ⟨(cs.map plainQuote)[i], List.mem_zipIdx_iff_getElem?.mpr ?_⟩
  exact List.getElem?_eq_getElem inside

/-- Between two neighbours in what is kept nothing is kept. -/
theorem not_mem_between {kept front back : List (Char × Nat)} {a b c : Char × Nat}
    (increasing : kept.Pairwise fun a b => a.2 < b.2) (shape : kept = front ++ a :: b :: back)
    (above : a.2 < c.2) (below : c.2 < b.2) : c ∉ kept := by
  intro member
  rw [shape] at increasing member
  obtain ⟨-, later, earlier⟩ := List.pairwise_append.mp increasing
  obtain ⟨-, last⟩ := List.pairwise_cons.mp later
  have behind := (List.pairwise_cons.mp last).1
  rcases List.mem_append.mp member with early | late
  · have := earlier c early a List.mem_cons_self
    omega
  · rcases List.mem_cons.mp late with rfl | late
    · omega
    · rcases List.mem_cons.mp late with rfl | late
      · omega
      · have := behind c late
        omega

/-- Between two neighbours of what is found stood a character of the text that is not kept. -/
def SpansGap (text kept found : List (Char × Nat)) : Prop :=
  ∃ before a b after c, found = before ++ a :: b :: after ∧ c ∈ text ∧ c ∉ kept ∧
    a.2 < c.2 ∧ c.2 < b.2

theorem spansGap_of_apart {cs : List Char} {kept found : List (Char × Nat)} (some : found ≠ [])
    (sub : kept.Sublist (placed cs)) (left : found <:+: kept) (apart : ¬found <:+: placed cs) :
    SpansGap (placed cs) kept found := by
  obtain ⟨before, a, b, after, rfl, wide⟩ := exists_gap some (left.sublist.trans sub) apart
  obtain ⟨front, back, shape⟩ := left
  have last : b ∈ placed cs := by
    apply sub.subset
    rw [← shape]
    simp
  obtain ⟨c, stood⟩ := mem_placed_of_lt last wide
  have shape' : kept = (front ++ before) ++ a :: b :: (after ++ back) := by
    rw [← shape]
    simp
  refine ⟨before, a, b, after, (c, a.2 + 1), rfl, stood, ?_, Nat.lt_succ_self _, wide⟩
  exact not_mem_between ((increasing_placed cs).sublist sub) shape' (Nat.lt_succ_self _) wide

section Passes

variable {cs : List Char} {between kept found : List (Char × Nat)}

/-- No word of the two that is left stood in the text: the pass for it would have cut it. -/
theorem apart_of_left (first : Pass functionWord (placed cs) between)
    (second : Pass valueWord between kept) (left : found <:+: kept)
    (spells : found.map Prod.fst = functionWord ∨ found.map Prod.fst = valueWord) :
    ¬found <:+: placed cs := by
  intro together
  have stays : ∀ a ∈ found, a ∈ between := fun a member =>
    second.sublist.subset (left.subset member)
  obtain ⟨c, more, rfl⟩ : ∃ c more, found = c :: more := by
    apply List.exists_cons_of_ne_nil
    rintro rfl
    rcases spells with spelled | spelled <;> cases spelled
  rcases spells with spelled | spelled
  · obtain ⟨before, after, stands⟩ := together
    exact first.first_not_mem (nodup_placed cs) stands.symm spelled (stays c List.mem_cons_self)
  · have distinct := (nodup_placed cs).sublist first.sublist
    obtain ⟨before, after, stands⟩ :=
      infix_of_sublist (nodup_placed cs) first.sublist together stays
    exact second.first_not_mem distinct stands.symm spelled (left.subset List.mem_cons_self)

theorem exists_passes (cs : List Char) : ∃ between kept, Pass functionWord (placed cs) between ∧
    Pass valueWord between kept ∧ kept.map Prod.fst = cleanChars cs := by
  obtain ⟨between, first, chars⟩ := exists_pass functionWord_ne_nil (cs.map plainQuote)
  obtain ⟨kept, second⟩ := Pass.exists_kept valueWord_ne_nil between
  refine ⟨between, kept, first, second, ?_⟩
  rw [second.map_fst valueWord_ne_nil, chars, cleanChars]

end Passes

end Places

/-! ## Cleaning again -/

section Again

variable {v : String}

theorem toList_cleanQuery (v : String) : (cleanQuery v).toList = cleanChars v.toList := by
  rw [cleanQuery, String.toList_ofList]

theorem cleanQuery_eq_self_iff : cleanQuery v = v ↔ Harmless v.toList := by
  rw [← String.toList_inj, toList_cleanQuery, cleanChars_eq_self_iff]

theorem cleanQuery_fixed_or_shorter (unquoted : ∀ c ∈ v.toList, isStylizedQuote c = false) :
    cleanQuery v = v ∨ (cleanQuery v).length < v.length := by
  rw [← String.toList_inj, ← String.length_toList, ← String.length_toList, toList_cleanQuery]
  exact cleanChars_fixed_or_shorter unquoted

theorem unquoted_cleanQuery (v : String) :
    ∀ c ∈ (cleanQuery v).toList, isStylizedQuote c = false := by
  rw [toList_cleanQuery]
  exact fun c member => unquoted_cleanChars member

/-- Every round that changes a text takes at least one character. -/
theorem exists_fixed_iterate (unquoted : ∀ c ∈ v.toList, isStylizedQuote c = false) :
    ∃ n ≤ v.length, cleanQuery (cleanQuery^[n] v) = cleanQuery^[n] v := by
  induction size : v.length using Nat.strongRecOn generalizing v with
  | ind length ih =>
      rcases cleanQuery_fixed_or_shorter unquoted with fixed | shorter
      · exact ⟨0, Nat.zero_le _, fixed⟩
      · rw [size] at shorter
        obtain ⟨n, few, fixed⟩ := ih _ shorter (unquoted_cleanQuery v) rfl
        exact ⟨n + 1, by omega, fixed⟩

end Again

/-- Cleaning changes exactly the texts that are not harmless and leaves no typographic quote.
Going through the two passes with the places of the characters, a word that is left did not
stand in the text: between two of its characters one was removed. After the first time cleaning
again changes nothing or shortens the text, and soon the text is harmless. -/
theorem cleanQuery_in_one_pass (v : String) :
    (cleanQuery v = v ↔ Harmless v.toList) ∧
      (∀ c ∈ (cleanQuery v).toList, isStylizedQuote c = false) ∧
      (∃ between kept, Pass functionWord (placed v.toList) between ∧
        Pass valueWord between kept ∧ kept.map Prod.fst = (cleanQuery v).toList ∧
        ∀ found, found <:+: kept →
          found.map Prod.fst = functionWord ∨ found.map Prod.fst = valueWord →
            ¬found <:+: placed v.toList ∧ SpansGap (placed v.toList) kept found) ∧
      (∀ n, cleanQuery^[n + 2] v = cleanQuery^[n + 1] v ∨
        (cleanQuery^[n + 2] v).length < (cleanQuery^[n + 1] v).length) ∧
      ∃ n ≤ v.length + 1, Harmless (cleanQuery^[n] v).toList ∧
        cleanQuery (cleanQuery^[n] v) = cleanQuery^[n] v := by
  refine ⟨cleanQuery_eq_self_iff, unquoted_cleanQuery v, ?_, ?_, ?_⟩
  · obtain ⟨between, kept, first, second, chars⟩ := exists_passes v.toList
    refine ⟨between, kept, first, second, by rw [chars, toList_cleanQuery], ?_⟩
    intro found left spells
    have apart := apart_of_left first second left spells
    refine ⟨apart, spansGap_of_apart ?_ (second.sublist.trans first.sublist) left apart⟩
    rintro rfl
    exact apart List.nil_infix
  · intro n
    rw [Function.iterate_succ_apply' cleanQuery (n + 1), Function.iterate_succ_apply' cleanQuery n]
    exact cleanQuery_fixed_or_shorter (unquoted_cleanQuery _)
  · obtain ⟨n, few, fixed⟩ := exists_fixed_iterate (unquoted_cleanQuery v)
    have short : (cleanQuery v).length ≤ v.length := by
      rw [← String.length_toList, ← String.length_toList, toList_cleanQuery]
      exact length_cleanChars_le _
    exact ⟨n + 1, by omega, cleanQuery_eq_self_iff.mp fixed, fixed⟩

/-- The pieces around a word that is cut out come together as the same word, and a second round
takes it. -/
theorem cleanQuery_joins_word : cleanQuery "_va_val_l_" = "_val_" ∧
    (∃ kept, kept.map Prod.fst = valueWord ∧ ¬kept <:+: placed "_va_val_l_".toList ∧
      SpansGap (placed "_va_val_l_".toList) kept kept) ∧
    ∃ n ≤ 11, Harmless (cleanQuery^[n] "_va_val_l_").toList := by
  have once : cleanQuery "_va_val_l_" = "_val_" := by decide
  obtain ⟨-, -, ⟨between, kept, -, -, chars, seams⟩, -, n, few, harmless, -⟩ :=
    cleanQuery_in_one_pass "_va_val_l_"
  have word : kept.map Prod.fst = valueWord := by
    rw [chars, once]
    rfl
  exact ⟨once, ⟨kept, word, seams kept (List.infix_refl kept) (.inr word)⟩, n, few, harmless⟩

end IndexExport.Text
