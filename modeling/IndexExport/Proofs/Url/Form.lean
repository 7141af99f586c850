import IndexExport.Proofs.Text.Splitting
import IndexExport.Text.Utf8
import IndexExport.Url.Form
import Mathlib.Data.List.Basic
/-!
# Reading form encoded pairs

`Form.decode` reads pairs as the form encoding is defined, and what `Form.encode` writes it reads
back, whatever characters the names and values hold. Plus signs are turned into spaces before the
bytes are read, so a plus sign of a text must be percent encoded; and the marks between pairs and
inside them stand in no encoded text.
-/
set_option autoImplicit false

namespace IndexExport

namespace Text

theorem utf8?_encoded (cs : List Char) : utf8? (cs.flatMap String.utf8EncodeChar) = some cs := by
  have bytes : (⟨(cs.flatMap String.utf8EncodeChar).toArray⟩ : ByteArray) = cs.utf8Encode := by
    apply ByteArray.ext
    rw [List.utf8Encode, List.data_toByteArray]
  rw [utf8?, bytes, String.fromUTF8?, dif_pos ByteArray.isValidUTF8_utf8Encode]
  exact congrArg some String.toList_ofList

end Text

namespace Url

/-! ## Bytes -/

theorem hexValue?_upperHex : ∀ n < 16, Text.hexValue? (upperHex n) = some n := by decide

theorem percentDecode_percentByte (b : UInt8) (rest : List Char) :
    percentDecode (percentByte b ++ rest) = b :: percentDecode rest := by
  have small : b.toNat < 256 := b.toNat_lt
  have high := hexValue?_upperHex (b.toNat / 16) (by omega)
  have low := hexValue?_upperHex (b.toNat % 16) (by omega)
  have whole : UInt8.ofNat (16 * (b.toNat / 16) + b.toNat % 16) = b := by
    rw [Nat.div_add_mod, UInt8.ofNat_toNat]
  simp only [percentByte, List.cons_append, List.nil_append, percentDecode, high, low, whole]

theorem percentDecode_percentBytes (bytes : List UInt8) (rest : List Char) :
    percentDecode (bytes.flatMap percentByte ++ rest) = bytes ++ percentDecode rest := by
  induction bytes with
  | nil => rfl
  | cons b bytes ih =>
      rw [List.flatMap_cons, List.append_assoc, percentDecode_percentByte, ih, List.cons_append]

theorem percentDecode_cons {c : Char} (other : c ≠ '%') (rest : List Char) :
    percentDecode (c :: rest) = String.utf8EncodeChar c ++ percentDecode rest := by
  rw [percentDecode]
  exact fun _ _ _ same => absurd same other

namespace Form

/-! ## Reading pairs -/

/-- The text of a name or a value, if its bytes are UTF-8. -/
def decodeText (cs : List Char) : Option String :=
  (Text.utf8? (percentDecode (cs.map fun c => if c = '+' then ' ' else c))).map String.ofList

/-- One pair; without an equals sign the value is empty. -/
def decodePair (cs : List Char) : Option Pair := do
  let (name, rest) := Text.breakAt (· = '=') cs
  return (← decodeText name, ← decodeText (rest.drop 1))

/-- The pairs of a query; empty pieces are none. -/
def decode (cs : List Char) : Option (List Pair) :=
  ((Text.splitBy (· = '&') cs).filter (· ≠ [])).mapM decodePair

/-! ## Characters -/

/-- The characters of encoded texts. -/
def Written (c : Char) : Prop := kept c = true ∨ c = '+' ∨ c = '%'

theorem kept_upperHex : ∀ n < 16, kept (upperHex n) = true := by decide

theorem written_of_mem_percentByte {b : UInt8} {c : Char} (member : c ∈ percentByte b) :
    kept c = true ∨ c = '%' := by
  have small : b.toNat < 256 := b.toNat_lt
  simp only [percentByte, List.mem_cons, List.not_mem_nil, or_false] at member
  rcases member with rfl | rfl | rfl
  · exact .inr rfl
  · exact .inl (kept_upperHex _ (by omega))
  · exact .inl (kept_upperHex _ (by omega))

theorem written_of_mem_encodeText {s : String} {c : Char} (member : c ∈ encodeText s) :
    Written c := by
  obtain ⟨d, -, among⟩ := List.mem_flatMap.mp member
  rw [encodeChar] at among
  split_ifs at among with space
  · exact .inr (.inl (List.mem_singleton.mp among))
  · rw [percentChar] at among
    split_ifs at among with plain
    · rw [List.mem_singleton.mp among]
      exact .inl (Bool.and_eq_true_iff.mp plain).2
    · obtain ⟨b, -, digit⟩ := List.mem_flatMap.mp among
      rcases written_of_mem_percentByte digit with stays | percent
      · exact .inl stays
      · exact .inr (.inr percent)

/-- No encoded text holds a mark. -/
theorem Written.ne {c mark : Char} (written : Written c) (loose : kept mark = false)
    (plus : mark ≠ '+') (percent : mark ≠ '%') : c ≠ mark := by
  rintro rfl
  rcases written with stays | rfl | rfl
  · rw [loose] at stays
    cases stays
  · exact plus rfl
  · exact percent rfl

theorem spaced_of_kept {c : Char} (stays : kept c = true ∨ c = '%') :
    (if c = '+' then ' ' else c) = c := by
  rw [if_neg]
  rintro rfl
  rcases stays with stays | percent
  · cases stays
  · cases percent

/-- One character is read back, and the rest is read on. -/
theorem percentDecode_encodeChar (c : Char) (rest : List Char) :
    percentDecode (((encodeChar c).map fun d => if d = '+' then ' ' else d) ++ rest) =
      String.utf8EncodeChar c ++ percentDecode rest := by
  rw [encodeChar]
  split_ifs with space
  · subst space
    exact percentDecode_cons (by decide) rest
  · rw [percentChar]
    split_ifs with plain
    · have stays := (Bool.and_eq_true_iff.mp plain).2
      have other : c ≠ '%' := by
        rintro rfl
        cases stays
      rw [List.map_singleton, spaced_of_kept (.inl stays), List.singleton_append,
        percentDecode_cons other]
    · have each : ∀ d ∈ (String.utf8EncodeChar c).flatMap percentByte,
          (if d = '+' then ' ' else d) = id d := by
        intro d member
        obtain ⟨b, -, digit⟩ := List.mem_flatMap.mp member
        exact spaced_of_kept (written_of_mem_percentByte digit)
      rw [List.map_congr_left each, List.map_id, percentDecode_percentBytes]

/-! ## Pairs -/

theorem decodeText_encodeText (s : String) : decodeText (encodeText s) = some s := by
  have bytes : ∀ cs : List Char, percentDecode
      ((cs.flatMap encodeChar).map fun d => if d = '+' then ' ' else d) =
        cs.flatMap String.utf8EncodeChar := by
    intro cs
    induction cs with
    | nil => rfl
    | cons c cs ih =>
        rw [List.flatMap_cons, List.map_append, percentDecode_encodeChar, ih, List.flatMap_cons]
  rw [decodeText, encodeText, bytes, Text.utf8?_encoded, Option.map_some, String.ofList_toList]

theorem decodePair_encodePair (p : Pair) : decodePair (encodePair p) = some p := by
  have free : ∀ c ∈ encodeText p.1, decide (c = '=') = false := by
    intro c member
    apply decide_eq_false
    exact (written_of_mem_encodeText member).ne rfl (by decide) (by decide)
  rw [decodePair, encodePair, Text.breakAt_append_cons free (by decide)]
  simp only [List.drop_succ_cons, List.drop_zero, decodeText_encodeText]
  rfl

theorem encodePair_ne_nil (p : Pair) : encodePair p ≠ [] :=
  List.append_ne_nil_of_right_ne_nil _ (List.cons_ne_nil _ _)

theorem uncut_encodePair (p : Pair) : ∀ c ∈ encodePair p, decide (c = '&') = false := by
  intro c member
  apply decide_eq_false
  rcases List.mem_append.mp member with name | value
  · exact (written_of_mem_encodeText name).ne rfl (by decide) (by decide)
  · rcases List.mem_cons.mp value with rfl | value
    · decide
    · exact (written_of_mem_encodeText value).ne rfl (by decide) (by decide)

theorem mapM_decodePair (pairs : List Pair) :
    (pairs.map encodePair).mapM decodePair = some pairs := by
  induction pairs with
  | nil => rfl
  | cons p pairs ih =>
      rw [List.map_cons, List.mapM_cons, decodePair_encodePair, ih]
      rfl

/-- The pairs are read back as they were written. -/
theorem decode_encode (pairs : List Pair) : decode (encode pairs) = some pairs := by
  cases pairs with
  | nil => rfl
  | cons p pairs =>
      have uncut : ∀ piece ∈ (p :: pairs).map encodePair, ∀ c ∈ piece,
          decide (c = '&') = false := by
        intro piece member
        obtain ⟨q, -, rfl⟩ := List.mem_map.mp member
        exact uncut_encodePair q
      have filled : ∀ piece ∈ (p :: pairs).map encodePair, decide (piece ≠ []) = true := by
        intro piece member
        obtain ⟨q, -, rfl⟩ := List.mem_map.mp member
        exact decide_eq_true (encodePair_ne_nil q)
      have some : (p :: pairs).map encodePair ≠ [] := List.cons_ne_nil _ _
      rw [decode, encode, Text.splitBy_joinWith (decide_eq_true rfl) some uncut,
        List.filter_eq_self.mpr filled, mapM_decodePair]

theorem encode_injective {pairs others : List Pair} (same : encode pairs = encode others) :
    pairs = others := by
  have read := decode_encode pairs
  rw [same, decode_encode others] at read
  exact (Option.some.inj read).symm

theorem encode_cons (p : Pair) (pairs : List Pair) :
    encode (p :: pairs) = encodePair p ++ pairs.flatMap fun next => '&' :: encodePair next := by
  induction pairs generalizing p with
  | nil => simp [encode, Text.joinWith]
  | cons next pairs ih =>
      have rest := ih next
      rw [encode, List.map_cons] at rest
      rw [encode, List.map_cons, List.map_cons, Text.joinWith, rest]
      simp

end Form

end Url

end IndexExport
