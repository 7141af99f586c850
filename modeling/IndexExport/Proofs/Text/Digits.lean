import IndexExport.Text.Blank
import IndexExport.Text.Digits
import Mathlib.Algebra.Group.Nat.Defs
import Mathlib.Data.List.TakeWhile
/-!
# Numbers and blanks around them

A number that is written with digits is read back from them. No digit is a blank, so a text that
begins and ends with digits is all that is left when the blanks around it are dropped.
-/
set_option autoImplicit false

namespace IndexExport.Text

section Digits

variable {n width : Nat} {d : Char} {front cs back : List Char}

theorem isDigit_of_mem_decimal (member : d ∈ decimal n) : d.isDigit = true :=
  Nat.isDigit_of_mem_toDigits (by decide) (by decide) member

theorem decimal_cons (n : Nat) : ∃ d ds, decimal n = d :: ds ∧ d.isDigit = true := by
  obtain ⟨d, ds, digits⟩ := List.exists_cons_of_ne_nil (Nat.toDigits_ne_nil (b := 10) (n := n))
  refine ⟨d, ds, digits, isDigit_of_mem_decimal (n := n) ?_⟩
  rw [decimal, digits]
  exact List.mem_cons_self

theorem ofDigits_decimal (n : Nat) : ofDigits (decimal n) = n :=
  Nat.ofDigitChars_toDigits (by decide) (by decide)

theorem natural?_decimal (n : Nat) : natural? (decimal n) = some n := by
  have all : (decimal n).all Char.isDigit = true :=
    List.all_eq_true.mpr fun d member => isDigit_of_mem_decimal member
  rw [natural?, if_pos ⟨Nat.toDigits_ne_nil, all⟩, ofDigits_decimal]

theorem digits_of_natural? (read : natural? cs = some n) :
    cs ≠ [] ∧ ∀ c ∈ cs, c.isDigit = true := by
  rw [natural?] at read
  split at read
  · next digits => exact ⟨digits.1, List.all_eq_true.mp digits.2⟩
  · cases read

theorem integer?_signedDecimal (n : Int) : integer? (signedDecimal n) = some n := by
  cases n with
  | ofNat n =>
      rw [signedDecimal, integer?.eq_def]
      obtain ⟨d, ds, digits, digit⟩ := decimal_cons n
      have number := natural?_decimal n
      split
      · next same =>
        rw [digits] at same
        cases same
        cases digit
      · next same =>
        rw [digits] at same
        cases same
        cases digit
      · rw [number]
        rfl
  | negSucc n =>
      rw [signedDecimal, integer?, natural?_decimal]
      rfl

theorem isDigit_of_mem_padded (member : d ∈ padded width n) : d.isDigit = true := by
  rcases List.mem_append.mp member with zero | digit
  · rw [List.eq_of_mem_replicate zero]
    rfl
  · exact isDigit_of_mem_decimal digit

theorem length_decimal_le (some : 0 < width) (fits : n < 10 ^ width) :
    (decimal n).length ≤ width :=
  (Nat.length_toDigits_le_iff (by decide) some).mpr fits

theorem length_padded (some : 0 < width) (fits : n < 10 ^ width) :
    (padded width n).length = width := by
  have short := length_decimal_le some fits
  rw [padded, List.length_append, List.length_replicate]
  omega

theorem ofDigits_padded (width n : Nat) : ofDigits (padded width n) = n := by
  rw [padded, ofDigits, Nat.ofDigitChars_append, Nat.ofDigitChars_replicate_zero, Nat.mul_zero]
  exact ofDigits_decimal n

/-! ## Blanks -/

theorem toNat_of_isDigit (digit : d.isDigit = true) : 48 ≤ d.toNat ∧ d.toNat ≤ 57 := by
  simp only [Char.isDigit, Bool.and_eq_true, decide_eq_true_eq, UInt32.le_iff_toNat_le] at digit
  exact digit

theorem not_isBlank_of_isDigit (digit : d.isDigit = true) : isBlank d = false := by
  have range := toNat_of_isDigit digit
  simp only [isBlank, Bool.or_eq_false_iff, Bool.and_eq_false_iff, decide_eq_false_iff_not,
    beq_eq_false_iff_ne]
  omega

theorem trimStart_of_isDigit (digit : d.isDigit = true) (ds : List Char) :
    trimStart (d :: ds) = d :: ds :=
  List.dropWhile_cons_of_neg (ne_true_of_eq_false (not_isBlank_of_isDigit digit))

/-- The text begins and ends with characters that are no blanks. -/
structure Bounded (cs : List Char) : Prop where
  first : ∃ c rest, cs = c :: rest ∧ isBlank c = false
  last : ∃ c before, cs = before ++ [c] ∧ isBlank c = false

theorem bounded_of_solid (some : cs ≠ []) (solid : ∀ c ∈ cs, isBlank c = false) : Bounded cs := by
  constructor
  · obtain ⟨c, rest, rfl⟩ := List.exists_cons_of_ne_nil some
    exact ⟨c, rest, rfl, solid c List.mem_cons_self⟩
  · exact ⟨_, _, (List.dropLast_concat_getLast some).symm, solid _ (List.getLast_mem some)⟩

theorem Bounded.append (first : Bounded cs) (last : Bounded back) (between : List Char) :
    Bounded (cs ++ (between ++ back)) := by
  obtain ⟨c, rest, rfl, start⟩ := first.first
  obtain ⟨d, before, rfl, stop⟩ := last.last
  exact ⟨⟨c, _, List.cons_append, start⟩, d, c :: rest ++ (between ++ before), by simp, stop⟩

theorem Bounded.cons (bounded : Bounded cs) (solid : isBlank d = false) : Bounded (d :: cs) := by
  obtain ⟨c, before, rfl, stop⟩ := bounded.last
  exact ⟨⟨d, _, rfl, solid⟩, c, d :: before, rfl, stop⟩

/-- Blanks around a bounded text are dropped, and nothing else. -/
theorem trim_surrounded (before : ∀ c ∈ front, isBlank c = true)
    (after : ∀ c ∈ back, isBlank c = true) (bounded : Bounded cs) :
    trim (front ++ cs ++ back) = cs := by
  have start : trimStart (front ++ cs ++ back) = cs ++ back := by
    obtain ⟨c, rest, rfl, solid⟩ := bounded.first
    rw [trimStart, List.append_assoc, List.dropWhile_append_of_pos before]
    exact List.dropWhile_cons_of_neg (ne_true_of_eq_false solid)
  have stop : cs.reverse.dropWhile isBlank = cs.reverse := by
    obtain ⟨c, rest, rfl, solid⟩ := bounded.last
    rw [List.reverse_append]
    exact List.dropWhile_cons_of_neg (ne_true_of_eq_false solid)
  rw [trim, start, trimEnd, List.reverse_append,
    List.dropWhile_append_of_pos fun c member => after c (List.mem_reverse.mp member), stop,
    List.reverse_reverse]

end Digits

end IndexExport.Text
