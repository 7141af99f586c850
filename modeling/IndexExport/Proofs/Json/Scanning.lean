import IndexExport.Json.Printer
import IndexExport.Json.Lexeme
import IndexExport.Proofs.Text.Digits
import Mathlib.Tactic.IntervalCases
import Mathlib.Tactic.SplitIfs
/-!
# Scanning what was written

A lexeme takes up at least one character, so the scan does not depend on its fuel and can be
followed from lexeme to lexeme. What the printer writes for a text or a whole number is one
lexeme, with that value, whatever stands after it; only a number must not be followed by a
character that would prolong it.
-/
set_option autoImplicit false

namespace IndexExport.Json

/-! ## What a lexeme takes up -/

section Parts

variable {c : Char} {cs ds rest : List Char}

theorem eq_append_of_splitDigits (split : splitDigits cs = (ds, rest)) : cs = ds ++ rest := by
  cases split
  exact (List.takeWhile_append_dropWhile).symm

theorem eq_append_of_wholePart? (read : wholePart? cs = some (ds, rest)) :
    cs = ds ++ rest ∧ ds ≠ [] := by
  rw [wholePart?] at read
  split at read
  · cases read
  · next split =>
    cases read
    exact ⟨eq_append_of_splitDigits split, by simp⟩
  · cases read
  · next parts some _ _ =>
    cases read
    refine ⟨eq_append_of_splitDigits rfl, ?_⟩
    intro none
    exact some _ (Prod.ext none rfl)

theorem suffix_of_fractionPart? {fraction : Option (List Char)}
    (read : fractionPart? cs = some (fraction, rest)) : rest <:+ cs := by
  rw [fractionPart?.eq_def] at read
  split at read
  · next behind =>
    split at read
    · cases read
    · next split =>
      cases read
      rw [eq_append_of_splitDigits split]
      exact (List.suffix_append _ _).trans (List.suffix_cons _ _)
  · cases read
    exact List.suffix_refl _

theorem suffix_of_signedDigits? {e : Bool × List Char} (read : signedDigits? cs = some (e, rest)) :
    rest <:+ cs := by
  rw [signedDigits?.eq_def] at read
  split at read
  next negative unsigned sign =>
  have within : unsigned <:+ cs := by
    split at sign <;> cases sign
    · exact List.suffix_cons _ _
    · exact List.suffix_cons _ _
    · exact List.suffix_refl _
  split at read
  · cases read
  · next split =>
    cases read
    rw [eq_append_of_splitDigits split] at within
    exact (List.suffix_append _ _).trans within

theorem suffix_of_exponentPart? {e : Option (Bool × List Char)}
    (read : exponentPart? cs = some (e, rest)) : rest <:+ cs := by
  rw [exponentPart?.eq_def] at read
  split at read
  case h_3 =>
    cases read
    exact List.suffix_refl _
  all_goals
    obtain ⟨⟨digits, after⟩, found, same⟩ := Option.map_eq_some_iff.mp read
    cases same
    exact (suffix_of_signedDigits? found).trans (List.suffix_cons _ _)

/-- The numeral at the start of a text without its sign. -/
def unsignedNumeral? (negative : Bool) (cs : List Char) : Option (Numeral × List Char) :=
  (wholePart? cs).bind fun (whole, afterWhole) =>
    (fractionPart? afterWhole).bind fun (fraction, afterFraction) =>
      (exponentPart? afterFraction).map fun (exponent, rest) =>
        (⟨negative, whole, fraction, exponent⟩, rest)

theorem numeral?_of_minus (cs : List Char) : numeral? ('-' :: cs) = unsignedNumeral? true cs := by
  simp [numeral?, unsignedNumeral?, Option.map_eq_bind]

theorem numeral?_of_other (other : c ≠ '-') (cs : List Char) :
    numeral? (c :: cs) = unsignedNumeral? false (c :: cs) := by
  simp [numeral?, unsignedNumeral?, other, Option.map_eq_bind]

theorem unsignedNumeral?_eq_some {negative : Bool} {n : Numeral}
    (read : unsignedNumeral? negative cs = some (n, rest)) :
    ∃ afterWhole afterFraction, wholePart? cs = some (n.whole, afterWhole) ∧
      fractionPart? afterWhole = some (n.fraction, afterFraction) ∧
      exponentPart? afterFraction = some (n.exponent, rest) ∧ n.negative = negative := by
  obtain ⟨⟨whole, afterWhole⟩, first, read⟩ := Option.bind_eq_some_iff.mp read
  obtain ⟨⟨fraction, afterFraction⟩, second, read⟩ := Option.bind_eq_some_iff.mp read
  obtain ⟨⟨exponent, after⟩, third, same⟩ := Option.map_eq_some_iff.mp read
  cases same
  exact ⟨afterWhole, afterFraction, first, second, third, rfl⟩

theorem length_lt_of_unsignedNumeral? {negative : Bool} {n : Numeral}
    (read : unsignedNumeral? negative cs = some (n, rest)) : rest.length < cs.length := by
  obtain ⟨afterWhole, afterFraction, first, second, third, -⟩ := unsignedNumeral?_eq_some read
  obtain ⟨rfl, some⟩ := eq_append_of_wholePart? first
  have digits := List.length_pos_iff.mpr some
  have behind :=
    ((suffix_of_exponentPart? third).trans (suffix_of_fractionPart? second)).length_le
  rw [List.length_append]
  omega

theorem length_le_of_numeral? {n : Numeral} (read : numeral? (c :: cs) = some (n, rest)) :
    rest.length ≤ cs.length := by
  by_cases minus : c = '-'
  · subst minus
    rw [numeral?_of_minus] at read
    exact Nat.le_of_lt (length_lt_of_unsignedNumeral? read)
  · rw [numeral?_of_other minus] at read
    exact Nat.le_of_lt_succ (length_lt_of_unsignedNumeral? read)

theorem suffix_of_quotedUnits {units : List TextUnit}
    (read : quotedUnits cs = some (units, rest)) : rest <:+ cs := by
  fun_induction quotedUnits cs generalizing units with
  | case1 => cases read
  | case2 =>
      cases read
      exact List.suffix_cons _ _
  | case3 a b c d behind unit more after found coded ih =>
      cases read
      exact (ih found).trans (List.suffix_append ['\\', 'u', a, b, c, d] behind)
  | case4 => cases read
  | case5 e behind _ c more after found escaped ih =>
      cases read
      exact (ih found).trans (List.suffix_append ['\\', e] behind)
  | case6 => cases read
  | case7 => cases read
  | case8 c behind _ _ _ _ more after found ih =>
      cases read
      exact (ih found).trans (List.suffix_cons _ _)
  | case9 => cases read

theorem length_lexeme_le (c : Char) (cs : List Char) :
    (lexeme (c :: cs)).2.length ≤ cs.length := by
  have word : ∀ (front : List Char) {rest : List Char}, c :: cs = front ++ rest → front ≠ [] →
      rest.length ≤ cs.length := by
    intro front rest whole some
    have digits := List.length_pos_iff.mpr some
    have total := congrArg List.length whole
    simp only [List.length_cons, List.length_append] at total
    omega
  rw [lexeme.eq_def]
  split
  case h_10 behind same =>
    cases same
    split
    · next read => exact (suffix_of_quotedUnits read).length_le
    · exact Nat.zero_le _
  case h_11 =>
    split
    · next read => exact length_le_of_numeral? read
    · exact Nat.zero_le _
  case h_7 same => exact word ['n', 'u', 'l', 'l'] same (by simp)
  case h_8 same => exact word ['t', 'r', 'u', 'e'] same (by simp)
  case h_9 same => exact word ['f', 'a', 'l', 's', 'e'] same (by simp)
  all_goals
    next same =>
    cases same
    exact Nat.le_refl _

end Parts

/-! ## From lexeme to lexeme -/

section Scan

variable {c : Char} {cs : List Char}

/-- By induction on the fuel; a lexeme takes up one character of the text and one unit of it. -/
theorem scanFrom_eq_scan {fuel : Nat} (enough : cs.length ≤ fuel) :
    scanFrom fuel cs = scan cs := by
  have same : ∀ bound fuel (cs : List Char), cs.length ≤ bound → cs.length ≤ fuel →
      scanFrom fuel cs = scanFrom bound cs := by
    intro bound
    induction bound with
    | zero =>
        intro fuel cs within enough
        rw [List.length_eq_zero_iff.mp (Nat.le_zero.mp within)]
        cases fuel <;> rfl
    | succ bound ih =>
        intro fuel cs within enough
        cases cs with
        | nil => cases fuel <;> rfl
        | cons c cs =>
            obtain ⟨fuel, rfl⟩ : ∃ less, fuel = less + 1 :=
              ⟨fuel - 1, by simp only [List.length_cons] at enough; omega⟩
            simp only [List.length_cons, Nat.add_le_add_iff_right] at within enough
            have shorter := length_lexeme_le c cs
            simp only [scanFrom]
            rw [ih fuel cs within enough, ih fuel _ (by omega) (by omega)]
  exact same cs.length fuel cs (Nat.le_refl _) enough

@[simp] theorem scan_nil : scan [] = [] := rfl

theorem scan_blank (blank : isJsonBlank c = true) (cs : List Char) : scan (c :: cs) = scan cs := by
  rw [scan, List.length_cons, scanFrom, if_pos blank, scan]

theorem scan_cons (solid : isJsonBlank c = false) (cs : List Char) :
    scan (c :: cs) = (lexeme (c :: cs)).1 :: scan (lexeme (c :: cs)).2 := by
  rw [scan, List.length_cons, scanFrom, solid, ← scanFrom_eq_scan (length_lexeme_le c cs)]
  rfl

theorem scan_newLine (depth : Nat) (cs : List Char) : scan (newLine depth ++ cs) = scan cs := by
  have blanks : ∀ count, scan (List.replicate count ' ' ++ cs) = scan cs := by
    intro count
    induction count with
    | zero => rfl
    | succ count ih => rw [List.replicate_succ, List.cons_append, scan_blank (by decide), ih]
  rw [newLine, List.cons_append, scan_blank (by decide), blanks]

@[simp] theorem scan_openList (cs : List Char) : scan ('[' :: cs) = .openList :: scan cs :=
  scan_cons (by decide) cs

@[simp] theorem scan_closeList (cs : List Char) : scan (']' :: cs) = .closeList :: scan cs :=
  scan_cons (by decide) cs

@[simp] theorem scan_openObject (cs : List Char) :
    scan ('\x7b' :: cs) = .openObject :: scan cs :=
  scan_cons (by decide) cs

@[simp] theorem scan_closeObject (cs : List Char) :
    scan ('\x7d' :: cs) = .closeObject :: scan cs :=
  scan_cons (by decide) cs

@[simp] theorem scan_comma (cs : List Char) : scan (',' :: cs) = .comma :: scan cs :=
  scan_cons (by decide) cs

@[simp] theorem scan_colon (cs : List Char) : scan (':' :: cs) = .colon :: scan cs :=
  scan_cons (by decide) cs

@[simp] theorem scan_null (cs : List Char) :
    scan ('n' :: 'u' :: 'l' :: 'l' :: cs) = .null :: scan cs :=
  scan_cons (by decide) _

@[simp] theorem scan_true (cs : List Char) :
    scan ('t' :: 'r' :: 'u' :: 'e' :: cs) = .boolean true :: scan cs :=
  scan_cons (by decide) _

@[simp] theorem scan_false (cs : List Char) :
    scan ('f' :: 'a' :: 'l' :: 's' :: 'e' :: cs) = .boolean false :: scan cs :=
  scan_cons (by decide) _

end Scan

/-! ## Quoted texts -/

/-- A character is written as an escape of one letter, by its number, or as itself. -/
theorem quotedChar_cases (c : Char) :
    (∃ e, e ≠ 'u' ∧ escapedChar? e = some c ∧ quotedChar c = ['\\', e]) ∨
    (c.toNat < 0x20 ∧ quotedChar c =
      ['\\', 'u', '0', '0', Text.hexDigit (c.toNat / 16), Text.hexDigit (c.toNat % 16)]) ∨
    (c ≠ '"' ∧ c ≠ '\\' ∧ ¬ c.toNat < 0x20 ∧ quotedChar c = [c]) := by
  rw [quotedChar]
  split_ifs with quote backslash b f n r t control
  · exact .inl ⟨'"', by decide, by rw [quote]; decide, rfl⟩
  · exact .inl ⟨'\\', by decide, by rw [backslash]; decide, rfl⟩
  · exact .inl ⟨'b', by decide, by rw [b]; decide, rfl⟩
  · exact .inl ⟨'f', by decide, by rw [f]; decide, rfl⟩
  · exact .inl ⟨'n', by decide, by rw [n]; decide, rfl⟩
  · exact .inl ⟨'r', by decide, by rw [r]; decide, rfl⟩
  · exact .inl ⟨'t', by decide, by rw [t]; decide, rfl⟩
  · exact .inr (.inl ⟨control, rfl⟩)
  · exact .inr (.inr ⟨quote, backslash, control, rfl⟩)

theorem hexValue?_hexDigit : ∀ n < 16, Text.hexValue? (Text.hexDigit n) = some n := by decide

theorem codeUnit?_of_control {n : Nat} (control : n < 0x20) :
    codeUnit? '0' '0' (Text.hexDigit (n / 16)) (Text.hexDigit (n % 16)) = some n := by
  have zero : Text.hexValue? '0' = some 0 := by decide
  have high := hexValue?_hexDigit (n / 16) (by omega)
  have low := hexValue?_hexDigit (n % 16) (by omega)
  have whole : n / 16 * 16 + n % 16 = n := by omega
  simp [codeUnit?, zero, high, low, whole]

/-- A control stands for itself, whatever comes after it. -/
theorem joinUnits_coded {n : Nat} (control : n < 0x20) (units : List TextUnit) :
    joinUnits (.coded n :: units) = (joinUnits units).map (Char.ofNat n :: ·) := by
  have high : isHighSurrogate n = false := by simp [isHighSurrogate]; omega
  have low : isLowSurrogate n = false := by simp [isLowSurrogate]; omega
  cases units with
  | nil => simp [joinUnits, high, low]
  | cons next units => cases next <;> simp [joinUnits, high, low]

theorem quotedUnits_quotedChar (c : Char) {cs s after : List Char} {units : List TextUnit}
    (read : quotedUnits cs = some (units, after)) (joined : joinUnits units = some s) :
    ∃ more, quotedUnits (quotedChar c ++ cs) = some (more, after) ∧
      joinUnits more = some (c :: s) := by
  rcases quotedChar_cases c with ⟨e, letter, escaped, written⟩ | ⟨control, written⟩ |
    ⟨quote, backslash, visible, written⟩
  · refine ⟨.plain c :: units, ?_, by simp [joinUnits, joined]⟩
    rw [written, List.cons_append, List.cons_append, List.nil_append]
    simp [quotedUnits, letter, escaped, read]
  · refine ⟨.coded c.toNat :: units, ?_, by simp [joinUnits_coded control, joined]⟩
    rw [written]
    simp [quotedUnits, codeUnit?_of_control control, read]
  · refine ⟨.plain c :: units, ?_, by simp [joinUnits, joined]⟩
    rw [written, List.singleton_append]
    simp [quotedUnits, backslash, visible, read]

theorem quotedUnits_of_written (s after : List Char) :
    ∃ units, quotedUnits (s.flatMap quotedChar ++ '"' :: after) = some (units, after) ∧
      joinUnits units = some s := by
  induction s with
  | nil => exact ⟨[], rfl, rfl⟩
  | cons c s ih =>
      obtain ⟨units, read, joined⟩ := ih
      rw [List.flatMap_cons, List.append_assoc]
      exact quotedUnits_quotedChar c read joined

@[simp] theorem scan_quoted (s : String) (cs : List Char) :
    scan (quoted s ++ cs) = .text (some s) :: scan cs := by
  obtain ⟨units, read, joined⟩ := quotedUnits_of_written s.toList cs
  have first : lexeme ('"' :: (s.toList.flatMap quotedChar ++ '"' :: cs)) =
      (.text (some s), cs) := by
    simp [lexeme, read, joined]
  rw [quoted, List.cons_append, List.cons_append, List.append_assoc, List.singleton_append,
    scan_cons (by decide), first]

/-! ## Whole numbers -/

/-- What follows a numeral without prolonging it. -/
def EndsNumeral (cs : List Char) : Prop :=
  ∀ c ∈ cs.head?, c.isDigit = false ∧ c ≠ '.' ∧ c ≠ 'e' ∧ c ≠ 'E'

theorem splitDigits_append {ds cs : List Char} (digits : ∀ d ∈ ds, d.isDigit = true)
    (ends : EndsNumeral cs) : splitDigits (ds ++ cs) = (ds, cs) := by
  have stops : cs.takeWhile Char.isDigit = [] ∧ cs.dropWhile Char.isDigit = cs := by
    cases cs with
    | nil => exact ⟨rfl, rfl⟩
    | cons c cs => simp [(ends c rfl).1]
  rw [splitDigits, List.takeWhile_append_of_pos digits, List.dropWhile_append_of_pos digits,
    stops.1, stops.2, List.append_nil]

/-- No zero is written in front. -/
theorem decimal_start {n : Nat} (positive : 0 < n) :
    ∃ d ds, Text.decimal n = d :: ds ∧ d ≠ '0' := by
  induction n using Nat.strongRecOn with
  | ind n ih =>
      rw [Text.decimal]
      by_cases small : n < 10
      · rw [Nat.toDigits_of_lt_base small]
        refine ⟨_, _, rfl, ?_⟩
        interval_cases n <;> decide
      · obtain ⟨d, ds, digits, first⟩ := ih (n / 10) (by omega) (by omega)
        rw [Text.decimal] at digits
        rw [Nat.toDigits_of_base_le (by decide) (by omega), digits]
        exact ⟨d, _, rfl, first⟩

theorem wholePart?_decimal (n : Nat) {cs : List Char} (ends : EndsNumeral cs) :
    wholePart? (Text.decimal n ++ cs) = some (Text.decimal n, cs) := by
  rw [wholePart?, splitDigits_append (fun d => Text.isDigit_of_mem_decimal) ends]
  rcases Nat.eq_zero_or_pos n with rfl | positive
  · rfl
  · obtain ⟨d, ds, digits, first⟩ := decimal_start positive
    rw [digits]
    simp [first]

theorem fractionPart?_of_ends {cs : List Char} (ends : EndsNumeral cs) :
    fractionPart? cs = some (none, cs) := by
  cases cs with
  | nil => rfl
  | cons c cs =>
      have point := (ends c rfl).2.1
      simp [fractionPart?, point]

theorem exponentPart?_of_ends {cs : List Char} (ends : EndsNumeral cs) :
    exponentPart? cs = some (none, cs) := by
  cases cs with
  | nil => rfl
  | cons c cs =>
      obtain ⟨-, -, small, great⟩ := ends c rfl
      simp [exponentPart?, small, great]

theorem numeral?_decimal (n : Nat) {cs : List Char} (ends : EndsNumeral cs) :
    numeral? (Text.decimal n ++ cs) = some (⟨false, Text.decimal n, none, none⟩, cs) := by
  have whole := wholePart?_decimal n ends
  obtain ⟨d, ds, digits, digit⟩ := Text.decimal_cons n
  have unsigned : d ≠ '-' := by
    rintro rfl
    cases digit
  rw [digits, List.cons_append] at whole ⊢
  simp [numeral?, unsigned, whole, fractionPart?_of_ends ends, exponentPart?_of_ends ends]

theorem numeral?_minus (n : Nat) {cs : List Char} (ends : EndsNumeral cs) :
    numeral? ('-' :: (Text.decimal n ++ cs)) =
      some (⟨true, Text.decimal n, none, none⟩, cs) := by
  simp [numeral?, wholePart?_decimal n ends, fractionPart?_of_ends ends, exponentPart?_of_ends ends]

theorem le_ofDigitChars (significand : Nat) (ds : List Char) :
    significand ≤ Nat.ofDigitChars 10 ds significand := by
  induction ds generalizing significand with
  | nil => exact Nat.le_refl _
  | cons d ds ih =>
      rw [Nat.ofDigitChars_cons]
      have further := ih (10 * significand + (d.toNat - '0'.toNat))
      omega

/-- Digits that fit are all taken. -/
theorem gather_eq {significand : Nat} {ds : List Char}
    (fits : Nat.ofDigitChars 10 ds significand ≤ Numeral.wordMax) :
    Numeral.gather significand ds = (Nat.ofDigitChars 10 ds significand, ds.length, 0) := by
  induction ds generalizing significand with
  | nil => rfl
  | cons d ds ih =>
      rw [Nat.ofDigitChars_cons, Nat.mul_comm] at fits ⊢
      have here := Nat.le_trans (le_ofDigitChars _ ds) fits
      rw [Numeral.gather]
      simp only [if_pos here, ih fits, List.length_cons]

theorem gather_decimal {n : Nat} (fits : n ≤ Numeral.wordMax) :
    Numeral.gather 0 (Text.decimal n) = (n, (Text.decimal n).length, 0) := by
  have same : Nat.ofDigitChars 10 (Text.decimal n) 0 = n :=
    Nat.ofDigitChars_toDigits (by decide) (by decide)
  rw [gather_eq (by rw [same]; exact fits), same]

def spelled : Int → Numeral
  | .ofNat n => ⟨false, Text.decimal n, none, none⟩
  | .negSucc n => ⟨true, Text.decimal (n + 1), none, none⟩

def Number.greatest : Int := 18446744073709551615

def Number.least : Int := -9223372036854775808

theorem value?_spelled {n : Int} (least : Number.least ≤ n) (greatest : n ≤ Number.greatest) :
    (spelled n).value? = some (.whole n) := by
  rw [Number.least] at least
  rw [Number.greatest] at greatest
  cases n with
  | ofNat n =>
      have fits : n ≤ Numeral.wordMax := by
        rw [Int.ofNat_eq_natCast] at greatest
        rw [Numeral.wordMax]
        omega
      simp [spelled, Numeral.value?, gather_decimal fits]
  | negSucc n =>
      have fits : n + 1 ≤ Numeral.wordMax := by
        rw [Numeral.wordMax]
        omega
      have signed : n + 1 ≤ 9223372036854775808 := by omega
      simp [spelled, Numeral.value?, gather_decimal fits, signed]
      omega

theorem lexeme_of_numeral {c : Char} {cs rest : List Char} {n : Numeral}
    (starts : c.isDigit = true ∨ c = '-') (read : numeral? (c :: cs) = some (n, rest)) :
    isJsonBlank c = false ∧ lexeme (c :: cs) = (.numeral n, rest) := by
  have other : ∀ d, d.isDigit = false → d ≠ '-' → c ≠ d := by
    rintro d noDigit noSign rfl
    rcases starts with digit | sign
    · rw [noDigit] at digit
      cases digit
    · exact noSign sign
  constructor
  · simp [isJsonBlank, other ' ' (by decide) (by decide), other '\t' (by decide) (by decide),
      other '\n' (by decide) (by decide), other '\r' (by decide) (by decide)]
  · rw [lexeme.eq_def]
    split
    case h_11 => rw [read]
    all_goals
      next same =>
      exact absurd (List.cons.inj same).1 (other _ (by decide) (by decide))

theorem scan_of_numeral {c : Char} {cs rest : List Char} {n : Numeral}
    (starts : c.isDigit = true ∨ c = '-') (read : numeral? (c :: cs) = some (n, rest)) :
    scan (c :: cs) = .numeral n :: scan rest := by
  obtain ⟨solid, first⟩ := lexeme_of_numeral starts read
  rw [scan_cons solid, first]

theorem scan_whole (n : Int) {cs : List Char} (ends : EndsNumeral cs) :
    scan (Text.signedDecimal n ++ cs) = .numeral (spelled n) :: scan cs := by
  cases n with
  | ofNat n =>
      have read := numeral?_decimal n ends
      obtain ⟨d, ds, digits, digit⟩ := Text.decimal_cons n
      rw [Text.signedDecimal, spelled]
      rw [digits, List.cons_append] at read ⊢
      exact scan_of_numeral (.inl digit) read
  | negSucc n => exact scan_of_numeral (.inr rfl) (numeral?_minus (n + 1) ends)

end IndexExport.Json
