import IndexExport.Proofs.Text.Digits
import IndexExport.Text.Cleaning
/-!
# What an excerpt keeps

An excerpt is the whole stripped text, or the start of it with a note of its length. For any
length of at most ten digits the note leaves it within the limit. The blanks at the ends go
before the controls do, so a control that goes can uncover a blank; where none does, an excerpt
has no blank at its ends.
-/
set_option autoImplicit false

namespace IndexExport.Text

/-- Nothing, or no blank at either end. -/
def Trimmed (cs : List Char) : Prop :=
  cs = [] ∨ Bounded cs

/-- At its start the text has characters that go, and behind them a blank that stays. -/
def UncoversBlank (cs : List Char) : Prop :=
  ∃ gone blank rest, cs = gone ++ blank :: rest ∧ (∀ c ∈ gone, isPrintable c = false) ∧
    isPrintable blank = true ∧ isBlank blank = true

section Trimming

variable {cs rest : List Char} {c : Char}

theorem not_isBlank_of_dropWhile (left : cs.dropWhile isBlank = c :: rest) :
    isBlank c = false := by
  have first := List.head?_dropWhile_not isBlank cs
  rw [left] at first
  simpa using first

theorem trimmed_trim (cs : List Char) : Trimmed (trim cs) := by
  cases ends : (trimStart cs).reverse.dropWhile isBlank with
  | nil =>
      left
      rw [trim, trimEnd, ends, List.reverse_nil]
  | cons last before =>
      have shape : trim cs = before.reverse ++ [last] := by
        rw [trim, trimEnd, ends, List.reverse_cons]
      have some : before.reverse ++ [last] ≠ [] := by simp
      obtain ⟨c, more, first⟩ := List.exists_cons_of_ne_nil some
      refine .inr ⟨⟨c, more, shape.trans first, ?_⟩, last, _, shape, not_isBlank_of_dropWhile ends⟩
      -- The end is trimmed last, so the first character is still the one that trimming found.
      have within : trim cs <+: trimStart cs := by
        have suffix := List.dropWhile_suffix isBlank (l := (trimStart cs).reverse)
        rw [← List.reverse_prefix, List.reverse_reverse] at suffix
        exact suffix
      obtain ⟨rest, whole⟩ := within
      rw [shape, first] at whole
      exact not_isBlank_of_dropWhile whole.symm

theorem trim_eq_self_iff : trim cs = cs ↔ Trimmed cs := by
  constructor
  · intro same
    rw [← same]
    exact trimmed_trim cs
  · rintro (rfl | bounded)
    · rfl
    · have none : ∀ c ∈ ([] : List Char), isBlank c = true := by simp
      simpa using trim_surrounded none none bounded

theorem trim_sublist (cs : List Char) : (trim cs).Sublist cs := by
  have stop := (List.dropWhile_sublist isBlank (l := (trimStart cs).reverse)).reverse
  rw [List.reverse_reverse] at stop
  exact stop.trans (List.dropWhile_sublist isBlank)

theorem trimmed_iff : Trimmed cs ↔ (∀ c ∈ cs.head?, isBlank c = false) ∧
    ∀ c ∈ cs.reverse.head?, isBlank c = false := by
  constructor
  · rintro (rfl | bounded)
    · simp
    · obtain ⟨c, rest, first, start⟩ := bounded.first
      obtain ⟨d, before, last, stop⟩ := bounded.last
      constructor
      · rw [first]
        simpa using start
      · rw [last]
        simpa using stop
  · rintro ⟨start, stop⟩
    rcases eq_or_ne cs [] with rfl | some
    · exact .inl rfl
    · right
      constructor
      · obtain ⟨c, rest, rfl⟩ := List.exists_cons_of_ne_nil some
        exact ⟨c, rest, rfl, start c rfl⟩
      · refine ⟨_, _, (List.dropLast_concat_getLast some).symm, stop _ ?_⟩
        rw [List.head?_reverse, List.getLast?_eq_some_getLast some]
        rfl

theorem uncoversBlank_iff (cs : List Char) : UncoversBlank cs ↔
    ∃ c ∈ (cs.filter isPrintable).head?, isBlank c = true := by
  constructor
  · rintro ⟨gone, blank, rest, rfl, controls, stays, hblank⟩
    refine ⟨blank, ?_, hblank⟩
    have none : gone.filter isPrintable = [] := by
      rw [List.filter_eq_nil_iff]
      intro c member
      rw [controls c member]
      exact Bool.false_ne_true
    rw [List.filter_append, none, List.filter_cons_of_pos stays]
    rfl
  · rintro ⟨blank, first, hblank⟩
    obtain ⟨rest, shape⟩ := List.head?_eq_some_iff.mp first
    obtain ⟨gone, back, rfl, controls, stays, -⟩ := List.filter_eq_cons_iff.mp shape
    refine ⟨gone, blank, back, rfl, ?_, stays, hblank⟩
    intro c member
    exact eq_false_of_ne_true (controls c member)

end Trimming

/-! ## The length of an excerpt -/

section Lengths

variable {cs : List Char} {n : Nat}

theorem length_shorteningNote (n : Nat) :
    (shorteningNote n).length = (decimal n).length + 40 := by
  have front : "... (truncated, original length: ".toList.length = 33 := rfl
  have back : " chars)".toList.length = 7 := rfl
  unfold shorteningNote
  rw [List.length_append, List.length_append, front, back]
  omega

theorem excerptChars_of_short (short : (stripped cs).length ≤ 500) :
    excerptChars cs = stripped cs := by
  have within : ¬(stripped cs).length > excerptLimit := Nat.not_lt.mpr short
  rw [excerptChars, if_neg within]

theorem excerptChars_of_long (long : 500 < (stripped cs).length) :
    excerptChars cs = (stripped cs).take 450 ++ shorteningNote (stripped cs).length := by
  have beyond : (stripped cs).length > excerptLimit := long
  rw [excerptChars, if_pos beyond]
  rfl

/-- A note of ten digits fills what is cut off to the last character. -/
theorem length_excerptChars_le (few : (stripped cs).length < 10 ^ 10) :
    (excerptChars cs).length ≤ 500 := by
  by_cases long : 500 < (stripped cs).length
  · have digits := length_decimal_le (by omega) few
    rw [excerptChars_of_long long, List.length_append, List.length_take, length_shorteningNote]
    omega
  · rw [excerptChars_of_short (Nat.not_lt.mp long)]
    omega

end Lengths

/-! ## The characters of an excerpt -/

section Characters

variable {cs : List Char} {c : Char}

theorem isPrintable_of_isDigit (digit : c.isDigit = true) : isPrintable c = true := by
  have range := toNat_of_isDigit digit
  have above : decide (0x20 ≤ c.toNat) = true := decide_eq_true (by omega)
  rw [isPrintable, above]
  rfl

theorem isPrintable_of_mem_stripped (member : c ∈ stripped cs) : isPrintable c = true :=
  (List.mem_filter.mp member).2

theorem isPrintable_of_mem_shorteningNote {n : Nat} (member : c ∈ shorteningNote n) :
    isPrintable c = true := by
  unfold shorteningNote at member
  rcases List.mem_append.mp member with early | back
  · rcases List.mem_append.mp early with front | digit
    · have all : "... (truncated, original length: ".toList.all isPrintable = true := rfl
      exact List.all_eq_true.mp all c front
    · exact isPrintable_of_isDigit (isDigit_of_mem_decimal digit)
  · have all : " chars)".toList.all isPrintable = true := rfl
    exact List.all_eq_true.mp all c back

theorem isPrintable_of_mem_excerptChars (member : c ∈ excerptChars cs) :
    isPrintable c = true := by
  by_cases long : 500 < (stripped cs).length
  · rw [excerptChars_of_long long] at member
    rcases List.mem_append.mp member with kept | note
    · exact isPrintable_of_mem_stripped (List.mem_of_mem_take kept)
    · exact isPrintable_of_mem_shorteningNote note
  · rw [excerptChars_of_short (Nat.not_lt.mp long)] at member
    exact isPrintable_of_mem_stripped member

theorem eq_of_isPrintable (printable : isPrintable c = true) (control : c.toNat < 0x20) :
    c = '\t' ∨ c = '\n' ∨ c = '\r' := by
  simp only [isPrintable, Bool.or_eq_true, decide_eq_true_eq] at printable
  rcases printable with ((above | tab) | feed) | back
  · omega
  · exact .inl tab
  · exact .inr (.inl feed)
  · exact .inr (.inr back)

end Characters

/-! ## The ends of an excerpt -/

section Ends

variable {cs : List Char}

theorem stripped_of_printable (printable : ∀ c ∈ cs, isPrintable c = true) :
    stripped cs = trim cs :=
  List.filter_eq_self.mpr fun c member => printable c ((trim_sublist cs).subset member)

theorem stripped_of_solid (solid : ∀ c ∈ cs, isPrintable c = true ∧ isBlank c = false) :
    stripped cs = cs := by
  rw [stripped_of_printable fun c member => (solid c member).1, trim_eq_self_iff]
  rcases eq_or_ne cs [] with none | some
  · exact .inl none
  · exact .inr (bounded_of_solid some fun c member => (solid c member).2)

theorem head?_stripped_iff : (∀ c ∈ (stripped cs).head?, isBlank c = false) ↔
    ¬UncoversBlank (trim cs) := by
  rw [uncoversBlank_iff, stripped]
  simp

theorem trimmed_stripped_iff : Trimmed (stripped cs) ↔
    ¬UncoversBlank (trim cs) ∧ ¬UncoversBlank (trim cs).reverse := by
  rw [trimmed_iff, head?_stripped_iff, uncoversBlank_iff (trim cs).reverse,
    List.filter_reverse]
  simp [stripped]

theorem shorteningNote_ends (n : Nat) : ∃ before, shorteningNote n = before ++ [')'] := by
  have back : " chars)".toList = " chars".toList ++ [')'] := rfl
  unfold shorteningNote
  rw [back, ← List.append_assoc]
  exact ⟨_, rfl⟩

/-- The note ends with a bracket, so only the start of a shortened text can be blank. -/
theorem trimmed_excerptChars_iff (cs : List Char) :
    Trimmed (excerptChars cs) ↔ ¬UncoversBlank (trim cs) ∧
      ((stripped cs).length ≤ 500 → ¬UncoversBlank (trim cs).reverse) := by
  by_cases long : 500 < (stripped cs).length
  · obtain ⟨before, note⟩ := shorteningNote_ends (stripped cs).length
    have start : (excerptChars cs).head? = (stripped cs).head? := by
      rw [excerptChars_of_long long]
      cases shape : stripped cs with
      | nil => simp [shape] at long
      | cons c rest => rfl
    have stop : (excerptChars cs).reverse.head? = some ')' := by
      rw [excerptChars_of_long long, note, ← List.append_assoc, List.reverse_concat]
      rfl
    have solid : ∀ c ∈ some ')', isBlank c = false := by
      rintro c ⟨⟩
      rfl
    rw [trimmed_iff, start, stop, head?_stripped_iff]
    exact ⟨fun ⟨first, _⟩ => ⟨first, fun short => absurd long (Nat.not_lt.mpr short)⟩,
      fun ⟨first, _⟩ => ⟨first, solid⟩⟩
  · have short := Nat.not_lt.mp long
    rw [excerptChars_of_short short, trimmed_stripped_iff]
    exact ⟨fun ⟨first, last⟩ => ⟨first, fun _ => last⟩, fun ⟨first, last⟩ => ⟨first, last short⟩⟩

/-! ## Excerpts of excerpts -/

theorem toList_excerpt (s : String) : (excerpt s).toList = excerptChars s.toList := by
  rw [excerpt, String.toList_ofList]

theorem excerpt_of_printable {s : String} (printable : ∀ c ∈ s.toList, isPrintable c = true)
    (short : s.toList.length ≤ 500) : excerpt s = trimmed s := by
  have text := stripped_of_printable printable
  have small := (trim_sublist s.toList).length_le
  rw [excerpt, excerptChars_of_short (by rw [text]; omega), text, trimmed]

theorem printable_excerpt (s : String) : ∀ c ∈ (excerpt s).toList, isPrintable c = true := by
  rw [toList_excerpt]
  exact fun c member => isPrintable_of_mem_excerptChars member

theorem toList_trimmed (s : String) : (trimmed s).toList = trim s.toList := by
  rw [trimmed, String.toList_ofList]

theorem excerpt_excerpt {s : String} (short : (stripped s.toList).length ≤ 500) :
    excerpt (excerpt s) = trimmed (excerpt s) := by
  apply excerpt_of_printable (printable_excerpt s)
  rwa [toList_excerpt, excerptChars_of_short short]

theorem trimmed_trimmed (s : String) : trimmed (trimmed s) = trimmed s := by
  rw [← String.toList_inj, toList_trimmed, toList_trimmed, trim_eq_self_iff]
  exact trimmed_trim s.toList

end Ends

/-- An excerpt is trimmed exactly if no control at an end of the trimmed text uncovers a blank.
Unless it was shortened, its own excerpt is what trimming leaves of it, so it is its own excerpt
exactly if it is trimmed, and the excerpt of its excerpt is. -/
theorem excerpt_trimmed_iff (s : String) :
    (Trimmed (excerpt s).toList ↔ ¬UncoversBlank (trim s.toList) ∧
      ((stripped s.toList).length ≤ 500 → ¬UncoversBlank (trim s.toList).reverse)) ∧
      ((stripped s.toList).length ≤ 500 →
        excerpt (excerpt s) = trimmed (excerpt s) ∧
          (excerpt (excerpt s) = excerpt s ↔ Trimmed (excerpt s).toList) ∧
          excerpt (excerpt (excerpt s)) = excerpt (excerpt s)) := by
  refine ⟨by rw [toList_excerpt, trimmed_excerptChars_iff], fun short => ?_⟩
  have again := excerpt_excerpt short
  have small : (stripped (excerpt s).toList).length ≤ 500 := by
    have kept := (trim_sublist (excerpt s).toList).length_le
    rw [stripped_of_printable (printable_excerpt s)]
    rw [toList_excerpt, excerptChars_of_short short] at kept ⊢
    omega
  refine ⟨again, ?_, ?_⟩
  · rw [again, ← trim_eq_self_iff, ← String.toList_inj, toList_trimmed]
  · rw [excerpt_excerpt small, again, trimmed_trimmed]

theorem excerpt_uncovers_last_space : (stripped "denied \x01".toList).length ≤ 500 ∧
    ¬Trimmed (excerpt "denied \x01").toList ∧ excerpt (excerpt "denied \x01") = "denied" := by
  have short : (stripped "denied \x01".toList).length ≤ 500 := by decide
  have uncovers : UncoversBlank (trim "denied \x01".toList).reverse :=
    ⟨['\x01'], ' ', "deined".toList, rfl, List.forall_mem_singleton.mpr rfl, rfl, rfl⟩
  obtain ⟨ends, again⟩ := excerpt_trimmed_iff "denied \x01"
  refine ⟨short, fun trimmed => (ends.mp trimmed).2 short uncovers, ?_⟩
  rw [(again short).1]
  rfl

/-- The space behind the control is uncovered, and the second excerpt drops it. -/
theorem excerpt_not_trimmed : (stripped "\x01 denied".toList).length ≤ 500 ∧
    ¬Trimmed (excerpt "\x01 denied").toList ∧
    excerpt (excerpt "\x01 denied") ≠ excerpt "\x01 denied" := by
  refine ⟨by decide, ?_, by decide⟩
  rw [toList_excerpt, trimmed_excerptChars_iff]
  rintro ⟨covered, -⟩
  exact covered ⟨['\x01'], ' ', "denied".toList, rfl, List.forall_mem_singleton.mpr rfl, rfl, rfl⟩

end IndexExport.Text
