import IndexExport.Proofs.Json.LookingUp
/-!
# Texts inside texts

A text that holds a list or an object is cut into the same lexemes wherever it stands, because
its last lexeme is a bracket, and nothing that comes behind a bracket prolongs it. The reader
therefore reads the same value inside a larger text, provided that it has room for it.
-/
set_option autoImplicit false

namespace IndexExport.Json

/-! ## Characters behind a lexeme -/

section Behind

variable {cs ds rest : List Char} {c : Char}

theorem splitDigits_append_of_rest (split : splitDigits cs = (ds, rest)) (more : rest ≠ [])
    (back : List Char) : splitDigits (cs ++ back) = (ds, rest ++ back) := by
  obtain ⟨digits, behind⟩ := Prod.mk.inj split
  have stops : (cs.takeWhile Char.isDigit).length ≠ cs.length := by
    intro all
    have whole := congrArg List.length (eq_append_of_splitDigits split)
    rw [List.length_append, ← digits, all] at whole
    exact more (List.length_eq_zero_iff.mp (by omega))
  have left : cs.dropWhile Char.isDigit ≠ [] := by rwa [behind]
  rw [splitDigits, List.takeWhile_append, if_neg stops, List.dropWhile_append, digits, behind]
  simp [more]

theorem wholePart?_eq_some_iff :
    wholePart? cs = some (ds, rest) ↔
      splitDigits cs = (ds, rest) ∧ ds ≠ [] ∧ (ds.head? = some '0' → ds = ['0']) := by
  rw [wholePart?]
  rcases splitDigits cs with ⟨_ | ⟨d, digits⟩, behind⟩
  · grind
  · by_cases zero : d = '0'
    · subst zero
      cases digits <;> grind
    · grind

theorem wholePart?_append (read : wholePart? cs = some (ds, rest)) (more : rest ≠ [])
    (back : List Char) : wholePart? (cs ++ back) = some (ds, rest ++ back) := by
  obtain ⟨split, some, zero⟩ := wholePart?_eq_some_iff.mp read
  exact wholePart?_eq_some_iff.mpr ⟨splitDigits_append_of_rest split more back, some, zero⟩

theorem fractionPart?_append {fraction : Option (List Char)}
    (read : fractionPart? cs = some (fraction, rest)) (more : rest ≠ []) (back : List Char) :
    fractionPart? (cs ++ back) = some (fraction, rest ++ back) := by
  rw [fractionPart?.eq_def] at read
  split at read
  · next behind =>
    split at read
    · cases read
    · next digits after some split =>
      cases read
      rw [List.cons_append, fractionPart?, splitDigits_append_of_rest split more]
      split
      · next none => exact absurd (Prod.mk.inj none).1 some
      · next same =>
        cases same
        rfl
  · next other =>
    cases read
    cases cs with
    | nil => exact absurd rfl more
    | cons c cs =>
        have noPoint : c ≠ '.' := by
          rintro rfl
          exact other _ rfl
        simp [fractionPart?, noPoint]

/-- At least one digit, of a number whose sign is known. -/
def unsignedDigits? (negative : Bool) (cs : List Char) :
    Option ((Bool × List Char) × List Char) :=
  match splitDigits cs with
  | ([], _) => none
  | (ds, rest) => some ((negative, ds), rest)

theorem signedDigits?_of_minus (cs : List Char) :
    signedDigits? ('-' :: cs) = unsignedDigits? true cs := rfl

theorem signedDigits?_of_plus (cs : List Char) :
    signedDigits? ('+' :: cs) = unsignedDigits? false cs := rfl

theorem signedDigits?_of_other (minus : c ≠ '-') (plus : c ≠ '+') (cs : List Char) :
    signedDigits? (c :: cs) = unsignedDigits? false (c :: cs) := by
  rcases split : splitDigits (c :: cs) with ⟨_ | ⟨d, ds⟩, behind⟩
  all_goals simp [signedDigits?, unsignedDigits?, minus, plus, split]

theorem unsignedDigits?_append {negative : Bool} {e : Bool × List Char}
    (read : unsignedDigits? negative cs = some (e, rest)) (more : rest ≠ []) (back : List Char) :
    unsignedDigits? negative (cs ++ back) = some (e, rest ++ back) := by
  rw [unsignedDigits?] at read
  split at read
  · cases read
  · next digits after some split =>
    cases read
    rw [unsignedDigits?, splitDigits_append_of_rest split more]
    split
    · next none => exact absurd (Prod.mk.inj none).1 some
    · next same =>
      cases same
      rfl

theorem signedDigits?_append {e : Bool × List Char} (read : signedDigits? cs = some (e, rest))
    (more : rest ≠ []) (back : List Char) :
    signedDigits? (cs ++ back) = some (e, rest ++ back) := by
  cases cs with
  | nil => cases read
  | cons c cs =>
      rw [List.cons_append]
      by_cases minus : c = '-'
      · subst minus
        rw [signedDigits?_of_minus] at read ⊢
        exact unsignedDigits?_append read more back
      · by_cases plus : c = '+'
        · subst plus
          rw [signedDigits?_of_plus] at read ⊢
          exact unsignedDigits?_append read more back
        · rw [signedDigits?_of_other minus plus] at read ⊢
          exact unsignedDigits?_append read more back

theorem exponentPart?_append {e : Option (Bool × List Char)}
    (read : exponentPart? cs = some (e, rest)) (more : rest ≠ []) (back : List Char) :
    exponentPart? (cs ++ back) = some (e, rest ++ back) := by
  rw [exponentPart?.eq_def] at read
  split at read
  case h_3 small great =>
    cases read
    cases cs with
    | nil => exact absurd rfl more
    | cons c cs =>
        have other : c ≠ 'e' ∧ c ≠ 'E' := by
          constructor
          · rintro rfl
            exact small _ rfl
          · rintro rfl
            exact great _ rfl
        simp [exponentPart?, other.1, other.2]
  all_goals
    obtain ⟨⟨digits, after⟩, found, same⟩ := Option.map_eq_some_iff.mp read
    cases same
    rw [List.cons_append, exponentPart?, signedDigits?_append found more]
    rfl

theorem unsignedNumeral?_append {negative : Bool} {n : Numeral}
    (read : unsignedNumeral? negative cs = some (n, rest)) (more : rest ≠ [])
    (back : List Char) : unsignedNumeral? negative (cs ++ back) = some (n, rest ++ back) := by
  obtain ⟨afterWhole, afterFraction, first, second, third, rfl⟩ := unsignedNumeral?_eq_some read
  have some : ∀ {front : List Char}, rest <:+ front → front ≠ [] := by
    rintro front within rfl
    exact more (List.suffix_nil.mp within)
  have behindFraction := suffix_of_exponentPart? third
  have behindWhole := behindFraction.trans (suffix_of_fractionPart? second)
  simp [unsignedNumeral?, wholePart?_append first (some behindWhole),
    fractionPart?_append second (some behindFraction), exponentPart?_append third more]

theorem numeral?_append {n : Numeral} (read : numeral? (c :: cs) = some (n, rest))
    (more : rest ≠ []) (back : List Char) :
    numeral? (c :: (cs ++ back)) = some (n, rest ++ back) := by
  by_cases minus : c = '-'
  · subst minus
    rw [numeral?_of_minus] at read ⊢
    exact unsignedNumeral?_append read more back
  · rw [numeral?_of_other minus] at read ⊢
    exact unsignedNumeral?_append read more back

theorem starts_of_numeral? {n : Numeral} (read : numeral? (c :: cs) = some (n, rest)) :
    c.isDigit = true ∨ c = '-' := by
  by_cases minus : c = '-'
  · exact .inr minus
  · rw [numeral?_of_other minus] at read
    obtain ⟨_, _, first, -⟩ := unsignedNumeral?_eq_some read
    obtain ⟨split, some, -⟩ := wholePart?_eq_some_iff.mp first
    obtain ⟨digits, -⟩ := Prod.mk.inj split
    by_cases digit : c.isDigit = true
    · exact .inl digit
    · rw [List.takeWhile_cons_of_neg digit] at digits
      exact absurd digits.symm some

theorem quotedUnits_append {units : List TextUnit} (read : quotedUnits cs = some (units, rest))
    (back : List Char) : quotedUnits (cs ++ back) = some (units, rest ++ back) := by
  fun_induction quotedUnits cs generalizing units with
  | case1 => cases read
  | case2 =>
      cases read
      rfl
  | case3 a b c d behind unit more after found coded ih =>
      cases read
      simp [quotedUnits, coded, ih found]
  | case4 => cases read
  | case5 e behind notCoded c more after found escaped ih =>
      cases read
      have letter : e ≠ 'u' := by
        rintro rfl
        cases escaped
      simp [quotedUnits, letter, escaped, ih found]
  | case6 => cases read
  | case7 => cases read
  | case8 c behind quote _ single visible more after found ih =>
      cases read
      have backslash : c ≠ '\\' := by
        rintro rfl
        cases behind with
        | nil => cases found
        | cons e rest => exact single e rest rfl rfl
      simp [quotedUnits, backslash, visible, ih found]
  | case9 => cases read

theorem lexeme_append {x : Lexeme} (lexes : lexeme (c :: cs) = (x, rest)) (whole : x ≠ .malformed)
    (ends : rest ≠ [] ∨ ∀ n, x ≠ .numeral n) (back : List Char) :
    lexeme (c :: (cs ++ back)) = (x, rest ++ back) := by
  rw [lexeme.eq_def] at lexes
  split at lexes
  case h_10 behind same =>
    cases same
    split at lexes
    · next read =>
      cases lexes
      simp [lexeme, quotedUnits_append read]
    · cases lexes
      exact absurd rfl whole
  case h_11 =>
    split at lexes
    · next read =>
      cases lexes
      have more : rest ≠ [] := by
        rcases ends with more | other
        · exact more
        · exact absurd rfl (other _)
      exact (lexeme_of_numeral (starts_of_numeral? read) (numeral?_append read more back)).2
    · cases lexes
      exact absurd rfl whole
  all_goals
    next same =>
    cases same
    cases lexes
    rfl

end Behind

/-! ## A text and what comes behind it -/

/-- All lexemes are sound, and nothing that comes behind them prolongs the last one. -/
structure Whole (lexemes : List Lexeme) : Prop where
  sound : .malformed ∉ lexemes
  ended : ∀ n, lexemes.getLast? ≠ some (.numeral n)

theorem Whole.tail {x : Lexeme} {lexemes : List Lexeme} (whole : Whole (x :: lexemes)) :
    Whole lexemes := by
  refine ⟨fun bad => whole.sound (List.mem_cons_of_mem _ bad), fun n last => ?_⟩
  refine whole.ended n ?_
  cases lexemes with
  | nil => cases last
  | cons next lexemes => rwa [List.getLast?_cons_cons]

/-- By induction on the length of the first text: where a lexeme is the last one, it is no
numeral, and where it is a numeral, something comes behind it in the first text already. -/
theorem scan_append {cs : List Char} (whole : Whole (scan cs)) (back : List Char) :
    scan (cs ++ back) = scan cs ++ scan back := by
  induction size : cs.length using Nat.strongRecOn generalizing cs with
  | ind length ih =>
      cases cs with
      | nil => rfl
      | cons c cs =>
          rw [List.length_cons] at size
          by_cases blank : isJsonBlank c = true
          · rw [scan_blank blank] at whole
            rw [List.cons_append, scan_blank blank, scan_blank blank,
              ih cs.length (by omega) whole rfl]
          · rw [Bool.not_eq_true] at blank
            rcases lexes : lexeme (c :: cs) with ⟨x, rest⟩
            have shorter := length_lexeme_le c cs
            rw [scan_cons blank, lexes] at whole
            rw [lexes] at shorter
            have sound : x ≠ .malformed := fun bad => whole.sound (bad ▸ List.mem_cons_self)
            have ends : rest ≠ [] ∨ ∀ n, x ≠ .numeral n := by
              cases rest with
              | nil => exact .inr fun n last => whole.ended n (by rw [last]; rfl)
              | cons c rest => exact .inl (List.cons_ne_nil c rest)
            rw [List.cons_append, scan_cons blank, scan_cons blank,
              lexeme_append lexes sound ends, lexes, List.cons_append,
              ih rest.length (Nat.lt_of_le_of_lt shorter (by omega)) whole.tail rfl]

section Reader

variable {room : Nat} {expect : Expect} {stack : List Frame} {lexemes rest : List Lexeme}
variable {value : Json}

theorem readFrom_append_behind (read : readFrom room expect stack lexemes = some (value, rest))
    (more : List Lexeme) :
    readFrom room expect stack (lexemes ++ more) = some (value, rest ++ more) := by
  induction lexemes generalizing expect stack with
  | nil => cases read
  | cons lexeme lexemes ih =>
      obtain ⟨reached, steps, goesOn⟩ := readFrom_cons_eq_some read
      rw [List.cons_append, readFrom_cons steps]
      cases reached with
      | more next outer => exact ih goesOn
      | complete value =>
          cases goesOn
          rfl

/-- A list or an object ends with its bracket. -/
theorem whole_of_readFrom (read : readFrom room expect stack lexemes = some (value, []))
    (closes : value.bracket? ≠ none) : Whole lexemes := by
  induction lexemes generalizing expect stack with
  | nil => cases read
  | cons lexeme lexemes ih =>
      obtain ⟨reached, steps, goesOn⟩ := readFrom_cons_eq_some read
      have sound : lexeme ≠ .malformed := by
        rintro rfl
        cases expect <;> cases steps
      cases reached with
      | more next outer =>
          obtain ⟨others, ended⟩ := ih goesOn
          refine ⟨?_, fun n last => ended n ?_⟩
          · simp [sound.symm, others]
          · cases lexemes with
            | nil => cases goesOn
            | cons next lexemes => rwa [List.getLast?_cons_cons] at last
      | complete value =>
          cases goesOn
          refine ⟨by simpa using sound.symm, fun n last => closes ?_⟩
          cases Option.some.inj last
          cases expect with
          | value =>
              obtain ⟨v, -, done⟩ := Option.map_eq_some_iff.mp steps
              cases stack with
              | nil =>
                  cases done
                  rfl
              | cons frame outer => cases frame <;> cases done
          | itemOrClose =>
              obtain ⟨v, -, done⟩ := Option.map_eq_some_iff.mp steps
              cases done
          | _ => cases steps

/-- How many lists and objects are open at once, where `depth` of them are open before. -/
def nestingFrom (depth : Nat) : List Lexeme → Nat
  | [] => depth
  | lexeme :: rest =>
    match openAfter depth lexeme with
    | some inside => max depth (nestingFrom inside rest)
    | none => depth

/-- How many lists and objects are written inside one another. -/
def nesting (text : String) : Nat :=
  nestingFrom 0 (scan text.toList)

theorem le_nestingFrom (depth : Nat) (lexemes : List Lexeme) : depth ≤ nestingFrom depth lexemes := by
  cases lexemes with
  | nil => exact Nat.le_refl _
  | cons lexeme rest =>
      rw [nestingFrom]
      split
      · exact Nat.le_max_left _ _
      · exact Nat.le_refl _

/-- A step needs room for the bracket that it opens, and for nothing else. -/
theorem readStep_of_room {lexeme : Lexeme} {reached : Reached} {other : Nat}
    (steps : readStep room expect stack lexeme = some reached)
    (space : room ≤ other ∨ reached.level ≤ other) :
    readStep other expect stack lexeme = some reached := by
  have begins : ∀ {stack : List Frame}, beginValue room stack lexeme = some reached →
      beginValue other stack lexeme = some reached := by
    intro stack begins
    cases lexeme with
    | openList | openObject =>
        simp only [beginValue] at begins ⊢
        split_ifs at begins with below
        cases begins
        rw [if_pos]
        simp only [Reached.level, Expect.frames, List.length_cons] at space
        omega
    | text s => cases s <;> exact begins
    | _ => exact begins
  cases expect with
  | value => exact begins steps
  | itemOrClose => cases lexeme <;> first | exact steps | exact begins steps
  | _ =>
      cases lexeme with
      | text s => cases s <;> exact steps
      | _ => exact steps

/-- A value is read with less room too, as long as it is nested no deeper than that. -/
theorem readFrom_of_room {other : Nat} {result : Json × List Lexeme}
    (read : readFrom room expect stack lexemes = some result)
    (space : room ≤ other ∨ nestingFrom (expect.frames stack).length lexemes ≤ other) :
    readFrom other expect stack lexemes = some result := by
  induction lexemes generalizing expect stack with
  | nil => cases read
  | cons lexeme lexemes ih =>
      obtain ⟨reached, steps, goesOn⟩ := readFrom_cons_eq_some read
      have inside : room ≤ other ∨ nestingFrom reached.level lexemes ≤ other := by
        refine space.imp_right fun shallow => ?_
        rw [nestingFrom, (keepsStep steps).level] at shallow
        exact Nat.le_trans (Nat.le_max_right _ _) shallow
      have same := readStep_of_room steps (inside.imp_right (Nat.le_trans (le_nestingFrom _ _)))
      rw [readFrom_cons same]
      cases reached with
      | more next outer => exact ih goesOn inside
      | complete value => exact goesOn

end Reader

/-! ## A value under a key -/

/-- The last entry with the key, in the object that the text is, is the text `value`. -/
def LastEntry (key value text : String) : Prop :=
  ∃ front back before after, text = front ++ value ++ back ∧
    entries (scan text.toList) = before ++ (key, scan (value ++ back).toList) :: after ∧
    key ∉ after.map Prod.fst

def underKey (key value : String) : String :=
  String.ofList ('\x7b' :: (quoted key ++ [':'])) ++ value ++ "\x7d"

section Keys

variable {room : Nat} {lexemes rest : List Lexeme} {value text key : String}
variable {inside document : Json} {members : Members}

theorem Holds.reads {entries : List Entry} {entry : Entry}
    (holds : Holds room rest entries lexemes) (among : entry ∈ entries) :
    ∃ behind, readValue room entry.lexemes = some (entry.value, behind) := by
  induction holds with
  | last reads =>
      rw [List.mem_singleton.mp among]
      exact ⟨_, reads⟩
  | more reads others ih =>
      rcases List.mem_cons.mp among with rfl | later
      · exact ⟨_, reads⟩
      · exact ih later

theorem Members.get?_putAll_of_last {entry : Entry} {after : List Entry}
    (last : entry.key ∉ after.map Entry.key) (before : List Entry) (members : Members) :
    (members.putAll (before ++ entry :: after)).get? entry.key = some entry.value := by
  rw [putAll, List.foldl_append, List.foldl_cons, ← putAll, get?_putAll_of_absent last,
    get?_put_self]

/-- The lexemes of a list or an object, whatever stands behind it. -/
theorem readValue_inside (alone : Json.read value = some inside) (closes : inside.bracket? ≠ none)
    (space : deepest ≤ room ∨ nesting value ≤ room) (back : List Char) :
    readValue room (scan (value.toList ++ back)) = some (inside, scan back) := by
  have read : readFrom deepest .value [] (scan value.toList) = some (inside, []) :=
    read_eq_some_iff.mp alone
  rw [scan_append (whole_of_readFrom read closes), readValue]
  exact readFrom_append_behind (readFrom_of_room read space) _

/-- The value of a key is the one that is written last, read as if it stood alone. -/
theorem get?_of_lastEntry (last : LastEntry key value text)
    (alone : Json.read value = some inside) (closes : inside.bracket? ≠ none)
    (whole : Json.read text = some (.object members)) : members.get? key = some inside := by
  obtain ⟨front, back, before, after, -, written, absent⟩ := last
  have reads := read_eq_some_iff.mp whole
  obtain ⟨lexemes, braced⟩ := begins_of_readValue reads
  rw [braced] at reads written
  rcases readValue_object reads with ⟨rfl, -⟩ | ⟨listed, holds, rfl⟩
  · simp [entries, entriesFrom, keyAt, openAfter] at written
  · rw [entries, entriesFrom_of_holds holds] at written
    obtain ⟨earlier, others, rfl, -, others_eq⟩ := List.map_eq_append_iff.mp written
    obtain ⟨entry, later, rfl, here, rfl⟩ := List.map_eq_cons_iff.mp others_eq
    obtain ⟨rfl, same⟩ := Prod.mk.inj here
    obtain ⟨behind, inner⟩ := holds.reads (List.mem_append_right _ List.mem_cons_self)
    have outer : readFrom deepest .value [] entry.lexemes = some (entry.value, behind) :=
      readFrom_of_room inner (.inl (by decide))
    rw [same, String.toList_append] at outer
    have found := (readValue_inside alone closes (.inl (Nat.le_refl _)) back.toList).symm.trans outer
    rw [Members.get?_putAll_of_last (by simpa [List.map_map] using absent),
      (Prod.mk.inj (Option.some.inj found)).1]

theorem scan_underKey (key value : String) :
    scan (underKey key value).toList =
      .openObject :: .text (some key) :: .colon :: scan (value ++ "\x7d").toList := by
  simp [underKey]

theorem read_underKey (alone : Json.read value = some inside) (closes : inside.bracket? ≠ none)
    (shallow : nesting value < deepest) (key : String) :
    Json.read (underKey key value) = some (.object [(key, inside)]) := by
  have room : nesting value ≤ deepest - 1 := Nat.le_sub_one_of_lt shallow
  have inner := readValue_inside alone closes (.inr room) "\x7d".toList
  have opens : readStep deepest .value [] .openObject = some (.more .keyOrClose []) := rfl
  have named : readStep deepest .keyOrClose [] (.text (some key)) =
      some (.more (.colon [] key) []) := rfl
  have assigned : readStep deepest (.colon [] key) [] .colon =
      some (.more .value [.member [] key]) := rfl
  have frames := readFrom_append (show [Frame.member [] key].length ≤ deepest by simp [deepest]) .value []
    (scan (value ++ "\x7d").toList)
  rw [List.nil_append, String.toList_append, List.length_singleton, ← readValue, inner] at frames
  rw [read_eq_some_iff, scan_underKey, readValue, readFrom_cons opens, proceed,
    readFrom_cons named, proceed, readFrom_cons assigned, proceed, String.toList_append, frames]
  rfl

theorem lastEntry_underKey (alone : Json.read value = some inside)
    (closes : inside.bracket? ≠ none) (key : String) :
    LastEntry key value (underKey key value) := by
  have reads := readValue_inside alone closes (.inl (Nat.le_refl _)) "\x7d".toList
  have behind := entriesFrom_of_readFrom reads (by decide)
  refine ⟨_, "\x7d", [], [], rfl, ?_, by simp⟩
  rw [Expect.frames, List.length_nil, ← String.toList_append] at behind
  rw [scan_underKey, entries]
  simp only [entriesFrom, keyAt, openAfter, behind]
  rfl

end Keys

end IndexExport.Json
