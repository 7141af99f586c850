import IndexExport.Proofs.Text.Splitting
import IndexExport.Url.Reading
import Mathlib.Data.List.Infix
import Mathlib.Data.List.TakeWhile
import Mathlib.Tactic.SplitIfs
/-!
# What is left to be read of an address

An address is read from left to right, so that each part leaves a suffix of the text to the next
one. A text without the marks of query and fragment has neither. Where there is such a mark, what
follows it changes nothing in the address up to there.
-/
set_option autoImplicit false

namespace IndexExport.Url

/-- No question mark and no number sign. -/
def Unmarked (cs : List Char) : Prop :=
  ∀ c ∈ cs, opensTail c = false

instance (cs : List Char) : Decidable (Unmarked cs) := List.decidableBAll _ _

theorem Unmarked.suffix {cs rest : List Char} (unmarked : Unmarked cs) (left : rest <:+ cs) :
    Unmarked rest :=
  fun c member => unmarked c (left.subset member)

/-- Neither query nor fragment. -/
def Tailless (url : Url) : Prop :=
  url.query = none ∧ url.fragment = none

theorem opensTail_cases {c : Char} (marks : opensTail c = true) : c = '?' ∨ c = '#' :=
  (Bool.or_eq_true_iff.mp marks).imp of_decide_eq_true of_decide_eq_true

theorem tail_nil (special : Bool) : tail special [] = (none, none) := rfl

/-! ## The authority -/

section Authority

variable {cs after rest userinfo before : List Char} {kind : SchemeKind} {number : Option Nat}
  {authority : Authority} {scheme : List Char} {url : Url} {toAscii : Host.ToAscii}

theorem splitHost_suffix (inBrackets : Bool) (cs : List Char) :
    (splitHost inBrackets cs).2 <:+ cs := by
  induction cs generalizing inBrackets with
  | nil => exact List.suffix_rfl
  | cons c rest ih =>
      rw [splitHost]
      split_ifs
      · exact List.suffix_rfl
      · exact (ih _).trans (List.suffix_cons c rest)
      · exact (ih _).trans (List.suffix_cons c rest)
      · exact (ih _).trans (List.suffix_cons c rest)

theorem splitAtLast_suffix (found : splitAtLast cs = some (before, after)) : after <:+ cs := by
  induction cs generalizing before after with
  | nil => cases found
  | cons c rest ih =>
      rw [splitAtLast] at found
      split at found
      · next front back later =>
        cases found
        exact (ih later).trans (List.suffix_cons c rest)
      · split_ifs at found
        cases found
        exact List.suffix_cons c rest

theorem readHostNumber_suffix (read : readHostNumber cs = .ok (number, rest)) : rest <:+ cs := by
  rw [readHostNumber.eq_def] at read
  split at read
  · next digits =>
    simp only [hostNumberDigits] at read
    split_ifs at read <;> cases read <;>
      exact (List.dropWhile_suffix _).trans (List.suffix_cons ':' digits)
  · cases read
    exact List.suffix_rfl

def readHost (toAscii : Host.ToAscii) (kind : SchemeKind) (cs : List Char) :
    Except Refusal (List Char) :=
  if kind.isSpecial then Host.special toAscii cs else Host.opaqueHost cs

/-- First the host is read, and then its number. -/
theorem readHostAndNumber_eq : readHostAndNumber toAscii kind userinfo cs after =
    (readHost toAscii kind (splitHost false cs).1).bind fun host =>
      if host = [] ∧ (splitHost false cs).2 ≠ [] then .error .emptyHost
      else (readHostNumber (splitHost false cs).2).bind fun numbered =>
        if host = [] ∧ userinfo ≠ [] then .error .emptyHost
        else .ok ⟨userinfo, host, unusualNumber kind numbered.1, numbered.2 ++ after⟩ := by
  rw [readHost]
  cases special : kind.isSpecial <;> simp only [readHostAndNumber, special] <;> rfl

theorem bind_eq_ok {α β : Type} {first : Except Refusal α} {next : α → Except Refusal β} {b : β}
    (read : first.bind next = .ok b) : ∃ a, first = .ok a ∧ next a = .ok b := by
  cases first with
  | error refusal => cases read
  | ok a => exact ⟨a, rfl, read⟩

theorem readHostAndNumber_rest
    (read : readHostAndNumber toAscii kind userinfo cs after = .ok authority) :
    ∃ rest, rest <:+ cs ∧ authority.rest = rest ++ after := by
  rw [readHostAndNumber_eq] at read
  obtain ⟨host, -, read⟩ := bind_eq_ok read
  obtain ⟨-, read⟩ := ite_eq_iff.mp read |>.resolve_left (by simp)
  obtain ⟨⟨number, rest⟩, numbered, read⟩ := bind_eq_ok read
  obtain ⟨-, read⟩ := ite_eq_iff.mp read |>.resolve_left (by simp)
  cases read
  exact ⟨rest, (readHostNumber_suffix numbered).trans (splitHost_suffix false cs), rfl⟩

/-- An authority is read up to its end, and host and number stand after the user. -/
theorem readAuthority_cases (read : readAuthority toAscii kind cs = .ok authority) :
    ∃ userinfo hostAndNumber,
      hostAndNumber <:+ (Text.breakAt (endsAuthority kind.isSpecial) cs).1 ∧
        readHostAndNumber toAscii kind userinfo hostAndNumber
          (Text.breakAt (endsAuthority kind.isSpecial) cs).2 = .ok authority := by
  rw [readAuthority] at read
  cases found : splitAtLast (Text.breakAt (endsAuthority kind.isSpecial) cs).1 with
  | none =>
      simp only [found] at read
      exact ⟨[], _, List.suffix_rfl, read⟩
  | some parts =>
      obtain ⟨user, hostAndNumber⟩ := parts
      simp only [found] at read
      obtain ⟨-, read⟩ := ite_eq_iff.mp read |>.resolve_left (by simp)
      exact ⟨_, _, splitAtLast_suffix found, read⟩

/-- The rest lies in the text, and nothing behind the end of the authority is lost. -/
theorem readAuthority_rest (read : readAuthority toAscii kind cs = .ok authority) :
    authority.rest <:+ cs ∧
      (Text.breakAt (endsAuthority kind.isSpecial) cs).2 <:+ authority.rest := by
  obtain ⟨userinfo, hostAndNumber, left, read⟩ := readAuthority_cases read
  obtain ⟨rest, inHost, eq⟩ := readHostAndNumber_rest read
  rw [eq]
  refine ⟨?_, List.suffix_append rest _⟩
  obtain ⟨front, whole⟩ := inHost.trans left
  refine ⟨front, ?_⟩
  rw [← List.append_assoc, whole]
  exact List.takeWhile_append_dropWhile

theorem withAuthority_of_unmarked (unmarked : Unmarked cs)
    (read : withAuthority toAscii kind scheme cs = .ok url) : url.Tailless ∧
      ∃ behind, (Text.breakAt (endsAuthority kind.isSpecial) cs).2 <:+ behind ∧ url.path =
        if behind = [] ∧ !kind.isSpecial then [] else absolutePath kind.isSpecial behind := by
  rw [withAuthority] at read
  cases given : readAuthority toAscii kind cs with
  | error refusal => rw [given] at read; cases read
  | ok authority =>
      rw [given] at read
      obtain ⟨left, kept⟩ := readAuthority_rest given
      cases read
      simp only [Text.breakAt_of_free (unmarked.suffix left), tail_nil]
      exact ⟨⟨rfl, rfl⟩, authority.rest, kept, rfl⟩

end Authority

/-! ## The whole -/

section Whole

variable {cs rest scheme host : List Char} {kind : SchemeKind} {url : Url} {text : String}
  {toAscii : Host.ToAscii}

theorem withoutAuthority_of_unmarked (scheme : List Char) (unmarked : Unmarked cs) :
    (withoutAuthority scheme cs).Tailless ∧
      (withoutAuthority scheme cs).path = absolutePath false cs := by
  simp only [withoutAuthority, Tailless, Text.breakAt_of_free unmarked, tail_nil, and_self]

theorem afterSeparator_suffix (special : Bool) (cs : List Char) :
    afterSeparator special cs <:+ cs := by
  cases cs with
  | nil => exact List.suffix_rfl
  | cons c rest =>
      rw [afterSeparator]
      split_ifs
      · exact List.suffix_cons c rest
      · exact List.suffix_rfl

/-- Behind no separator or one of them the rest follows at once; behind two of them a host is
looked for. -/
theorem fileHost_cases (read : fileHost toAscii cs = .ok (host, rest)) :
    rest = cs ∨
    (∃ a, isSeparator true a = true ∧ cs = a :: rest) ∨
    ∃ a b more, isSeparator true a = true ∧ isSeparator true b = true ∧ cs = a :: b :: more ∧
      (rest = more ∨ rest = (Text.breakAt (endsAuthority true) more).2 ∨
        rest = afterSeparator true (Text.breakAt (endsAuthority true) more).2) := by
  rw [fileHost.eq_def] at read
  split at read
  · cases read
    exact .inl rfl
  · next a =>
    cases read
    split_ifs with first
    · exact .inr (.inl ⟨a, first, rfl⟩)
    · exact .inl rfl
  · next a b more =>
    split_ifs at read with first second
    · cases read
      exact .inl rfl
    · rw [Bool.not_eq_true', Bool.not_eq_false] at first
      cases read
      exact .inr (.inl ⟨a, first, rfl⟩)
    · rw [Bool.not_eq_true', Bool.not_eq_false] at first second
      refine .inr (.inr ⟨a, b, more, first, second, rfl, ?_⟩)
      simp only at read
      split_ifs at read
      · cases read
        exact .inl rfl
      · cases read
        exact .inr (.inl rfl)
      · cases given : Host.special toAscii (Text.breakAt (endsAuthority true) more).1 with
        | error refusal => rw [given] at read; cases read
        | ok host' =>
            rw [given, Except.map] at read
            split_ifs at read <;> cases read
            · exact .inr (.inl rfl)
            · exact .inr (.inr rfl)

theorem fileHost_suffix (read : fileHost toAscii cs = .ok (host, rest)) : rest <:+ cs := by
  rcases fileHost_cases read with rfl | ⟨a, -, rfl⟩ | ⟨a, b, more, -, -, rfl, left⟩
  · exact List.suffix_rfl
  · exact List.suffix_cons a rest
  · have first : more <:+ a :: b :: more := List.suffix_append [a, b] more
    have name : (Text.breakAt (endsAuthority true) more).2 <:+ more := List.dropWhile_suffix _
    rcases left with rfl | rfl | rfl
    · exact first
    · exact name.trans first
    · exact ((afterSeparator_suffix true _).trans name).trans first

theorem ofFile_of_unmarked (unmarked : Unmarked cs) (read : ofFile toAscii scheme cs = .ok url) :
    url.Tailless ∧ ∃ host behind,
      fileHost toAscii cs = .ok (host, behind) ∧
        url.path = pathText (withoutEmptyStart (fileSegments behind)) := by
  rw [ofFile] at read
  cases given : fileHost toAscii cs with
  | error refusal => rw [given] at read; cases read
  | ok parts =>
      obtain ⟨host, behind⟩ := parts
      rw [given] at read
      cases read
      simp only [Text.breakAt_of_free (unmarked.suffix (fileHost_suffix given)), tail_nil]
      exact ⟨⟨rfl, rfl⟩, host, behind, rfl, rfl⟩

/-- A letter, and more characters of schemes. -/
def IsSchemeName (name : List Char) : Prop :=
  (∃ first more, name = first :: more ∧ first.isAlpha = true) ∧ ∀ c ∈ name, isSchemeChar c = true

theorem splitScheme_eq_some_iff : splitScheme cs = some (scheme, rest) ↔
    ∃ name, cs = name ++ ':' :: rest ∧ IsSchemeName name ∧ scheme = name.map Char.toLower := by
  constructor
  · intro split
    have whole : cs.takeWhile (fun c => !!isSchemeChar c) ++
      cs.dropWhile (fun c => !!isSchemeChar c) = cs := List.takeWhile_append_dropWhile
    have chars : ∀ c ∈ cs.takeWhile (fun c => !!isSchemeChar c), isSchemeChar c = true :=
      fun c member => by simpa using List.mem_takeWhile_imp member
    rw [splitScheme, Text.breakAt] at split
    split at split
    · next first more rest' parts =>
      obtain ⟨name, behind⟩ := Prod.mk.inj parts
      rw [name] at whole chars
      rw [behind] at whole
      obtain ⟨letter, same⟩ := ite_eq_iff.mp split |>.resolve_right (by simp)
      cases same
      exact ⟨_, whole.symm, ⟨⟨first, more, rfl, letter⟩, chars⟩, rfl⟩
    · cases split
  · rintro ⟨name, rfl, ⟨⟨first, more, rfl, letter⟩, chars⟩, rfl⟩
    have free : ∀ c ∈ first :: more, (!isSchemeChar c) = false := fun c member => by
      rw [chars c member]; rfl
    rw [splitScheme, Text.breakAt_append_cons free (by decide)]
    exact if_pos letter

/-- A slash ends the scheme at the latest. -/
theorem splitScheme_append_slash (cs rest : List Char) : splitScheme (cs ++ '/' :: rest) =
    (splitScheme cs).map fun parts => (parts.1, parts.2 ++ '/' :: rest) := by
  rw [splitScheme, Text.breakAt_append_stop (by decide), splitScheme]
  cases Text.breakAt (fun c => !isSchemeChar c) cs with
  | mk name behind =>
      cases name with
      | nil => rfl
      | cons first more =>
          cases behind with
          | nil => rfl
          | cons mark behind =>
              by_cases colon : mark = ':'
              · subst colon
                simp only [List.cons_append]
                split_ifs <;> rfl
              · simp [colon]

theorem counted_subset : counted cs ⊆ cs := by
  intro c member
  rw [counted] at member
  have inside := List.mem_reverse.mp (List.mem_of_mem_filter member)
  have inside := List.mem_reverse.mp ((List.dropWhile_suffix _).subset inside)
  exact (List.dropWhile_suffix _).subset inside

/-- What follows the scheme. -/
def readBehind (toAscii : Host.ToAscii) (kind : SchemeKind) (scheme rest : List Char) :
    Except Refusal Url :=
  match kind with
  | .special usual =>
    withAuthority toAscii (.special usual) scheme (rest.dropWhile (isSeparator true))
  | .file => ofFile toAscii scheme rest
  | .other => ofOther toAscii scheme rest

theorem read_eq (toAscii : Host.ToAscii) (text : String) : Url.read toAscii text =
    match splitScheme (counted text.toList) with
    | none => .error .noBase
    | some (scheme, rest) => readBehind toAscii (schemeKind scheme) scheme rest := rfl

theorem ofOther_slash {c : Char} (other : c ≠ '/') :
    ofOther toAscii scheme ('/' :: c :: rest) =
      .ok (withoutAuthority scheme ('/' :: c :: rest)) := by
  rw [ofOther]
  exact fun _ same => other (List.cons.inj same).1

theorem ofOther_opaque {c : Char} (other : c ≠ '/') :
    ofOther toAscii scheme (c :: rest) = .error .opaqueBase := by
  rw [ofOther]
  · exact fun _ same => other (List.cons.inj same).1
  · exact fun _ same => other (List.cons.inj same).1

theorem readBehind_of_unmarked (unmarked : Unmarked cs)
    (read : readBehind toAscii kind scheme cs = .ok url) : url.Tailless := by
  cases kind with
  | special usual =>
      exact (withAuthority_of_unmarked (unmarked.suffix (List.dropWhile_suffix _)) read).1
  | file => exact (ofFile_of_unmarked unmarked read).1
  | other =>
      rw [readBehind, ofOther.eq_def] at read
      split at read
      · next rest =>
        have left := List.suffix_append ['/', '/'] rest
        exact (withAuthority_of_unmarked (unmarked.suffix left) read).1
      · cases read
        exact (withoutAuthority_of_unmarked scheme unmarked).1
      · cases read

/-- Without a mark there is neither query nor fragment. -/
theorem read_of_unmarked (unmarked : Unmarked text.toList)
    (read : Url.read toAscii text = .ok url) : url.Tailless := by
  rw [read_eq] at read
  cases split : splitScheme (counted text.toList) with
  | none => rw [split] at read; cases read
  | some parts =>
      obtain ⟨scheme, rest⟩ := parts
      obtain ⟨name, whole, -, -⟩ := splitScheme_eq_some_iff.mp split
      have left : Unmarked (counted text.toList) := fun c member =>
        unmarked c (counted_subset member)
      rw [whole] at left
      rw [split] at read
      exact readBehind_of_unmarked
        (left.suffix ((List.suffix_cons ':' rest).trans (List.suffix_append name _))) read

end Whole

/-! ## What stands behind a mark

Nothing but query and fragment depends on it. -/

section Marked

/-- The address without query and fragment. -/
def bare (url : Url) : Url :=
  { url with query := none, fragment := none }

variable {kind : SchemeKind} {scheme : List Char} {mark : Char} {toAscii : Host.ToAscii}

theorem readHostAndNumber_append (userinfo cs after more : List Char) :
    readHostAndNumber toAscii kind userinfo cs (after ++ more) =
      (readHostAndNumber toAscii kind userinfo cs after).map fun authority =>
        { authority with rest := authority.rest ++ more } := by
  rw [readHostAndNumber_eq, readHostAndNumber_eq]
  cases readHost toAscii kind (splitHost false cs).1 with
  | error refusal => rfl
  | ok host =>
      by_cases hostless : host = [] ∧ (splitHost false cs).2 ≠ []
      · simp only [Except.bind, if_pos hostless, Except.map]
      · simp only [Except.bind, if_neg hostless]
        cases readHostNumber (splitHost false cs).2 with
        | error refusal => rfl
        | ok numbered =>
            by_cases userOnly : host = [] ∧ userinfo ≠ []
            · simp only [if_pos userOnly, Except.map]
            · simp only [if_neg userOnly, Except.map, List.append_assoc]

theorem readAuthority_append_mark (toAscii : Host.ToAscii) (kind : SchemeKind)
    (marks : opensTail mark = true) (cs : List Char) :
    ∃ known : Except Refusal Authority, ∀ rest, readAuthority toAscii kind (cs ++ mark :: rest) =
      known.map fun authority => { authority with rest := authority.rest ++ mark :: rest } := by
  have stops : endsAuthority kind.isSpecial mark = true := by
    rw [endsAuthority, marks, Bool.or_true]
  cases found : splitAtLast (Text.breakAt (endsAuthority kind.isSpecial) cs).1 with
  | none =>
      refine ⟨readHostAndNumber toAscii kind [] (Text.breakAt (endsAuthority kind.isSpecial) cs).1
        (Text.breakAt (endsAuthority kind.isSpecial) cs).2, fun rest => ?_⟩
      rw [readAuthority, Text.breakAt_append_stop stops]
      simp only [found]
      exact readHostAndNumber_append _ _ _ _
  | some parts =>
      obtain ⟨user, hostAndNumber⟩ := parts
      by_cases empty : user = [] ∧ hostAndNumber = []
      · refine ⟨.error .emptyHost, fun rest => ?_⟩
        rw [readAuthority, Text.breakAt_append_stop stops]
        simp only [found]
        rw [if_pos ⟨empty.1, empty.2, by simp⟩]
        rfl
      · refine ⟨readHostAndNumber toAscii kind (writtenUserinfo user) hostAndNumber
          (Text.breakAt (endsAuthority kind.isSpecial) cs).2, fun rest => ?_⟩
        rw [readAuthority, Text.breakAt_append_stop stops]
        simp only [found]
        rw [if_neg fun all => empty ⟨all.1, all.2.1⟩]
        exact readHostAndNumber_append _ _ _ _

theorem withAuthority_bare (marks : opensTail mark = true) (cs rest other : List Char) :
    (withAuthority toAscii kind scheme (cs ++ mark :: rest)).map bare =
      (withAuthority toAscii kind scheme (cs ++ mark :: other)).map bare := by
  obtain ⟨known, reads⟩ := readAuthority_append_mark toAscii kind marks cs
  rw [withAuthority, withAuthority, reads rest, reads other]
  cases known with
  | error refusal => rfl
  | ok authority => simp only [Except.map, bare, Text.breakAt_append_stop marks]

theorem withoutAuthority_bare (marks : opensTail mark = true) (cs rest other : List Char) :
    (withoutAuthority scheme (cs ++ mark :: rest)).bare =
      (withoutAuthority scheme (cs ++ mark :: other)).bare := by
  simp only [withoutAuthority, bare, Text.breakAt_append_stop marks]

theorem afterSeparator_append_stop {special : Bool} (stops : isSeparator special mark = false)
    (cs rest : List Char) :
    afterSeparator special (cs ++ mark :: rest) = afterSeparator special cs ++ mark :: rest := by
  cases cs with
  | nil => exact if_neg (ne_true_of_eq_false stops)
  | cons c cs =>
      rw [List.cons_append, afterSeparator, afterSeparator]
      split_ifs <;> rfl

theorem isSeparator_of_mark (marks : opensTail mark = true) : isSeparator true mark = false := by
  rcases opensTail_cases marks with rfl | rfl <;> rfl

theorem fileHost_of_plain {c : Char} (plain : isSeparator true c = false) (rest : List Char) :
    fileHost toAscii (c :: rest) = .ok ([], c :: rest) := by
  cases rest with
  | nil => rw [fileHost, if_neg (ne_true_of_eq_false plain)]
  | cons d rest => rw [fileHost, plain]; rfl

theorem fileHost_append_mark (toAscii : Host.ToAscii) (marks : opensTail mark = true)
    (cs : List Char) : ∃ known : Except Refusal (List Char × List Char), ∀ rest,
      fileHost toAscii (cs ++ mark :: rest) =
      known.map fun given => (given.1, given.2 ++ mark :: rest) := by
  have plain := isSeparator_of_mark marks
  have stops : endsAuthority true mark = true := by rw [endsAuthority, marks, Bool.or_true]
  match cs with
  | [] => exact ⟨.ok ([], []), fileHost_of_plain plain⟩
  | [a] =>
      cases first : isSeparator true a with
      | false => exact ⟨.ok ([], [a]), fun rest => fileHost_of_plain first _⟩
      | true =>
          refine ⟨.ok ([], []), fun rest => ?_⟩
          rw [List.singleton_append, fileHost, first, plain]
          rfl
  | a :: b :: cs =>
      cases first : isSeparator true a with
      | false => exact ⟨.ok ([], a :: b :: cs), fun rest => fileHost_of_plain first _⟩
      | true =>
          cases second : isSeparator true b with
          | false =>
              refine ⟨.ok ([], b :: cs), fun rest => ?_⟩
              rw [List.cons_append, List.cons_append, fileHost, first, second]
              rfl
          | true =>
              refine ⟨fileHost toAscii (a :: b :: cs), fun rest => ?_⟩
              rw [List.cons_append, List.cons_append, fileHost, fileHost, first, second]
              simp only [Text.breakAt_append_stop stops, afterSeparator_append_stop plain]
              simp only [Bool.not_true, Bool.false_eq_true, if_false]
              split_ifs
              · rfl
              · rfl
              · cases Host.special toAscii (Text.breakAt (endsAuthority true) cs).1 with
                | error refusal => rfl
                | ok host =>
                    simp only [Except.map]
                    split_ifs <;> rfl

theorem ofFile_bare (marks : opensTail mark = true) (cs rest other : List Char) :
    (ofFile toAscii scheme (cs ++ mark :: rest)).map bare =
      (ofFile toAscii scheme (cs ++ mark :: other)).map bare := by
  obtain ⟨known, reads⟩ := fileHost_append_mark toAscii marks cs
  rw [ofFile, ofFile, reads rest, reads other]
  cases known with
  | error refusal => rfl
  | ok given => simp only [Except.map, bare, Text.breakAt_append_stop marks]

theorem ofOther_bare (marks : opensTail mark = true) (cs rest other : List Char) :
    (ofOther toAscii scheme (cs ++ mark :: rest)).map bare =
      (ofOther toAscii scheme (cs ++ mark :: other)).map bare := by
  have noSlash : mark ≠ '/' := by
    rintro rfl
    cases marks
  match cs with
  | [] => rw [List.nil_append, ofOther_opaque noSlash, List.nil_append, ofOther_opaque noSlash]
  | a :: cs =>
      by_cases first : a = '/'
      · subst first
        match cs with
        | [] =>
            rw [List.singleton_append, List.singleton_append, ofOther_slash noSlash,
              ofOther_slash noSlash]
            exact congrArg Except.ok (withoutAuthority_bare marks ['/'] rest other)
        | b :: cs =>
            by_cases second : b = '/'
            · subst second
              exact withAuthority_bare marks cs rest other
            · rw [List.cons_append, List.cons_append, List.cons_append, List.cons_append,
                ofOther_slash second, ofOther_slash second]
              exact congrArg Except.ok (withoutAuthority_bare marks ('/' :: b :: cs) rest other)
      · rw [List.cons_append, List.cons_append, ofOther_opaque first, ofOther_opaque first]

/-- Up to query and fragment the address does not depend on what follows a mark. -/
theorem readBehind_bare (marks : opensTail mark = true) (cs rest other : List Char) :
    (readBehind toAscii kind scheme (cs ++ mark :: rest)).map bare =
      (readBehind toAscii kind scheme (cs ++ mark :: other)).map bare := by
  cases kind with
  | special usual =>
      simp only [readBehind, Text.dropWhile_append_stop _ (isSeparator_of_mark marks)]
      exact withAuthority_bare marks _ rest other
  | file => exact ofFile_bare marks cs rest other
  | other => exact ofOther_bare marks cs rest other

end Marked

end IndexExport.Url
