import IndexExport.Proofs.Url.Form
import IndexExport.Url.Host
/-!
# Domains in ASCII

How a domain is put into ASCII is handed in from outside. All that is asked of it is that it
leaves a name of small letters alone, as the tables of UTS 46 do. `asciiOnly`, which knows no
tables, does so too.
-/
set_option autoImplicit false

namespace IndexExport.Url

theorem percentDecode_of_free {cs : List Char} (free : ∀ c ∈ cs, c ≠ '%') :
    percentDecode cs = cs.flatMap String.utf8EncodeChar := by
  induction cs with
  | nil => rfl
  | cons c rest ih =>
      rw [percentDecode_cons (free c List.mem_cons_self),
        ih fun other member => free other (List.mem_cons_of_mem _ member), List.flatMap_cons]

namespace Host

/-- A name of small letters is ASCII already. -/
def KeepsLetters (toAscii : ToAscii) : Prop :=
  ∀ name : List Char, name ≠ [] → (∀ c ∈ name, c.isLower = true) →
    toAscii (name.flatMap String.utf8EncodeChar) = some name

/-- Small letters have no meaning in a domain and no other form, and end no label. -/
structure Letter (c : Char) : Prop where
  ascii : c.toNat < 0x80
  allowed : isForbiddenInDomain c = false
  lower : c.toLower = c
  noDot : c ≠ '.'
  noDash : c ≠ '-'

theorem letter_of_isLower {c : Char} (small : c.isLower = true) : Letter c := by
  have each : ∀ n < 123, 97 ≤ n → isForbiddenInDomain (Char.ofNat n) = false ∧
      (Char.ofNat n).toLower = Char.ofNat n ∧ Char.ofNat n ≠ '.' ∧ Char.ofNat n ≠ '-' := by
    decide
  obtain ⟨first, last⟩ : 97 ≤ c.toNat ∧ c.toNat ≤ 122 := by
    have range : (decide (c.val ≥ 'a'.val) && decide (c.val ≤ 'z'.val)) = true := small
    rw [Bool.and_eq_true, decide_eq_true_iff, decide_eq_true_iff] at range
    exact range
  have here := each c.toNat (by omega) first
  rw [Char.ofNat_toNat] at here
  obtain ⟨allowed, lower, noDot, noDash⟩ := here
  exact ⟨by omega, allowed, lower, noDot, noDash⟩

theorem asciiOnly_keepsLetters : KeepsLetters asciiOnly := by
  intro name some small
  have letter := fun c member => letter_of_isLower (small c member)
  have lowered : name.map Char.toLower = name := by
    rw [List.map_congr_left fun c member => (letter c member).lower, List.map_id']
  have whole : Text.splitBy (· = '.') name = [name] :=
    Text.splitBy_of_uncut fun c member => decide_eq_false (letter c member).noDot
  have uncoded : isEncodedLabel name = false := by
    rw [isEncodedLabel, ← Bool.not_eq_true, List.isPrefixOf_iff_prefix]
    intro coded
    have dash : '-' ∈ name := coded.subset (List.mem_of_elem_eq_true rfl)
    exact (letter '-' dash).noDash rfl
  have allowed : (name.any fun c => c.toNat ≥ 0x80 || isForbiddenInDomain c) = false := by
    rw [List.any_eq_false]
    intro c member
    have ascii : ¬c.toNat ≥ 0x80 := Nat.not_le.mpr (letter c member).ascii
    simp [ascii, (letter c member).allowed]
  have plain : (Text.splitBy (· = '.') name).any isEncodedLabel = false := by
    rw [whole, List.any_cons, uncoded, List.any_nil, Bool.or_false]
  rw [asciiOnly, Text.utf8?_encoded]
  simp only [Option.bind_eq_bind, Option.bind_some, lowered, allowed, plain, Bool.or_self,
    Bool.false_eq_true, if_false]

end Host

end IndexExport.Url
