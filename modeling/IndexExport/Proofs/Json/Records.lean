import IndexExport.Json.Record
import IndexExport.Proofs.Json.Reading
/-!
# What the fields of a record satisfy

Whatever the values read for the two fields always satisfy, the fields of a record do, whether
it is written as an object or as a list and whatever else stands in the object. The lemmas go
through the parts of the reading in the order in which they are made of one another.
-/
set_option autoImplicit false

namespace IndexExport.Json

/-- What is read satisfies `P`, whatever it is read from. -/
def Yields {α : Type} (read : Reading α) (P : α → Prop) : Prop :=
  ∀ lexemes value rest, read lexemes = .ok (value, rest) → P value

section Yields

variable {α γ : Type} {read : Reading α} {P : α → Prop}

theorem Yields.of_map (yields : Yields read P) {f : α → γ} {lexemes rest : List Lexeme}
    {result : γ}
    (found : (read lexemes).map (fun (value, rest) => (f value, rest)) = .ok (result, rest)) :
    ∃ value, P value ∧ result = f value := by
  cases reads : read lexemes with
  | error trouble =>
      rw [reads] at found
      cases found
  | ok pair =>
      rw [reads] at found
      cases found
      exact ⟨pair.1, yields lexemes _ _ reads, rfl⟩

theorem yields_orNull (yields : Yields read P) :
    Yields (orNull read) fun value => ∀ v ∈ value, P v := by
  intro lexemes value rest found
  rw [orNull.eq_def] at found
  split at found
  · cases found
    simp
  · obtain ⟨v, holds, rfl⟩ := yields.of_map found
    simpa using holds

theorem yields_afterColon (yields : Yields read P) : Yields (Record.afterColon read) P := by
  intro lexemes value rest found
  rw [Record.afterColon.eq_def] at found
  split at found
  · exact yields _ _ _ found
  · cases found

end Yields

theorem yields_readAny (room : Nat) : Yields (readAny room) (Fits room 0) := by
  intro lexemes value rest found
  rw [readAny] at found
  split at found
  · next read =>
    cases found
    exact fits_of_readValue read
  · cases found

namespace Record

variable {α β : Type} {P : α → Prop} {Q : β → Prop} {r : Record α β}

/-- The fields that are there satisfy `P` and `Q`. -/
def Fields (P : α → Prop) (Q : β → Prop) (fields : Option α × Option β) : Prop :=
  (∀ v ∈ fields.1, P v) ∧ ∀ v ∈ fields.2, Q v

theorem fields_none : Fields P Q (none, none) := by
  simp [Fields]

theorem yields_readMember (first : Yields r.readFirst P) (second : Yields r.readSecond Q)
    {seen : Seen α β} (so_far : Fields P Q seen.values) :
    Yields (r.readMember seen) fun more => Fields P Q more.values := by
  intro lexemes more rest found
  rw [readMember.eq_def] at found
  split at found
  · split at found
    · split at found
      · cases found
      · obtain ⟨value, holds, rfl⟩ := (yields_afterColon (yields_orNull first)).of_map
          (f := fun value => { seen with first := some value }) found
        exact ⟨holds, so_far.2⟩
    · split at found
      · split at found
        · cases found
        · obtain ⟨value, holds, rfl⟩ := (yields_afterColon (yields_orNull second)).of_map
            (f := fun value => { seen with second := some value }) found
          exact ⟨so_far.1, holds⟩
      · have passes : Yields passOver fun _ => True := fun _ _ _ _ => trivial
        obtain ⟨-, -, rfl⟩ := (yields_afterColon passes).of_map (f := fun _ => seen) found
        exact so_far
  · cases found

/-- By induction on the fuel. -/
theorem yields_readMembers (first : Yields r.readFirst P) (second : Yields r.readSecond Q)
    (fuel : Nat) {seen : Seen α β} (so_far : Fields P Q seen.values) :
    Yields (r.readMembers fuel seen) fun more => Fields P Q more.values := by
  intro lexemes final rest found
  induction fuel generalizing seen lexemes with
  | zero => cases found
  | succ fuel ih =>
      rw [readMembers] at found
      split at found
      · cases found
      · next one => exact ih (yields_readMember first second so_far _ _ _ one) _ found
      · next one =>
        cases found
        exact yields_readMember first second so_far _ _ _ one
      · cases found

theorem yields_readObject (first : Yields r.readFirst P) (second : Yields r.readSecond Q) :
    Yields r.readObject (Fields P Q) := by
  intro lexemes fields rest found
  rw [readObject.eq_def] at found
  split at found
  · cases found
    exact fields_none
  · obtain ⟨seen, holds, rfl⟩ := (yields_readMembers first second _ fields_none).of_map found
    exact holds

theorem yields_readSecondItem (second : Yields r.readSecond Q) {value : Option α}
    (holds : ∀ v ∈ value, P v) : Yields (r.readSecondItem value) (Fields P Q) := by
  intro lexemes fields rest found
  rw [readSecondItem.eq_def] at found
  split at found
  · cases found
    exact ⟨holds, by simp⟩
  · split at found
    · cases found
    · next one =>
      cases found
      exact ⟨holds, yields_orNull second _ _ _ one⟩
    · cases found
  · cases found

theorem yields_readList (first : Yields r.readFirst P) (second : Yields r.readSecond Q) :
    Yields r.readList (Fields P Q) := by
  intro lexemes fields rest found
  rw [readList.eq_def] at found
  split at found
  · cases found
    exact fields_none
  · split at found
    · cases found
    · next one => exact yields_readSecondItem second (yields_orNull first _ _ _ one) _ _ _ found

theorem yields_read (first : Yields r.readFirst P) (second : Yields r.readSecond Q) :
    Yields r.read (Fields P Q) := by
  intro lexemes fields rest found
  rw [read.eq_def] at found
  split at found
  · exact yields_readObject first second _ _ _ found
  · exact yields_readList first second _ _ _ found
  · cases found

end Record

end IndexExport.Json
