import IndexExport.Proofs.Storage.Writing
import Mathlib.Data.List.DropRight
/-!
# Making directories

Making a directory, with those above it that are missing, adds directories where nothing stood
and does nothing else, also where it fails on the way. Each new directory is one that an initial
part of the path leads to: the paths above a path are initial parts of it, and a walk leads to
the same place when more directories are there.
-/
set_option autoImplicit false

namespace IndexExport.Storage

/-! ## The paths above a path -/

theorem pieces_ofPieces {ps : List String} (some : ps ≠ [])
    (plain : ∀ p ∈ ps, ∀ c ∈ p.toList, c ≠ '/') : pieces (ofPieces ps) = ps := by
  have uncut : ∀ piece ∈ ps.map String.toList, ∀ c ∈ piece, decide (c = '/') = false := by
    simpa using plain
  have slash : "/".toList = ['/'] := rfl
  rw [pieces, ofPieces, String.toList_intercalate, slash, Text.intercalate_eq_joinWith,
    Text.splitBy_joinWith (by simp) (by simpa using some) uncut, List.map_map]
  simp

theorem plain_of_mem_pieces {path p : String} (member : p ∈ pieces path) :
    ∀ c ∈ p.toList, c ≠ '/' := by
  obtain ⟨piece, among, rfl⟩ := List.mem_map.mp member
  rw [String.toList_ofList]
  intro c inside
  simpa using Text.uncut_of_mem_splitBy among c inside

theorem dropVoidEnd_isPrefix (ps : List String) : dropVoidEnd ps <+: ps := by
  cases ps with
  | nil => exact List.prefix_rfl
  | cons first rest =>
      rw [dropVoidEnd, List.prefix_cons_inj]
      exact List.rdropWhile_prefix isVoid rest

/-- Except for the empty path and the root. -/
theorem pieces_isPrefix_of_parent? {path shorter : String} (cuts : parent? path = some shorter)
    (named : shorter ≠ "") (below : parent? shorter ≠ none) : pieces shorter <+: pieces path := by
  rw [parent?.eq_def] at cuts
  split at cuts
  · cases cuts
  · split at cuts
    · cases cuts
    · cases cuts
      exact absurd rfl named
  · next first rest _ whole =>
    have part : dropVoidEnd (first :: rest.dropLast) <+: pieces path := by
      have shortened : first :: rest.dropLast <+: first :: rest :=
        (List.prefix_cons_inj first).mpr rest.dropLast_prefix
      rw [← whole] at shortened
      exact ((dropVoidEnd_isPrefix _).trans shortened).trans (dropVoidEnd_isPrefix _)
    split at cuts
    · cases cuts
      exact absurd (by rfl) below
    · cases cuts
      rw [pieces_ofPieces]
      · exact part
      · simp [dropVoidEnd]
      · intro p member
        exact plain_of_mem_pieces (part.subset member)

theorem pieces_isPrefix_of_mem_above {fuel : Nat} {path higher : String}
    (member : higher ∈ above fuel path) : pieces higher <+: pieces path := by
  induction fuel generalizing path with
  | zero => cases member
  | succ fuel ih =>
      rw [above] at member
      split at member
      · cases member
      · next shorter cuts =>
        split at member
        · cases member
        · next between =>
          rw [not_or] at between
          have part := pieces_isPrefix_of_parent? cuts between.1 between.2
          rcases List.mem_cons.mp member with rfl | later
          · exact part
          · exact (ih later).trans part

theorem pieces_isPrefix_of_mem_lineage {path higher : String} (member : higher ∈ lineage path) :
    pieces higher <+: pieces path := by
  rcases List.mem_cons.mp member with rfl | above
  · exact List.prefix_rfl
  · exact pieces_isPrefix_of_mem_above above

namespace Tree

/-! ## Added directories -/

/-- What stands in `before` stands in `after`. -/
def Keeps (before after : Tree) : Prop :=
  ∀ place entry, before.at? place = some entry → after.at? place = some entry

/-- Where `after` differs from `before`, nothing stood, and a directory stands that some of the
first pieces of a path lead to. -/
def Grown (ps : List String) (before after : Tree) : Prop :=
  ∀ place, after.at? place ≠ before.at? place →
    before.at? place = none ∧ after.at? place = some .directory ∧
      ∃ first, first <+: ps ∧ after.walk [] first = .ok place

section Growing

variable {tree more before between after : Tree} {place start stop : Place} {ps : List String}

theorem isDirectoryAt_iff : tree.isDirectoryAt place = true ↔ tree.at? place = some .directory := by
  rw [isDirectoryAt, decide_eq_true_eq]

theorem Keeps.stepInto (keeps : Keeps before after) {piece : String}
    (steps : before.stepInto start piece = .ok stop) : after.stepInto start piece = .ok stop := by
  rw [Tree.stepInto] at steps ⊢
  split_ifs at steps with noDirectory void above tooLong there
  all_goals
    have seated : after.isDirectoryAt start = true := by
      rw [Bool.not_eq_true, Bool.not_eq_false', isDirectoryAt_iff] at noDirectory
      exact isDirectoryAt_iff.mpr (keeps start _ noDirectory)
  · simpa [seated, void] using steps
  · simpa [seated, above, isVoid] using steps
  · obtain ⟨entry, stands⟩ := Option.isSome_iff_exists.mp there
    simpa [seated, void, above, tooLong, keeps _ _ stands] using steps

theorem Keeps.walk (keeps : Keeps before after)
    (walks : before.walk start ps = .ok stop) : after.walk start ps = .ok stop := by
  induction ps generalizing start with
  | nil => exact walks
  | cons piece rest ih =>
      rw [Tree.walk] at walks ⊢
      cases steps : before.stepInto start piece with
      | error cause =>
          rw [steps] at walks
          cases walks
      | ok next =>
          rw [steps] at walks
          rw [keeps.stepInto steps]
          exact ih walks

theorem Grown.keeps (grown : Grown ps before after) : Keeps before after := by
  intro place entry stands
  by_cases same : after.at? place = before.at? place
  · rw [same, stands]
  · obtain ⟨free, -, -⟩ := grown place same
    rw [stands] at free
    cases free

theorem Grown.refl (ps : List String) (tree : Tree) : Grown ps tree tree :=
  fun _ differs => absurd rfl differs

theorem Grown.mono {longer : List String} (grown : Grown ps before after) (part : ps <+: longer) :
    Grown longer before after := by
  intro place differs
  obtain ⟨free, made, first, initial, walks⟩ := grown place differs
  exact ⟨free, made, first, initial.trans part, walks⟩

theorem Grown.trans (grown : Grown ps before between) (later : Grown ps between after) :
    Grown ps before after := by
  intro place differs
  by_cases same : between.at? place = before.at? place
  · rw [← same] at differs ⊢
    exact later place differs
  · obtain ⟨free, made, first, part, walks⟩ := grown place same
    exact ⟨free, later.keeps place _ made, first, part, later.keeps.walk walks⟩

/-- No file is made, changed or removed. -/
theorem Grown.file_iff (grown : Grown ps before after) (place : Place) (content : Content) :
    after.at? place = some (.file content) ↔ before.at? place = some (.file content) := by
  by_cases same : after.at? place = before.at? place
  · rw [same]
  · obtain ⟨free, made, -⟩ := grown place same
    simp [free, made]

/-! ## Making directories -/

theorem keeps_put_directory (free : tree.at? place = none) :
    Keeps tree (tree.put place .directory) := by
  intro other entry stands
  have apart : other ≠ place := by
    rintro rfl
    rw [stands] at free
    cases free
  rw [at?_put_other apart, stands]

theorem grown_of_makeDirectory {path : String} (made : tree.makeDirectory path = .ok more) :
    Grown (pieces path) tree more := by
  rw [makeDirectory] at made
  cases leads : tree.target path with
  | error cause =>
      rw [leads] at made
      cases made
  | ok target =>
      cases target with
      | dots =>
          rw [leads] at made
          cases made
      | name place endsWithSlash =>
          simp only [leads] at made
          split_ifs at made with tooLong there
          cases made
          obtain ⟨before, last, directory, part, -, walks, seated, named, noDot, noDots, rfl⟩ :=
            target_eq_name leads
          have free : tree.at? (directory ++ [last]) = none := by simpa using there
          have keeps := keeps_put_directory free
          have stands : (tree.put (directory ++ [last]) .directory).at? (directory ++ [last]) =
              some .directory := at?_put_self (by simp) _
          intro other differs
          have here : other = directory ++ [last] := by
            by_contra apart
            exact differs (at?_put_other apart _)
          subst here
          refine ⟨free, stands, before ++ [last], part, ?_⟩
          have seatedStill := isDirectoryAt_iff.mpr (keeps _ _ (isDirectoryAt_iff.mp seated))
          have short : ¬ longestName < last.utf8ByteSize := by simpa [nameTooLong] using tooLong
          rw [walk_append (keeps.walk walks), Tree.walk, Tree.stepInto]
          simp [seatedStill, isVoid, named, noDot, noDots, short, stands, Tree.walk]

theorem grown_of_attempt {path : String} (made : tree.attempt path = .done more) :
    Grown (pieces path) tree more := by
  rw [attempt] at made
  split at made
  · next new =>
    cases made
    exact grown_of_makeDirectory new
  · cases made
  · split at made
    · cases made
      exact .refl _ _
    · cases made
  · cases made

/-- By induction on the paths, the lowest first. -/
theorem grown_of_climb {missing paths left : List String}
    (parts : ∀ path ∈ missing ++ paths, pieces path <+: ps)
    (climbs : tree.climb missing paths = .ok (more, left)) :
    Grown ps tree more ∧ ∀ path ∈ left, pieces path <+: ps := by
  induction paths generalizing missing with
  | nil =>
      cases climbs
      exact ⟨.refl _ _, by simpa using parts⟩
  | cons path rest ih =>
      rw [climb] at climbs
      split at climbs
      · next made =>
        cases climbs
        exact ⟨(grown_of_attempt made).mono (parts path (by simp)), fun path member =>
          parts path (List.mem_append_left _ member)⟩
      · refine ih ?_ climbs
        intro other member
        exact parts other (by simp at member ⊢; tauto)
      · cases climbs

theorem grown_descend {paths : List String} (parts : ∀ path ∈ paths, pieces path <+: ps) :
    Grown ps tree (tree.descend paths).1 := by
  induction paths generalizing tree with
  | nil => exact .refl _ _
  | cons path rest ih =>
      rw [descend]
      split
      · next made =>
        exact ((grown_of_attempt made).mono (parts path List.mem_cons_self)).trans
          (ih fun other member => parts other (List.mem_cons_of_mem _ member))
      · exact .refl _ _
      · exact .refl _ _

/-- Whether or not all of them could be made. -/
theorem grown_makeDirectories (tree : Tree) (path : String) :
    Grown (pieces path) tree (tree.makeDirectories path).1 := by
  rw [makeDirectories]
  split
  · exact .refl _ _
  · split
    · exact .refl _ _
    · next climbs =>
      have parts : ∀ higher ∈ [] ++ lineage path, pieces higher <+: pieces path :=
        fun _ member => pieces_isPrefix_of_mem_lineage member
      obtain ⟨grown, left⟩ := grown_of_climb parts climbs
      exact grown.trans (grown_descend left)

end Growing

end Tree

end IndexExport.Storage
