import IndexExport.Proofs.Text.Splitting
import IndexExport.Storage.Tree
import Mathlib.Tactic.SplitIfs
/-!
# Writing a file into a tree

A file that is written stands at one place, can be read back by the path that it was written
to, and leaves every other place as it was. A path that could be opened for writing before
can still be opened after, and leads to the same place: a new file never stands in the way
of a directory.
-/
set_option autoImplicit false

namespace IndexExport.Storage

/-! ## The pieces of a path -/

/-- A name without slashes is the last piece of its path. -/
theorem getLast?_pieces_join {name : String} (plain : ∀ c ∈ name.toList, c ≠ '/')
    (directory : String) : (pieces (join directory name)).getLast? = some name := by
  have alone : Text.splitBy (· = '/') name.toList = [name.toList] := by
    apply Text.splitBy_of_uncut
    intro c member
    simpa using plain c member
  have after : ∀ before : List Char,
      ((Text.splitBy (· = '/') (before ++ '/' :: name.toList)).map String.ofList).getLast? =
        some name := by
    intro before
    rw [Text.splitBy_append_cut (by simp), alone]
    simp
  rw [join, pieces]
  split
  · next ends =>
      rcases ends with rfl | ends
      · simp [alone]
      · obtain ⟨before, chars⟩ := List.getLast?_eq_some_iff.mp ends
        rw [String.toList_append, chars, List.append_assoc, List.singleton_append]
        exact after before
  · rw [String.toList_append, String.toList_append]
    have slash : "/".toList = ['/'] := rfl
    rw [slash, List.append_assoc, List.singleton_append]
    exact after directory.toList

namespace Tree

variable {tree : Tree} {place : Place}

/-! ## One place -/

theorem entryAt_putEntry_self (place : Place) (entry : Entry) (entries : List (Place × Entry)) :
    entryAt place (putEntry place entry entries) = some entry := by
  induction entries with
  | nil => simp [putEntry, entryAt]
  | cons first rest ih =>
      obtain ⟨p, e⟩ := first
      by_cases same : p = place <;> simp [putEntry, entryAt, same, ih]

theorem entryAt_putEntry_other {place other : Place} (differ : other ≠ place) (entry : Entry)
    (entries : List (Place × Entry)) :
    entryAt other (putEntry place entry entries) = entryAt other entries := by
  induction entries with
  | nil => simp [putEntry, entryAt, differ.symm]
  | cons first rest ih =>
      obtain ⟨p, e⟩ := first
      by_cases same : p = place
      · subst same
        simp [putEntry, entryAt, differ.symm]
      · rw [putEntry, if_neg same, entryAt, entryAt, ih]

theorem at?_put_self (below : place ≠ []) (entry : Entry) :
    (tree.put place entry).at? place = some entry := by
  rw [at?, if_neg below]
  exact entryAt_putEntry_self place entry tree.entries

theorem at?_put_other {other : Place} (differ : other ≠ place) (entry : Entry) :
    (tree.put place entry).at? other = tree.at? other := by
  rw [at?, at?]
  split
  · rfl
  · exact entryAt_putEntry_other differ entry tree.entries

theorem ne_root_of_not_directory (free : tree.isDirectoryAt place = false) : place ≠ [] := by
  rintro rfl
  simp [isDirectoryAt, at?] at free

/-! ## Where a path leads -/

theorem isDirectoryAt_put_file (free : tree.isDirectoryAt place = false) (content : Content)
    (other : Place) :
    (tree.put place (.file content)).isDirectoryAt other = tree.isDirectoryAt other := by
  by_cases same : other = place
  · subst same
    rw [free, isDirectoryAt, at?_put_self (ne_root_of_not_directory free)]
    simp
  · rw [isDirectoryAt, at?_put_other same, isDirectoryAt]

theorem isSome_at?_put (entry : Entry) {other : Place} (there : (tree.at? other).isSome = true) :
    ((tree.put place entry).at? other).isSome = true := by
  by_cases same : other = place
  · subst same
    by_cases root : other = []
    · subst root
      rfl
    · rw [at?_put_self root]
      rfl
  · rw [at?_put_other same]
    exact there

theorem stepInto_put_file (free : tree.isDirectoryAt place = false) (content : Content)
    {start next : Place} {piece : String} (steps : tree.stepInto start piece = .ok next) :
    (tree.put place (.file content)).stepInto start piece = .ok next := by
  simp only [stepInto, isDirectoryAt_put_file free] at steps ⊢
  split_ifs at steps ⊢ with noDirectory void above tooLong missing
  · exact steps
  · exact steps
  · exact steps
  · next there => exact missing (isSome_at?_put _ there)

theorem walk_put_file (free : tree.isDirectoryAt place = false) (content : Content)
    {start stop : Place} {ps : List String} (walks : tree.walk start ps = .ok stop) :
    (tree.put place (.file content)).walk start ps = .ok stop := by
  induction ps generalizing start with
  | nil => exact walks
  | cons piece rest ih =>
      rw [walk] at walks ⊢
      cases steps : tree.stepInto start piece with
      | error cause =>
          rw [steps] at walks
          cases walks
      | ok next =>
          rw [steps] at walks
          rw [stepInto_put_file free content steps]
          exact ih walks

theorem target_put_file (free : tree.isDirectoryAt place = false) (content : Content)
    {path : String} {target : Target} (leads : tree.target path = .ok target) :
    (tree.put place (.file content)).target path = .ok target := by
  rw [Tree.target] at leads ⊢
  cases admits : admitted path with
  | error cause =>
      rw [admits] at leads
      cases leads
  | ok ps =>
      simp only [admits] at leads ⊢
      cases split : splitLast ps with
      | none =>
          simp only [split] at leads ⊢
          exact leads
      | some parts =>
          obtain ⟨before, last, endsWithSlash⟩ := parts
          simp only [split] at leads ⊢
          cases walks : tree.walk [] before with
          | error cause =>
              rw [walks] at leads
              cases leads
          | ok stop =>
              simp only [walks] at leads
              simp only [walk_put_file free content walks, isDirectoryAt_put_file free]
              exact leads

/-- A path that can be opened for writing can still be opened after a file was written, at
the same place. -/
theorem openForWriting_put_file (free : tree.isDirectoryAt place = false) (content : Content)
    {path : String} {opened : Place} (opens : tree.openForWriting path = .ok opened) :
    (tree.put place (.file content)).openForWriting path = .ok opened := by
  rw [openForWriting] at opens ⊢
  cases leads : tree.target path with
  | error cause =>
      rw [leads] at opens
      cases opens
  | ok target =>
      rw [leads] at opens
      rw [target_put_file free content leads]
      cases target with
      | dots => exact opens
      | name stop endsWithSlash =>
          simp only [isDirectoryAt_put_file free] at opens ⊢
          exact opens

/-! Conversely, a file that is written opens no path: what is walked through are directories. -/

theorem isDirectoryAt_of_walk {start stop : Place} {ps : List String}
    (walks : tree.walk start ps = .ok stop) (seated : tree.isDirectoryAt stop = true) :
    tree.isDirectoryAt start = true := by
  cases ps with
  | nil =>
      cases walks
      exact seated
  | cons piece rest =>
      rw [walk, stepInto] at walks
      cases there : tree.isDirectoryAt start with
      | true => rfl
      | false => simp [there] at walks

theorem stepInto_of_put_file (free : tree.isDirectoryAt place = false) (content : Content)
    {start next : Place} {piece : String}
    (steps : (tree.put place (.file content)).stepInto start piece = .ok next)
    (seated : tree.isDirectoryAt next = true) : tree.stepInto start piece = .ok next := by
  simp only [stepInto, isDirectoryAt_put_file free] at steps ⊢
  split_ifs at steps ⊢ with noDirectory void above tooLong there
  · exact steps
  · exact steps
  · exact steps
  · cases steps
    have directory : tree.at? (start ++ [piece]) = some .directory := by
      simpa [isDirectoryAt] using seated
    rw [directory] at there
    exact there rfl

theorem walk_of_put_file (free : tree.isDirectoryAt place = false) (content : Content)
    {start stop : Place} {ps : List String}
    (walks : (tree.put place (.file content)).walk start ps = .ok stop)
    (seated : tree.isDirectoryAt stop = true) : tree.walk start ps = .ok stop := by
  induction ps generalizing start with
  | nil => exact walks
  | cons piece rest ih =>
      rw [walk] at walks ⊢
      cases steps : (tree.put place (.file content)).stepInto start piece with
      | error cause =>
          rw [steps] at walks
          cases walks
      | ok next =>
          rw [steps] at walks
          have further : (tree.put place (.file content)).isDirectoryAt next = true := by
            apply isDirectoryAt_of_walk walks
            rw [isDirectoryAt_put_file free, seated]
          rw [isDirectoryAt_put_file free] at further
          rw [stepInto_of_put_file free content steps further]
          exact ih walks

theorem target_of_put_file (free : tree.isDirectoryAt place = false) (content : Content)
    {path : String} {target : Target}
    (leads : (tree.put place (.file content)).target path = .ok target) :
    tree.target path = .ok target := by
  rw [Tree.target] at leads ⊢
  cases admits : admitted path with
  | error cause =>
      rw [admits] at leads
      cases leads
  | ok ps =>
      simp only [admits] at leads ⊢
      cases split : splitLast ps with
      | none =>
          simp only [split] at leads ⊢
          exact leads
      | some parts =>
          obtain ⟨before, last, endsWithSlash⟩ := parts
          simp only [split] at leads ⊢
          cases walks : (tree.put place (.file content)).walk [] before with
          | error cause =>
              rw [walks] at leads
              cases leads
          | ok stop =>
              simp only [walks, isDirectoryAt_put_file free] at leads
              cases seated : tree.isDirectoryAt stop with
              | false => simp [seated] at leads
              | true =>
                  simp only [walk_of_put_file free content walks seated]
                  exact leads

/-- A file that is written makes no difference to which paths can be opened for writing. -/
theorem openForWriting_put_file_iff (free : tree.isDirectoryAt place = false) (content : Content)
    (path : String) (opened : Place) :
    (tree.put place (.file content)).openForWriting path = .ok opened ↔
      tree.openForWriting path = .ok opened := by
  constructor
  · intro opens
    rw [openForWriting] at opens ⊢
    cases leads : (tree.put place (.file content)).target path with
    | error cause =>
        rw [leads] at opens
        cases opens
    | ok target =>
        rw [leads] at opens
        rw [target_of_put_file free content leads]
        cases target with
        | dots => exact opens
        | name stop endsWithSlash =>
            simp only [isDirectoryAt_put_file free] at opens ⊢
            exact opens
  · exact openForWriting_put_file free content

/-! ## What a path is opened for -/

theorem splitLast_eq_some {ps before : List String} {last : String} {endsWithSlash : Bool}
    (split : splitLast ps = some (before, last, endsWithSlash)) :
    before ++ [last] <+: ps ∧ last ≠ "" ∧ (endsWithSlash = false → ps = before ++ [last]) := by
  rw [splitLast] at split
  cases dropped : ps.reverse.dropWhile (· = "") with
  | nil =>
      rw [dropped] at split
      cases split
  | cons final earlier =>
      simp only [dropped, Option.some.injEq, Prod.mk.injEq] at split
      obtain ⟨rfl, rfl, rfl⟩ := split
      have part : earlier.reverse ++ [final] <+: ps := by
        rw [← List.reverse_cons, ← List.reverse_suffix, List.reverse_reverse, ← dropped]
        exact List.dropWhile_suffix _
      have named : final ≠ "" := by
        have stops :=
          List.head?_dropWhile_not (fun piece : String => decide (piece = "")) ps.reverse
        rw [dropped] at stops
        simpa using stops
      refine ⟨part, named, fun ends => ?_⟩
      obtain ⟨after, rfl⟩ := part
      rcases List.eq_nil_or_concat after with rfl | ⟨between, end_, rfl⟩
      · rw [List.append_nil]
      · -- The very last piece is not empty, so nothing was dropped.
        rw [List.concat_eq_append, ← List.append_assoc] at ends dropped
        rw [decide_eq_false_iff_not, List.getLast?_concat] at ends
        rw [List.reverse_concat, List.dropWhile_cons_of_neg (by simpa using ends)] at dropped
        have lengths := congrArg List.length dropped
        simp at lengths
        omega

theorem admitted_eq_ok {path : String} {ps : List String} (admits : admitted path = .ok ps) :
    ps = pieces path := by
  rw [admitted] at admits
  split_ifs at admits
  exact (Except.ok.inj admits).symm

theorem target_eq_name {path : String} {endsWithSlash : Bool}
    (leads : tree.target path = .ok (.name place endsWithSlash)) :
    ∃ before last directory, before ++ [last] <+: pieces path ∧
      (endsWithSlash = false → admitted path = .ok (before ++ [last])) ∧
      tree.walk [] before = .ok directory ∧ tree.isDirectoryAt directory = true ∧
      last ≠ "" ∧ last ≠ "." ∧ last ≠ ".." ∧ place = directory ++ [last] := by
  rw [Tree.target] at leads
  cases admits : admitted path with
  | error cause =>
      rw [admits] at leads
      cases leads
  | ok ps =>
      cases split : splitLast ps with
      | none =>
          simp only [admits, split] at leads
          cases leads
      | some parts =>
          obtain ⟨before, last, endsWithSlash⟩ := parts
          cases walks : tree.walk [] before with
          | error cause =>
              simp only [admits, split, walks] at leads
              cases leads
          | ok directory =>
              simp only [admits, split, walks] at leads
              split_ifs at leads with noDirectory dots
              · cases leads
              · cases leads
                obtain ⟨part, named, whole⟩ := splitLast_eq_some split
                rw [not_or] at dots
                rw [← admitted_eq_ok admits]
                refine ⟨before, last, directory, part, fun noSlash => ?_, walks, ?_, named, dots.1,
                  dots.2, rfl⟩
                · rw [← whole noSlash]
                · simpa using noDirectory

/-- All that must hold for a path to be opened for writing: its last piece names something
in a directory that the pieces before it lead to. -/
theorem openForWriting_eq_ok {path : String} (opens : tree.openForWriting path = .ok place) :
    tree.isDirectoryAt place = false ∧ nameTooLong place = false ∧
      tree.target path = .ok (.name place false) := by
  rw [openForWriting] at opens
  cases leads : tree.target path with
  | error cause =>
      rw [leads] at opens
      cases opens
  | ok target =>
      cases target with
      | dots =>
          rw [leads] at opens
          cases opens
      | name stop endsWithSlash =>
          simp only [leads] at opens
          split_ifs at opens with slash tooLong seated
          cases opens
          simp only [Bool.not_eq_true] at slash tooLong seated
          exact ⟨seated, tooLong, by rw [slash]⟩

theorem getLast?_of_openForWriting {path : String} (opens : tree.openForWriting path = .ok place) :
    place.getLast? = (pieces path).getLast? := by
  obtain ⟨-, -, leads⟩ := openForWriting_eq_ok opens
  obtain ⟨before, last, directory, -, admits, -, -, -, -, -, rfl⟩ := target_eq_name leads
  rw [← admitted_eq_ok (admits rfl), List.getLast?_concat, List.getLast?_concat]

theorem walk_append {tree : Tree} {start middle : Place} {before : List String}
    (walks : tree.walk start before = .ok middle) (after : List String) :
    tree.walk start (before ++ after) = tree.walk middle after := by
  induction before generalizing start with
  | nil =>
      cases walks
      rfl
  | cons piece rest ih =>
      rw [walk] at walks
      rw [List.cons_append, walk]
      cases steps : tree.stepInto start piece with
      | error cause =>
          rw [steps] at walks
          cases walks
      | ok next =>
          rw [steps] at walks
          exact ih walks

/-- A path that can be opened for writing holds the file at its place. -/
theorem read_of_openForWriting {path : String} (opens : tree.openForWriting path = .ok place)
    {content : Content} (there : tree.at? place = some (.file content)) :
    tree.read path = .ok content := by
  obtain ⟨-, short, leads⟩ := openForWriting_eq_ok opens
  obtain ⟨before, last, directory, -, admits, walks, seated, named, noDot, noDots, rfl⟩ :=
    target_eq_name leads
  have notLong : ¬ longestName < last.utf8ByteSize := by
    simpa [nameTooLong] using short
  have steps : tree.stepInto directory last = .ok (directory ++ [last]) := by
    simp [stepInto, seated, isVoid, named, noDot, noDots, notLong, there]
  rw [read, find, admits rfl]
  simp only [walk_append walks, walk, steps, there]

end Tree

end IndexExport.Storage
