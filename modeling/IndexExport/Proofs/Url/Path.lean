import IndexExport.Proofs.Url.Reading
/-!
# Segments at the end of a path

A plain segment is taken as it stands, wherever it comes in a path. So a text that ends with plain
segments has a path that ends with them, whatever dots, drive letters and empty segments come
before.
-/
set_option autoImplicit false

namespace IndexExport.Url

/-- Nothing in the segment has a meaning for the path. -/
structure Plain (segment : List Char) : Prop where
  whole : segment.any (isSeparator true) = false
  filled : segment ≠ []
  written : percentEncode keptInPath segment = segment
  goesDown : step segment = .down
  noDrive : isDriveLetter segment = false

section Path

variable {cs segment rest host scheme : List Char} {plain before taken : List (List Char)}
  {kind : SchemeKind} {url : Url} {toAscii : Host.ToAscii}

/-! ## Segments of a text -/

theorem Plain.uncut (given : Plain segment) (special : Bool) :
    ∀ c ∈ segment, isSeparator special c = false := by
  intro c member
  have plain := eq_false_of_ne_true (List.any_eq_false.mp given.whole c member)
  cases special with
  | true => exact plain
  | false => exact Bool.or_eq_false_iff.mpr ⟨(Bool.or_eq_false_iff.mp plain).1, rfl⟩

theorem segments_of_plain (special : Bool) (given : Plain segment) :
    segments special segment = [segment] := by
  rw [segments, Text.splitBy_of_uncut (given.uncut special), List.map_singleton, given.written]

theorem pathText_cons (segment : List Char) (plain : List (List Char)) :
    pathText (segment :: plain) = '/' :: (segment ++ pathText plain) :=
  List.flatMap_cons

theorem isSeparator_slash (special : Bool) : isSeparator special '/' = true := rfl

theorem segments_append_pathText (special : Bool)
    (given : ∀ segment ∈ plain, Plain segment) (cs : List Char) :
    segments special (cs ++ pathText plain) = segments special cs ++ plain := by
  induction plain generalizing cs with
  | nil => simp [pathText]
  | cons segment plain ih =>
      have first := given segment List.mem_cons_self
      have later := ih (fun other member => given other (List.mem_cons_of_mem _ member)) segment
      rw [segments_of_plain special first] at later
      have cut := Text.splitBy_append_cut (isSeparator_slash special) cs
        (segment ++ pathText plain)
      rw [segments] at later
      rw [segments, pathText_cons, cut, List.map_append, later, segments]
      rfl

/-- One separator at the start of the text may be left out. -/
theorem segments_afterSeparator (special : Bool) (some : plain ≠ [])
    (given : ∀ segment ∈ plain, Plain segment) (ends : pathText plain <:+ cs) :
    ∃ before, segments special (afterSeparator special cs) = before ++ plain := by
  obtain ⟨front, rfl⟩ := ends
  cases front with
  | nil =>
      obtain ⟨segment, more, rfl⟩ := List.exists_cons_of_ne_nil some
      have rest := segments_append_pathText special
        (fun other member => given other (List.mem_cons_of_mem _ member)) segment
      rw [segments_of_plain special (given segment List.mem_cons_self)] at rest
      exact ⟨[], rest⟩
  | cons c front =>
      rw [List.cons_append, afterSeparator]
      split_ifs
      · exact ⟨_, segments_append_pathText special given front⟩
      · exact ⟨_, segments_append_pathText special given (c :: front)⟩

/-! ## Going through the segments -/

theorem take_of_plain (isFile : Bool) (given : Plain segment) (taken : List (List Char)) :
    take isFile taken segment = segment :: taken := by
  rw [take, withColon, given.noDrive]
  simp

theorem walkSegments_cons (isFile : Bool) (more : plain ≠ []) (segment : List Char)
    (taken : List (List Char)) :
    ∃ taken', walkSegments isFile taken (segment :: plain) = walkSegments isFile taken' plain := by
  obtain ⟨next, rest, rfl⟩ := List.exists_cons_of_ne_nil more
  rw [walkSegments]
  cases step segment with
  | down => exact ⟨_, rfl⟩
  | stay => exact ⟨_, rfl⟩
  | up => exact ⟨_, rfl⟩

theorem walkSegments_of_plain (isFile : Bool) (given : ∀ segment ∈ plain, Plain segment)
    (taken : List (List Char)) : walkSegments isFile taken plain = taken.reverse ++ plain := by
  induction plain generalizing taken with
  | nil => simp [walkSegments]
  | cons segment plain ih =>
      have first := given segment List.mem_cons_self
      have later := ih fun other member => given other (List.mem_cons_of_mem _ member)
      cases plain with
      | nil =>
          rw [walkSegments, first.goesDown]
          simp [take_of_plain isFile first]
      | cons next rest =>
          rw [walkSegments, first.goesDown]
          simp only [take_of_plain isFile first]
          rw [later, List.reverse_cons, List.append_assoc, List.singleton_append]

theorem walkSegments_append (isFile : Bool) (some : plain ≠ [])
    (given : ∀ segment ∈ plain, Plain segment) (before taken : List (List Char)) :
    ∃ front, walkSegments isFile taken (before ++ plain) = front ++ plain := by
  induction before generalizing taken with
  | nil => exact ⟨_, walkSegments_of_plain isFile given taken⟩
  | cons segment before ih =>
      obtain ⟨taken', eq⟩ := walkSegments_cons isFile
        (List.append_ne_nil_of_right_ne_nil before some) segment taken
      rw [List.cons_append, eq]
      exact ih taken'

/-! ## Paths -/

theorem pathText_suffix (front plain : List (List Char)) :
    pathText plain <:+ pathText (front ++ plain) := by
  rw [pathText, pathText, List.flatMap_append]
  exact List.suffix_append _ _

theorem absolutePath_ends (special : Bool) (some : plain ≠ [])
    (given : ∀ segment ∈ plain, Plain segment) (ends : pathText plain <:+ cs) :
    pathText plain <:+ absolutePath special cs := by
  obtain ⟨before, split⟩ := segments_afterSeparator special some given ends
  obtain ⟨front, walked⟩ := walkSegments_append false some given before []
  rw [absolutePath, split, walked]
  exact pathText_suffix front plain

theorem withoutEmptyStart_append (some : plain ≠ []) (given : ∀ segment ∈ plain, Plain segment)
    (front : List (List Char)) :
    ∃ front', withoutEmptyStart (front ++ plain) = front' ++ plain := by
  obtain ⟨segment, more, rfl⟩ := List.exists_cons_of_ne_nil some
  have filled : decide (segment = []) = false :=
    decide_eq_false (given segment List.mem_cons_self).filled
  obtain ⟨front', kept⟩ : segment :: more <:+ (front ++ segment :: more).dropWhile (· = []) :=
    Text.suffix_dropWhile filled (List.suffix_append front _)
  refine ⟨front', ?_⟩
  rw [withoutEmptyStart, ← kept]
  cases front' <;> rfl

theorem filePath_ends (some : plain ≠ []) (given : ∀ segment ∈ plain, Plain segment)
    (split : segments true cs = before ++ plain) :
    pathText plain <:+ pathText (withoutEmptyStart (fileSegments cs)) := by
  obtain ⟨front, walked⟩ := walkSegments_append true some given before []
  obtain ⟨front', stripped⟩ := withoutEmptyStart_append some given front
  rw [fileSegments, split, walked, stripped]
  exact pathText_suffix front' plain

/-! ## What is left for the path -/

/-- The slash of the first segment ends the authority at the latest. -/
theorem ends_of_breakAt (some : plain ≠ []) (stop : Char → Bool)
    (stops : stop '/' = true) (ends : pathText plain <:+ cs) :
    pathText plain <:+ (Text.breakAt stop cs).2 := by
  obtain ⟨segment, more, rfl⟩ := List.exists_cons_of_ne_nil some
  have halts : (!stop '/') = false := by rw [stops]; rfl
  exact Text.suffix_dropWhile halts ends

section Ends

variable (some : plain ≠ []) (given : ∀ segment ∈ plain, Plain segment)
include some given

theorem exists_pathText_eq :
    ∃ c rest, pathText plain = '/' :: c :: rest ∧ isSeparator true c = false := by
  obtain ⟨segment, more, rfl⟩ := List.exists_cons_of_ne_nil some
  have first := given segment List.mem_cons_self
  obtain ⟨c, name, rfl⟩ := List.exists_cons_of_ne_nil first.filled
  exact ⟨c, _, pathText_cons _ _, first.uncut true c List.mem_cons_self⟩

/-- Behind two separators the segments are left, unless the second one begins the first segment. -/
theorem ends_of_two {a b : Char} (ends : pathText plain <:+ a :: b :: rest)
    (second : isSeparator true b = true) (named : a :: b :: rest ≠ a :: pathText plain) :
    pathText plain <:+ rest := by
  rcases List.suffix_cons_iff.mp ends with same | ends
  · obtain ⟨c, more, eq, whole⟩ := exists_pathText_eq some given
    cases eq.symm.trans same
    cases whole.symm.trans second
  · rcases List.suffix_cons_iff.mp ends with same | ends
    · exact absurd (congrArg (a :: ·) same.symm) named
    · exact ends

theorem withAuthority_ends (unmarked : Unmarked cs) (ends : pathText plain <:+ cs)
    (read : withAuthority toAscii kind scheme cs = .ok url) : pathText plain <:+ url.path := by
  obtain ⟨-, behind, left, path⟩ := withAuthority_of_unmarked unmarked read
  have kept := (ends_of_breakAt some (endsAuthority kind.isSpecial) rfl ends).trans left
  have filled : behind ≠ [] := by
    rintro rfl
    obtain ⟨segment, more, rfl⟩ := List.exists_cons_of_ne_nil some
    cases List.suffix_nil.mp kept
  rw [path, if_neg fun empty => filled empty.1]
  exact absolutePath_ends _ some given kept

/-- Plain segments at the end of the text are left for the path, but for the case that the first
one stands where the host does. -/
theorem fileHost_ends (ends : pathText plain <:+ cs)
    (named : ∀ a, isSeparator true a = true → cs ≠ a :: pathText plain)
    (read : fileHost toAscii cs = .ok (host, rest)) :
    ∃ left, pathText plain <:+ left ∧ (rest = left ∨ rest = afterSeparator true left) := by
  rcases fileHost_cases read with rfl | ⟨a, first, rfl⟩ | ⟨a, b, more, first, second, rfl, left⟩
  · exact ⟨_, ends, .inl rfl⟩
  · refine ⟨_, ends, .inr ?_⟩
    rw [afterSeparator, if_pos first]
  · have kept := ends_of_two some given ends second (named a first)
    have behind := ends_of_breakAt some (endsAuthority true) rfl kept
    rcases left with rfl | rfl | rfl
    · exact ⟨_, kept, .inl rfl⟩
    · exact ⟨_, behind, .inl rfl⟩
    · exact ⟨_, behind, .inr rfl⟩

theorem ofFile_ends (unmarked : Unmarked cs) (ends : pathText plain <:+ cs)
    (named : ∀ a, isSeparator true a = true → cs ≠ a :: pathText plain)
    (read : ofFile toAscii scheme cs = .ok url) : pathText plain <:+ url.path := by
  obtain ⟨-, host, rest, found, path⟩ := ofFile_of_unmarked unmarked read
  obtain ⟨left, kept, same⟩ := fileHost_ends some given ends named found
  obtain ⟨before, split⟩ : ∃ before, segments true rest = before ++ plain := by
    rcases same with rfl | rfl
    · obtain ⟨front, rfl⟩ := kept
      exact ⟨_, segments_append_pathText true given front⟩
    · exact segments_afterSeparator true some given kept
  rw [path]
  exact filePath_ends some given split

theorem ofOther_ends (unmarked : Unmarked cs) (ends : pathText plain <:+ cs)
    (named : cs ≠ '/' :: pathText plain) (read : ofOther toAscii scheme cs = .ok url) :
    pathText plain <:+ url.path := by
  rw [ofOther.eq_def] at read
  split at read
  · next rest =>
    have kept := ends_of_two some given ends rfl named
    exact withAuthority_ends some given (unmarked.suffix (List.suffix_append ['/', '/'] rest)) kept
      read
  · next rest _ =>
    cases read
    rw [(withoutAuthority_of_unmarked scheme unmarked).2]
    exact absolutePath_ends false some given ends
  · cases read

/-! ## A host that is not there -/

/-- The text behind the scheme ends where a host has to come. -/
def breaksOff (behind : List Char) : SchemeKind → Bool
  | .special _ => behind.all (isSeparator true)
  | .file => behind.length = 1 && behind.all (isSeparator true)
  | .other => behind = ['/']

/-- Unless the first of them is taken for the host, the segments are the last ones of the path. -/
theorem readBehind_ends (unmarked : Unmarked (cs ++ pathText plain))
    (goesOn : breaksOff cs kind = false)
    (read : readBehind toAscii kind scheme (cs ++ pathText plain) = .ok url) :
    pathText plain <:+ url.path := by
  have ends := List.suffix_append cs (pathText plain)
  cases kind with
  | special usual =>
      -- some character before the segments is no separator, so that no segment is passed over
      have left : pathText plain <:+ (cs ++ pathText plain).dropWhile (isSeparator true) := by
        rw [List.dropWhile_append, if_neg]
        · exact List.suffix_append _ _
        · rw [List.isEmpty_iff, List.dropWhile_eq_nil_iff, ← List.all_eq_true]
          exact ne_true_of_eq_false goesOn
      exact withAuthority_ends some given (unmarked.suffix (List.dropWhile_suffix _)) left read
  | file =>
      refine ofFile_ends some given unmarked ends (fun a separates same => ?_) read
      have alone : cs = [a] := (List.append_left_inj (pathText plain)).mp same
      simp [breaksOff, alone, separates] at goesOn
  | other =>
      refine ofOther_ends some given unmarked ends (fun same => ?_) read
      have alone : cs = ['/'] := (List.append_left_inj (pathText plain)).mp same
      simp [breaksOff, alone] at goesOn

end Ends

end Path

end IndexExport.Url
