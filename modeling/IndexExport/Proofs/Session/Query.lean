import IndexExport.Proofs.Filter.Ends
import IndexExport.Proofs.Filter.Scan
import IndexExport.Session
/-!
# Queries that match every document

A blank query is replaced by one that matches every document. In structured mode each filter of a
list puts at least one character into the query that is no blank, so this happens to the empty list
only, and no restriction is lost.
-/
set_option autoImplicit false

namespace IndexExport

namespace Filter

/-- How many characters of a text are no blanks. -/
def visible (text : String) : Nat :=
  text.toList.countP fun c => !Text.isBlank c

section Visible

variable {f : Filter} {text more q : String} {c : Char}

theorem visible_append (text more : String) :
    visible (text ++ more) = visible text + visible more := by
  simp [visible]

theorem visible_pos_iff (text : String) :
    0 < visible text ↔ ∃ c ∈ text.toList, Text.isBlank c = false := by
  simp [visible, List.countP_pos_iff]

theorem allBlank_iff (text : String) : Text.allBlank text = true ↔ visible text = 0 := by
  simp [visible, Text.allBlank, List.countP_eq_zero]

/-- Blank or not, field and value stand beside a colon. -/
theorem colon_mem_fragment (plain : f.kind ≠ .grouping) (made : fragmentOrFail f = .ok text) :
    ':' ∈ text.toList := by
  obtain ⟨value, -, held⟩ := fragmentOrFail_eq_ok made
  rcases kind_of_plain plain with range | word
  · rcases fragmentWith_of_range range held with rfl | rfl | rfl <;> simp
  · rcases fragmentWith_of_word word held with rfl | rfl <;> simp

theorem visible_fragment (plain : f.kind ≠ .grouping) (made : fragmentOrFail f = .ok text) :
    0 < visible text :=
  (visible_pos_iff text).mpr ⟨':', colon_mem_fragment plain made, by decide⟩

/-- By induction on what is left of the list. Joins only add to what is visible. -/
theorem length_le_visible {stack : List OpenGroup} {clauses tree : List Clause}
    {previous : Option Filter} {rest : List Filter}
    (built : buildFrom stack clauses rest = .ok tree) (scanned : scanFrom previous rest = .ok q) :
    rest.length ≤ visible q := by
  induction rest generalizing stack clauses previous q with
  | nil => exact Nat.zero_le _
  | cons f rest ih =>
      rw [scanFrom_cons] at scanned
      obtain ⟨join, tail, -, remaining, rfl⟩ := followedBy_eq_ok scanned
      obtain ⟨text, more, written, behind, rfl⟩ := followedBy_eq_ok remaining
      rw [visible_append, visible_append, List.length_cons]
      rcases buildFrom_cons built with ⟨plain, grown⟩ | ⟨opens, grown⟩ | ⟨closes, _, _, _, -, grown⟩
      · have others := ih grown behind
        rw [token_leaf plain] at written
        have here := visible_fragment plain written
        omega
      · have others := ih grown behind
        rw [token_open opens] at written
        cases written
        have here : visible "(" = 1 := by decide
        omega
      · have others := ih grown behind
        rw [token_close closes] at written
        cases written
        have here : visible ")" = 1 := by decide
        omega

theorem length_le_visible_of_compile {filters : List Filter}
    (compiled : compile .structured filters = .ok q) : filters.length ≤ visible q := by
  cases built : build filters with
  | error e =>
      rw [compile_structured_of_fault built] at compiled
      cases compiled
  | ok tree =>
      rw [compile_structured_of_build built] at compiled
      exact length_le_visible built compiled

end Visible

end Filter

namespace Session

variable {settings : Settings} {files : Storage.Tree} {path query : String}
variable {filters : List Filter}

theorem visible_orMatchAll (query : String) : 0 < Filter.visible (orMatchAll query) := by
  rw [orMatchAll]
  split
  · decide
  · next shown =>
    rw [Filter.allBlank_iff] at shown
    omega

theorem compileQuery_of_load (named : settings.filtersFile = some path)
    (loaded : loadFilters files path = .ok filters) :
    (compileQuery settings files).1 =
      (Filter.compile settings.filterMode filters).map orMatchAll := by
  simp only [compileQuery, named, loaded]
  rfl

theorem visible_compileQuery (compiled : (compileQuery settings files).1 = .ok query) :
    0 < Filter.visible query := by
  cases named : settings.filtersFile with
  | none =>
      simp only [compileQuery, named, Except.ok.injEq] at compiled
      subst compiled
      decide
  | some path =>
      cases loaded : loadFilters files path with
      | error e => simp [compileQuery, named, loaded] at compiled
      | ok filters =>
          rw [compileQuery_of_load named loaded] at compiled
          cases made : Filter.compile settings.filterMode filters with
          | error e => simp [made, Except.map] at compiled
          | ok text =>
              simp only [made, Except.map, Except.ok.injEq] at compiled
              subst compiled
              exact visible_orMatchAll text

/-- In structured mode a list of filters is the query as it was compiled, and only the empty list
becomes the query that matches every document. In no mode is the query blank. -/
theorem compileQuery_widens_empty_list_only :
    (∀ (settings : Settings) (files : Storage.Tree) path filters text,
      settings.filtersFile = some path → settings.filterMode = .structured →
      loadFilters files path = .ok filters → Filter.compile .structured filters = .ok text →
      (Text.allBlank text = true ↔ filters = []) ∧
      (filters = [] → (compileQuery settings files).1 = .ok matchAll) ∧
      (filters ≠ [] → (compileQuery settings files).1 = .ok text ∧
        ∃ c ∈ text.toList, Text.isBlank c = false)) ∧
    ∀ (settings : Settings) (files : Storage.Tree) query,
      (compileQuery settings files).1 = .ok query → ∃ c ∈ query.toList, Text.isBlank c = false := by
  refine ⟨?_, fun settings files query compiled =>
    (Filter.visible_pos_iff query).mp (visible_compileQuery compiled)⟩
  intro settings files path filters text named mode loaded compiled
  have whole := compileQuery_of_load named loaded
  rw [mode, compiled] at whole
  have blank : Text.allBlank text = true ↔ filters = [] := by
    rw [Filter.allBlank_iff]
    constructor
    · intro none
      have shown := Filter.length_le_visible_of_compile compiled
      exact List.length_eq_zero_iff.mp (by omega)
    · rintro rfl
      cases compiled
      rfl
  refine ⟨blank, ?_, ?_⟩
  · intro empty
    rw [whole, Except.map, orMatchAll, if_pos (blank.mpr empty)]
  · intro some
    have shown : ¬Text.allBlank text = true := fun none => some (blank.mp none)
    refine ⟨by rw [whole, Except.map, orMatchAll, if_neg shown], ?_⟩
    rw [Filter.allBlank_iff] at shown
    exact (Filter.visible_pos_iff text).mp (by omega)

/-! A filter whose field and value are blank, and a group with nothing in it. -/

def blankText : String :=
  "[[\"1\",\" \",\"other\",\"equals\",\"\"]," ++
    "[\"2\",\"\",\"grouping\",null,\"(\",\"or\"],[\"3\",\"\",\"grouping\",null,\")\"]]"

def blankFilters : List Filter :=
  [⟨"1", " ", .other, some .equals, "", none⟩, ⟨"2", "", .grouping, none, "(", some .either⟩,
    ⟨"3", "", .grouping, none, ")", none⟩]

def blankSettings : Settings :=
  { Settings.default with filtersFile := some "f" }

def blankFiles : Storage.Tree :=
  Storage.Tree.empty.put ["f"] (.file (.text blankText))

theorem load_blankFilters : loadFilters blankFiles "f" = .ok blankFilters := by
  have found : blankFiles.readText "f" = .ok blankText := by rfl
  have read : Filter.readAll blankText = .ok blankFilters := by rfl
  simp only [loadFilters, found, read]

theorem compileQuery_blankFilters :
    (compileQuery blankSettings blankFiles).1 = .ok " : OR ()" ∧
      ∃ c ∈ " : OR ()".toList, Text.isBlank c = false := by
  have compiled : Filter.compile .structured blankFilters = .ok " : OR ()" := by rfl
  have kept := compileQuery_widens_empty_list_only.1 blankSettings blankFiles "f" blankFilters _ rfl
    rfl load_blankFilters compiled
  exact kept.2.2 (by simp [blankFilters])

end Session

end IndexExport
