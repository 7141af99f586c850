import IndexExport.Json.Reader
import IndexExport.Proofs.Json.Scanning
import Mathlib.Data.List.Nodup
/-!
# Values that are read, and values that are read back

What the reader gives is well formed: each key of an object stands once, and no more lists and
objects stand inside one another than there is room for. Conversely, a well formed value whose
numbers are whole is read from its pretty form. The reader keeps what it has read on a stack of
frames, so each statement is one on any stack, and the value joins the frame on top of it.
-/
set_option autoImplicit false

namespace IndexExport.Json

/-! ## Well formed values -/

mutual

/-- How many lists and objects stand inside one another. -/
def depth : Json → Nat
  | .list items => depthOfItems items + 1
  | .object members => depthOfMembers members + 1
  | _ => 0

def depthOfItems : List Json → Nat
  | [] => 0
  | item :: rest => max (depth item) (depthOfItems rest)

def depthOfMembers : List (String × Json) → Nat
  | [] => 0
  | (_, value) :: rest => max (depth value) (depthOfMembers rest)

end

mutual

/-- Every number is whole and fits into a word of 64 bits, signed or unsigned. -/
def onlyWhole : Json → Bool
  | .number (.whole n) => Number.least ≤ n && n ≤ Number.greatest
  | .number (.double _) => false
  | .list items => onlyWholeItems items
  | .object members => onlyWholeMembers members
  | _ => true

def onlyWholeItems : List Json → Bool
  | [] => true
  | item :: rest => onlyWhole item && onlyWholeItems rest

def onlyWholeMembers : List (String × Json) → Bool
  | [] => true
  | (_, value) :: rest => onlyWhole value && onlyWholeMembers rest

end

/-- Each key of an object stands once, on every level. -/
inductive KeyedOnce : Json → Prop where
  | null : KeyedOnce .null
  | boolean (b : Bool) : KeyedOnce (.boolean b)
  | number (n : Number) : KeyedOnce (.number n)
  | text (s : String) : KeyedOnce (.text s)
  | list {items : List Json} (each : ∀ item ∈ items, KeyedOnce item) : KeyedOnce (.list items)
  | object {members : Members} (once : (members.map Prod.fst).Nodup)
      (each : ∀ member ∈ members, KeyedOnce member.2) : KeyedOnce (.object members)

/-- A well formed value with `level` lists and objects around it. -/
structure Fits (room level : Nat) (value : Json) : Prop where
  keyed : value.KeyedOnce
  deep : level + value.depth ≤ room

section Fits

variable {room level : Nat} {items : List Json} {members : Members}

theorem depthOfItems_le_iff (items : List Json) (bound : Nat) :
    depthOfItems items ≤ bound ↔ ∀ item ∈ items, item.depth ≤ bound := by
  induction items with
  | nil => simp [depthOfItems]
  | cons item rest ih => simp [depthOfItems, ih]

theorem depthOfMembers_le_iff (members : Members) (bound : Nat) :
    depthOfMembers members ≤ bound ↔ ∀ member ∈ members, member.2.depth ≤ bound := by
  induction members with
  | nil => simp [depthOfMembers]
  | cons member rest ih =>
      obtain ⟨key, value⟩ := member
      simp [depthOfMembers, ih]

theorem fits_list_iff (items : List Json) :
    Fits room level (.list items) ↔
      level < room ∧ ∀ item ∈ items, Fits room (level + 1) item := by
  constructor
  · rintro ⟨⟨⟩, deep⟩
    next each =>
    rw [depth] at deep
    refine ⟨by omega, fun item member => ⟨each item member, ?_⟩⟩
    have within := (depthOfItems_le_iff items (depthOfItems items)).mp (Nat.le_refl _) item member
    omega
  · rintro ⟨below, each⟩
    refine ⟨.list fun item member => (each item member).keyed, ?_⟩
    have deep : depthOfItems items ≤ room - (level + 1) := by
      rw [depthOfItems_le_iff]
      intro item member
      have deep := (each item member).deep
      omega
    rw [depth]
    omega

theorem fits_object_iff (members : Members) :
    Fits room level (.object members) ↔
      level < room ∧ (members.map Prod.fst).Nodup ∧
        ∀ member ∈ members, Fits room (level + 1) member.2 := by
  constructor
  · rintro ⟨⟨⟩, deep⟩
    next once each =>
    rw [depth] at deep
    refine ⟨by omega, once, fun member among => ⟨each member among, ?_⟩⟩
    have within :=
      (depthOfMembers_le_iff members (depthOfMembers members)).mp (Nat.le_refl _) member among
    omega
  · rintro ⟨below, once, each⟩
    refine ⟨.object once fun member among => (each member among).keyed, ?_⟩
    have deep : depthOfMembers members ≤ room - (level + 1) := by
      rw [depthOfMembers_le_iff]
      intro member among
      have deep := (each member among).deep
      omega
    rw [depth]
    omega

end Fits

namespace Members

theorem put_of_new {key : String} {members : Members} (new : key ∉ members.map Prod.fst)
    (value : Json) : put key value members = members ++ [(key, value)] := by
  induction members with
  | nil => rfl
  | cons member rest ih =>
      obtain ⟨k, v⟩ := member
      simp only [List.map_cons, List.mem_cons, not_or] at new
      rw [put, if_neg (Ne.symm new.1), ih new.2, List.cons_append]

theorem keys_put_of_known {key : String} {members : Members} (known : key ∈ members.map Prod.fst)
    (value : Json) : (put key value members).map Prod.fst = members.map Prod.fst := by
  induction members with
  | nil => cases known
  | cons member rest ih =>
      obtain ⟨k, v⟩ := member
      rw [put]
      split
      · rfl
      · next other =>
        rcases List.mem_cons.mp known with here | later
        · exact absurd here.symm other
        · rw [List.map_cons, List.map_cons, ih later]

theorem nodup_put {members : Members} (once : (members.map Prod.fst).Nodup) (key : String)
    (value : Json) : ((put key value members).map Prod.fst).Nodup := by
  by_cases known : key ∈ members.map Prod.fst
  · rwa [keys_put_of_known known]
  · rw [put_of_new known, List.map_append]
    exact List.Nodup.append once (List.nodup_singleton key) (by simpa using known)

theorem mem_put {key : String} {value : Json} {members : Members} {member : String × Json}
    (among : member ∈ put key value members) : member ∈ members ∨ member.2 = value := by
  induction members with
  | nil => exact .inr (by rw [List.mem_singleton.mp among])
  | cons first rest ih =>
      obtain ⟨k, v⟩ := first
      rw [put] at among
      split at among
      · rcases List.mem_cons.mp among with rfl | later
        · exact .inr rfl
        · exact .inl (List.mem_cons_of_mem _ later)
      · rcases List.mem_cons.mp among with rfl | later
        · exact .inl List.mem_cons_self
        · exact (ih later).imp_left (List.mem_cons_of_mem _)

theorem mem_of_get? {key : String} {value : Json} {members : Members}
    (found : get? key members = some value) : (key, value) ∈ members := by
  induction members with
  | nil => cases found
  | cons first rest ih =>
      obtain ⟨k, v⟩ := first
      rw [get?] at found
      split at found
      · next same =>
        cases found
        exact same ▸ List.mem_cons_self
      · exact List.mem_cons_of_mem _ (ih found)

end Members

theorem KeyedOnce.get? {document value : Json} {key : String} (keyed : document.KeyedOnce)
    (found : document.get? key = some value) : value.KeyedOnce := by
  cases keyed with
  | object once each => exact each _ (Members.mem_of_get? found)
  | null | boolean | number | text | list => cases found

/-! ## What is read is well formed -/

/-- What stands in the frames is well formed. -/
def Held (room : Nat) : List Frame → Prop
  | [] => True
  | .list before :: outer =>
    outer.length < room ∧ (∀ item ∈ before, Fits room (outer.length + 1) item) ∧ Held room outer
  | .member before _ :: outer =>
    outer.length < room ∧ (before.map Prod.fst).Nodup ∧
      (∀ member ∈ before, Fits room (outer.length + 1) member.2) ∧ Held room outer

/-- The frames with the one that the reader is in. -/
def Expect.frames (stack : List Frame) : Expect → List Frame
  | .value => stack
  | .itemOrClose => .list [] :: stack
  | .itemEnd items => .list items :: stack
  | .keyOrClose => .member [] "" :: stack
  | .key members => .member members "" :: stack
  | .colon members name => .member members name :: stack
  | .memberEnd members => .member members "" :: stack

def Reached.Sound (room : Nat) : Reached → Prop
  | .more expect stack => Held room (expect.frames stack)
  | .complete value => Fits room 0 value

section Sound

variable {room : Nat} {stack : List Frame} {value : Json} {reached : Reached} {lexeme : Lexeme}

theorem Held.length_le (held : Held room stack) : stack.length ≤ room := by
  cases stack with
  | nil => exact Nat.zero_le _
  | cons frame outer =>
      cases frame with
      | list before => exact held.1
      | member before key => exact held.1

theorem sound_settle (held : Held room stack) (fits : Fits room stack.length value) :
    (settle value stack).Sound room := by
  cases stack with
  | nil => exact fits
  | cons frame outer =>
      cases frame with
      | list before =>
          obtain ⟨below, each, around⟩ := held
          exact ⟨below, List.forall_mem_cons.mpr ⟨fits, each⟩, around⟩
      | member before key =>
          obtain ⟨below, once, each, around⟩ := held
          refine ⟨below, Members.nodup_put once key value, ?_, around⟩
          intro member among
          rcases Members.mem_put among with known | new
          · exact each member known
          · rw [new]
            exact fits

theorem sound_beginValue (held : Held room stack)
    (begins : beginValue room stack lexeme = some reached) : reached.Sound room := by
  have short := held.length_le
  have scalar : ∀ value : Json, value.KeyedOnce → value.depth = 0 →
      (settle value stack).Sound room := by
    intro value keyed flat
    exact sound_settle held ⟨keyed, by rw [flat]; exact short⟩
  rw [beginValue.eq_def] at begins
  split at begins
  · cases begins
    exact scalar _ .null rfl
  · cases begins
    exact scalar _ (.boolean _) rfl
  · obtain ⟨n, -, rfl⟩ := Option.map_eq_some_iff.mp begins
    exact scalar _ (.number n) rfl
  · cases begins
    exact scalar _ (.text _) rfl
  · split at begins
    · next below =>
      cases begins
      exact ⟨below, by simp, held⟩
    · cases begins
  · split at begins
    · next below =>
      cases begins
      exact ⟨below, by simp, by simp, held⟩
    · cases begins
  · cases begins

theorem sound_readStep {expect : Expect} (held : Held room (expect.frames stack))
    (steps : readStep room expect stack lexeme = some reached) : reached.Sound room := by
  rw [readStep.eq_def] at steps
  split at steps
  case h_1 => exact sound_beginValue held steps
  case h_2 =>
    cases steps
    exact sound_settle held.2.2 ((fits_list_iff _).mpr ⟨held.1, held.2.1⟩)
  case h_3 => exact sound_beginValue held steps
  case h_4 =>
    cases steps
    exact held
  case h_5 =>
    cases steps
    refine sound_settle held.2.2 ((fits_list_iff _).mpr ⟨held.1, ?_⟩)
    intro item member
    exact held.2.1 item (List.mem_reverse.mp member)
  case h_6 =>
    cases steps
    exact sound_settle held.2.2.2 ((fits_object_iff _).mpr ⟨held.1, held.2.1, held.2.2.1⟩)
  case h_7 =>
    cases steps
    exact held
  case h_8 =>
    cases steps
    exact held
  case h_9 =>
    cases steps
    exact held
  case h_10 =>
    cases steps
    exact held
  case h_11 =>
    cases steps
    exact sound_settle held.2.2.2 ((fits_object_iff _).mpr ⟨held.1, held.2.1, held.2.2.1⟩)
  case h_12 => cases steps

/-- By induction on the lexemes: no step leaves anything in the frames that is not well formed. -/
theorem fits_of_readFrom {expect : Expect} {lexemes rest : List Lexeme}
    (held : Held room (expect.frames stack))
    (read : readFrom room expect stack lexemes = some (value, rest)) : Fits room 0 value := by
  induction lexemes generalizing expect stack with
  | nil => simp [readFrom] at read
  | cons lexeme lexemes ih =>
      rw [readFrom] at read
      split at read
      · cases read
      · next steps =>
        cases read
        exact sound_readStep held steps
      · next steps => exact ih (sound_readStep held steps) read

theorem fits_of_readValue {lexemes rest : List Lexeme}
    (read : readValue room lexemes = some (value, rest)) : Fits room 0 value := by
  have held : Held room (Expect.value.frames []) := trivial
  exact fits_of_readFrom held read

theorem read_eq_some_iff {text : String} :
    Json.read text = some value ↔ readValue deepest (scan text.toList) = some (value, []) := by
  rw [Json.read]
  split <;> simp_all

theorem fits_of_read {text : String} (read : Json.read text = some value) :
    Fits deepest 0 value :=
  fits_of_readValue (read_eq_some_iff.mp read)

end Sound

/-! ## What is written is read back -/

/-- Reads on from where the reader is. -/
def proceed (room : Nat) (lexemes : List Lexeme) : Reached → Option (Json × List Lexeme)
  | .more expect stack => readFrom room expect stack lexemes
  | .complete value => some (value, lexemes)

section ReadBack

variable {room : Nat} {expect : Expect} {stack : List Frame} {reached : Reached}
variable {lexeme : Lexeme} {lexemes : List Lexeme} {cs : List Char}

theorem readFrom_cons (steps : readStep room expect stack lexeme = some reached) :
    readFrom room expect stack (lexeme :: lexemes) = proceed room lexemes reached := by
  cases reached <;> simp [readFrom, steps, proceed]

/-- Where a value starts, a list cannot end. -/
theorem readFrom_itemOrClose {outer : List Frame} {result : Json × List Lexeme}
    (read : readFrom room .value outer lexemes = some result) :
    readFrom room .itemOrClose stack lexemes =
      readFrom room .value (.list [] :: stack) lexemes := by
  cases lexemes with
  | nil => rfl
  | cons lexeme lexemes =>
      have starts : lexeme ≠ .closeList := by
        rintro rfl
        simp [readFrom, readStep, beginValue] at read
      have same : readStep room .itemOrClose stack lexeme =
          readStep room .value (.list [] :: stack) lexeme := by
        cases lexeme <;> first | rfl | exact absurd rfl starts
      simp only [readFrom, same]

theorem endsNumeral_cons {c : Char} (other : c.isDigit = false ∧ c ≠ '.' ∧ c ≠ 'e' ∧ c ≠ 'E')
    (cs : List Char) : EndsNumeral (c :: cs) := by
  simpa [EndsNumeral] using other

theorem endsNumeral_newLine (depth : Nat) (cs : List Char) :
    EndsNumeral (newLine depth ++ cs) :=
  endsNumeral_cons (by decide) _

def afterItem (level : Nat) : List Json → List Char
  | [] => newLine (level - 1) ++ [']']
  | next :: rest => ',' :: prettyItems level (next :: rest)

def afterMember (level : Nat) : Members → List Char
  | [] => newLine (level - 1) ++ ['\x7d']
  | next :: rest => ',' :: prettyMembers level (next :: rest)

theorem prettyItems_cons (level : Nat) (item : Json) (rest : List Json) :
    prettyItems level (item :: rest) =
      newLine level ++ (prettyChars level item ++ afterItem level rest) := by
  cases rest <;> simp [prettyItems, afterItem]

theorem prettyMembers_cons (level : Nat) (key : String) (value : Json) (rest : Members) :
    prettyMembers level ((key, value) :: rest) =
      newLine level ++ (quoted key ++ ':' :: ' ' ::
        (prettyChars level value ++ afterMember level rest)) := by
  cases rest <;> simp [prettyMembers, afterMember]

theorem endsNumeral_afterItem (level : Nat) (rest : List Json) (cs : List Char) :
    EndsNumeral (afterItem level rest ++ cs) := by
  cases rest with
  | nil =>
      rw [afterItem, List.append_assoc]
      exact endsNumeral_newLine _ _
  | cons next rest => exact endsNumeral_cons (by decide) _

theorem endsNumeral_afterMember (level : Nat) (rest : Members) (cs : List Char) :
    EndsNumeral (afterMember level rest ++ cs) := by
  cases rest with
  | nil =>
      rw [afterMember, List.append_assoc]
      exact endsNumeral_newLine _ _
  | cons next rest => exact endsNumeral_cons (by decide) _

mutual

theorem readFrom_pretty : (value : Json) → value.onlyWhole = true → ∀ (level : Nat)
    {room : Nat} (stack : List Frame) {cs : List Char}, Fits room stack.length value →
    EndsNumeral cs →
    readFrom room .value stack (scan (prettyChars level value ++ cs)) =
      proceed room (scan cs) (settle value stack)
  | .null, _, _, _, _, _, _, _ => by
      simp only [prettyChars, List.cons_append, List.nil_append, scan_null]
      exact readFrom_cons rfl
  | .boolean true, _, _, _, _, _, _, _ => by
      simp only [prettyChars, List.cons_append, List.nil_append, scan_true]
      exact readFrom_cons rfl
  | .boolean false, _, _, _, _, _, _, _ => by
      simp only [prettyChars, List.cons_append, List.nil_append, scan_false]
      exact readFrom_cons rfl
  | .number (.double x), whole, _, _, _, _, _, _ => by simp [onlyWhole] at whole
  | .number (.whole n), whole, _, room, stack, _, _, ends => by
      simp only [onlyWhole, Bool.and_eq_true, decide_eq_true_eq] at whole
      have steps : readStep room .value stack (.numeral (spelled n)) =
          some (settle (.number (.whole n)) stack) := by
        simp [readStep, beginValue, value?_spelled whole.1 whole.2]
      rw [prettyChars, Number.render, scan_whole n ends, readFrom_cons steps]
  | .text s, _, _, _, _, _, _, _ => by
      rw [prettyChars, scan_quoted]
      exact readFrom_cons rfl
  | .list [], _, _, room, stack, cs, fits, _ => by
      have below := ((fits_list_iff []).mp fits).1
      have opens : readStep room .value stack .openList = some (.more .itemOrClose stack) := by
        simp [readStep, beginValue, below]
      rw [prettyChars, List.cons_append, List.singleton_append, scan_openList, scan_closeList,
        readFrom_cons opens]
      exact readFrom_cons rfl
  | .list (item :: rest), whole, level, room, stack, cs, fits, _ => by
      rw [onlyWhole, onlyWholeItems, Bool.and_eq_true] at whole
      obtain ⟨below, each⟩ := (fits_list_iff _).mp fits
      have here := each item List.mem_cons_self
      have opens : readStep room .value stack .openList = some (.more .itemOrClose stack) := by
        simp [readStep, beginValue, below]
      have outermost : Fits room 0 item := ⟨here.keyed, by have deep := here.deep; omega⟩
      have alone := readFrom_pretty item whole.1 (level + 1) [] outermost
        (endsNumeral_afterItem (level + 1) rest cs)
      have items := readFrom_prettyItems item rest whole.1 whole.2 (level + 1) [] cs here
        fun next member => each next (List.mem_cons_of_mem _ member)
      rw [prettyItems_cons, List.append_assoc, scan_newLine, List.append_assoc] at items
      rw [prettyChars, List.cons_append, scan_openList, readFrom_cons opens, proceed,
        prettyItems_cons, List.append_assoc, scan_newLine, List.append_assoc,
        readFrom_itemOrClose alone, items]
      rfl
  | .object [], _, _, room, stack, _, fits, _ => by
      have below := ((fits_object_iff []).mp fits).1
      have opens : readStep room .value stack .openObject = some (.more .keyOrClose stack) := by
        simp [readStep, beginValue, below]
      rw [prettyChars, List.cons_append, List.singleton_append, scan_openObject, scan_closeObject,
        readFrom_cons opens]
      exact readFrom_cons rfl
  | .object ((key, value) :: rest), whole, level, room, stack, cs, fits, _ => by
      rw [onlyWhole, onlyWholeMembers, Bool.and_eq_true] at whole
      obtain ⟨below, once, each⟩ := (fits_object_iff _).mp fits
      have opens : readStep room .value stack .openObject = some (.more .keyOrClose stack) := by
        simp [readStep, beginValue, below]
      have members := readFrom_prettyMembers key value rest whole.1 whole.2 (level + 1) [] cs
        once (each _ List.mem_cons_self)
        fun next among => each next (List.mem_cons_of_mem _ among)
      rw [prettyMembers_cons, List.append_assoc, scan_newLine, List.append_assoc,
        scan_quoted] at members
      rw [prettyChars, List.cons_append, scan_openObject, readFrom_cons opens, proceed,
        prettyMembers_cons, List.append_assoc, scan_newLine, List.append_assoc, scan_quoted]
      exact members
  termination_by value => sizeOf value

theorem readFrom_prettyItems : (item : Json) → (rest : List Json) → item.onlyWhole = true →
    onlyWholeItems rest = true → ∀ (level : Nat) {room : Nat} {stack : List Frame}
    (before : List Json) (cs : List Char), Fits room (stack.length + 1) item →
    (∀ next ∈ rest, Fits room (stack.length + 1) next) →
    readFrom room .value (.list before :: stack) (scan (prettyItems level (item :: rest) ++ cs)) =
      proceed room (scan cs) (settle (.list (before.reverse ++ item :: rest)) stack)
  | item, rest, whole, wholes, level, room, stack, before, cs, fits, each => by
      have first := readFrom_pretty item whole level (.list before :: stack) fits
        (endsNumeral_afterItem level rest cs)
      rw [prettyItems_cons, List.append_assoc, scan_newLine, List.append_assoc, first, settle,
        proceed]
      cases rest with
      | nil =>
          rw [afterItem, List.append_assoc, scan_newLine, List.singleton_append, scan_closeList,
            ← List.reverse_cons]
          exact readFrom_cons rfl
      | cons next rest =>
          rw [onlyWholeItems, Bool.and_eq_true] at wholes
          have later := readFrom_prettyItems next rest wholes.1 wholes.2 level (item :: before) cs
            (each next List.mem_cons_self)
            fun other member => each other (List.mem_cons_of_mem _ member)
          have goesOn : readStep room (.itemEnd (item :: before)) stack .comma =
              some (.more .value (.list (item :: before) :: stack)) := rfl
          rw [afterItem, List.cons_append, scan_comma, readFrom_cons goesOn, proceed, later]
          simp
  termination_by item rest => 1 + sizeOf item + sizeOf rest

theorem readFrom_prettyMembers : (key : String) → (value : Json) → (rest : Members) →
    value.onlyWhole = true → onlyWholeMembers rest = true → ∀ (level : Nat) {room : Nat}
    {stack : List Frame} (before : Members) (cs : List Char),
    ((before ++ (key, value) :: rest).map Prod.fst).Nodup →
    Fits room (stack.length + 1) value →
    (∀ next ∈ rest, Fits room (stack.length + 1) next.2) →
    readFrom room (.key before) stack (scan (prettyMembers level ((key, value) :: rest) ++ cs)) =
      proceed room (scan cs) (settle (.object (before ++ (key, value) :: rest)) stack)
  | key, value, rest, whole, wholes, level, room, stack, before, cs, once, fits, each => by
      have first := readFrom_pretty value whole level (.member before key :: stack) fits
        (endsNumeral_afterMember level rest cs)
      have new : key ∉ before.map Prod.fst := by
        rw [List.map_append, List.map_cons] at once
        exact fun known => (List.nodup_append.mp once).2.2 key known key List.mem_cons_self rfl
      have named : readStep room (.key before) stack (.text (some key)) =
          some (.more (.colon before key) stack) := rfl
      have assigned : readStep room (.colon before key) stack .colon =
          some (.more .value (.member before key :: stack)) := rfl
      rw [prettyMembers_cons, List.append_assoc, scan_newLine, List.append_assoc, scan_quoted,
        readFrom_cons named, proceed, List.cons_append, scan_colon, readFrom_cons assigned,
        proceed, List.cons_append, scan_blank (by decide), List.append_assoc, first, settle,
        Members.put_of_new new, proceed]
      cases rest with
      | nil =>
          rw [afterMember, List.append_assoc, scan_newLine, List.singleton_append,
            scan_closeObject]
          exact readFrom_cons rfl
      | cons next rest =>
          have smaller : sizeOf next.2 < sizeOf next := by cases next; simp
          rw [onlyWholeMembers, Bool.and_eq_true] at wholes
          have later := readFrom_prettyMembers next.1 next.2 rest wholes.1 wholes.2 level
            (before ++ [(key, value)]) cs
            (by rwa [List.append_assoc, List.singleton_append]) (each _ List.mem_cons_self)
            fun other among => each other (List.mem_cons_of_mem _ among)
          have goesOn : readStep room (.memberEnd (before ++ [(key, value)])) stack .comma =
              some (.more (.key (before ++ [(key, value)])) stack) := rfl
          rw [afterMember, List.cons_append, scan_comma, readFrom_cons goesOn, proceed, later,
            List.append_assoc, List.singleton_append]
  termination_by _ value rest => 1 + sizeOf value + sizeOf rest
  decreasing_by
    · omega
    · subst_vars
      simp only [List.cons.sizeOf_spec]
      omega

end

/-- A well formed value of whole numbers is read from its pretty form. -/
theorem read_pretty {value : Json} (whole : value.onlyWhole = true)
    (fits : Fits deepest 0 value) : Json.read (pretty value) = some value := by
  have nothing : EndsNumeral [] := fun _ none => nomatch none
  have read := readFrom_pretty value whole 0 [] fits nothing
  rw [List.append_nil] at read
  rw [read_eq_some_iff, pretty, String.toList_ofList, readValue, read]
  rfl

end ReadBack

end IndexExport.Json
