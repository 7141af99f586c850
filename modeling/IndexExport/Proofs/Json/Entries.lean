import IndexExport.Json.Skipping
import IndexExport.Proofs.Json.Reading
/-!
# The entries of an object

A value keeps one member for each key, the text of an object may have more. `entries` lists the
keys of an object as often as they are written, each with the lexemes from its value on. The
members that the reader makes of the object come from these entries, one after the other.

The reader is a machine with a stack, so this rests on what the frames at the bottom of the stack
do: nothing, until what stands above them is finished. Two other walks over the same lexemes keep
step with the reader: the count of open brackets, and the passing over of a value.
-/
set_option autoImplicit false

namespace IndexExport.Json

/-! ## Keys as they are written -/

/-- How many brackets are open inside an object after a lexeme, unless it closes the object. -/
def openAfter (depth : Nat) : Lexeme → Option Nat
  | .openList | .openObject => some (depth + 1)
  | .closeList | .closeObject => if depth = 0 then none else some (depth - 1)
  | _ => some depth

/-- A text before a colon is a key. -/
def keyAt : List Lexeme → Option (String × List Lexeme)
  | .text (some key) :: .colon :: rest => some (key, rest)
  | _ => none

/-- The entries up to the end of an object inside which `depth` brackets are open. -/
def entriesFrom : Nat → List Lexeme → List (String × List Lexeme)
  | _, [] => []
  | depth, lexeme :: rest =>
    (if depth = 0 then (keyAt (lexeme :: rest)).toList else []) ++
      match openAfter depth lexeme with
      | some inside => entriesFrom inside rest
      | none => []

/-- The entries of the object at the start of the lexemes: the keys in the order in which they
are written, a key as often as it stands there, with the lexemes from its value on. -/
def entries : List Lexeme → List (String × List Lexeme)
  | .openObject :: rest => entriesFrom 0 rest
  | _ => []

/-- How often a key is written in the object at the start of the lexemes. -/
def timesWritten (key : String) (lexemes : List Lexeme) : Nat :=
  ((entries lexemes).map Prod.fst).count key

/-! ## Frames at the bottom of the stack -/

/-- What is reached with more frames below. -/
def Reached.onto (outer : List Frame) : Reached → Reached
  | .more expect stack => .more expect (stack ++ outer)
  | .complete value => settle value outer

section Bottom

variable {room : Nat} {expect : Expect} {inner outer : List Frame} {lexeme : Lexeme}

theorem settle_append (value : Json) (inner outer : List Frame) :
    settle value (inner ++ outer) = (settle value inner).onto outer := by
  cases inner with
  | nil => rfl
  | cons frame inner => cases frame <;> rfl

theorem beginValue_append (below : outer.length ≤ room) (inner : List Frame) (lexeme : Lexeme) :
    beginValue room (inner ++ outer) lexeme =
      (beginValue (room - outer.length) inner lexeme).map (Reached.onto outer) := by
  have space : (inner ++ outer).length < room ↔ inner.length < room - outer.length := by
    rw [List.length_append]
    omega
  cases lexeme with
  | null => simp [beginValue, settle_append]
  | boolean b => simp [beginValue, settle_append]
  | numeral n => cases found : n.value? <;> simp [beginValue, settle_append, found]
  | text s => cases s <;> simp [beginValue, settle_append]
  | openList => simp only [beginValue, space]; split <;> rfl
  | openObject => simp only [beginValue, space]; split <;> rfl
  | closeList | closeObject | comma | colon | malformed => rfl

theorem readStep_append (below : outer.length ≤ room) (expect : Expect) (inner : List Frame)
    (lexeme : Lexeme) :
    readStep room expect (inner ++ outer) lexeme =
      (readStep (room - outer.length) expect inner lexeme).map (Reached.onto outer) := by
  have begins := beginValue_append below inner lexeme
  have item := beginValue_append below (.list [] :: inner) lexeme
  rw [List.cons_append] at item
  cases expect with
  | value => exact begins
  | itemOrClose => cases lexeme <;> first | exact item | simp [readStep, settle_append]
  | itemEnd items => cases lexeme <;> simp [readStep, settle_append, Reached.onto]
  | keyOrClose =>
      cases lexeme with
      | text s => cases s <;> simp [readStep, Reached.onto]
      | _ => simp [readStep, settle_append]
  | key members =>
      cases lexeme with
      | text s => cases s <;> simp [readStep, Reached.onto]
      | _ => simp [readStep]
  | colon members key => cases lexeme <;> simp [readStep, Reached.onto]
  | memberEnd members => cases lexeme <;> simp [readStep, settle_append, Reached.onto]

/-- The frames below wait until what stands above them is read, and then take it. -/
theorem readFrom_append (below : outer.length ≤ room) (expect : Expect) (inner : List Frame)
    (lexemes : List Lexeme) :
    readFrom room expect (inner ++ outer) lexemes =
      (readFrom (room - outer.length) expect inner lexemes).bind fun (value, rest) =>
        proceed room rest (settle value outer) := by
  induction lexemes generalizing expect inner with
  | nil => rfl
  | cons lexeme lexemes ih =>
      have steps := readStep_append below expect inner lexeme
      cases here : readStep (room - outer.length) expect inner lexeme with
      | none =>
          rw [here] at steps
          simp [readFrom, steps, here]
      | some reached =>
          rw [here] at steps
          rw [readFrom_cons steps, readFrom_cons here]
          cases reached with
          | more next stack => exact ih next stack
          | complete value => rfl

/-- A value inside a frame is read on its own. -/
theorem readFrom_value_eq_some {frame : Frame} {lexemes rest : List Lexeme} {result : Json}
    (read : readFrom (room + 1) .value [frame] lexemes = some (result, rest)) :
    ∃ value behind, readValue room lexemes = some (value, behind) ∧
      proceed (room + 1) behind (settle value [frame]) = some (result, rest) := by
  have split := readFrom_append (show [frame].length ≤ room + 1 by simp) .value [] lexemes
  rw [List.nil_append, read] at split
  obtain ⟨⟨value, behind⟩, first, later⟩ := Option.bind_eq_some_iff.mp split.symm
  exact ⟨value, behind, first, later⟩

end Bottom

/-! ## Walks that keep step with the reader -/

def Frame.bracket : Frame → Bracket
  | .list _ => .list
  | .member _ _ => .object

/-- What may come next for one who passes over the value. -/
def Expect.skipped : Expect → SkipExpect
  | .value => .value
  | .itemOrClose => .itemOrClose
  | .itemEnd _ => .itemEnd
  | .keyOrClose => .keyOrClose
  | .key _ => .key
  | .colon _ _ => .colon
  | .memberEnd _ => .memberEnd

def Reached.skipped : Reached → SkipReached
  | .more expect stack => .more expect.skipped (stack.map Frame.bracket)
  | .complete _ => .complete

def Reached.level : Reached → Nat
  | .more expect stack => (expect.frames stack).length
  | .complete _ => 0

def bracket? : Json → Option Bracket
  | .list _ => some .list
  | .object _ => some .object
  | _ => none

/-- The bracket around all that is being read. -/
def outermost (frames : List Frame) : Option Bracket :=
  (frames.map Frame.bracket).getLast?

def Reached.outermost : Reached → Option Bracket
  | .more expect stack => Json.outermost (expect.frames stack)
  | .complete value => value.bracket?

/-- What one lexeme does to the walks beside the reader. -/
structure KeepsStep (expect : Expect) (stack : List Frame) (lexeme : Lexeme)
    (reached : Reached) : Prop where
  skipped : skipStep expect.skipped (stack.map Frame.bracket) lexeme = some reached.skipped
  level : openAfter (expect.frames stack).length lexeme = some reached.level
  outermost : expect.frames stack ≠ [] → reached.outermost = outermost (expect.frames stack)

section Walks

variable {room : Nat} {expect : Expect} {stack : List Frame} {lexeme : Lexeme}
variable {reached : Reached} {lexemes rest : List Lexeme} {value : Json}

theorem settle_skipped (value : Json) (stack : List Frame) :
    (settle value stack).skipped = skipSettle (stack.map Frame.bracket) := by
  cases stack with
  | nil => rfl
  | cons frame outer => cases frame <;> rfl

theorem settle_level (value : Json) (stack : List Frame) :
    (settle value stack).level = stack.length := by
  cases stack with
  | nil => rfl
  | cons frame outer => cases frame <;> rfl

theorem outermost_cons (frame : Frame) (around : stack ≠ []) :
    outermost (frame :: stack) = outermost stack := by
  cases stack with
  | nil => exact absurd rfl around
  | cons next outer => simp [outermost]

theorem outermost_settle (value : Json) (around : stack ≠ []) :
    (settle value stack).outermost = outermost stack := by
  cases stack with
  | nil => exact absurd rfl around
  | cons frame outer => cases frame <;> rfl

/-- A list or an object that is finished takes the place of its frame. -/
theorem outermost_close {frame : Frame} (closes : value.bracket? = some frame.bracket)
    (stack : List Frame) : (settle value stack).outermost = outermost (frame :: stack) := by
  cases stack with
  | nil => exact closes
  | cons next outer =>
      rw [outermost_settle value (by simp), outermost_cons frame (by simp)]

theorem keepsStep_beginValue (begins : beginValue room stack lexeme = some reached) :
    KeepsStep .value stack lexeme reached := by
  have scalar : ∀ value : Json, skipBegin (stack.map Frame.bracket) lexeme =
      some (skipSettle (stack.map Frame.bracket)) → (∀ depth, openAfter depth lexeme = some depth) →
      KeepsStep .value stack lexeme (settle value stack) := by
    intro value skips flat
    refine ⟨?_, ?_, outermost_settle value⟩
    · rw [settle_skipped]
      exact skips
    · rw [settle_level]
      exact flat _
  rw [beginValue.eq_def] at begins
  split at begins
  · cases begins
    exact scalar _ rfl fun _ => rfl
  · cases begins
    exact scalar _ rfl fun _ => rfl
  · obtain ⟨n, -, rfl⟩ := Option.map_eq_some_iff.mp begins
    exact scalar _ rfl fun _ => rfl
  · cases begins
    exact scalar _ rfl fun _ => rfl
  · split at begins
    · cases begins
      exact ⟨rfl, rfl, outermost_cons _⟩
    · cases begins
  · split at begins
    · cases begins
      exact ⟨rfl, rfl, outermost_cons _⟩
    · cases begins
  · cases begins

theorem keepsStep (steps : readStep room expect stack lexeme = some reached) :
    KeepsStep expect stack lexeme reached := by
  have closes : ∀ (frame : Frame) (value : Json), value.bracket? = some frame.bracket →
      skipStep expect.skipped (stack.map Frame.bracket) lexeme =
        some (skipSettle (stack.map Frame.bracket)) →
      openAfter (expect.frames stack).length lexeme = some stack.length →
      outermost (expect.frames stack) = outermost (frame :: stack) →
      KeepsStep expect stack lexeme (settle value stack) := by
    intro frame value closes skips level same
    refine ⟨?_, ?_, fun _ => ?_⟩
    · rw [settle_skipped, skips]
    · rw [settle_level, level]
    · rw [same, outermost_close closes]
  rw [readStep.eq_def] at steps
  split at steps
  case h_1 => exact keepsStep_beginValue steps
  case h_2 =>
    cases steps
    exact closes (.list []) _ rfl rfl rfl rfl
  case h_3 open_ =>
    obtain ⟨skipped, level, outermost⟩ := keepsStep_beginValue steps
    refine ⟨?_, level, outermost⟩
    rw [← skipped]
    cases lexeme <;> first | rfl | exact absurd rfl open_
  case h_4 =>
    cases steps
    exact ⟨rfl, rfl, fun _ => rfl⟩
  case h_5 items =>
    cases steps
    exact closes (.list items) _ rfl rfl rfl rfl
  case h_6 =>
    cases steps
    exact closes (.member [] "") _ rfl rfl rfl rfl
  case h_7 =>
    cases steps
    exact ⟨rfl, rfl, fun _ => rfl⟩
  case h_8 =>
    cases steps
    exact ⟨rfl, rfl, fun _ => rfl⟩
  case h_9 =>
    cases steps
    exact ⟨rfl, rfl, fun _ => rfl⟩
  case h_10 =>
    cases steps
    exact ⟨rfl, rfl, fun _ => rfl⟩
  case h_11 members =>
    cases steps
    exact closes (.member members "") _ rfl rfl rfl rfl
  case h_12 => cases steps

/-- A value that is read can be passed over. -/
theorem skipFrom_of_readFrom (read : readFrom room expect stack lexemes = some (value, rest)) :
    skipFrom expect.skipped (stack.map Frame.bracket) lexemes = some rest := by
  induction lexemes generalizing expect stack with
  | nil => cases read
  | cons lexeme lexemes ih =>
      cases steps : readStep room expect stack lexeme with
      | none => simp [readFrom, steps] at read
      | some reached =>
          rw [readFrom_cons steps] at read
          rw [skipFrom, (keepsStep steps).skipped]
          cases reached with
          | more next outer => exact ih read
          | complete value =>
              cases read
              rfl

theorem skipValue_of_readValue (read : readValue room lexemes = some (value, rest)) :
    skipValue lexemes = some rest := by
  have walk : readFrom room .value [] lexemes = some (value, rest) := read
  exact skipFrom_of_readFrom walk

theorem bracket?_of_readFrom {bracket : Bracket}
    (around : outermost (expect.frames stack) = some bracket)
    (read : readFrom room expect stack lexemes = some (value, rest)) :
    value.bracket? = some bracket := by
  induction lexemes generalizing expect stack with
  | nil => cases read
  | cons lexeme lexemes ih =>
      cases steps : readStep room expect stack lexeme with
      | none => simp [readFrom, steps] at read
      | some reached =>
          have inside : expect.frames stack ≠ [] := by
            intro none
            simp [none, outermost] at around
          have same := (keepsStep steps).outermost inside
          rw [readFrom_cons steps] at read
          rw [around] at same
          cases reached with
          | more next outer => exact ih same read
          | complete value =>
              cases read
              exact same

theorem length_lt_of_readFrom (read : readFrom room expect stack lexemes = some (value, rest)) :
    rest.length < lexemes.length := by
  induction lexemes generalizing expect stack with
  | nil => cases read
  | cons lexeme lexemes ih =>
      cases steps : readStep room expect stack lexeme with
      | none => simp [readFrom, steps] at read
      | some reached =>
          rw [readFrom_cons steps] at read
          cases reached with
          | more next outer => exact Nat.lt_succ_of_lt (ih read)
          | complete value =>
              cases read
              exact Nat.lt_succ_self _

/-- A text that is a value is not a key, as no colon comes behind a value. -/
theorem keyAt_of_readStep (steps : readStep room .value [] lexeme = some reached)
    (goesOn : proceed room lexemes reached = some (value, rest))
    (ends : rest.head? ≠ some .colon) : keyAt (lexeme :: lexemes) = none := by
  rw [keyAt.eq_def]
  split
  · next key behind same =>
    cases same
    cases steps
    cases goesOn
    exact absurd rfl ends
  · rfl

/-- No key of the object around it is written inside a value. -/
theorem entriesFrom_of_readFrom (read : readFrom room expect stack lexemes = some (value, rest))
    (ends : rest.head? ≠ some .colon) :
    entriesFrom (expect.frames stack).length lexemes = entriesFrom 0 rest := by
  induction lexemes generalizing expect stack with
  | nil => cases read
  | cons lexeme lexemes ih =>
      cases steps : readStep room expect stack lexeme with
      | none => simp [readFrom, steps] at read
      | some reached =>
          rw [readFrom_cons steps] at read
          have noKey : (if (expect.frames stack).length = 0 then
              (keyAt (lexeme :: lexemes)).toList else []) = [] := by
            split
            · next none =>
              cases expect with
              | value =>
                  cases List.length_eq_zero_iff.mp none
                  rw [keyAt_of_readStep steps read ends, Option.toList_none]
              | _ => simp [Expect.frames] at none
            · rfl
          rw [entriesFrom, noKey, (keepsStep steps).level, List.nil_append]
          cases reached with
          | more next outer => exact ih read
          | complete value =>
              cases read
              rfl

end Walks

/-! ## The members that are made of the entries -/

structure Entry where
  key : String
  value : Json
  lexemes : List Lexeme

/-- The members with those of the entries, one after the other. -/
def Members.putAll (members : Members) (entries : List Entry) : Members :=
  entries.foldl (fun before entry => before.put entry.key entry.value) members

/-- The lexemes hold these entries, at least one, a closing brace and then `rest`. -/
inductive Holds (room : Nat) (rest : List Lexeme) : List Entry → List Lexeme → Prop where
  | last {key : String} {value : Json} {lexemes : List Lexeme}
      (reads : readValue room lexemes = some (value, .closeObject :: rest)) :
      Holds room rest [⟨key, value, lexemes⟩] (.text (some key) :: .colon :: lexemes)
  | more {key : String} {value : Json} {lexemes behind : List Lexeme} {entries : List Entry}
      (reads : readValue room lexemes = some (value, .comma :: behind))
      (others : Holds room rest entries behind) :
      Holds room rest (⟨key, value, lexemes⟩ :: entries) (.text (some key) :: .colon :: lexemes)

section Members

variable {room : Nat} {lexemes rest : List Lexeme} {result : Json}

theorem readFrom_cons_eq_some {expect : Expect} {stack : List Frame} {lexeme : Lexeme}
    (read : readFrom room expect stack (lexeme :: lexemes) = some (result, rest)) :
    ∃ reached, readStep room expect stack lexeme = some reached ∧
      proceed room lexemes reached = some (result, rest) := by
  cases steps : readStep room expect stack lexeme with
  | none => simp [readFrom, steps] at read
  | some reached =>
      rw [readFrom_cons steps] at read
      exact ⟨reached, rfl, read⟩

/-- Behind a brace or a comma an object goes on with a key, a colon and a value, and then closes
or goes on behind a comma. -/
theorem readFrom_key_eq_some {before : Members}
    (read : readFrom (room + 1) (.key before) [] lexemes = some (result, rest)) :
    ∃ key value behind, lexemes = .text (some key) :: .colon :: behind ∧
      ((readValue room behind = some (value, .closeObject :: rest) ∧
          result = .object (before.put key value)) ∨
        ∃ more, readValue room behind = some (value, .comma :: more) ∧
          readFrom (room + 1) (.key (before.put key value)) [] more = some (result, rest)) := by
  obtain ⟨key, afterKey, rfl, keyed⟩ : ∃ key afterKey, lexemes = .text (some key) :: afterKey ∧
      readFrom (room + 1) (.colon before key) [] afterKey = some (result, rest) := by
    cases lexemes with
    | nil => cases read
    | cons lexeme afterKey =>
        obtain ⟨reached, steps, goesOn⟩ := readFrom_cons_eq_some read
        cases lexeme with
        | text s =>
            cases s with
            | none => cases steps
            | some key =>
                cases steps
                exact ⟨key, afterKey, rfl, goesOn⟩
        | _ => cases steps
  obtain ⟨behind, rfl, assigned⟩ : ∃ behind, afterKey = .colon :: behind ∧
      readFrom (room + 1) .value [.member before key] behind = some (result, rest) := by
    cases afterKey with
    | nil => cases keyed
    | cons lexeme behind =>
        obtain ⟨reached, steps, goesOn⟩ := readFrom_cons_eq_some keyed
        cases lexeme with
        | colon =>
            cases steps
            exact ⟨behind, rfl, goesOn⟩
        | _ => cases steps
  obtain ⟨value, afterValue, alone, ended⟩ := readFrom_value_eq_some assigned
  refine ⟨key, value, behind, rfl, ?_⟩
  rw [settle, proceed] at ended
  cases afterValue with
  | nil => cases ended
  | cons lexeme more =>
      obtain ⟨reached, steps, goesOn⟩ := readFrom_cons_eq_some ended
      cases lexeme with
      | closeObject =>
          cases steps
          cases goesOn
          exact .inl ⟨alone, rfl⟩
      | comma =>
          cases steps
          exact .inr ⟨more, alone, goesOn⟩
      | _ => cases steps

theorem holds_of_readFrom {before : Members}
    (read : readFrom (room + 1) (.key before) [] lexemes = some (result, rest)) :
    ∃ entries, Holds room rest entries lexemes ∧ result = .object (before.putAll entries) := by
  -- an entry takes up more than one lexeme, so the induction is on how many are left
  induction size : lexemes.length using Nat.strongRecOn generalizing lexemes before with
  | ind length ih =>
      obtain ⟨key, value, behind, rfl, ⟨alone, rfl⟩ | ⟨more, alone, goesOn⟩⟩ :=
        readFrom_key_eq_some read
      · exact ⟨_, .last alone, rfl⟩
      · have shorter := length_lt_of_readFrom alone
        simp only [List.length_cons] at size shorter
        obtain ⟨entries, others, rfl⟩ := ih more.length (by omega) goesOn rfl
        exact ⟨_, .more alone others, rfl⟩

/-- An object closes at once, or holds entries. -/
theorem readValue_object {members : Members}
    (read : readValue (room + 1) (.openObject :: lexemes) = some (.object members, rest)) :
    (lexemes = .closeObject :: rest ∧ members = []) ∨
      ∃ entries, Holds room rest entries lexemes ∧ members = Members.putAll [] entries := by
  obtain ⟨reached, steps, goesOn⟩ := readFrom_cons_eq_some read
  have opens : readStep (room + 1) .value [] .openObject = some (.more .keyOrClose []) := rfl
  rw [opens] at steps
  cases steps
  cases lexemes with
  | nil => cases goesOn
  | cons lexeme lexemes =>
      obtain ⟨reached, steps, further⟩ := readFrom_cons_eq_some goesOn
      cases lexeme with
      | closeObject =>
          cases steps
          cases further
          exact .inl ⟨rfl, rfl⟩
      | text s =>
          have same : readStep (room + 1) (.key []) [] (.text s) = some reached := by
            cases s <;> exact steps
          have keyed := (readFrom_cons same).trans further
          obtain ⟨entries, holds, made⟩ := holds_of_readFrom keyed
          exact .inr ⟨entries, holds, Json.object.inj made⟩
      | _ => cases steps

/-- The entries that the reader meets are those that are written. -/
theorem entriesFrom_of_holds {entries : List Entry} (holds : Holds room rest entries lexemes) :
    entriesFrom 0 lexemes = entries.map fun entry => (entry.key, entry.lexemes) := by
  have here : ∀ (key : String) (behind : List Lexeme),
      entriesFrom 0 (.text (some key) :: .colon :: behind) =
        (key, behind) :: entriesFrom 0 behind := by
    intro key behind
    simp [entriesFrom, keyAt, openAfter]
  induction holds with
  | last reads =>
      have inside := entriesFrom_of_readFrom reads (by simp)
      rw [Expect.frames, List.length_nil] at inside
      rw [here, inside]
      rfl
  | more reads others ih =>
      have inside := entriesFrom_of_readFrom reads (by simp)
      rw [Expect.frames, List.length_nil] at inside
      rw [here, inside, List.map_cons, ← ih]
      rfl

end Members

end IndexExport.Json
