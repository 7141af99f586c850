import IndexExport.Filter.Compile
import IndexExport.Log.Line
import IndexExport.Proofs.Json.Reading
import IndexExport.Proofs.Text.Splitting
/-!
# What a JSON line tells

A JSON line is the compact form of an object with the time, the level, the source and the
message. The quoted message holds no control, so the line has its line feed at the end and
nowhere else, and reading it gives the object. The delete character is none of those controls
and yet is not shown: the log holds the line of the message without it. So the lines of a log
are those of its notices, one each, and in order.
-/
set_option autoImplicit false

namespace IndexExport

/-! ## Visible texts and texts without controls -/

namespace Text

/-- A space or a visible character of ASCII. -/
def isVisible (c : Char) : Bool := Terminal.between 0x20 0x7E c

def isDelete (c : Char) : Bool := c == '\x7f'

/-- A text without its delete characters. -/
def withoutDeletes (s : String) : String :=
  String.ofList (s.toList.filter (!isDelete ·))

/-- No characters below the space. -/
def NoControls (cs : List Char) : Prop := ∀ c ∈ cs, 0x20 ≤ c.toNat

/-- One line: no controls but the line feed at its end. -/
def OneLine (text : String) : Prop :=
  ∃ front, text.toList = front ++ ['\n'] ∧ NoControls front

section Visible

variable {c : Char} {cs : List Char}

theorem isVisible_iff : isVisible c = true ↔ 0x20 ≤ c.toNat ∧ c.toNat ≤ 0x7E := by
  simp [isVisible, Terminal.between]

theorem not_isDelete_of_isVisible (visible : isVisible c = true) : isDelete c = false := by
  apply beq_false_of_ne
  rintro rfl
  cases visible

theorem noControls_of_visible (visible : ∀ c ∈ cs, isVisible c = true) : NoControls cs :=
  fun c member => (isVisible_iff.mp (visible c member)).1

theorem filter_of_visible (visible : ∀ c ∈ cs, isVisible c = true) :
    cs.filter (!isDelete ·) = cs := by
  rw [List.filter_eq_self]
  intro c member
  rw [not_isDelete_of_isVisible (visible c member)]
  rfl

theorem visible_decimal (n : Nat) : ∀ c ∈ decimal n, isVisible c = true := by
  intro c digit
  have range := toNat_of_isDigit (isDigit_of_mem_decimal digit)
  rw [isVisible_iff]
  omega

end Visible

/-! ## What is shown of a line -/

section Shown

variable {c : Char} {cs : List Char}

theorem Terminal.isShown_text (plain : c = '\n' ∨ 0x20 ≤ c.toNat) :
    isShown .text c = !isDelete c := by
  by_cases deleted : c = '\x7f'
  · rw [deleted]
    rfl
  · have other : c.toNat ≠ 0x7F := by
      intro same
      rw [← Char.ofNat_toNat c, same] at deleted
      exact deleted rfl
    rw [isDelete, beq_false_of_ne deleted]
    rcases plain with rfl | above
    · rfl
    · simp only [isShown, between, Bool.not_false, Bool.or_eq_true, Bool.and_eq_true,
        decide_eq_true_eq]
      omega

/-- Where no control begins a sequence, nothing is lost but delete characters. -/
theorem Terminal.shownFrom_eq_filter (showing : Bool)
    (plain : ∀ c ∈ cs, c = '\n' ∨ 0x20 ≤ c.toNat) :
    shownFrom showing .text cs = cs.filter (!isDelete ·) := by
  induction cs generalizing showing with
  | nil => rfl
  | cons c rest ih =>
      obtain ⟨here, later⟩ := List.forall_mem_cons.mp plain
      rw [shownFrom, ite_self, isShown_text here, ite_self, List.filter_cons, ih true later]
      by_cases deleted : isDelete c = true
      · -- A delete character is not shown, and what comes after it is plain text again.
        have stays : after .text c = .text := by
          rw [eq_of_beq deleted]
          rfl
        rw [deleted, Bool.not_true, if_neg Bool.false_ne_true, if_neg Bool.false_ne_true, stays,
          ih false later]
      · rw [Bool.eq_false_of_not_eq_true deleted]
        rfl

theorem OneLine.shown {text : String} (line : OneLine text) :
    Terminal.shown text.toList = text.toList.filter (!isDelete ·) := by
  obtain ⟨front, whole, plain⟩ := line
  apply Terminal.shownFrom_eq_filter
  rw [whole]
  intro c member
  rcases List.mem_append.mp member with early | last
  · exact .inr (plain c early)
  · exact .inl (List.mem_singleton.mp last)

end Shown

/-- Lines come apart at their line feeds, and nothing stands behind the last one. -/
theorem splitBy_lines {lines : List (List Char)} (plain : ∀ cs ∈ lines, NoControls cs) :
    splitBy (· == '\n') (lines.flatMap (· ++ ['\n'])) = lines ++ [[]] := by
  induction lines with
  | nil => rfl
  | cons cs lines ih =>
      obtain ⟨here, later⟩ := List.forall_mem_cons.mp plain
      have uncut : ∀ c ∈ cs, (c == '\n') = false := by
        intro c member
        apply beq_false_of_ne
        rintro rfl
        exact absurd (here _ member) (by decide)
      rw [List.flatMap_cons, List.append_assoc, List.singleton_append,
        splitBy_append_cut (by decide), splitBy_of_uncut uncut, ih later]
      rfl

end Text

/-! ## Quoted texts -/

namespace Json

open Text (isVisible isDelete withoutDeletes NoControls)

theorem visible_of_escapedChar? {e c : Char} (escaped : escapedChar? e = some c) :
    isVisible e = true := by
  rw [escapedChar?] at escaped
  split_ifs at escaped <;> subst_vars <;> rfl

theorem visible_hexDigit : ∀ n < 16, isVisible (Text.hexDigit n) = true := by decide

/-- What is written for a character is visible, or it is the character itself. -/
theorem quotedChar_visible_or (c : Char) :
    (∀ d ∈ quotedChar c, isVisible d = true) ∨ (quotedChar c = [c] ∧ 0x20 ≤ c.toNat) := by
  have backslash : isVisible '\\' = true := rfl
  rcases quotedChar_cases c with ⟨e, -, escaped, written⟩ | ⟨control, written⟩ |
    ⟨-, -, above, written⟩
  · left
    simp [written, backslash, visible_of_escapedChar? escaped]
  · left
    have high := visible_hexDigit (c.toNat / 16) (by omega)
    have low := visible_hexDigit (c.toNat % 16) (by omega)
    have letter : isVisible 'u' = true ∧ isVisible '0' = true := ⟨rfl, rfl⟩
    simp [written, backslash, letter, high, low]
  · exact .inr ⟨written, Nat.le_of_not_lt above⟩

theorem noControls_quotedChar (c : Char) : NoControls (quotedChar c) := by
  rcases quotedChar_visible_or c with visible | ⟨same, above⟩
  · exact Text.noControls_of_visible visible
  · rw [same]
    exact List.forall_mem_singleton.mpr above

theorem noControls_quoted (s : String) : NoControls (quoted s) := by
  intro d member
  rw [quoted] at member
  rcases List.mem_append.mp member with early | last
  · rcases List.mem_cons.mp early with rfl | inside
    · decide
    · obtain ⟨c, -, written⟩ := List.mem_flatMap.mp inside
      exact noControls_quotedChar c d written
  · rw [List.mem_singleton.mp last]
    decide

theorem filter_quotedChar (c : Char) : (quotedChar c).filter (!isDelete ·) =
    if isDelete c then [] else quotedChar c := by
  by_cases deleted : isDelete c = true
  · rw [if_pos deleted, eq_of_beq deleted]
    rfl
  · rw [if_neg deleted]
    rcases quotedChar_visible_or c with visible | ⟨same, -⟩
    · exact Text.filter_of_visible visible
    · rw [same]
      simp [deleted]

theorem filter_quoted (s : String) :
    (quoted s).filter (!isDelete ·) = quoted (withoutDeletes s) := by
  have inside : ∀ cs : List Char, (cs.flatMap quotedChar).filter (!isDelete ·) =
      (cs.filter (!isDelete ·)).flatMap quotedChar := by
    intro cs
    induction cs with
    | nil => rfl
    | cons c cs ih =>
        rw [List.flatMap_cons, List.filter_append, ih, filter_quotedChar, List.filter_cons]
        cases isDelete c <;> simp
  have quote : isDelete '"' = false := rfl
  simp [quoted, quote, inside, withoutDeletes]

end Json

/-! ## Lines -/

namespace Log

open Text (isVisible isDelete withoutDeletes NoControls OneLine)

/-- The object that a line tells. -/
def entry (milliseconds : Nat) (level : Level) (source : Source) (message : String) : Json :=
  .object [("ts", .number (.whole milliseconds)), ("level", .text level.name),
    ("target", .text source.name), ("msg", .text message)]

/-- What the log holds of a JSON line. -/
def shownLine (milliseconds : Nat) (level : Level) (source : Source) (message : String) :
    String :=
  String.ofList (Text.Terminal.shown (line .json milliseconds level source message).toList)

theorem Notice.shownLine_json (notice : Notice) (clock : Clock) :
    notice.shownLine .json clock = Log.shownLine clock.milliseconds notice.level notice.source
      (notice.message clock.elapsed) := rfl

/-- What a reader takes from a log: the value of each line. -/
def readBack (log : String) : List (Option Json) :=
  (Text.splitBy (· == '\n') log.toList).dropLast.map fun cs => Json.read (String.ofList cs)

/-- A line up to its message. -/
def lineHead (milliseconds : Nat) (level : Level) (source : Source) : List Char :=
  '\x7b' :: (Json.quoted "ts" ++ ':' :: (Text.decimal milliseconds ++ ',' ::
    (Json.quoted "level" ++ ':' :: (Json.quoted level.name ++ ',' ::
      (Json.quoted "target" ++ ':' :: (Json.quoted source.name ++ ',' ::
        (Json.quoted "msg" ++ [':'])))))))

theorem compactChars_entry (milliseconds : Nat) (level : Level) (source : Source)
    (message : String) : (entry milliseconds level source message).compactChars =
      lineHead milliseconds level source ++ (Json.quoted message ++ ['\x7d']) := by
  have digits : Text.signedDecimal milliseconds = Text.decimal milliseconds := rfl
  simp [entry, Json.compactChars, Json.compactMembers, Json.Number.render, digits, lineHead]

theorem quoted_level (level : Level) :
    Json.quoted level.name = '"' :: (level.name.toList ++ ['"']) := by
  cases level <;> rfl

theorem quoted_source (source : Source) :
    Json.quoted source.name = '"' :: (source.name.toList ++ ['"']) := by
  cases source <;> rfl

theorem toList_line (milliseconds : Nat) (level : Level) (source : Source) (message : String) :
    (line .json milliseconds level source message).toList =
      (entry milliseconds level source message).compactChars ++ ['\n'] := by
  -- Keys and names need no escapes, so the line has them as they are.
  have ts : Json.quoted "ts" = ['"', 't', 's', '"'] := rfl
  have levelKey : Json.quoted "level" = '"' :: ("level".toList ++ ['"']) := rfl
  have targetKey : Json.quoted "target" = '"' :: ("target".toList ++ ['"']) := rfl
  have messageKey : Json.quoted "msg" = '"' :: ("msg".toList ++ ['"']) := rfl
  simp [line, compactChars_entry, lineHead, Text.decimal, quoted_level, quoted_source, ts,
    levelKey, targetKey, messageKey]

theorem visible_lineHead (milliseconds : Nat) (level : Level) (source : Source) :
    ∀ c ∈ lineHead milliseconds level source, isVisible c = true := by
  have marks : isVisible '\x7b' = true ∧ isVisible ':' = true ∧ isVisible ',' = true :=
    ⟨rfl, rfl, rfl⟩
  have ts : (Json.quoted "ts").all isVisible = true := rfl
  have levelKey : (Json.quoted "level").all isVisible = true := rfl
  have targetKey : (Json.quoted "target").all isVisible = true := rfl
  have messageKey : (Json.quoted "msg").all isVisible = true := rfl
  have name : (Json.quoted level.name).all isVisible = true := by cases level <;> rfl
  have place : (Json.quoted source.name).all isVisible = true := by cases source <;> rfl
  rw [List.all_eq_true] at ts levelKey targetKey messageKey name place
  simp only [lineHead, List.forall_mem_cons, List.forall_mem_append, List.not_mem_nil,
    false_implies, implies_true, and_true]
  obtain ⟨brace, colon, comma⟩ := marks
  exact ⟨brace, ts, colon, Text.visible_decimal milliseconds, comma, levelKey, colon, name, comma,
    targetKey, colon, place, comma, messageKey, colon⟩

theorem noControls_entry (milliseconds : Nat) (level : Level) (source : Source)
    (message : String) : NoControls (entry milliseconds level source message).compactChars := by
  rw [compactChars_entry]
  intro c member
  rcases List.mem_append.mp member with front | back
  · exact Text.noControls_of_visible (visible_lineHead milliseconds level source) c front
  · rcases List.mem_append.mp back with inside | last
    · exact Json.noControls_quoted message c inside
    · rw [List.mem_singleton.mp last]
      decide

theorem oneLine_line (milliseconds : Nat) (level : Level) (source : Source) (message : String) :
    OneLine (line .json milliseconds level source message) :=
  ⟨_, toList_line milliseconds level source message, noControls_entry _ _ _ _⟩

/-- The log holds the line of the message without its delete characters. -/
theorem shownLine_eq (milliseconds : Nat) (level : Level) (source : Source) (message : String) :
    shownLine milliseconds level source message =
      line .json milliseconds level source (withoutDeletes message) := by
  have front := Text.filter_of_visible (visible_lineHead milliseconds level source)
  have brace : ['\x7d'].filter (!isDelete ·) = ['\x7d'] := rfl
  have feed : ['\n'].filter (!isDelete ·) = ['\n'] := rfl
  rw [shownLine, (oneLine_line milliseconds level source message).shown, ← String.toList_inj,
    String.toList_ofList, toList_line, toList_line, compactChars_entry, compactChars_entry,
    List.filter_append, List.filter_append, List.filter_append, front, Json.filter_quoted, brace,
    feed]

section Reading

variable {milliseconds : Nat} (inTime : (milliseconds : Int) ≤ Json.Number.greatest)
variable (level : Level) (source : Source)

include inTime

theorem read_entry (message : String) {rest : List Char} (blank : Json.scan rest = []) :
    Json.read (String.ofList ((entry milliseconds level source message).compactChars ++ rest)) =
      some (entry milliseconds level source message) := by
  have number : (Json.spelled milliseconds).value? = some (.whole milliseconds) :=
    Json.value?_spelled (Int.le_trans (by decide) (Int.natCast_nonneg milliseconds)) inTime
  have digits : ∀ cs, Json.scan (Text.decimal milliseconds ++ ',' :: cs) =
      .numeral (Json.spelled milliseconds) :: Json.scan (',' :: cs) := fun cs =>
    Json.scan_whole milliseconds (Json.endsNumeral_cons (by decide) cs)
  rw [Json.read_eq_some_iff, String.toList_ofList, compactChars_entry, lineHead]
  simp only [List.cons_append, List.append_assoc, List.nil_append, Json.scan_openObject,
    Json.scan_quoted, Json.scan_colon, digits, Json.scan_comma, Json.scan_closeObject, blank]
  simp [Json.readValue, Json.readFrom, Json.readStep, Json.beginValue, Json.settle, number,
    Json.Members.put, Json.deepest, entry]

theorem read_line (message : String) :
    Json.read (line .json milliseconds level source message) =
      some (entry milliseconds level source message) := by
  have blank : Json.scan ['\n'] = [] := rfl
  have read := read_entry inTime level source message blank
  rwa [← toList_line, String.ofList_toList] at read

theorem line_inj {message other : String} (same : line .json milliseconds level source message =
    line .json milliseconds level source other) : message = other := by
  have read := congrArg Json.read same
  rw [read_line inTime, read_line inTime] at read
  simpa [entry] using read

end Reading

/-- A line is one line, and it tells the time, the level, the source and the message. What the
log holds of it is one line too, and tells the message without its delete characters. So a line
tells any two messages apart, and in the log they stay apart if they differ in more than delete
characters. -/
theorem line_tells_message {milliseconds : Nat}
    (inTime : (milliseconds : Int) ≤ Json.Number.greatest) (level : Level) (source : Source)
    (message : String) :
    OneLine (line .json milliseconds level source message) ∧
      Json.read (line .json milliseconds level source message) =
        some (entry milliseconds level source message) ∧
      OneLine (shownLine milliseconds level source message) ∧
      Json.read (shownLine milliseconds level source message) =
        some (entry milliseconds level source (withoutDeletes message)) ∧
      ∀ other,
        (line .json milliseconds level source other =
          line .json milliseconds level source message ↔ other = message) ∧
        (shownLine milliseconds level source other =
          shownLine milliseconds level source message ↔
            withoutDeletes other = withoutDeletes message) := by
  refine ⟨oneLine_line milliseconds level source message, read_line inTime level source message,
    ?_, ?_, ?_⟩
  · rw [shownLine_eq]
    exact oneLine_line milliseconds level source (withoutDeletes message)
  · rw [shownLine_eq]
    exact read_line inTime level source (withoutDeletes message)
  · intro other
    rw [shownLine_eq, shownLine_eq]
    refine ⟨⟨line_inj inTime level source, ?_⟩, line_inj inTime level source, ?_⟩
    · rintro rfl
      rfl
    · intro same
      rw [same]

/-- A message that ends its text, its object and its line, and goes on. -/
def thornyMessage : String := "\"\x7d\n\x7b\x7f\\\x1b[2K\t\x00é"

theorem line_tells_thorny_message :
    ((1763510400000 : Nat) : Int) ≤ Json.Number.greatest ∧
      OneLine (shownLine 1763510400000 .debug .compilation thornyMessage) ∧
      Json.read (line .json 1763510400000 .debug .compilation thornyMessage) =
        some (entry 1763510400000 .debug .compilation thornyMessage) ∧
      Json.read (shownLine 1763510400000 .debug .compilation thornyMessage) =
        some (entry 1763510400000 .debug .compilation "\"\x7d\n\x7b\\\x1b[2K\t\x00é") ∧
      line .json 1763510400000 .debug .compilation "" ≠
        line .json 1763510400000 .debug .compilation thornyMessage := by
  have inTime : ((1763510400000 : Nat) : Int) ≤ Json.Number.greatest := by decide
  have visible : withoutDeletes thornyMessage = "\"\x7d\n\x7b\\\x1b[2K\t\x00é" := by decide
  obtain ⟨-, read, shown, readShown, apart⟩ :=
    line_tells_message inTime .debug .compilation thornyMessage
  rw [visible] at readShown
  refine ⟨inTime, shown, read, readShown, ?_⟩
  intro same
  exact absurd ((apart "").1.mp same) (by decide)

/-! ## Logs -/

theorem toList_written (level : Level) (clock : Clock) (notices : List Notice) :
    (written .json level clock notices).toList =
      ((upTo level notices).map fun n => (entry clock.milliseconds n.level n.source
        (withoutDeletes (n.message clock.elapsed))).compactChars).flatMap (· ++ ['\n']) := by
  have each : ∀ n : Notice, (n.shownLine .json clock).toList =
      (entry clock.milliseconds n.level n.source
        (withoutDeletes (n.message clock.elapsed))).compactChars ++ ['\n'] := by
    intro n
    rw [Notice.shownLine_json, shownLine_eq, toList_line]
  simp [written, String.toList_join, List.flatMap_map, each]

/-- A log reads back as the notices that were written to it, in order, each with its message
but for delete characters. -/
theorem readBack_written (level : Level) {clock : Clock}
    (inTime : (clock.milliseconds : Int) ≤ Json.Number.greatest) (notices : List Notice) :
    readBack (written .json level clock notices) = (upTo level notices).map fun n =>
      some (entry clock.milliseconds n.level n.source
        (withoutDeletes (n.message clock.elapsed))) := by
  have plain : ∀ cs ∈ (upTo level notices).map fun n => (entry clock.milliseconds n.level n.source
      (withoutDeletes (n.message clock.elapsed))).compactChars, NoControls cs := by
    intro cs member
    obtain ⟨n, -, rfl⟩ := List.mem_map.mp member
    exact noControls_entry _ _ _ _
  rw [readBack, toList_written, Text.splitBy_lines plain, List.dropLast_concat, List.map_map]
  apply List.map_congr_left
  intro n _
  have read := read_entry inTime n.level n.source (withoutDeletes (n.message clock.elapsed))
    Json.scan_nil
  rw [List.append_nil] at read
  rw [Function.comp_apply, read]

/-- A filter that goes by the delete character and is dropped for its operator. -/
def unnamedFilter : Filter := ⟨"\x7f", "f", .text, some .lessThan, "v", none⟩

/-- The log has the same line for a filter without any name, and it tells that one. -/
theorem written_loses_delete :
    (Filter.compileTold .legacy [unnamedFilter]).2 = [.filterDropped "\x7f" "f"] ∧
      (Notice.filterDropped "\x7f" "f").message "" ≠ (Notice.filterDropped "" "f").message "" ∧
      written .json .debug ⟨0, ""⟩ [.filterDropped "\x7f" "f"] =
        written .json .debug ⟨0, ""⟩ [.filterDropped "" "f"] ∧
      Json.read (written .json .debug ⟨0, ""⟩ [.filterDropped "\x7f" "f"]) ≠
        some (entry 0 .debug .compilation ((Notice.filterDropped "\x7f" "f").message "")) := by
  have log : ∀ id, written .json .debug ⟨0, ""⟩ [.filterDropped id "f"] =
      line .json 0 .debug .compilation
        (withoutDeletes ((Notice.filterDropped id "f").message "")) := by
    intro id
    have kept : upTo .debug [.filterDropped id "f"] = [.filterDropped id "f"] := rfl
    rw [← String.toList_inj, toList_written, kept, toList_line, List.map_singleton,
      List.flatMap_singleton]
    rfl
  have lost : withoutDeletes ((Notice.filterDropped "\x7f" "f").message "") =
      withoutDeletes ((Notice.filterDropped "" "f").message "") := by decide
  have differ : (Notice.filterDropped "\x7f" "f").message "" ≠
      withoutDeletes ((Notice.filterDropped "" "f").message "") := by decide
  refine ⟨rfl, by decide, by rw [log, log, lost], ?_⟩
  rw [log, read_line (by decide), lost]
  intro same
  simp only [entry] at same
  exact differ (by simpa using same.symm)

end Log

end IndexExport
