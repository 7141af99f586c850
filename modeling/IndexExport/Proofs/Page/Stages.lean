import IndexExport.Proofs.Csv.Table
import IndexExport.Proofs.Page.ReadBack
/-!
# Writers one act after the other

`Writer.write` gives the file of a page all at once. A writer comes to it in acts: it looks at
the payload, creates the file, which empties one that is there, and appends to it piece by piece.
`Writer.acts` lists them, and `perform` lets them act on the files, so that a writer that gave up
after it had created its file would leave the file cut short. No writer does. Only the medium can
break off, and what the acts come to is what `Writer.write` gives.

A sequence of writes follows from one write: as long as writing to a file that was opened
succeeds, a file holds what the last successful write to it made, whatever was there before.
-/
set_option autoImplicit false

namespace IndexExport

namespace Storage.Tree

theorem putEntry_putEntry (place : Place) (first second : Entry)
    (entries : List (Place × Entry)) :
    putEntry place second (putEntry place first entries) = putEntry place second entries := by
  induction entries with
  | nil => simp [putEntry]
  | cons head rest ih =>
      obtain ⟨p, e⟩ := head
      by_cases same : p = place <;> simp [putEntry, same, ih]

theorem put_put (tree : Tree) (place : Place) (first second : Entry) :
    (tree.put place first).put place second = tree.put place second := by
  rw [put, put, put, putEntry_putEntry]

end Storage.Tree

namespace Page

open Storage (Tree Place)

/-! ## Acts -/

inductive Act where
  | giveUp (failure : Failure)
  | create
  | append (text : String)

/-- The head of the root element, a piece for each document with XML, and the end. -/
def xmlPieces (moment : String) (items : List Json) : List String :=
  "<?xml version=\"1.0\" encoding=\"UTF-8\"?>\n" ::
    ("<iati-activities version=\"" ++ xmlVersion ++ "\" generated-datetime=\"" ++ moment ++
      "\">\n") ::
    ((items.filterMap xmlOf?).map (· ++ "\n") ++ ["</iati-activities>\n"])

/-- The embedded values that are there and can be read. -/
def readableValues (items : List Json) : List Json :=
  items.filterMap fun document => (embedded? document).toOption.join

/-- What is wrong with the embedded value of a document. -/
def embeddedFault? (document : Json) : Option Failure :=
  match embedded? document with
  | .error e => some e
  | .ok _ => none

/-- All documents are looked at before the file is created. -/
def embeddedActs (items : List Json) : List Act :=
  (items.filterMap embeddedFault?).map .giveUp ++
    [.create, .append (Json.list (readableValues items)).pretty]

/-- A record is looked at when its turn comes. -/
def recordAct (width : Nat) (record : Csv.Record) : Act :=
  if record.length = width then .append (String.ofList (Csv.recordText record))
  else .giveUp (.uneven ⟨record.length, width⟩)

/-- The acts of a writer for a payload. -/
def Writer.acts (writer : Writer) (moment : String) : Payload → List Act
  | .tabular body =>
    match writer with
    | .csvTable => [.create, .append body]
    | _ => [.giveUp (.unsupported writer.name (Payload.tabular body).kindName)]
  | .documents items =>
    match writer with
    | .raw => [.create, .append (Json.list items).pretty]
    | .xml => .create :: (xmlPieces moment items).map .append
    | .embeddedJson => embeddedActs items
    | .csvTable =>
      if Csv.columns items = [] then [.create, .append ""]
      else .create :: (Csv.columns items :: items.map (Csv.row (Csv.columns items))).map
        (recordAct (Csv.columns items).length)

/-- The acts on the files, beside the file that has been created and what stands in it. A medium
that breaks off does so behind the creation, and `broken` says what becomes of that. -/
def perform (medium : Medium) (broken : Storage.Cause → Stage → Failure) (path : String) :
    Option (Place × String) → List Act → Tree → Tree × Except Failure Unit
  | _, [], tree => (tree, .ok ())
  | _, .giveUp failure :: _, tree => (tree, .error failure)
  | _, .create :: rest, tree =>
    match medium.opens tree path with
    | .error cause => (tree, .error (.storage path cause))
    | .ok place =>
      match medium with
      | .breaksOff stage cause left => (tree.put place (.file left), .error (broken cause stage))
      | _ => perform medium broken path (some (place, "")) rest (tree.put place (.file (.text "")))
  | none, .append _ :: rest, tree => perform medium broken path none rest tree
  | some (place, written), .append text :: rest, tree =>
    perform medium broken path (some (place, written ++ text)) rest
      (tree.put place (.file (.text (written ++ text))))

/-- Writes a page act by act. -/
def Writer.performed (writer : Writer) (occasion : Occasion) (payload : Payload) (path : String)
    (tree : Tree) : Tree × Except Failure Unit :=
  perform occasion.medium (writer.brokenOff path payload) path none
    (writer.acts occasion.moment payload) tree

/-! ## What the acts come to -/

section Acts

variable {writer : Writer} {moment path content : String} {payload : Payload} {items : List Json}
variable {tree : Tree} {place : Place} {e : Failure} {medium : Medium}
variable {broken : Storage.Cause → Stage → Failure}

theorem perform_appends (medium : Medium) (broken : Storage.Cause → Stage → Failure)
    (path written : String) (texts : List String) (tree : Tree) (place : Place) :
    perform medium broken path (some (place, written)) (texts.map .append)
        (tree.put place (.file (.text written))) =
      (tree.put place (.file (.text (written ++ String.join texts))), .ok ()) := by
  -- what stands in the file so far is general, as each piece goes behind it
  induction texts generalizing written with
  | nil => simp [perform]
  | cons text texts ih =>
      rw [List.map_cons, perform, Tree.put_put, ih, String.join_cons, String.append_assoc]

/-- A writer that creates its file and then only appends. -/
theorem perform_create (opens : medium.opens tree path = .ok place) (holds : medium.holds = true)
    (texts : List String) :
    perform medium broken path none (.create :: texts.map .append) tree =
      (tree.put place (.file (.text (String.join texts))), .ok ()) := by
  cases medium with
  | breaksOff => cases holds
  | takes | refuses =>
      simp only [perform, opens]
      rw [perform_appends, String.empty_append]

theorem join_xmlPieces (moment : String) (items : List Json) :
    String.join (xmlPieces moment items) = xmlText moment items := by
  have head : "<?xml version=\"1.0\" encoding=\"UTF-8\"?>\n<iati-activities version=\"" =
      "<?xml version=\"1.0\" encoding=\"UTF-8\"?>\n" ++ "<iati-activities version=\"" := by decide
  unfold xmlPieces xmlText
  rw [head]
  simp only [String.join_cons, String.join_append, String.join_nil, String.append_assoc,
    String.append_empty]

theorem embeddedValues_eq (items : List Json) :
    embeddedValues items =
      match items.findSome? embeddedFault? with
      | some e => .error e
      | none => .ok (readableValues items) := by
  induction items with
  | nil => rfl
  | cons document rest ih =>
      rw [embeddedValues, List.findSome?_cons, embeddedFault?]
      cases read : embedded? document with
      | error e => rfl
      | ok value =>
          dsimp only
          rw [ih]
          cases rest.findSome? embeddedFault? with
          | some e => rfl
          | none => cases value <;> simp [readableValues, read, Except.toOption]

theorem recordsText_eq_join (records : List Csv.Record) :
    String.join (records.map fun record => String.ofList (Csv.recordText record)) =
      String.ofList (Csv.recordsText records) := by
  rw [← String.toList_inj, String.toList_join, String.toList_ofList, Csv.recordsText,
    List.flatMap_map]
  simp only [String.toList_ofList]

theorem map_recordAct {width : Nat} {records : List Csv.Record}
    (even : ∀ record ∈ records, record.length = width) :
    records.map (recordAct width) =
      (records.map fun record => String.ofList (Csv.recordText record)).map .append := by
  rw [List.map_map]
  refine List.map_congr_left fun record member => ?_
  rw [recordAct, if_pos (even record member)]
  rfl

/-- A writer gives up before it does anything else, or creates its file and then only appends. -/
theorem acts_cases (writer : Writer) (moment : String) (payload : Payload) :
    (∃ e rest, writer.content moment payload = .error e ∧
      writer.acts moment payload = .giveUp e :: rest) ∨
    ∃ texts, writer.content moment payload = .ok (String.join texts) ∧
      writer.acts moment payload = .create :: texts.map .append := by
  have one : ∀ text, String.join [text] = text := fun text => by simp
  cases payload with
  | tabular body =>
      cases writer with
      | csvTable => exact .inr ⟨[body], by rw [one]; rfl, rfl⟩
      | raw | xml | embeddedJson => exact .inl ⟨_, [], rfl, rfl⟩
  | documents items =>
      cases writer with
      | raw => exact .inr ⟨[(Json.list items).pretty], by rw [one]; rfl, rfl⟩
      | xml => exact .inr ⟨xmlPieces moment items, by rw [join_xmlPieces]; rfl, rfl⟩
      | embeddedJson =>
          rw [Writer.content, Writer.acts, embeddedValues_eq, embeddedActs,
            ← List.head?_filterMap]
          cases items.filterMap embeddedFault? with
          | nil => exact .inr ⟨[(Json.list (readableValues items)).pretty], by rw [one]; rfl, rfl⟩
          | cons e faults => exact .inl ⟨e, _, rfl, rfl⟩
      | csvTable =>
          rw [Writer.content, Writer.acts, tableContent, Csv.pageText_eq]
          split
          · exact .inr ⟨[""], by rw [one], rfl⟩
          · refine .inr ⟨_, ?_, congrArg (Act.create :: ·) (map_recordAct ?_)⟩
            · rw [recordsText_eq_join]
            · simp [Csv.length_row]

/-- The acts of a writer come to what it writes. -/
theorem performed_eq_write (writer : Writer) (occasion : Occasion) (payload : Payload)
    (path : String) (tree : Tree) :
    writer.performed occasion payload path tree =
      ((writer.write occasion payload path tree).files,
        (writer.write occasion payload path tree).result) := by
  obtain ⟨moment, medium⟩ := occasion
  rw [Writer.performed, Writer.write]
  rcases acts_cases writer moment payload with ⟨e, rest, failed, acts⟩ | ⟨texts, held, acts⟩
  · simp only [failed, acts, perform]
  · simp only [held, acts]
    cases opens : medium.opens tree path with
    | error cause => simp only [perform, opens]
    | ok place =>
        cases medium with
        | breaksOff stage cause left => simp only [perform, opens]
        | takes | refuses => simp only [perform_create opens rfl]

end Acts

/-! ## One write after the other -/

structure Task where
  writer : Writer
  occasion : Occasion
  payload : Payload
  path : String

def Task.perform (task : Task) (tree : Tree) : Tree × Except Failure Unit :=
  task.writer.performed task.occasion task.payload task.path tree

/-- Writing to the file succeeds once that is open. -/
def Task.Holds (task : Task) : Prop := task.occasion.medium.holds = true

/-- Writes pages one after the other, whether they succeed or fail. -/
def performAll : List Task → Tree → Tree
  | [], tree => tree
  | task :: rest, tree => performAll rest (task.perform tree).1

/-- The page is written, and its content goes to the file at a place. -/
structure Task.Writes (task : Task) (tree : Tree) (place : Place) (content : String) : Prop where
  succeeds : (task.perform tree).2 = .ok ()
  opens : tree.openForWriting task.path = .ok place
  content : task.writer.content task.occasion.moment task.payload = .ok content

/-- A file at one place holds the content, and nothing else has changed. -/
def Changes (place : Place) (content : String) (before after : Tree) : Prop :=
  after.at? place = some (.file (.text content)) ∧
    ∀ other, other ≠ place → after.at? other = before.at? other

section Tasks

variable {task : Task} {tasks : List Task} {tree : Tree} {place : Place} {content path : String}

/-- One that is written replaces a file, and a page that is not written leaves the files alone,
unless the medium breaks off. -/
theorem Task.perform_cases (task : Task) (tree : Tree) :
    (∃ e, task.perform tree = (tree, .error e)) ∨
    (∃ place content, task.Writes tree place content ∧
      task.perform tree = (tree.put place (.file (.text content)), .ok ())) ∨
    ∃ place left e, ¬task.Holds ∧ tree.openForWriting task.path = .ok place ∧
      task.perform tree = (tree.put place (.file left), .error e) := by
  have acts := performed_eq_write task.writer task.occasion task.payload task.path tree
  rw [← Task.perform] at acts
  cases wrote : (task.writer.write task.occasion task.payload task.path tree).result with
  | ok done =>
      obtain ⟨content, place, held, opens, -, files⟩ := Writer.write_eq_ok wrote
      rw [wrote, files] at acts
      exact .inr (.inl ⟨place, content, ⟨by rw [acts], opens, held⟩, acts⟩)
  | error e =>
      rw [wrote] at acts
      rcases Writer.write_eq_error wrote with
        ⟨-, files⟩ | ⟨cause, -, -, files⟩ | ⟨place, stage, cause, left, opens, breaks, -, files⟩
      · exact .inl ⟨e, by rw [acts, files]⟩
      · exact .inl ⟨e, by rw [acts, files]⟩
      · refine .inr (.inr ⟨place, left, e, ?_, opens, by rw [acts, files]⟩)
        rw [Holds, breaks]
        exact Bool.false_ne_true

theorem Task.Writes.perform_eq (writes : task.Writes tree place content) :
    task.perform tree = (tree.put place (.file (.text content)), .ok ()) := by
  rcases task.perform_cases tree with
    ⟨e, failed⟩ | ⟨place', content', same, wrote⟩ | ⟨_, _, e, -, -, failed⟩
  · have succeeds := writes.succeeds
    rw [failed] at succeeds
    cases succeeds
  · rw [Except.ok.inj (writes.opens.symm.trans same.opens),
      Except.ok.inj (writes.content.symm.trans same.content), wrote]
  · have succeeds := writes.succeeds
    rw [failed] at succeeds
    cases succeeds

theorem Task.Writes.changes (writes : task.Writes tree place content) :
    Changes place content tree (task.perform tree).1 := by
  have free := (Tree.openForWriting_eq_ok writes.opens).1
  rw [writes.perform_eq]
  exact ⟨Tree.at?_put_self (Tree.ne_root_of_not_directory free) _,
    fun other differ => Tree.at?_put_other differ _⟩

/-- Whatever the medium does, no file but the one that the path leads to changes. -/
theorem Task.at?_perform (task : Task) (apart : tree.openForWriting task.path ≠ .ok place) :
    (task.perform tree).1.at? place = tree.at? place := by
  rcases task.perform_cases tree with
    ⟨e, failed⟩ | ⟨other, content, writes, wrote⟩ | ⟨other, left, e, -, opens, failed⟩
  · rw [failed]
  · rw [wrote, Tree.at?_put_other]
    rintro rfl
    exact apart writes.opens
  · rw [failed, Tree.at?_put_other]
    rintro rfl
    exact apart opens

/-- A write makes no difference to where a path leads. -/
theorem Task.opens_perform (task : Task) (opens : tree.openForWriting path = .ok place) :
    (task.perform tree).1.openForWriting path = .ok place := by
  rcases task.perform_cases tree with
    ⟨e, failed⟩ | ⟨other, content, writes, wrote⟩ | ⟨other, left, e, -, opened, failed⟩
  · rw [failed]
    exact opens
  · rw [wrote]
    exact Tree.openForWriting_put_file (Tree.openForWriting_eq_ok writes.opens).1 _ opens
  · rw [failed]
    exact Tree.openForWriting_put_file (Tree.openForWriting_eq_ok opened).1 _ opens

theorem opens_performAll (tasks : List Task) (opens : tree.openForWriting path = .ok place) :
    (performAll tasks tree).openForWriting path = .ok place := by
  induction tasks generalizing tree with
  | nil => exact opens
  | cons task rest ih => exact ih (task.opens_perform opens)

theorem performAll_append (earlier later : List Task) (tree : Tree) :
    performAll (earlier ++ later) tree = performAll later (performAll earlier tree) := by
  induction earlier generalizing tree with
  | nil => rfl
  | cons task rest ih => exact ih (task.perform tree).1

theorem at?_performAll_of_unwritten (hold : ∀ task ∈ tasks, task.Holds)
    (unwritten : ∀ earlier task later content, tasks = earlier ++ task :: later →
      ¬ task.Writes (performAll earlier tree) place content) :
    (performAll tasks tree).at? place = tree.at? place := by
  induction tasks generalizing tree with
  | nil => rfl
  | cons task rest ih =>
      have here : (task.perform tree).1.at? place = tree.at? place := by
        rcases task.perform_cases tree with
          ⟨e, failed⟩ | ⟨other, content, writes, -⟩ | ⟨_, _, _, breaks, -⟩
        · rw [failed]
        · refine writes.changes.2 place ?_
          rintro rfl
          exact unwritten [] task rest content rfl writes
        · exact absurd (hold task List.mem_cons_self) breaks
      rw [performAll, ih (fun other member => hold other (List.mem_cons_of_mem _ member)), here]
      intro earlier later after content split
      exact unwritten (task :: earlier) later after content (by rw [split]; rfl)

/-- As long as writing to a file that was opened succeeds, a write that fails changes nothing. One
that succeeds changes one file, to a content that comes from writer and payload, and for XML from
the clock. After any sequence of writes each file holds the content of the last successful write
to it, and all else is as it was. -/
theorem files_hold_last_write (tree : Tree) :
    (∀ task : Task, task.perform tree =
      ((task.writer.write task.occasion task.payload task.path tree).files,
        (task.writer.write task.occasion task.payload task.path tree).result)) ∧
    (∀ (task : Task) e, task.Holds → (task.perform tree).2 = .error e →
      (task.perform tree).1 = tree) ∧
    (∀ task : Task, (task.perform tree).2 = .ok () → ∃ place content,
      task.Writes tree place content ∧ Changes place content tree (task.perform tree).1) ∧
    (∀ writer : Writer, writer ≠ .xml → ∀ moment other payload,
      writer.content moment payload = writer.content other payload) ∧
    (∀ earlier task later place content,
      task.Writes (performAll earlier tree) place content → (∀ next ∈ later, next.Holds) →
      (∀ before next after renewed, later = before ++ next :: after →
        ¬ next.Writes (performAll (earlier ++ task :: before) tree) place renewed) →
      (performAll (earlier ++ task :: later) tree).at? place = some (.file (.text content)) ∧
        (performAll (earlier ++ task :: later) tree).readText task.path = .ok content) ∧
    (∀ tasks place, (∀ task ∈ tasks, task.Holds) →
      (∀ earlier task later content, tasks = earlier ++ task :: later →
        ¬ task.Writes (performAll earlier tree) place content) →
      (performAll tasks tree).at? place = tree.at? place) ∧
    ∀ (task : Task) place, tree.openForWriting task.path ≠ .ok place →
      (task.perform tree).1.at? place = tree.at? place := by
  refine ⟨fun task => performed_eq_write .., fun task e holds failed => ?_,
    fun task succeeds => ?_, fun writer undated => Writer.content_of_ne_xml undated,
    fun earlier task later place content writes hold last => ?_,
    fun tasks place => at?_performAll_of_unwritten, fun task place => task.at?_perform⟩
  · rcases task.perform_cases tree with
      ⟨e', same⟩ | ⟨place, content, writes, -⟩ | ⟨_, _, _, breaks, -⟩
    · rw [same]
    · rw [writes.succeeds] at failed
      cases failed
    · exact absurd holds breaks
  · rcases task.perform_cases tree with
      ⟨e, failed⟩ | ⟨place, content, writes, -⟩ | ⟨_, _, e, -, -, failed⟩
    · rw [failed] at succeeds
      cases succeeds
    · exact ⟨place, content, writes, writes.changes⟩
    · rw [failed] at succeeds
      cases succeeds
  · have whole : performAll (earlier ++ task :: later) tree =
        performAll later (task.perform (performAll earlier tree)).1 := performAll_append ..
    have stays : (performAll (earlier ++ task :: later) tree).at? place =
        some (.file (.text content)) := by
      rw [whole, ← writes.changes.1]
      apply at?_performAll_of_unwritten hold
      intro before next after renewed split
      have unwritten := last before next after renewed split
      rwa [performAll_append] at unwritten
    have opens := opens_performAll (task :: later) writes.opens
    rw [← performAll_append] at opens
    refine ⟨stays, ?_⟩
    rw [Tree.readText, Tree.read_of_openForWriting opens stays]

/-! A page of XML takes the place of two others that were written to its file, by another path, and
a page that its writer cannot make leaves it there. A table beside it stays as it was written. -/

def rawTask : Task := ⟨.raw, ⟨"", .takes⟩, .documents [.null], "p"⟩

def jsonTask : Task :=
  ⟨.embeddedJson, ⟨"", .takes⟩, .documents [.object [("iati_json", .text "[]")]], "./p"⟩

def tableTask : Task := ⟨.csvTable, ⟨"", .takes⟩, .documents [.object [("id", .text "a")]], "q"⟩

def xmlTask : Task :=
  ⟨.xml, ⟨"now", .takes⟩, .documents [.object [("iati_xml", .text "<a/>")]], "p"⟩

def brokenTask : Task :=
  ⟨.embeddedJson, ⟨"", .takes⟩, .documents [.object [("iati_json", .text "[")]], "p"⟩

theorem last_page_stays :
    (performAll [rawTask, jsonTask, tableTask, xmlTask, brokenTask] Tree.empty).readText "p" =
      .ok (xmlText "now" [.object [("iati_xml", .text "<a/>")]]) ∧
    (performAll [rawTask, jsonTask, tableTask, xmlTask, brokenTask] Tree.empty).readText "q" =
      .ok "id\na\n" := by
  obtain ⟨-, -, -, -, stays, -⟩ := files_hold_last_write Tree.empty
  have opens : ∀ earlier, (performAll earlier Tree.empty).openForWriting "p" = .ok ["p"] :=
    fun earlier => opens_performAll earlier rfl
  have hold : ∀ later ⊆ [xmlTask, brokenTask], ∀ next ∈ later, next.Holds := by
    intro later within next member
    rcases List.mem_pair.mp (within member) with rfl | rfl <;> rfl
  have broken : ∀ tree place content, ¬ brokenTask.Writes tree place content := by
    intro tree place content writes
    cases writes.content
  refine ⟨(stays [rawTask, jsonTask, tableTask] xmlTask [brokenTask] ["p"] _ ⟨rfl, rfl, rfl⟩
    (hold _ (by simp)) ?_).2, (stays [rawTask, jsonTask] tableTask [xmlTask, brokenTask] ["q"] _
      ⟨rfl, rfl, rfl⟩ (hold _ (by simp)) ?_).2⟩
  · intro before next after renewed split
    cases before with
    | nil =>
        obtain ⟨rfl, rfl⟩ := List.cons.inj split
        exact broken _ _ _
    | cons head rest => cases rest <;> cases split
  · intro before next after renewed split writes
    cases before with
    | nil =>
        obtain ⟨rfl, rfl⟩ := List.cons.inj split
        exact absurd (Except.ok.inj ((opens _).symm.trans writes.opens)) (by decide)
    | cons head rest =>
        obtain ⟨-, others⟩ := List.cons.inj split
        cases rest with
        | nil =>
            obtain ⟨rfl, -⟩ := List.cons.inj others
            exact broken _ _ _ writes
        | cons head rest => cases rest <;> cases split

end Tasks

end Page

end IndexExport
