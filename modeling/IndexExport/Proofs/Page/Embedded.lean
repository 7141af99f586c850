import IndexExport.Proofs.Export.Failures
import IndexExport.Proofs.Page.Stages
/-!
# Pages of embedded JSON

A page of embedded JSON is written whole or not at all. One document whose text is no JSON is
enough to leave the files alone, and it is the first one that the message names. Otherwise the
file holds a list with an element for each document that has the field, and that list is read
back from it unless an element fills all the depth that the reader has, which the brackets
around the elements need one level of.
-/
set_option autoImplicit false

namespace IndexExport

namespace Page

open Storage (Tree Place)

/-- The embedded value is a text that is no JSON. -/
def Unreadable (document : Json) : Prop :=
  ∃ text, document.get? embeddedField = some (.text text) ∧ Json.read text = none

/-- The field of embedded JSON is there and not null. -/
def hasEmbedded (document : Json) : Bool :=
  match document.get? embeddedField with
  | none | some .null => false
  | _ => true

/-- The value is the embedded one, which is read if it is a text. -/
def Embeds (document value : Json) : Prop :=
  (∃ text, document.get? embeddedField = some (.text text) ∧ Json.read text = some value) ∨
    document.get? embeddedField = some value ∧ ∀ text, value ≠ .text text

/-- The identifier of a document if it is a text, and a question mark otherwise. -/
def IsNamed (document : Json) (id : String) : Prop :=
  document.get? "id" = some (.text id) ∨
    (∀ text, document.get? "id" ≠ some (.text text)) ∧ id = "?"

section Embedded

variable {documents : List Json} {document value : Json} {e : Failure}

theorem isNamed_namedId (document : Json) : IsNamed document (namedId document) := by
  rw [IsNamed, namedId]
  cases document.get? "id" with
  | none => exact .inr ⟨nofun, rfl⟩
  | some id =>
      cases id with
      | text id => exact .inl rfl
      | null | boolean | number | list | object => exact .inr ⟨nofun, rfl⟩

theorem embeddedFault?_eq_some_iff :
    embeddedFault? document = some e ↔
      Unreadable document ∧ e = .embedded (namedId document) .notJson := by
  constructor
  · intro fault
    rw [embeddedFault?] at fault
    split at fault
    · next failed =>
      cases fault
      obtain ⟨text, held, unread, rfl⟩ := embedded?_eq_error failed
      exact ⟨⟨text, held, unread⟩, rfl⟩
    · cases fault
  · rintro ⟨⟨text, held, unread⟩, rfl⟩
    simp only [embeddedFault?, embedded?, held, unread]

theorem embeddedFault?_eq_none_iff : embeddedFault? document = none ↔ ¬ Unreadable document := by
  rw [Option.eq_none_iff_forall_ne_some]
  constructor
  · exact fun none unreadable => none _ (embeddedFault?_eq_some_iff.mpr ⟨unreadable, rfl⟩)
  · exact fun readable e some => readable (embeddedFault?_eq_some_iff.mp some).1

/-- A document that has the field and can be read has an element, and no other has one. -/
theorem embedded?_cases (readable : ¬ Unreadable document) :
    (hasEmbedded document = false ∧ embedded? document = .ok none) ∨
      ∃ value, hasEmbedded document = true ∧ Embeds document value ∧
        embedded? document = .ok (some value) := by
  simp only [hasEmbedded, embedded?, Embeds]
  cases held : document.get? embeddedField with
  | none => exact .inl ⟨rfl, rfl⟩
  | some value =>
      cases value with
      | null => exact .inl ⟨rfl, rfl⟩
      | text text =>
          cases read : Json.read text with
          | none => exact absurd ⟨text, held, read⟩ readable
          | some value => exact .inr ⟨value, rfl, .inl ⟨text, rfl, read⟩, by simp [read]⟩
      | boolean | number | list | object => exact .inr ⟨_, rfl, .inr ⟨rfl, by simp⟩, rfl⟩

theorem embeds_readableValues (readable : ∀ document ∈ documents, ¬ Unreadable document) :
    List.Forall₂ Embeds (documents.filter hasEmbedded) (readableValues documents) := by
  induction documents with
  | nil => exact .nil
  | cons document rest ih =>
      have later := ih fun other member => readable other (List.mem_cons_of_mem _ member)
      rw [readableValues] at later ⊢
      rcases embedded?_cases (readable document List.mem_cons_self) with
        ⟨without, skipped⟩ | ⟨value, present, embeds, added⟩
      · rw [List.filter_cons_of_neg (by simp [without]),
          List.filterMap_cons_none (by rw [skipped]; rfl)]
        exact later
      · rw [List.filter_cons_of_pos present, List.filterMap_cons_some (by rw [added]; rfl)]
        exact .cons embeds later

theorem exists_embeds_of_mem (readable : ∀ document ∈ documents, ¬ Unreadable document)
    (member : value ∈ readableValues documents) :
    ∃ document ∈ documents, Embeds document value := by
  obtain ⟨document, among, held⟩ := List.mem_filterMap.mp member
  rcases embedded?_cases (readable document among) with ⟨-, skipped⟩ | ⟨other, -, embeds, added⟩
  · rw [skipped] at held
    cases held
  · rw [added] at held
    cases held
    exact ⟨document, among, embeds⟩

theorem Embeds.keyedOnce (embeds : Embeds document value) (keyed : document.KeyedOnce) :
    value.KeyedOnce := by
  rcases embeds with ⟨text, -, read⟩ | ⟨held, -⟩
  · exact (Json.fits_of_read read).keyed
  · exact keyed.get? held

/-- A list of whole numbers is read back from its text just if its elements leave a level. -/
theorem read_pretty_list_iff {values : List Json} (whole : Json.onlyWholeItems values = true)
    (keyed : ∀ value ∈ values, value.KeyedOnce) :
    Json.read (Json.list values).pretty = some (.list values) ↔
      ∀ value ∈ values, value.depth ≤ 126 := by
  have room : ∀ value : Json, 0 + 1 + value.depth ≤ Json.deepest ↔ value.depth ≤ 126 := by
    intro value
    rw [Json.deepest]
    omega
  constructor
  · intro read value member
    have fits := (Json.fits_list_iff values).mp (Json.fits_of_read read)
    exact (room value).mp (fits.2 value member).deep
  · intro shallow
    refine Json.read_pretty whole ((Json.fits_list_iff values).mpr ⟨by decide, ?_⟩)
    exact fun value member => ⟨keyed value member, (room value).mpr (shallow value member)⟩

/-- Either the first document that cannot be read is named and the files stay as they are, or the
file holds the list of the embedded values. A value has each key once in every object, and of such
values of whole numbers the list is read back just when it is not too deep. -/
theorem embedded_page_whole_or_nothing (documents : List Json) (occasion : Occasion)
    (path : String) (tree : Tree) :
    ((∃ document ∈ documents, Unreadable document) →
      ∃ before document after id, documents = before ++ document :: after ∧
        (∀ earlier ∈ before, ¬ Unreadable earlier) ∧ Unreadable document ∧
        IsNamed document id ∧
        (Writer.embeddedJson.write occasion (.documents documents) path tree).result =
          .error (.embedded id .notJson) ∧
        Writer.embeddedJson.performed occasion (.documents documents) path tree =
          (tree, .error (.embedded id .notJson))) ∧
    ((∀ document ∈ documents, ¬ Unreadable document) →
      ∀ place, tree.openForWriting path = .ok place → occasion.medium = .takes →
      ∃ more text values,
        (Writer.embeddedJson.write occasion (.documents documents) path tree).result = .ok () ∧
        Writer.embeddedJson.performed occasion (.documents documents) path tree = (more, .ok ()) ∧
        more.readText path = .ok text ∧ text = (Json.list values).pretty ∧
        List.Forall₂ Embeds (documents.filter hasEmbedded) values ∧
        (Json.onlyWholeItems values = true → (∀ document ∈ documents, document.KeyedOnce) →
          (Json.read text = some (.list values) ↔ ∀ value ∈ values, value.depth ≤ 126))) := by
  constructor
  · intro broken
    cases first : documents.findSome? embeddedFault? with
    | none =>
        obtain ⟨document, member, unreadable⟩ := broken
        have readable := List.findSome?_eq_none_iff.mp first document member
        exact absurd unreadable (embeddedFault?_eq_none_iff.mp readable)
    | some e =>
        obtain ⟨before, document, after, split, fault, clean⟩ := List.findSome?_eq_some_iff.mp first
        obtain ⟨unreadable, rfl⟩ := embeddedFault?_eq_some_iff.mp fault
        have failed : Writer.embeddedJson.write occasion (.documents documents) path tree =
            ⟨.error (.embedded (namedId document) .notJson), tree, []⟩ := by
          rw [Writer.write, Writer.content, embeddedValues_eq, first]
          rfl
        refine ⟨before, document, after, _, split,
          fun earlier member => embeddedFault?_eq_none_iff.mp (clean earlier member), unreadable,
          isNamed_namedId document, by rw [failed], ?_⟩
        rw [performed_eq_write, failed]
  · intro readable place opens takes
    have clean : documents.findSome? embeddedFault? = none := List.findSome?_eq_none_iff.mpr
      fun document member => embeddedFault?_eq_none_iff.mpr (readable document member)
    have held : Writer.embeddedJson.content occasion.moment (.documents documents) =
        .ok (Json.list (readableValues documents)).pretty := by
      rw [Writer.content, embeddedValues_eq, clean]
      rfl
    obtain ⟨written, reads⟩ := Writer.readText_of_write occasion held opens takes
    have elements := embeds_readableValues readable
    refine ⟨_, _, _, written, ?_, reads, rfl, elements, fun whole keyed => ?_⟩
    · rw [performed_eq_write, written]
    · refine read_pretty_list_iff whole fun value member => ?_
      obtain ⟨document, among, embeds⟩ := exists_embeds_of_mem readable member
      exact embeds.keyedOnce (keyed document among)

/-! A document without the field, one where it is null, one with a text, one with an object and a
document that is no object. With a text that breaks off they are not written. -/

def mixedDocuments : List Json :=
  [.object [("id", .text "a")], .object [("iati_json", .null)],
    .object [("iati_json", .text "[1]")], .object [("iati_json", .object [("k", .list [])])],
    .text "b"]

def brokenDocument : Json := .object [("id", .number (.whole 7)), ("iati_json", .text "[")]

theorem mixed_page_whole_or_nothing :
    (∃ more text,
      Writer.embeddedJson.performed ⟨"", .takes⟩ (.documents mixedDocuments) "p.json" Tree.empty =
        (more, .ok ()) ∧
      more.readText "p.json" = .ok text ∧
      Json.read text = some (.list [.list [.number (.whole 1)], .object [("k", .list [])]])) ∧
    Writer.embeddedJson.performed ⟨"", .takes⟩ (.documents (mixedDocuments ++ [brokenDocument]))
        "p.json" (Tree.empty.put ["p.json"] (.file (.text "old"))) =
      (Tree.empty.put ["p.json"] (.file (.text "old")), .error (.embedded "?" .notJson)) := by
  have one : Json.read "[1]" = some (.list [.number (.whole 1)]) := by rfl
  have breaksOff : Unreadable brokenDocument := ⟨"[", rfl, by rfl⟩
  have readable : ∀ document ∈ mixedDocuments, ¬ Unreadable document := by
    rintro document member ⟨text, held, unread⟩
    simp only [mixedDocuments, List.mem_cons, List.not_mem_nil, or_false] at member
    rcases member with rfl | rfl | rfl | rfl | rfl <;> cases held
    rw [one] at unread
    cases unread
  have field : ∀ (key : String) {value : Json}, value.KeyedOnce →
      (Json.object [(key, value)]).KeyedOnce := fun key value keyed =>
    .object (List.nodup_singleton key) fun member among => List.mem_singleton.mp among ▸ keyed
  constructor
  · obtain ⟨more, text, values, -, written, reads, rfl, elements, back⟩ :=
      (embedded_page_whole_or_nothing mixedDocuments ⟨"", .takes⟩ "p.json" Tree.empty).2 readable
        ["p.json"] rfl rfl
    rw [show mixedDocuments.filter hasEmbedded =
      [.object [("iati_json", .text "[1]")], .object [("iati_json", .object [("k", .list [])])]]
      from rfl] at elements
    rcases elements with _ | ⟨first, _ | ⟨second, ⟨⟩⟩⟩
    rcases first with ⟨_, held, read⟩ | ⟨held, noText⟩
    · cases held
      cases one.symm.trans read
      rcases second with ⟨_, held, -⟩ | ⟨held, -⟩
      · cases held
      · cases held
        refine ⟨more, _, written, reads, (back rfl ?_).mpr ?_⟩
        · simp only [mixedDocuments, List.forall_mem_cons, List.not_mem_nil, false_implies,
            implies_true, and_true]
          exact ⟨field _ (.text _), field _ .null, field _ (.text _),
            field _ (field _ (.list nofun)), .text _⟩
        · simp [Json.depth, Json.depthOfItems, Json.depthOfMembers]
    · cases held
      exact absurd rfl (noText "[1]")
  · obtain ⟨before, document, after, id, split, clean, unreadable, named, -, performed⟩ :=
      (embedded_page_whole_or_nothing (mixedDocuments ++ [brokenDocument]) ⟨"", .takes⟩ "p.json"
        (Tree.empty.put ["p.json"] (.file (.text "old")))).1
        ⟨brokenDocument, by simp, breaksOff⟩
    have same : document = brokenDocument := by
      have member : document ∈ mixedDocuments ++ [brokenDocument] := by rw [split]; simp
      rcases List.mem_append.mp member with early | last
      · exact absurd unreadable (readable document early)
      · exact List.mem_singleton.mp last
    subst same
    rcases named with held | ⟨-, rfl⟩
    · cases held
    · exact performed

end Embedded

end Page

end IndexExport
