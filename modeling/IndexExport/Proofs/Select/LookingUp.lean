import IndexExport.Export.Walk
import IndexExport.Proofs.Json.LookingUp
/-!
# Responses that are looked up

A response is read in one pass over the text. Where the text is an object with no field of a
response written twice, this gives the same as reading any JSON value and looking up the result
set, the count, the documents and the cursor in it, and it fails where one of them has a value of
the wrong kind.
-/
set_option autoImplicit false

namespace IndexExport.Select

open Json (Decodes)

/-! ## What is looked up -/

/-- The value of a key in an object in an object. -/
def valueWithin (outer key : String) (members : Json.Members) : Option Json :=
  (members.get? outer).bind (Json.get? key)

/-- No field of a response is written twice. -/
structure WrittenOnce (lexemes : List Json.Lexeme) : Prop where
  results : Json.timesWritten "response" lexemes ≤ 1
  cursor : Json.timesWritten "nextCursorMark" lexemes ≤ 1
  count : ∀ entry ∈ Json.entries lexemes, entry.1 = "response" →
    Json.timesWritten "numFound" entry.2 ≤ 1
  documents : ∀ entry ∈ Json.entries lexemes, entry.1 = "response" →
    Json.timesWritten "docs" entry.2 ≤ 1

namespace Response

/-- The result set that an object holds. -/
def decodeResults : Json → Option ResultSet
  | .object members =>
    (resultSetRecord.lookUp Json.asCount? some members).map fun seen =>
      ⟨seen.values.1, seen.values.2⟩
  | _ => none

/-- The response that the members of an object hold. -/
def decode (members : Json.Members) : Option Response :=
  (responseRecord.lookUp decodeResults Json.asText? members).map fun seen =>
    ⟨seen.values.1, seen.values.2⟩

section Decode

variable {body : String} {members : Json.Members} {lexemes : List Json.Lexeme} {value : Json}
variable {response : Response}

theorem decodes_readResultSet (noList : ∀ items, value ≠ .list items)
    (count : Json.timesWritten "numFound" lexemes ≤ 1)
    (documents : Json.timesWritten "docs" lexemes ≤ 1) :
    Decodes (documentRoom + 1) readResultSet decodeResults lexemes value := by
  intro rest found
  have begins := Json.begins_of_readValue found
  rw [readResultSet, Json.toOption_map]
  cases value with
  | object inner =>
      have same := Json.Record.read_eq_lookUp (r := resultSetRecord) (by decide) found
        (by rintro name (rfl | rfl) <;> assumption)
        (fun entry _ _ value _ => Json.decodes_readCount entry.2 value)
        (fun entry _ _ value _ => Json.decodes_readAny entry.2 value)
      rw [same, decodeResults, Option.map_map, Option.map_map]
      rfl
  | list items => exact absurd rfl (noList items)
  | null => rw [begins]; rfl
  | boolean b => rw [begins]; rfl
  | number v => obtain ⟨n, number, rfl⟩ := begins; rfl
  | text s => rw [begins]; rfl

/-- Reading in one pass is looking up. -/
theorem read_eq_decode (reads : Json.read body = some (.object members))
    (once : WrittenOnce (Json.scan body.toList))
    (noList : ∀ items, members.get? "response" ≠ some (.list items)) :
    (Response.read body).toOption = decode members := by
  have whole : Json.readValue (documentRoom + 1 + 1) (Json.scan body.toList) =
      some (.object members, []) := Json.read_eq_some_iff.mp reads
  have same : (responseRecord.read (Json.scan body.toList)).toOption =
      (responseRecord.lookUp decodeResults Json.asText? members).map fun seen =>
        (seen.values, []) :=
    Json.Record.read_eq_lookUp (by decide) whole
      (by rintro name (rfl | rfl); exacts [once.results, once.cursor])
      (fun entry member key value there => decodes_readResultSet
        (fun items list => noList items (by rw [← list]; exact there))
        (once.count entry member key) (once.documents entry member key))
      (fun entry _ _ value _ => Json.decodes_readText entry.2 value)
  have looked : (responseRecord.read (Json.scan body.toList)).toOption =
      ((responseRecord.lookUp decodeResults Json.asText? members).map fun seen =>
        seen.values).map fun fields => (fields, []) := by
    rw [same, Option.map_map]
    rfl
  rcases Json.reading_cases looked with ⟨trouble, lost, none⟩ | ⟨fields, found, some⟩
  · rw [Response.read, lost, decode, Option.map_eq_none_iff.mp none]
    rfl
  · obtain ⟨seen, looked, rfl⟩ := Option.map_eq_some_iff.mp some
    rw [Response.read, found, decode, looked]
    rfl

/-! ## What is found -/

theorem decodeResults_eq_some {results : ResultSet} (found : decodeResults value = some results) :
    ∃ inner, value = .object inner ∧
      ∃ seen, resultSetRecord.lookUp Json.asCount? some inner = some seen ∧
        results = ⟨seen.values.1, seen.values.2⟩ := by
  cases value with
  | object inner =>
      obtain ⟨seen, looked, rfl⟩ := Option.map_eq_some_iff.mp found
      exact ⟨inner, rfl, seen, looked, rfl⟩
  | _ => cases found

/-- When a result set can be had: the documents may be anything. -/
theorem decodeResults_iff (value : Json) :
    (∃ results, decodeResults value = some results) ↔
      ∃ inner, value = .object inner ∧ ∀ v ∈ Json.Members.get? "numFound" inner,
        v = .null ∨ ∃ n, Json.asCount? v = some n := by
  constructor
  · rintro ⟨results, found⟩
    obtain ⟨inner, rfl, seen, looked, -⟩ := decodeResults_eq_some found
    exact ⟨inner, rfl, (Json.decodes_field_iff _).mp ⟨_, (Json.Record.lookUp_eq_some looked).1⟩⟩
  · rintro ⟨inner, rfl, counted⟩
    obtain ⟨count, here⟩ := (Json.decodes_field_iff _).mpr counted
    obtain ⟨documents, there⟩ :
        ∃ field, Json.fieldOf some (Json.Members.get? "docs" inner) = some field :=
      (Json.decodes_field_iff _).mpr fun v _ => .inr ⟨v, rfl⟩
    have looked := Json.Record.lookUp_of_fields (r := resultSetRecord) here there
    exact ⟨_, congrArg (Option.map _) looked⟩

theorem decode_eq_some (found : decode members = some response) :
    (∃ field, Json.fieldOf decodeResults (members.get? "response") = some field ∧
      response.results = field.join) ∧
    ∃ field, Json.fieldOf Json.asText? (members.get? "nextCursorMark") = some field ∧
      response.cursor = field.join := by
  obtain ⟨seen, looked, rfl⟩ := Option.map_eq_some_iff.mp found
  obtain ⟨here, there⟩ := Json.Record.lookUp_eq_some looked
  exact ⟨⟨_, here, rfl⟩, _, there, rfl⟩

theorem decode_iff (members : Json.Members) :
    (∃ response, decode members = some response) ↔
      (∀ v ∈ members.get? "response", v = .null ∨ ∃ results, decodeResults v = some results) ∧
      ∀ v ∈ members.get? "nextCursorMark", v = .null ∨ ∃ s, Json.asText? v = some s := by
  rw [← Json.decodes_field_iff, ← Json.decodes_field_iff]
  constructor
  · rintro ⟨response, found⟩
    obtain ⟨⟨results, here, -⟩, cursor, there, -⟩ := decode_eq_some found
    exact ⟨⟨results, here⟩, cursor, there⟩
  · rintro ⟨⟨results, here⟩, cursor, there⟩
    have looked := Json.Record.lookUp_of_fields (r := responseRecord) here there
    exact ⟨_, congrArg (Option.map _) looked⟩

theorem results_of_decode (found : decode members = some response) :
    response.results = (members.get? "response").bind decodeResults := by
  obtain ⟨⟨field, decoded, same⟩, -⟩ := decode_eq_some found
  rw [same, Json.join_of_fieldOf decoded]
  exact Option.bind_congr fun value _ => Json.join_nullable rfl value

theorem cursor?_of_decode (found : decode members = some response) :
    response.cursor? = (members.get? "nextCursorMark").bind Json.asText? := by
  obtain ⟨-, field, decoded, same⟩ := decode_eq_some found
  rw [cursor?, same, Json.join_of_fieldOf decoded]
  exact Option.bind_congr fun value _ => Json.join_nullable rfl value

/-- A response has no result set, and there is nothing to look up in it, or it has what is looked
up. -/
theorem results_cases (found : decode members = some response) :
    (response.results = none ∧ ∀ key, valueWithin "response" key members = none) ∨
      ∃ inner results, members.get? "response" = some (.object inner) ∧
        response.results = some results ∧
        results.count = (Json.Members.get? "numFound" inner).bind Json.asCount? ∧
        results.documents =
          (Json.Members.get? "docs" inner).bind fun v => (Json.nullable some v).join := by
  have same := results_of_decode found
  have kinds := ((decode_iff members).mp ⟨response, found⟩).1
  cases there : members.get? "response" with
  | none =>
      rw [there] at same
      refine .inl ⟨same, fun key => ?_⟩
      rw [valueWithin, there]
      rfl
  | some value =>
      rw [there] at same
      rcases kinds value there with rfl | ⟨results, decoded⟩
      · refine .inl ⟨same, fun key => ?_⟩
        rw [valueWithin, there]
        rfl
      · obtain ⟨inner, rfl, seen, looked, rfl⟩ := decodeResults_eq_some decoded
        obtain ⟨count, documents⟩ := Json.Record.lookUp_eq_some looked
        refine .inr ⟨inner, _, rfl, same.trans decoded, ?_, Json.join_of_fieldOf documents⟩
        rw [← Option.bind_congr fun v _ => Json.join_nullable rfl v]
        exact Json.join_of_fieldOf count

theorem count?_of_decode (found : decode members = some response) :
    response.count? = (valueWithin "response" "numFound" members).bind Json.asCount? := by
  rcases results_cases found with ⟨none, nothing⟩ | ⟨inner, results, there, some, count, -⟩
  · rw [count?, none, nothing]
    rfl
  · rw [count?, some, valueWithin, there]
    exact count

/-- The documents are those that are looked up, if they are a list, and else none. -/
theorem documents_of_decode (found : decode members = some response) :
    (∀ items, valueWithin "response" "docs" members = some (.list items) →
      response.documents = items) ∧
    ((∀ items, valueWithin "response" "docs" members ≠ some (.list items)) →
      response.documents = []) := by
  rcases results_cases found with ⟨none, nothing⟩ | ⟨inner, results, there, some, -, documents⟩
  · rw [Response.documents, none, nothing]
    exact ⟨fun items there => (nomatch there), fun _ => rfl⟩
  · have within : valueWithin "response" "docs" members = Json.Members.get? "docs" inner := by
      rw [valueWithin, there]
      rfl
    rw [Response.documents, some, Option.bind_some, documents, within]
    cases held : Json.Members.get? "docs" inner with
    | none => exact ⟨fun items there => (nomatch there), fun _ => rfl⟩
    | some value => cases value <;> simp [Json.nullable]

end Decode

end Response

/-- When the result set can be had, in terms of what is looked up. -/
theorem resultsDecode_iff (members : Json.Members) :
    (∀ v ∈ members.get? "response",
        v = .null ∨ ∃ results, Response.decodeResults v = some results) ↔
      (∀ v ∈ members.get? "response", v = .null ∨ ∃ inner, v = .object inner) ∧
      ∀ v ∈ valueWithin "response" "numFound" members,
        v = .null ∨ ∃ n, Json.asCount? v = some n := by
  rw [valueWithin]
  cases members.get? "response" with
  | none => simp
  | some value =>
      cases value <;> simp [Response.decodeResults_iff, Json.get?]

section Parts

variable {members : Json.Members} {response : Response}

theorem Response.count?_eq_some_iff (found : decode members = some response) (n : Nat) :
    response.count? = some n ↔
      valueWithin "response" "numFound" members = some (.number (.whole n)) := by
  have kinds := ((resultsDecode_iff members).mp ((decode_iff members).mp ⟨response, found⟩).1).2
  rw [count?_of_decode found, Option.bind_eq_some_iff]
  constructor
  · rintro ⟨v, there, number⟩
    rw [there, (Json.asCount?_eq_some_iff.mp number).2]
  · intro there
    rcases kinds _ there with none | ⟨m, number⟩
    · cases none
    · cases (Json.asCount?_eq_some_iff.mp number).2
      exact ⟨_, there, number⟩

theorem Response.cursor?_eq_some_iff (found : decode members = some response) (s : String) :
    response.cursor? = some s ↔ members.get? "nextCursorMark" = some (.text s) := by
  rw [cursor?_of_decode found, Option.bind_eq_some_iff]
  simp only [Json.asText?_eq_some_iff, exists_eq_right]

end Parts

open Export.Job (countOf cursorOf) in
/-- An object in which no field of a response is written twice, and whose result set is not
written as a list, is read in one pass just when the fields have the right kinds, and then the
documents, the count and the cursor are those that are looked up. -/
theorem Response.read_looks_up {body : String} {members : Json.Members}
    (reads : Json.read body = some (.object members))
    (once : WrittenOnce (Json.scan body.toList))
    (noList : ∀ items, members.get? "response" ≠ some (.list items)) :
    ((∃ response, Response.read body = .ok response) ↔
      (∀ v ∈ members.get? "response", v = .null ∨ ∃ inner, v = .object inner) ∧
      (∀ v ∈ valueWithin "response" "numFound" members,
        v = .null ∨ ∃ n : Nat, n ≤ 2 ^ 64 - 1 ∧ v = .number (.whole n)) ∧
      ∀ v ∈ members.get? "nextCursorMark", v = .null ∨ ∃ s, v = .text s) ∧
    ∀ response, Response.read body = .ok response →
      (∀ items, valueWithin "response" "docs" members = some (.list items) →
        response.documents = items) ∧
      ((∀ items, valueWithin "response" "docs" members ≠ some (.list items)) →
        response.documents = []) ∧
      (∀ url n, countOf url response = .ok n ↔
        valueWithin "response" "numFound" members = some (.number (.whole n))) ∧
      (∀ url, (∀ n : Nat, valueWithin "response" "numFound" members ≠
        some (.number (.whole n))) →
          countOf url response = .error (.request (.uncounted url))) ∧
      (∀ url s, cursorOf url response = .ok s ↔
        members.get? "nextCursorMark" = some (.text s)) ∧
      ∀ url, (∀ s, members.get? "nextCursorMark" ≠ some (.text s)) →
        cursorOf url response = .error (.request (.withoutCursor url)) := by
  have same := Response.read_eq_decode reads once noList
  have succeeds : ∀ response, Response.read body = .ok response ↔
      Response.decode members = some response := by
    intro response
    rw [← same]
    cases Response.read body <;> simp [Except.toOption]
  refine ⟨?_, fun response read => ?_⟩
  · simp only [succeeds, Response.decode_iff, resultsDecode_iff, and_assoc,
      Json.asCount?_eq_some_iff, Json.asText?_eq_some_iff]
    rfl
  · have found := (succeeds response).mp read
    obtain ⟨listed, unlisted⟩ := Response.documents_of_decode found
    have counted := Response.count?_eq_some_iff found
    have turned := Response.cursor?_eq_some_iff found
    refine ⟨listed, unlisted, fun url n => ?_, fun url uncounted => ?_, fun url s => ?_,
      fun url lacking => ?_⟩
    · rw [← counted, countOf]
      cases response.count? <;> simp
    · have nothing : response.count? = none :=
        Option.eq_none_iff_forall_ne_some.mpr fun n count => uncounted n ((counted n).mp count)
      rw [countOf, nothing]
    · rw [← turned, cursorOf]
      cases response.cursor? <;> simp
    · have nothing : response.cursor? = none :=
        Option.eq_none_iff_forall_ne_some.mpr fun s cursor => lacking s ((turned s).mp cursor)
      rw [cursorOf, nothing]

/-! Another member that is there twice, a key with an escape, and a key of a response in a place
where it means nothing. -/

def scatteredBody : String :=
  "\x7b\"x\":[],\"response\":\x7b\"docs\":[\x7b\"numFound\":7\x7d],\"num\\u0046ound\":2\x7d,\"x\":1\x7d"

def scatteredLexemes : List Json.Lexeme :=
  [.openObject, .text (some "x"), .colon, .openList, .closeList, .comma, .text (some "response"),
    .colon, .openObject, .text (some "docs"), .colon, .openList, .openObject,
    .text (some "numFound"), .colon, .numeral ⟨false, ['7'], none, none⟩, .closeObject, .closeList,
    .comma, .text (some "numFound"), .colon, .numeral ⟨false, ['2'], none, none⟩, .closeObject,
    .comma, .text (some "x"), .colon, .numeral ⟨false, ['1'], none, none⟩, .closeObject]

def scatteredMembers : Json.Members :=
  [("x", .number (.whole 1)),
    ("response", .object
      [("docs", .list [.object [("numFound", .number (.whole 7))]]),
        ("numFound", .number (.whole 2))])]

theorem read_scattered :
    Json.read scatteredBody = some (.object scatteredMembers) ∧
    WrittenOnce (Json.scan scatteredBody.toList) ∧
    ∃ response, Response.read scatteredBody = .ok response ∧
      response.documents = [.object [("numFound", .number (.whole 7))]] ∧
      Export.Job.countOf "u" response = .ok 2 ∧
      Export.Job.cursorOf "u" response = .error (.request (.withoutCursor "u")) := by
  have scanned : Json.scan scatteredBody.toList = scatteredLexemes := by rfl
  have once : WrittenOnce scatteredLexemes := ⟨by decide, by decide, by decide, by decide⟩
  have reads : Json.read scatteredBody = some (.object scatteredMembers) := by
    rw [Json.read, scanned]
    rfl
  rw [← scanned] at once
  have noList : ∀ items, scatteredMembers.get? "response" ≠ some (.list items) := by
    intro items list
    cases list
  obtain ⟨succeeds, holds⟩ := Response.read_looks_up reads once noList
  obtain ⟨response, read⟩ := succeeds.mpr
    ⟨by rintro v ⟨⟩; exact .inr ⟨_, rfl⟩, by rintro v ⟨⟩; exact .inr ⟨2, by decide, rfl⟩,
      by rintro v ⟨⟩⟩
  obtain ⟨documents, -, counted, -, -, lacking⟩ := holds response read
  exact ⟨reads, once, response, read, documents _ rfl, (counted "u" 2).mpr rfl,
    lacking "u" fun s there => by cases there⟩

end IndexExport.Select
