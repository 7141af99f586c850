import IndexExport.Proofs.Select.Ordered
import IndexExport.Proofs.Url.Form
import IndexExport.Proofs.Url.Reading
/-!
# What the address of a query carries

An endpoint without query and fragment gives an address without them, so that the query part of a
request holds the query text and the parameters and nothing else, and they can be read off it.
-/
set_option autoImplicit false

namespace IndexExport

/-- The segments under which a core answers select queries. -/
def Core.segments (core : Core) : List (List Char) :=
  [core.name.toList, "select".toList]

namespace SelectQuery

variable {toAscii : Url.Host.ToAscii} {endpoint query : String} {core : Core}
variable {start : SelectQuery}

theorem handlerText_toList (endpoint : String) (core : Core) : (handlerText endpoint core).toList =
    withoutEndSlashes endpoint.toList ++ Url.pathText core.segments := by
  simp [handlerText, Core.segments, Url.pathText]

theorem make_eq_ok_iff : make toAscii endpoint core query = .ok start ↔
    Url.read toAscii (handlerText endpoint core) = .ok start.base ∧ start.query = query ∧
      start.parameters = [] := by
  rw [make]
  cases Url.read toAscii (handlerText endpoint core) with
  | error refusal => simp
  | ok base =>
      obtain ⟨base', query', parameters⟩ := start
      simp only [Except.ok.injEq, SelectQuery.mk.injEq, eq_comm]

theorem unmarked_segments (core : Core) : Url.Unmarked (Url.pathText core.segments) := by
  cases core <;> decide

theorem unmarked_handlerText (unmarked : Url.Unmarked endpoint.toList) (core : Core) :
    Url.Unmarked (handlerText endpoint core).toList := by
  rw [handlerText_toList]
  intro c member
  rcases List.mem_append.mp member with front | behind
  · have inside := List.mem_reverse.mp front
    exact unmarked c (List.mem_reverse.mp ((List.dropWhile_suffix _).subset inside))
  · exact unmarked_segments core c behind

theorem base_of_unmarked (unmarked : Url.Unmarked endpoint.toList)
    (made : make toAscii endpoint core query = .ok start) : start.base.Tailless :=
  Url.read_of_unmarked (unmarked_handlerText unmarked core) (make_eq_ok_iff.mp made).1

/-! ## Query text and parameters -/

theorem url_chars {q : SelectQuery} (tailless : q.base.Tailless) :
    q.url.query = some (Url.Form.encode q.pairs) ∧
      q.url.chars = q.base.chars ++ '?' :: Url.Form.encode q.pairs := by
  obtain ⟨query, fragment⟩ := tailless
  have added : q.url.query = some (Url.Form.encode q.pairs) := by rw [url, query]
  refine ⟨added, ?_⟩
  simp [Url.chars, url, query, fragment, Url.markedText, Url.authorityText]

theorem pairs_eq_iff {q other : SelectQuery} : q.pairs = other.pairs ↔
    q.query = other.query ∧ q.parameters = other.parameters := by
  simp [pairs]

/-- Under one endpoint the address tells query text and parameters. -/
theorem text_eq_iff {q other : SelectQuery} (base : other.base = q.base)
    (tailless : q.base.Tailless) :
    other.url.text = q.url.text ↔ other.query = q.query ∧ other.parameters = q.parameters := by
  have mine := (url_chars tailless).2
  have others := (url_chars (base.symm ▸ tailless : other.base.Tailless)).2
  rw [Url.text, Url.text, String.ofList_inj, mine, others, base,
    List.append_cancel_left_eq, ← pairs_eq_iff]
  constructor
  · exact fun same => Url.Form.encode_injective (List.cons.inj same).2
  · rintro same
    rw [same]

/-- Whatever was set and removed, the parameters are those of a register; query text and
parameters are all that is added to the address of the handler; and they are read off it. So it is
however domains are put into ASCII. -/
theorem url_carries_pairs (made : make toAscii endpoint core query = .ok start)
    (unmarked : Url.Unmarked endpoint.toList) (changes : List Change) :
    ((start.changed changes).parameters.map Prod.fst).Nodup ∧
    (start.changed changes).parameters = (Register.empty.changed changes).pairs ∧
    (∀ key, (start.changed changes).get? key = (Register.empty.changed changes).get? key) ∧
    (∃ added, (start.changed changes).url.query = some added ∧
      (start.changed changes).url.chars = start.base.chars ++ '?' :: added ∧
      Url.Form.decode added = some (("q", query) :: (start.changed changes).parameters)) ∧
    ∀ otherQuery other otherChanges, make toAscii endpoint core otherQuery = .ok other →
      ((other.changed otherChanges).url.text = (start.changed changes).url.text ↔
        otherQuery = query ∧
          (other.changed otherChanges).parameters = (start.changed changes).parameters) := by
  obtain ⟨read, asked, bare⟩ := make_eq_ok_iff.mp made
  obtain ⟨base, text⟩ := changed_keeps start changes
  have same := changed_pairs (show start.parameters = Register.empty.pairs from bare) changes
  have tailless := base_of_unmarked unmarked made
  rw [← base] at tailless
  obtain ⟨part, chars⟩ := url_chars tailless
  refine ⟨?_, same, get?_of_pairs same, ⟨_, part, ?_, ?_⟩, ?_⟩
  · rw [same, Register.pairs, List.map_map]
    simpa [Function.comp_def] using (Register.empty.changed changes).distinct
  · rw [chars, base]
  · rw [Url.Form.decode_encode, pairs, text, asked]
  · intro otherQuery other otherChanges otherMade
    obtain ⟨otherRead, otherAsked, -⟩ := make_eq_ok_iff.mp otherMade
    obtain ⟨otherBase, otherText⟩ := changed_keeps other otherChanges
    have alike : other.base = start.base := Except.ok.inj (otherRead.symm.trans read)
    rw [text_eq_iff (otherBase.trans (alike.trans base.symm)) tailless, otherText, text, otherAsked,
      asked]

/-! One endpoint in ASCII, and one that is not, with the domain as the tables of UTS 46 have it. -/

def booksToAscii : Url.Host.ToAscii := fun bytes =>
  if bytes = "bücher.example".toList.flatMap String.utf8EncodeChar then
    some "xn--bcher-kva.example".toList
  else Url.Host.asciiOnly bytes

theorem url_carries_two_parameters :
    (∃ start added,
      make Url.Host.asciiOnly "http://oracle.test:8080/index/" .activity
        "title:(\"a & b\")" = .ok start ∧
      (start.changed [.set "rows" "100", .set "cursorMark" "ü+ =%", .remove "wt",
        .set "rows" "0"]).url.query = some added ∧
      Url.Form.decode added =
        some [("q", "title:(\"a & b\")"), ("rows", "0"), ("cursorMark", "ü+ =%")]) ∧
    ∃ start added, make booksToAscii "http://bücher.example" .budget "*:*" = .ok start ∧
      start.base.host = some "xn--bcher-kva.example".toList ∧ start.url.query = some added ∧
      Url.Form.decode added = some [("q", "*:*")] := by
  refine ⟨?_, ?_⟩
  · obtain ⟨-, -, -, ⟨added, part, -, read⟩, -⟩ :=
      url_carries_pairs
        (rfl : make Url.Host.asciiOnly "http://oracle.test:8080/index/" .activity
          "title:(\"a & b\")" = .ok _)
        (by decide)
        [.set "rows" "100", .set "cursorMark" "ü+ =%", .remove "wt", .set "rows" "0"]
    exact ⟨_, added, rfl, part, read⟩
  · obtain ⟨-, -, -, ⟨added, part, -, read⟩, -⟩ :=
      url_carries_pairs (rfl : make booksToAscii "http://bücher.example" .budget "*:*" = .ok _)
        (by decide) []
    exact ⟨_, added, rfl, rfl, part, read⟩

end SelectQuery

end IndexExport
