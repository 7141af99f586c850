import IndexExport.Proofs.Export.Requests
import IndexExport.Proofs.Text.Excerpts
/-!
# What is told of a refused request

An answer with any other status than those of success ends the request, and of its body only an
excerpt goes into the failure. However long the body is, the excerpt is short and free of
controls, and it says whether it is the whole text.
-/
set_option autoImplicit false

namespace IndexExport.Export

/-- The index refuses a query with this answer, after so many requests before. -/
structure Refused (fetch : Fetcher) (before : Nat) (query : SelectQuery) (answer : Answer) :
    Prop where
  replied : (fetch before query.url).1 = .ok answer
  unsuccessful : answer.isSuccess = false

namespace Job

theorem request_of_refused {fetch : Fetcher} {p : Progress} {answer : Answer}
    (refused : Refused fetch p.sent.length p.query answer) :
    (request fetch p).1 = .error (.request
      (.refused answer.status p.query.url.text (Text.excerpt answer.body))) := by
  have reply : (fetch (p.tell (.requesting p.query.url.text)).sent.length
      (p.tell (.requesting p.query.url.text)).query.url).1 = .ok answer := refused.replied
  rw [request]
  simp [reply, refused.unsuccessful]

end Job

/-- What a text of `length` characters is cut off with. -/
def cutNote (length : Nat) : String :=
  "... (truncated, original length: " ++ toString length ++ " chars)"

theorem toList_cutNote (length : Nat) : (cutNote length).toList = Text.shorteningNote length := by
  have digits : (toString length).toList = Text.decimal length := Nat.toList_repr
  unfold cutNote Text.shorteningNote
  rw [String.toList_append, String.toList_append, digits]

namespace Job

/-- A refused request fails with the status and an excerpt of the body. If the stripped body has
less than ten billion characters, the excerpt has at most five hundred and no controls but tabs
and ends of lines. It is the stripped body, or its first 450 characters with a note of its
length, and then it is shorter than the stripped body. -/
theorem request_refused_with_excerpt (fetch : Fetcher) (p : Progress) (answer : Answer)
    (refused : Refused fetch p.sent.length p.query answer)
    (few : (Text.stripped answer.body.toList).length < 10 ^ 10) :
    ∃ excerpt, (request fetch p).1 =
        .error (.request (.refused answer.status p.query.url.text excerpt)) ∧
      excerpt.length ≤ 500 ∧
      (∀ c ∈ excerpt.toList, c.toNat < 0x20 → c = '\t' ∨ c = '\n' ∨ c = '\r') ∧
      ((Text.stripped answer.body.toList).length ≤ 500 →
        excerpt = String.ofList (Text.stripped answer.body.toList)) ∧
      (500 < (Text.stripped answer.body.toList).length →
        excerpt = String.ofList ((Text.stripped answer.body.toList).take 450) ++
            cutNote (Text.stripped answer.body.toList).length ∧
          excerpt.length < (Text.stripped answer.body.toList).length) := by
  have bounded := Text.length_excerptChars_le few
  have size : (Text.excerpt answer.body).length = (Text.excerptChars answer.body.toList).length := by
    rw [← String.length_toList, Text.toList_excerpt]
  refine ⟨Text.excerpt answer.body, request_of_refused refused, by rw [size]; exact bounded,
    ?_, ?_, ?_⟩
  · intro c member control
    exact Text.eq_of_isPrintable (Text.printable_excerpt answer.body c member) control
  · intro short
    rw [Text.excerpt, Text.excerptChars_of_short short]
  · intro long
    refine ⟨?_, by rw [size]; omega⟩
    apply String.toList_inj.mp
    rw [Text.toList_excerpt, Text.excerptChars_of_long long, String.toList_append,
      String.toList_ofList, toList_cutNote]

/-- A server that is overloaded and says so at length. -/
def overloaded : Answer := ⟨503, String.ofList (List.replicate 501 'x')⟩

theorem request_refused_with_cut_excerpt :
    Refused (fun _ _ => (.ok overloaded, [])) 0 default overloaded ∧
      (Text.stripped overloaded.body.toList).length = 501 ∧
      ∃ excerpt, (request (fun _ _ => (.ok overloaded, [])) (.start default default)).1 =
          .error (.request (.refused 503 (default : SelectQuery).url.text excerpt)) ∧
        excerpt.length ≤ 500 ∧
        excerpt = String.ofList (List.replicate 450 'x') ++ cutNote 501 := by
  have refused : Refused (fun _ _ => (.ok overloaded, [])) 0 default overloaded := ⟨rfl, rfl⟩
  have text : Text.stripped overloaded.body.toList = List.replicate 501 'x' := by
    rw [overloaded, String.toList_ofList]
    apply Text.stripped_of_solid
    intro c member
    rw [List.eq_of_mem_replicate member]
    exact ⟨rfl, rfl⟩
  have size : (Text.stripped overloaded.body.toList).length = 501 := by
    rw [text, List.length_replicate]
  obtain ⟨excerpt, failed, bounded, -, -, cut⟩ :=
    request_refused_with_excerpt (fun _ _ => (.ok overloaded, [])) (.start default default)
      overloaded refused (by rw [size]; decide)
  refine ⟨refused, size, excerpt, failed, bounded, ?_⟩
  rw [(cut (by rw [size]; decide)).1, size, text, List.take_replicate]
  rfl

end Job

end IndexExport.Export
