import IndexExport.Proofs.Select.Address
import IndexExport.Proofs.Url.Host
import IndexExport.Proofs.Url.Path
/-!
# Where select queries are sent

The name of the core and the handler come last in the path of the address, and the query text comes
first in its query part. It is not so for an endpoint that breaks off where a host has to come:
there the core is taken for the host, as it is however domains are put into ASCII, as long as small
letters are left alone. And under an endpoint with a query or a fragment both become
a part of that, so that the address up to there is the same for every core.
-/
set_option autoImplicit false

namespace IndexExport.SelectQuery

variable {toAscii : Url.Host.ToAscii} {endpoint query : String} {core : Core}
variable {start : SelectQuery}

/-! ## The text that is read -/

/-- What of an endpoint is read. -/
def front (endpoint : String) : List Char :=
  ((withoutEndSlashes endpoint.toList).dropWhile Url.isEdge).filter fun c => !Url.isPassedOver c

theorem plain_name (core : Core) : Url.Plain core.name.toList := by
  cases core <;> exact ⟨rfl, List.cons_ne_nil _ _, rfl, rfl, rfl⟩

theorem plain_segments (core : Core) : ∀ segment ∈ core.segments, Url.Plain segment := by
  have select : Url.Plain "select".toList := ⟨rfl, List.cons_ne_nil _ _, rfl, rfl, rfl⟩
  intro segment member
  rcases List.mem_cons.mp member with rfl | last
  · exact plain_name core
  · rw [List.mem_singleton.mp last]
    exact select

theorem counted_handlerText (endpoint : String) (core : Core) :
    Url.counted (handlerText endpoint core).toList =
      front endpoint ++ Url.pathText core.segments := by
  have starts : ∃ rest, Url.pathText core.segments = '/' :: rest := ⟨_, Url.pathText_cons _ _⟩
  have ends : ∀ cs, ((cs ++ Url.pathText core.segments).reverse.dropWhile Url.isEdge).reverse =
      cs ++ Url.pathText core.segments := by
    intro cs
    have last : ((Url.pathText core.segments).reverse ++ cs.reverse).dropWhile Url.isEdge =
        (Url.pathText core.segments).reverse ++ cs.reverse := by
      cases core <;> rfl
    rw [List.reverse_append, last, ← List.reverse_append, List.reverse_reverse]
  have stays : (Url.pathText core.segments).filter (fun c => !Url.isPassedOver c) =
      Url.pathText core.segments := by
    cases core <;> rfl
  obtain ⟨rest, slash⟩ := starts
  rw [handlerText_toList, Url.counted, slash, Text.dropWhile_append_stop Url.isEdge rfl, ← slash,
    ends, List.filter_append, stays, front]

theorem mem_front_iff {c : Char} (marks : Url.opensTail c = true) :
    c ∈ front endpoint ↔ c ∈ endpoint.toList := by
  obtain ⟨noEdge, counts, noSlash⟩ : Url.isEdge c = false ∧ Url.isPassedOver c = false ∧
      decide (c = '/') = false := by
    rcases Url.opensTail_cases marks with rfl | rfl <;> decide
  rw [front, List.mem_filter, counts, Text.mem_dropWhile_iff _ noEdge, withoutEndSlashes,
    List.mem_reverse, Text.mem_dropWhile_iff (fun c => decide (c = '/')) noSlash, List.mem_reverse]
  exact and_iff_left rfl

/-- What follows the scheme ends with the segments of the core. -/
theorem make_cases (made : make toAscii endpoint core query = .ok start) :
    ∃ scheme behind, Url.splitScheme (front endpoint) = some (scheme, behind) ∧
      Url.readBehind toAscii (Url.schemeKind scheme) scheme
        (behind ++ Url.pathText core.segments) = .ok start.base := by
  have read := (make_eq_ok_iff.mp made).1
  rw [Url.read_eq, counted_handlerText, Core.segments, Url.pathText_cons,
    Url.splitScheme_append_slash] at read
  cases split : Url.splitScheme (front endpoint) with
  | none => rw [split] at read; cases read
  | some parts =>
      rw [split] at read
      exact ⟨parts.1, parts.2, rfl, read⟩

theorem unmarked_behind {scheme behind : List Char} (unmarked : Url.Unmarked endpoint.toList)
    (split : Url.splitScheme (front endpoint) = some (scheme, behind)) (core : Core) :
    Url.Unmarked (behind ++ Url.pathText core.segments) := by
  obtain ⟨name, whole, -, -⟩ := Url.splitScheme_eq_some_iff.mp split
  intro c member
  rcases List.mem_append.mp member with later | last
  · rw [← Bool.not_eq_true]
    intro marks
    have inFront : c ∈ front endpoint := by
      rw [whole]
      exact List.mem_append_right _ (List.mem_cons_of_mem _ later)
    rw [unmarked c ((mem_front_iff marks).mp inFront)] at marks
    cases marks
  · exact unmarked_segments core c last

/-! ## The core in place of a host -/

/-- The endpoint breaks off where a host has to come. -/
def lacksHost (endpoint : String) : Bool :=
  match Url.splitScheme (front endpoint) with
  | none => false
  | some (scheme, behind) => Url.breaksOff behind (Url.schemeKind scheme)

theorem withAuthority_core (toAscii : Url.Host.ToAscii) (kind : Url.SchemeKind)
    (scheme : List Char) (core : Core) :
    Url.withAuthority toAscii kind scheme (core.name.toList ++ "/select".toList) =
      (Url.readHost toAscii kind core.name.toList).map fun host =>
        { scheme, userinfo := [], host := some host, hostNumber := none
          path := "/select".toList, query := none, fragment := none } := by
  have authority : Url.readAuthority toAscii kind (core.name.toList ++ "/select".toList) =
      Url.readHostAndNumber toAscii kind [] core.name.toList "/select".toList := by
    cases kind <;> cases core <;> rfl
  have uncut : Url.splitHost false core.name.toList = (core.name.toList, []) := by
    cases core <;> rfl
  rw [Url.withAuthority, authority, Url.readHostAndNumber_eq, uncut]
  cases Url.readHost toAscii kind core.name.toList with
  | error refusal => rfl
  | ok host =>
      simp only [Except.bind, ne_eq, not_true_eq_false, and_false, if_false]
      cases kind <;> rfl

/-- The name of a core is a host as it stands. -/
theorem readHost_core (keeps : Url.Host.KeepsLetters toAscii) (kind : Url.SchemeKind)
    (core : Core) : Url.readHost toAscii kind core.name.toList = .ok core.name.toList := by
  have small : ∀ c ∈ core.name.toList, c.isLower = true :=
    List.all_eq_true.mp (by cases core <;> rfl)
  have free : ∀ c ∈ core.name.toList, c ≠ '%' := by
    rintro c member rfl
    exact absurd (small _ member) (by decide)
  have ascii : toAscii (Url.percentDecode core.name.toList) = some core.name.toList := by
    rw [Url.percentDecode_of_free free]
    exact keeps _ (plain_name core).filled small
  have special : Url.Host.special toAscii core.name.toList = .ok core.name.toList := by
    have domain : Url.Host.special toAscii core.name.toList =
        Url.Host.domain toAscii core.name.toList := by cases core <;> rfl
    rw [domain, Url.Host.domain, ascii]
    cases core <;> rfl
  cases kind with
  | other => cases core <;> rfl
  | special usual => exact special
  | file => exact special

theorem fileHost_core {a : Char} (separates : Url.isSeparator true a = true) (core : Core) :
    Url.fileHost toAscii ([a] ++ Url.pathText core.segments) =
      (Url.readHost toAscii .file core.name.toList).map fun host =>
        if host = "localhost".toList then ([], "/select".toList) else (host, "select".toList) := by
  have segments : Url.pathText core.segments = '/' :: (core.name.toList ++ "/select".toList) := by
    cases core <;> rfl
  rw [segments, List.singleton_append, Url.fileHost, separates]
  cases core <;> rfl

theorem readBehind_core {kind : Url.SchemeKind} {scheme behind : List Char} {url : Url}
    (broken : Url.breaksOff behind kind = true)
    (read : Url.readBehind toAscii kind scheme (behind ++ Url.pathText core.segments) =
      .ok url) :
    url.path = "/select".toList ∧
      (Url.Host.KeepsLetters toAscii → url.host = some core.name.toList) := by
  cases kind with
  | special usual =>
      have left : (behind ++ Url.pathText core.segments).dropWhile (Url.isSeparator true) =
          core.name.toList ++ "/select".toList := by
        rw [List.dropWhile_append_of_pos (List.all_eq_true.mp broken)]
        cases core <;> rfl
      rw [Url.readBehind, left, withAuthority_core] at read
      refine ⟨?_, fun keeps => ?_⟩
      · cases host : Url.readHost toAscii (.special usual) core.name.toList with
        | error refusal => rw [host] at read; cases read
        | ok name => rw [host] at read; cases read; rfl
      · rw [readHost_core keeps] at read
        cases read
        rfl
  | file =>
      obtain ⟨a, rfl, separates⟩ : ∃ a, behind = [a] ∧ Url.isSeparator true a = true := by
        obtain ⟨single, separates⟩ := Bool.and_eq_true_iff.mp broken
        obtain ⟨a, rfl⟩ := List.length_eq_one_iff.mp (of_decide_eq_true single)
        exact ⟨a, rfl, List.all_eq_true.mp separates a List.mem_cons_self⟩
      rw [Url.readBehind, Url.ofFile, fileHost_core separates] at read
      refine ⟨?_, fun keeps => ?_⟩
      · cases host : Url.readHost toAscii .file core.name.toList with
        | error refusal => rw [host] at read; cases read
        | ok name =>
            rw [host, Except.map] at read
            split_ifs at read <;> cases read <;> rfl
      · rw [readHost_core keeps] at read
        cases core <;> cases read <;> rfl
  | other =>
      have segments : Url.pathText core.segments =
          '/' :: (core.name.toList ++ "/select".toList) := by
        cases core <;> rfl
      rw [of_decide_eq_true broken, segments] at read
      have same := (withAuthority_core toAscii .other scheme core).symm.trans read
      have host : Url.readHost toAscii .other core.name.toList = .ok core.name.toList := by
        cases core <;> rfl
      rw [host] at same
      cases same
      exact ⟨rfl, fun _ => rfl⟩

/-! ## Endpoints with a mark -/

/-- The mark stands behind the scheme, and all that is put behind the mark. -/
theorem read_bare_of_marked (toAscii : Url.Host.ToAscii)
    (marked : ¬Url.Unmarked endpoint.toList) (core other : Core) :
    (Url.read toAscii (handlerText endpoint core)).map Url.bare =
      (Url.read toAscii (handlerText endpoint other)).map Url.bare := by
  obtain ⟨mark, member, marks⟩ : ∃ mark ∈ front endpoint, Url.opensTail mark = true := by
    simp only [Url.Unmarked, not_forall, Bool.not_eq_false] at marked
    obtain ⟨mark, member, marks⟩ := marked
    exact ⟨mark, (mem_front_iff marks).mpr member, marks⟩
  have split : ∀ core, Url.splitScheme (front endpoint ++ Url.pathText (Core.segments core)) =
      (Url.splitScheme (front endpoint)).map fun parts =>
        (parts.1, parts.2 ++ Url.pathText core.segments) :=
    fun core => Url.splitScheme_append_slash _ _
  rw [Url.read_eq, Url.read_eq, counted_handlerText, counted_handlerText, split, split]
  cases given : Url.splitScheme (front endpoint) with
  | none => rfl
  | some parts =>
      obtain ⟨scheme, behind⟩ := parts
      obtain ⟨name, whole, ⟨-, chars⟩, -⟩ := Url.splitScheme_eq_some_iff.mp given
      have later : mark ∈ behind := by
        rw [whole] at member
        rcases List.mem_append.mp member with inName | rest
        · -- no scheme holds a mark
          have other := chars mark inName
          rcases Url.opensTail_cases marks with rfl | rfl <;> cases other
        · rcases List.mem_cons.mp rest with rfl | later
          · cases marks
          · exact later
      obtain ⟨left, right, rfl⟩ := List.append_of_mem later
      simp only [Option.map_some, List.append_assoc, List.cons_append]
      exact Url.readBehind_bare marks left _ _

/-! ## Query text and handler -/

theorem url_path (q : SelectQuery) : q.url.path = q.base.path := rfl

theorem url_host (q : SelectQuery) : q.url.host = q.base.host := rfl

theorem url_bare (q : SelectQuery) : q.url.bare = q.base.bare := rfl

/-- The address for every endpoint that is taken: under one without a mark the query text comes
first in the query part, and the segments of the core come last in the path, unless the host is
lacking. There the handler alone is the path, and the core is the host, as small letters are ASCII
already. Under an endpoint with a mark the address up to there is that for any other core. -/
theorem make_leads_to_handler (toAscii : Url.Host.ToAscii) (endpoint query : String)
    (core : Core) :
    (∀ refused, make toAscii endpoint core query = .error refused → refused.endpoint = endpoint) ∧
    ∀ start, make toAscii endpoint core query = .ok start → ∀ changes : List Change,
      (Url.Unmarked endpoint.toList →
        (start.changed changes).url.query = some (Url.Form.encodePair ("q", query) ++
          (start.changed changes).parameters.flatMap fun p => '&' :: Url.Form.encodePair p) ∧
        (lacksHost endpoint = false →
          Url.pathText core.segments <:+ (start.changed changes).url.path) ∧
        (lacksHost endpoint = true →
          (start.changed changes).url.path = "/select".toList ∧
            (Url.Host.KeepsLetters toAscii →
              (start.changed changes).url.host = some core.name.toList))) ∧
      (¬Url.Unmarked endpoint.toList → ∀ otherCore, ∃ other,
        make toAscii endpoint otherCore query = .ok other ∧
          other.url.bare = (start.changed changes).url.bare) := by
  refine ⟨fun refused failed => ?_, fun start made changes => ⟨fun unmarked => ?_, ?_⟩⟩
  · rw [make] at failed
    cases read : Url.read toAscii (handlerText endpoint core) with
    | ok base => rw [read] at failed; cases failed
    | error refusal => rw [read] at failed; cases failed; rfl
  · obtain ⟨base, text⟩ := changed_keeps start changes
    have tailless := base_of_unmarked unmarked made
    rw [← base] at tailless
    obtain ⟨scheme, behind, split, read⟩ := make_cases made
    have lacks : lacksHost endpoint = Url.breaksOff behind (Url.schemeKind scheme) := by
      rw [lacksHost, split]
    rw [(url_chars tailless).1, pairs, Url.Form.encode_cons, text, (make_eq_ok_iff.mp made).2.1,
      url_path, url_host, base, lacks]
    refine ⟨rfl, fun goesOn => ?_, fun broken => readBehind_core broken read⟩
    exact Url.readBehind_ends (List.cons_ne_nil _ _) (plain_segments core)
      (unmarked_behind unmarked split core) goesOn read
  · intro marked otherCore
    have same := read_bare_of_marked toAscii marked core otherCore
    rw [(make_eq_ok_iff.mp made).1] at same
    cases read : Url.read toAscii (handlerText endpoint otherCore) with
    | error refusal => rw [read] at same; cases same
    | ok url =>
        rw [read] at same
        refine ⟨⟨url, query, []⟩, make_eq_ok_iff.mpr ⟨read, rfl, rfl⟩, ?_⟩
        rw [url_bare, url_bare, (changed_keeps start changes).1]
        exact (Except.ok.inj same).symm

theorem make_leads_to_budget :
    (∃ start,
      make Url.Host.asciiOnly "https://api.example.org/datastore/" .budget "*:*" = .ok start ∧
      (∃ more, start.url.query = some ("q=*%3A*".toList ++ more)) ∧
        Url.pathText Core.budget.segments <:+ start.url.path) ∧
    (∃ start, make Url.Host.asciiOnly "http:" .budget "*:*" = .ok start ∧
      start.url.host = some "budget".toList ∧ start.url.path = "/select".toList) ∧
    ∃ start other, make Url.Host.asciiOnly "http://localhost?wt=json" .budget "*:*" = .ok start ∧
      make Url.Host.asciiOnly "http://localhost?wt=json" .activity "*:*" = .ok other ∧
        other.url.bare = start.url.bare := by
  have first : Url.Form.encodePair ("q", "*:*") = "q=*%3A*".toList := by decide
  refine ⟨?_, ?_, ?_⟩
  · obtain ⟨start, made⟩ : ∃ start,
        make Url.Host.asciiOnly "https://api.example.org/datastore/" .budget "*:*" = .ok start :=
      ⟨_, rfl⟩
    obtain ⟨query, path, -⟩ := ((make_leads_to_handler _ _ _ _).2 start made []).1 (by decide)
    rw [first] at query
    exact ⟨start, made, ⟨_, query⟩, path (by decide)⟩
  · obtain ⟨start, made⟩ : ∃ start, make Url.Host.asciiOnly "http:" .budget "*:*" = .ok start :=
      ⟨_, rfl⟩
    obtain ⟨-, -, broken⟩ := ((make_leads_to_handler _ _ _ _).2 start made []).1 (by decide)
    obtain ⟨path, host⟩ := broken (by decide)
    exact ⟨start, made, host Url.Host.asciiOnly_keepsLetters, path⟩
  · obtain ⟨start, made⟩ : ∃ start,
        make Url.Host.asciiOnly "http://localhost?wt=json" .budget "*:*" = .ok start := ⟨_, rfl⟩
    obtain ⟨other, found, same⟩ :=
      ((make_leads_to_handler _ _ _ _).2 start made []).2 (by decide) .activity
    exact ⟨start, other, made, found, same⟩

/-- There are endpoints that are taken and yet lead to no handler of the core. -/
theorem make_misses_handler :
    (∃ start, make Url.Host.asciiOnly "http://" .activity "*:*" = .ok start ∧
      start.url.text = "http://activity/select?q=*%3A*" ∧
        ¬Url.pathText Core.activity.segments <:+ start.url.path) ∧
    ∃ start, make Url.Host.asciiOnly "http://localhost?wt=json" .activity "*:*" = .ok start ∧
      start.url.text = "http://localhost/?wt=json/activity/select&q=*%3A*" ∧
        ¬Url.pathText Core.activity.segments <:+ start.url.path ∧
          ¬Url.Form.encodePair ("q", "*:*") <+: start.url.query.getD [] := by
  refine ⟨⟨_, rfl, ?_, ?_⟩, ⟨⟨⟨"http".toList, [], some "localhost".toList, none, ['/'],
    some "wt=json/activity/select".toList, none⟩, "*:*", []⟩, rfl, ?_, ?_, ?_⟩⟩ <;> decide

end IndexExport.SelectQuery
