import IndexExport.Proofs.Export.Chains
import IndexExport.Proofs.Export.Requests
/-!
# The queries of an export in bulk

A format that does not paginate by itself is counted first. Few documents are asked for in
one request, many of them page by page, first for the cursor and then for the data. What
the request for the data changes in the query, the next request for a cursor sets again, so
each query depends on the cursor of its page alone.
-/
set_option autoImplicit false

namespace IndexExport.Export

def countQuery (query : SelectQuery) : SelectQuery :=
  ((query.set "rows" "0").set "wt" "json").remove "fl"

namespace Job

/-- A query, restricted to a page. -/
def restricted (job : Job) (query : SelectQuery) (cursor : String) : SelectQuery :=
  ((query.set "rows" (toString job.rowsPerPage)).set "sort" cursorOrder).set "cursorMark" cursor

/-- A query, changed to ask for the cursor after a page. -/
def cursorQuery (job : Job) (query : SelectQuery) (cursor : String) : SelectQuery :=
  ((job.restricted query cursor).set "wt" "json").set "fl" "id"

def dataQuery (job : Job) (query : SelectQuery) : SelectQuery :=
  (query.setOrRemove "wt" job.descriptor.responseWriter).setOrRemove "fl" job.descriptor.fieldList

def singleQuery (job : Job) (query : SelectQuery) (total : Nat) : SelectQuery :=
  job.dataQuery ((countQuery query).set "rows" (toString total))

def metaQuery (job : Job) (query : SelectQuery) (cursor : String) : SelectQuery :=
  job.cursorQuery (countQuery query) cursor

/-- The queries for one page: data is asked for only where there are documents. -/
def pageQueries (job : Job) (query : SelectQuery) (metas : Nat → Select.Response) (i : Nat) :
    List SelectQuery :=
  job.metaQuery query (cursorAt metas i) ::
    if (metas i).documents = [] then []
    else [job.dataQuery (job.metaQuery query (cursorAt metas i))]

def bulkQueries (job : Job) (query : SelectQuery) (metas : Nat → Select.Response) (n : Nat) :
    List SelectQuery :=
  countQuery query :: (List.range n).flatMap fun i => job.pageQueries query metas i

/-- The requests before those for a page. -/
def requestsBefore (metas : Nat → Select.Response) (i : Nat) : Nat :=
  1 + i + ((List.range i).filter fun j => (metas j).documents ≠ []).length

theorem length_pageQueries (job : Job) (query : SelectQuery) (metas : Nat → Select.Response)
    (i : Nat) : (job.pageQueries query metas i).length =
      if (metas i).documents = [] then 1 else 2 := by
  rw [pageQueries]
  split <;> rfl

theorem bulkQueries_succ (job : Job) (query : SelectQuery) (metas : Nat → Select.Response)
    (i : Nat) : job.bulkQueries query metas (i + 1) =
      job.bulkQueries query metas i ++ job.pageQueries query metas i := by
  simp only [bulkQueries, List.range_succ, List.flatMap_append, List.flatMap_singleton,
    List.cons_append]

theorem requestsBefore_succ (metas : Nat → Select.Response) (i : Nat) :
    requestsBefore metas (i + 1) =
      requestsBefore metas i + if (metas i).documents = [] then 1 else 2 := by
  by_cases empty : (metas i).documents = []
  · simp only [requestsBefore, List.range_succ, List.filter_append, List.length_append]
    simp [empty]
    omega
  · simp only [requestsBefore, List.range_succ, List.filter_append, List.length_append]
    simp [empty]
    omega

theorem length_bulkQueries (job : Job) (query : SelectQuery) (metas : Nat → Select.Response)
    (n : Nat) : (job.bulkQueries query metas n).length = requestsBefore metas n := by
  induction n with
  | zero => rfl
  | succ n ih =>
      rw [bulkQueries_succ, List.length_append, ih, length_pageQueries, requestsBefore_succ]

/-! ## Asking again -/

theorem restricted_cursor (job : Job) (query : SelectQuery) (cursor : String) :
    (job.restricted query cursor).get? "cursorMark" = some cursor := by
  rw [restricted, SelectQuery.get?_set_self]

theorem metaQuery_cursor (job : Job) (query : SelectQuery) (cursor : String) :
    (job.metaQuery query cursor).get? "cursorMark" = some cursor := by
  rw [metaQuery, cursorQuery, SelectQuery.get?_set_other (by decide),
    SelectQuery.get?_set_other (by decide), restricted_cursor]

/-- The parameters of a page have their places. -/
structure Placed (query : SelectQuery) : Prop where
  rows : (query.get? "rows").isSome = true
  order : (query.get? "sort").isSome = true
  mark : (query.get? "cursorMark").isSome = true

theorem placed_restricted (job : Job) (query : SelectQuery) (cursor : String) :
    Placed (job.restricted query cursor) := by
  refine ⟨?_, ?_, ?_⟩ <;>
    simp (disch := decide) only [restricted, SelectQuery.get?_set_other,
      SelectQuery.get?_set_self, Option.isSome_some]

theorem restricted_restricted (job : Job) (query : SelectQuery) (cursor next : String) :
    job.restricted (job.restricted query cursor) next = job.restricted query next := by
  have rows : (job.restricted query cursor).get? "rows" = some (toString job.rowsPerPage) := by
    simp (disch := decide) only [restricted, SelectQuery.get?_set_other, SelectQuery.get?_set_self]
  have order : (job.restricted query cursor).get? "sort" = some cursorOrder := by
    simp (disch := decide) only [restricted, SelectQuery.get?_set_other, SelectQuery.get?_set_self]
  rw [restricted, SelectQuery.set_of_get? rows, SelectQuery.set_of_get? order]
  rw [restricted, SelectQuery.set_set, restricted]

section Placed

variable {key : String} {query : SelectQuery}
variable (rows : "rows" ≠ key) (order : "sort" ≠ key) (mark : "cursorMark" ≠ key)
include rows order mark

theorem Placed.set (placed : Placed query) (value : String) : Placed (query.set key value) := by
  refine ⟨?_, ?_, ?_⟩
  · rw [SelectQuery.get?_set_other rows]
    exact placed.rows
  · rw [SelectQuery.get?_set_other order]
    exact placed.order
  · rw [SelectQuery.get?_set_other mark]
    exact placed.mark

theorem Placed.restricted_set (placed : Placed query) (job : Job) (value cursor : String) :
    job.restricted (query.set key value) cursor = (job.restricted query cursor).set key value := by
  have sorted : ((query.set "rows" (toString job.rowsPerPage)).get? "sort").isSome = true := by
    rw [SelectQuery.get?_set_other (by decide)]
    exact placed.order
  have marked : (((query.set "rows" (toString job.rowsPerPage)).set "sort" cursorOrder).get?
      "cursorMark").isSome = true := by
    rw [SelectQuery.get?_set_other (by decide), SelectQuery.get?_set_other (by decide)]
    exact placed.mark
  rw [restricted, SelectQuery.set_comm rows placed.rows, SelectQuery.set_comm order sorted,
    SelectQuery.set_comm mark marked, restricted]

end Placed

/-- Asking for the next cursor without a request for data between. -/
theorem cursorQuery_cursorQuery (job : Job) (query : SelectQuery) (cursor next : String) :
    job.cursorQuery (job.cursorQuery query cursor) next = job.cursorQuery query next := by
  have placed := job.placed_restricted query cursor
  have form : (((job.restricted query next).set "wt" "json").set "fl" "id").get? "wt" =
      some "json" := by
    rw [SelectQuery.get?_set_other (by decide), SelectQuery.get?_set_self]
  have again : job.restricted (job.cursorQuery query cursor) next =
      ((job.restricted query next).set "wt" "json").set "fl" "id" := by
    rw [cursorQuery, (placed.set (by decide) (by decide) (by decide) "json").restricted_set
        (by decide) (by decide) (by decide),
      placed.restricted_set (by decide) (by decide) (by decide), restricted_restricted]
  rw [cursorQuery, again, SelectQuery.set_of_get? form, SelectQuery.set_set, cursorQuery]

section Bulk

variable {format : Format} {job : Job}

/-- The formats in bulk ask for an answer of their own and for all fields. -/
theorem dataQuery_of_bulk (bulk : format.descriptor.paginates = false)
    (described : job.descriptor = format.descriptor) :
    ∃ form, ∀ query, job.dataQuery query = (query.set "wt" form).remove "fl" := by
  cases format with
  | solr => cases bulk
  | xml => cases bulk
  | json => cases bulk
  | csv => exact ⟨"csv", fun query => by rw [dataQuery, described]; rfl⟩
  | flatCsv => exact ⟨"json", fun query => by rw [dataQuery, described]; rfl⟩

theorem dataQuery_metaQuery {form : String}
    (asks : ∀ query, job.dataQuery query = (query.set "wt" form).remove "fl")
    (query : SelectQuery) (cursor : String) :
    job.dataQuery (job.metaQuery query cursor) =
      (job.restricted (countQuery query) cursor).set "wt" form := by
  rw [asks, metaQuery, cursorQuery, SelectQuery.remove_set_other (by decide),
    SelectQuery.remove_set_self, SelectQuery.remove_set_other (by decide), SelectQuery.set_set]
  simp (disch := decide) only [restricted, SelectQuery.remove_set_other, countQuery,
    SelectQuery.remove_remove]

theorem dataQuery_cursor (bulk : format.descriptor.paginates = false)
    (described : job.descriptor = format.descriptor) (query : SelectQuery) (cursor : String) :
    (job.dataQuery (job.metaQuery query cursor)).get? "cursorMark" = some cursor := by
  obtain ⟨form, asks⟩ := dataQuery_of_bulk bulk described
  rw [dataQuery_metaQuery asks, SelectQuery.get?_set_other (by decide), restricted_cursor]

/-- Both queries for a page carry its cursor. -/
theorem cursor_of_mem_pageQueries (bulk : format.descriptor.paginates = false)
    (described : job.descriptor = format.descriptor) (query : SelectQuery)
    (metas : Nat → Select.Response) (i : Nat) :
    ∀ asked ∈ job.pageQueries query metas i,
      asked.get? "cursorMark" = some (cursorAt metas i) := by
  intro asked member
  rw [pageQueries, List.mem_cons] at member
  rcases member with rfl | data
  · exact metaQuery_cursor job query _
  · by_cases empty : (metas i).documents = []
    · rw [if_pos empty] at data
      exact absurd data List.not_mem_nil
    · rw [if_neg empty, List.mem_singleton] at data
      rw [data]
      exact dataQuery_cursor bulk described query _

theorem cursorQuery_metaQuery (job : Job) (query : SelectQuery) (cursor next : String) :
    job.cursorQuery (job.metaQuery query cursor) next = job.metaQuery query next :=
  job.cursorQuery_cursorQuery (countQuery query) cursor next

/-- Asking for the next cursor after a request for data, which has changed the form of the
answer and dropped the list of fields. -/
theorem cursorQuery_dataQuery (bulk : format.descriptor.paginates = false)
    (described : job.descriptor = format.descriptor) (query : SelectQuery)
    (cursor next : String) :
    job.cursorQuery (job.dataQuery (job.metaQuery query cursor)) next =
      job.metaQuery query next := by
  obtain ⟨form, asks⟩ := dataQuery_of_bulk bulk described
  have placed := job.placed_restricted (countQuery query) cursor
  rw [dataQuery_metaQuery asks, cursorQuery,
    placed.restricted_set (by decide) (by decide) (by decide), restricted_restricted,
    SelectQuery.set_set, metaQuery, cursorQuery]

end Bulk

end Job

end IndexExport.Export
