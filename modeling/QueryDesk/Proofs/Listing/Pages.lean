import QueryDesk.Proofs.Listing.Membership
import QueryDesk.Proofs.Query.Paging
import QueryDesk.Proofs.Store.Order
import QueryDesk.Proofs.Store.Page

/-!
# Pages of a listing

The pages of a request are the consecutive parts of its unlimited listing. They share its total, all
but the last have the length of the limit, and those past the last are empty.
-/

namespace QueryDesk

/-! ## Parts of rows -/

/-- Consecutive parts of a length make up the beginning of a list. -/
theorem flatMap_parts {α : Type} (rows : List α) (size count : Nat) :
    (List.range count).flatMap (fun i => (rows.drop (i * size)).take size) =
      rows.take (count * size) := by
  induction count with
  | zero => simp
  | succ count ih =>
    rw [List.range_succ, List.flatMap_append, ih, List.flatMap_singleton, Nat.succ_mul,
      List.take_add]

/-- The number of pages that rows fill. -/
def pageCount (total size : Nat) : Nat :=
  (total + size - 1) / size

theorem le_pageCount_mul {total size : Nat} (positive : 1 ≤ size) :
    total ≤ pageCount total size * size := by
  have rest := Nat.mod_lt (total + size - 1) positive
  have whole := Nat.div_add_mod (total + size - 1) size
  rw [Nat.mul_comm] at whole
  rw [pageCount]
  omega

theorem lt_pageCount_iff {total size page : Nat} (positive : 1 ≤ size) :
    page < pageCount total size ↔ page * size < total := by
  rw [pageCount, Nat.lt_iff_add_one_le, Nat.le_div_iff_mul_le positive, Nat.succ_mul]
  omega

/-! ## Requests for pages -/

/-- The parameters that choose a page. -/
def pageKeys : List String :=
  ["page", "limit", "offset"]

/-- Parameters but for those of some keys. -/
def without (keys : List String) (params : List (String × String)) : List (String × String) :=
  params.filter fun p => !keys.contains p.1

variable {r : Resource} {keys : List String} {params params' extra : List (String × String)}

theorem lookup_append_of_notMem {key : String} (absent : key ∉ extra.map Prod.fst) :
    (params ++ extra).lookup key = params.lookup key := by
  have none : extra.lookup key = none := by
    rw [List.lookup_eq_none_iff]
    intro p mem
    have differ : key ≠ p.1 := fun same => absent (same ▸ List.mem_map_of_mem mem)
    simpa using differ
  rw [List.lookup_append, none, Option.or_none]

theorem lookup_without {key : String} (kept : key ∉ keys) :
    (without keys params).lookup key = params.lookup key := by
  unfold without
  induction params with
  | nil => rfl
  | cons p rest ih =>
    obtain ⟨other, text⟩ := p
    by_cases same : key = other
    · subst same
      simp [kept]
    · have apart : (key == other) = false := by simpa using same
      rw [List.lookup_cons, apart, ← ih, List.filter_cons]
      split <;> simp [List.lookup_cons, apart]

theorem param_without (keys : List String) {key : String} (kept : key ∉ keys) :
    param (Members.texts (without keys params)) key = param (Members.texts params) key := by
  rw [param, param, Members.get?_texts, Members.get?_texts, lookup_without kept]

/-- Reserved parameters filter on nothing. -/
theorem filterPredicate_without (spared : ∀ key ∈ keys, Filter.reserved.contains key = true)
    (config : ResourceConfig) (format : FieldPath.Format) :
    Filter.predicate (Members.texts (without keys params)) config format =
      Filter.predicate (Members.texts params) config format := by
  have same : Filter.filters config (without keys params) = Filter.filters config params := by
    unfold without
    induction params with
    | nil => rfl
    | cons p rest ih =>
      rw [List.filter_cons]
      split
      · rw [Filter.filters, Filter.filters, List.filterMap_cons, List.filterMap_cons,
          ← Filter.filters, ← Filter.filters, ih]
      · rename_i dropped
        have reserved := spared p.1 (by simpa using dropped)
        have skipped : Filter.filters config (p :: rest) = Filter.filters config rest := by
          simp [Filter.filters, Filter.field?_of_reserved reserved]
        rw [ih, skipped]
  rw [Filter.predicate, Filter.predicate, Filter.foldlM_step_texts, Filter.foldlM_step_texts, same]

theorem without_append (chooses : ∀ p ∈ extra, p.1 ∈ keys) :
    without keys (params ++ extra) = without keys params := by
  have none : without keys extra = [] := by
    rw [without, List.filter_eq_nil_iff]
    intro p mem
    simpa using chooses p mem
  rw [without, List.filter_append, ← without, ← without, none, List.append_nil]

/-- Another page of a request compiles to the same specification but for its page. -/
theorem Compiles.turn {spec : QuerySpec} {search filters : Members}
    (compiles : Compiles (Members.texts params) r spec search filters)
    (same : without pageKeys params' = without pageKeys params)
    {page : Pagination} (paged : Pagination.resolve (param (Members.texts params') "page")
      (param (Members.texts params') "limit") (param (Members.texts params') "offset") =
        .ok page) :
    Compiles (Members.texts params') r { spec with pagination := page } search filters := by
  have spared : ∀ key ∈ pageKeys, Filter.reserved.contains key = true := by decide
  refine ⟨paged, ?_, ?_, ?_, compiles.merged⟩
  · rw [← param_without pageKeys (by decide), same, param_without _ (by decide)]
    exact compiles.searched
  · rw [← param_without pageKeys (by decide), same, param_without _ (by decide)]
    exact compiles.ordered
  · rw [← filterPredicate_without spared, same, filterPredicate_without spared]
    exact compiles.filtered

/-! ## The order of a listing -/

/-- The sort keys that parameters ask for: the columns of allowed sort fields, with directions. -/
def sortKeys (r : Resource) (params : List (String × String)) : List (ColumnRef × Direction) :=
  if textOf params "sort" = "" then []
  else (Sort.ofText (textOf params "sort") r.config id).filterMap fun clause =>
    (fieldColumn? r.entity clause.field).map (·, clause.direction)

theorem orderKeys_ofText (offered : Offered r) (sort : String) :
    Plan.orderKeys r.entity (Sort.ofText sort r.config r.format) =
      (Sort.ofText sort r.config id).filterMap fun clause =>
        (fieldColumn? r.entity clause.field).map (·, clause.direction) := by
  simp only [Plan.orderKeys, Sort.ofText, List.flatMap_map, List.filterMap_map]
  rw [← List.filterMap_eq_flatMap_toList]
  apply List.filterMap_congr
  intro token sorts
  have listed : Sort.key token ∈ r.config.sortFields := by
    simpa using (List.mem_filter.mp sorts).2
  have reachable : Sort.key token ∈ r.fields :=
    List.mem_append_left _ (List.mem_append_right _ listed)
  have same := (Plan.column?_of_isNear (offered.near _ reachable)).1
  simp only [same, Function.comp, id]

theorem orderKeys_eq (offered : Offered r) {spec : QuerySpec} {search filters : Members}
    (compiles : Compiles (Members.texts params) r spec search filters) :
    Plan.orderKeys r.entity spec.order = sortKeys r params := by
  have ordered := compiles.ordered
  rw [param, Members.get?_texts] at ordered
  unfold sortKeys textOf
  cases found : params.lookup "sort" with
  | none =>
    rw [found] at ordered
    rw [← Except.ok.inj ordered, Option.getD_none, if_pos rfl]
    rfl
  | some text =>
    rw [found] at ordered
    rw [Option.getD_some]
    simp only [Option.map_some, Option.getD_some, Sort.order, Value.isTruthy, Bool.not_not] at ordered
    split at ordered
    · rename_i empty
      rw [← Except.ok.inj ordered, if_pos (String.isEmpty_iff.mp empty)]
      rfl
    · rename_i present
      rw [← Except.ok.inj ordered, if_neg fun empty => present (String.isEmpty_iff.mpr empty)]
      exact orderKeys_ofText offered text

namespace Plan

/-- A row comes before another: by the sort keys, and if no sort key tells the two apart, because the
    store visits it first. -/
def ComesBefore (db : Database) (e : Entity) (keys : List (ColumnRef × Direction))
    (row other : Row) : Prop :=
  Precedes (cellAt db e row) (cellAt db e other) keys ∨
    Tied (cellAt db e row) (cellAt db e other) keys ∧ db.VisitsBefore e row other

/-- The column of an entity's ids. -/
def idColumn (e : Entity) : ColumnRef :=
  ⟨e, ⟨"id", .uuid⟩⟩

theorem cellAt_idColumn (db : Database) (e : Entity) (row : Row) :
    cellAt db e row (idColumn e) = .text row.id.hex := by
  have own : cellAt db e row (idColumn e) = row.cell "id" := by simp [cellAt, idColumn]
  rw [own]
  cases row <;> rfl

/-- Where rows are visited in the order of their ids, ids decide between rows that tie. -/
theorem ComesBefore.by_id {db : Database} {e : Entity} {keys : List (ColumnRef × Direction)}
    {row other : Row} (visited : db.VisitsById e) (before : ComesBefore db e keys row other) :
    Precedes (cellAt db e row) (cellAt db e other) (keys ++ [(idColumn e, .asc)]) := by
  rcases before with precedes | ⟨tied, first⟩
  · exact precedes.append _
  · have less : Cell.compareText row.id.hex other.id.hex = .lt :=
      List.pairwise_iff_forall_sublist.mp visited first
    refine tied.precedes_append (.up ?_)
    rw [cellAt_idColumn, cellAt_idColumn, Cell.order, less]

end Plan

/-- The rows of a listing come one after the other by the sort keys asked for, and ties as they are
    visited. -/
theorem ordered_by_sortKeys (offered : Offered r) {db : Database} (keyed : db.Keyed)
    (distinct : (params.map Prod.fst).Nodup) {spec : QuerySpec} {search filters : Members}
    {plan : Plan} (compiles : Compiles (Members.texts params) r spec search filters)
    (planned : Plan.Planned r.entity spec plan) :
    (plan.ordered db).Pairwise (Plan.ComesBefore db r.entity (sortKeys r params)) := by
  have near := compiles.near offered distinct
  have same : ∀ row, ∀ key ∈ plan.order,
      (plan.seen db row).cell key.1 = Plan.cellAt db r.entity row key.1 := by
    intro row key sorts
    rw [planned.order] at sorts
    obtain ⟨clause, inOrder, leads⟩ := Plan.exists_clause_of_orderKeys sorts
    have follows : clause.field ∈ Plan.specTokens spec :=
      List.mem_append_right _ (List.mem_map_of_mem inOrder)
    rw [Plan.seen, planned.entity]
    exact planned.agree near db row _ follows _ leads
  have keys : sortKeys r params = plan.order := by
    rw [← orderKeys_eq offered compiles, planned.order]
  rw [keys]
  refine (Plan.ordered_pairwise keyed).imp fun {row other} before => ?_
  have cells : ∀ key ∈ plan.order, (plan.seen db row).cell key.1 =
      Plan.cellAt db r.entity row key.1 ∧ (plan.seen db other).cell key.1 =
        Plan.cellAt db r.entity other key.1 :=
    fun key mem => ⟨same row key mem, same other key mem⟩
  rw [planned.entity] at before
  exact before.imp (·.congr cells) (And.imp_left (·.congr cells))

/-! ## Pages -/

/-- The parameters that ask for one page. -/
def pageOf (params : List (String × String)) (size before : Nat) : List (String × String) :=
  params ++ [("limit", toString size), ("page", toString (before + 1))]

/-- Pages of a size are the parts of a listing, one after the other. A page is known by the number of
    pages before it. -/
structure Partition (r : Resource) (db : Database) (params : List (String × String))
    (listing : Listing) (size : Nat) (page : Nat → Listing) : Prop where
  /-- A page is answered as long as a cell can hold the number of rows to pass over. -/
  answered : ∀ before, ((before * size : Nat) : Int) < Cell.intBound →
    r.list db (Members.texts (pageOf params size before)) = .ok (page before)
  total : ∀ before, (page before).total = listing.total
  joined : (List.range (pageCount listing.total size)).flatMap (fun before => (page before).items) =
    listing.items
  full : ∀ before, before + 1 < pageCount listing.total size → (page before).items.length = size
  beyond : ∀ before, pageCount listing.total size ≤ before → (page before).items = []

theorem nodup_append_page (distinct : (params.map Prod.fst).Nodup)
    (unpaged : ∀ key ∈ pageKeys, key ∉ params.map Prod.fst)
    (chooses : ∀ p ∈ extra, p.1 ∈ pageKeys) (distinct' : (extra.map Prod.fst).Nodup) :
    ((params ++ extra).map Prod.fst).Nodup := by
  rw [List.map_append, List.nodup_append]
  refine ⟨distinct, distinct', ?_⟩
  rintro key inParams key' inExtra rfl
  obtain ⟨p, mem, rfl⟩ := List.mem_map.mp inExtra
  exact unpaged p.1 (chooses p mem) inParams

/-- What chooses a page is not among other parameters. -/
theorem param_page (unpaged : ∀ key ∈ pageKeys, key ∉ params.map Prod.fst) {key : String}
    (chooses : key ∈ pageKeys) :
    param (Members.texts (params ++ extra)) key = param (Members.texts extra) key := by
  have none : params.lookup key = none := by
    rw [List.lookup_eq_none_iff]
    intro p mem
    have differ : key ≠ p.1 := fun same => unpaged key chooses (same ▸ List.mem_map_of_mem mem)
    simpa using differ
  rw [param, param, Members.get?_texts, Members.get?_texts, List.lookup_append, none,
    Option.none_or]

/-- The listing of the rows after those of the pages before. -/
def pageListing (rows : List Row) (size before : Nat) : Listing where
  items := (rows.drop (before * size)).take size
  total := rows.length
  limit := some (size : Int)
  offset := (before * size : Nat)

section

variable {spec : QuerySpec} {search filters : Members} {plan : Plan} {db : Database}
  {listing : Listing} {size : Nat}

/-- A request for a page is answered with the listing of its rows. -/
theorem list_page (unpaged : ∀ key ∈ pageKeys, key ∉ params.map Prod.fst)
    (chooses : ∀ p ∈ extra, p.1 ∈ pageKeys)
    (compiles : Compiles (Members.texts (params ++ extra)) r spec search filters)
    (runs : Runs r db spec plan listing) (reads : Plan.Reads plan r.entity) (keyed : db.Keyed)
    (positive : 1 ≤ size) (fits : (size : Int) < Cell.intBound) {before : Nat}
    (before_fits : ((before * size : Nat) : Int) < Cell.intBound) :
    r.list db (Members.texts (pageOf params size before)) =
      .ok (pageListing (plan.ordered db) size before) := by
  have chooses' : ∀ p ∈ [("limit", toString size), ("page", toString (before + 1))],
      p.1 ∈ pageKeys := by
    simp [pageKeys]
  have few : ((before : Nat) : Int) < Cell.intBound := by
    have le : before ≤ before * size := Nat.le_mul_of_pos_right before positive
    omega
  have paged := Pagination.resolve_page (Int.le_of_lt fits) few
  have runs' : Runs r db { spec with pagination := ⟨some (size : Int), (before * size : Nat)⟩ } plan
      (pageListing (plan.ordered db) size before) := by
    refine ⟨runs.planned, runs.counts, ?_, ?_⟩
    · exact Plan.fault?_paginate runs.counts (Plan.pageFault?_paginate.mpr
        ⟨fun n same => Option.some.inj same ▸ fits, before_fits⟩)
    · rw [(reads.paginate _).run_eq keyed, Plan.ordered_paginate, Plan.part_paginate, window_natural,
        reads.length_selected keyed]
      rfl
  refine list_eq_ok_iff.mpr ⟨_, search, filters, plan, ?_, runs'⟩
  refine compiles.turn ((without_append chooses').trans (without_append chooses).symm) ?_
  rw [param_page unpaged (by decide), param_page unpaged (by decide), param_page unpaged (by decide)]
  exact paged

end

/-- The pages of a request partition its unlimited listing, which has as many rows as it says. They
    come one after the other by the sort keys asked for and then by id, where the store visits rows
    by id. -/
theorem pages_partition {r : Resource} (shipped : r = .users ∨ r = .posts) {db : Database}
    (keyed : db.Keyed) {params : List (String × String)} (distinct : (params.map Prod.fst).Nodup)
    (unpaged : ∀ key ∈ pageKeys, key ∉ params.map Prod.fst) {listing : Listing}
    (listed : r.list db (Members.texts (params ++ [("limit", "-1")])) = .ok listing) {size : Nat}
    (positive : 1 ≤ size) (fits : (size : Int) < Cell.intBound) :
    listing.total = listing.items.length ∧
      (db.VisitsById r.entity → listing.items.Pairwise fun row other =>
        Plan.Precedes (Plan.cellAt db r.entity row) (Plan.cellAt db r.entity other)
          (sortKeys r params ++ [(Plan.idColumn r.entity, .asc)])) ∧
      ∃ page, Partition r db params listing size page := by
  have offered := offered_of_shipped shipped
  have chooses : ∀ p ∈ [("limit", "-1")], p.1 ∈ pageKeys := by decide
  have distinct' := nodup_append_page distinct unpaged chooses (by decide)
  obtain ⟨spec, search, filters, plan, compiles, runs, planned, reads, items⟩ :=
    exists_plan_of_unlimited offered keyed distinct' (by simp) listed
  have total : listing.total = (plan.ordered db).length := by
    rw [runs.listing]
    exact reads.length_selected keyed
  have same_sort : sortKeys r (params ++ [("limit", "-1")]) = sortKeys r params := by
    have same : textOf (params ++ [("limit", "-1")]) "sort" = textOf params "sort" := by
      rw [textOf, textOf, lookup_append_of_notMem (by decide)]
    rw [sortKeys, sortKeys, same]
  refine ⟨by rw [total, items], ?_, pageListing (plan.ordered db) size, ?_, ?_, ?_, ?_, ?_⟩
  · intro visited
    rw [items, ← same_sort]
    exact (ordered_by_sortKeys offered keyed distinct' compiles planned).imp (·.by_id visited)
  · intro before before_fits
    exact list_page unpaged chooses compiles runs reads keyed positive fits before_fits
  · intro before
    rw [total]
    rfl
  · -- The parts reach past the last row, so that what they take of the rows is all of them.
    have covered : (plan.ordered db).length ≤ pageCount (plan.ordered db).length size * size :=
      le_pageCount_mul positive
    rw [items, total]
    exact (flatMap_parts _ size _).trans (List.take_of_length_le covered)
  · intro before notLast
    rw [total, lt_pageCount_iff positive, Nat.succ_mul] at notLast
    simp only [pageListing, List.length_take, List.length_drop]
    omega
  · intro before past
    rw [total, ← Nat.not_lt, lt_pageCount_iff positive, Nat.not_lt] at past
    rw [pageListing, List.drop_of_length_le past, List.take_nil]

theorem pages_of_posts_by_author :
    let params := [("sort", "user.full_name&views"), ("f_views", ">=3")]
    sampleDatabase.VisitsById .post ∧ ∃ listing, Resource.posts.list sampleDatabase
        (Members.texts (params ++ [("limit", "-1")])) = .ok listing ∧ listing.total = 3 ∧
      listing.items.Pairwise (fun row other =>
        Plan.Precedes (Plan.cellAt sampleDatabase .post row) (Plan.cellAt sampleDatabase .post other)
          (sortKeys .posts params ++ [(Plan.idColumn .post, .asc)])) ∧
      ∃ page, Partition .posts sampleDatabase params listing 2 page := by
  intro params
  have visited : sampleDatabase.VisitsById .post := by
    unfold Database.VisitsById
    decide +kernel
  have answer : (Resource.posts.list sampleDatabase
      (Members.texts (params ++ [("limit", "-1")]))).toOption.map Listing.total = some 3 := by
    decide +kernel
  cases listed : Resource.posts.list sampleDatabase
      (Members.texts (params ++ [("limit", "-1")])) with
  | error fault =>
    rw [listed] at answer
    cases answer
  | ok listing =>
    rw [listed] at answer
    have fits : ((2 : Nat) : Int) < Cell.intBound := by
      unfold Cell.intBound
      omega
    obtain ⟨-, byId, page, partition⟩ := pages_partition (.inr rfl) sampleDatabase_keyed (by decide)
      (by decide) listed (Nat.le_succ 1) fits
    exact ⟨visited, listing, rfl, Option.some.inj answer, byId visited, page, partition⟩

end QueryDesk
