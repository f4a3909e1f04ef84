import Mathlib
import QueryDesk.Proofs.Listing.Answered
import QueryDesk.Proofs.Plan.Walks
import QueryDesk.Proofs.Store.Skipped

/-!
# What sorting does

Sorting changes nothing but the order of a listing. Sort keys are ascending, since a token that
begins with a hyphen has the empty key. Rows that tie stay as the store visits them, so the order is
the only one that the kept sort keys allow; a key that is repeated decides nothing the second time.
-/

namespace QueryDesk

variable {r : Resource} {db : Database} {params params' : List (String × String)}
  {spec spec' : QuerySpec} {search filters : Members} {plan : Plan} {listing listing' : Listing}

/-- The sort fields that parameters ask for, in the order of their tokens. -/
def sortedFields (r : Resource) (params : List (String × String)) : List String :=
  ((Text.splitAt '&' (textOf params "sort").toList).map Sort.key).filter
    r.config.sortFields.contains

/-- The ascending sort key of a field. -/
def ascendingKey (e : Entity) (field : String) : Option (ColumnRef × Direction) :=
  (fieldColumn? e field).map (·, .asc)

/-! ## Sort keys -/

theorem Sort.direction_of_key {token : List Char} (present : key token ≠ "") :
    direction token = .asc := by
  unfold direction
  split
  · rename_i hyphen
    obtain ⟨rest, rfl⟩ := List.head?_eq_some_iff.mp hyphen
    exact absurd rfl present
  · rfl

/-- Where no sort field has an empty name, all sort keys are ascending. -/
theorem sortKeys_eq (named : "" ∉ r.config.sortFields) (params : List (String × String)) :
    sortKeys r params = (sortedFields r params).filterMap (ascendingKey r.entity) := by
  unfold sortKeys sortedFields
  split
  · rename_i empty
    have unnamed : r.config.sortFields.contains (Sort.key []) = false := by
      simpa [Sort.key] using named
    rw [empty]
    simp only [String.toList_empty, Text.splitAt, List.map_cons, List.map_nil]
    rw [List.filter_cons, unnamed]
    rfl
  · rw [Sort.ofText, List.filterMap_map, List.filter_map, List.filterMap_map]
    refine List.filterMap_congr fun token kept => ?_
    have listed : Sort.key token ∈ r.config.sortFields := by
      simpa using (List.mem_filter.mp kept).2
    have ascending : Sort.direction token = .asc :=
      Sort.direction_of_key fun empty => named (empty ▸ listed)
    simp only [Function.comp_apply, id, ascending, ascendingKey]

/-- The fields that are sorted by name columns. -/
theorem exists_sorted_columns (offered : Offered r) (params : List (String × String)) :
    ∃ columns : List ColumnRef,
      (sortedFields r params).map (fieldColumn? r.entity) = columns.map some := by
  have leads : ∀ field ∈ sortedFields r params, (fieldColumn? r.entity field).isSome = true := by
    intro field mem
    have listed : field ∈ r.config.sortFields := by
      simpa using (List.mem_filter.mp mem).2
    have reachable : field ∈ r.fields :=
      List.mem_append_left _ (List.mem_append_right _ listed)
    obtain ⟨same, leads⟩ := Plan.column?_of_isNear (offered.near field reachable)
    rwa [same] at leads
  generalize sortedFields r params = fields at leads
  induction fields with
  | nil => exact ⟨[], rfl⟩
  | cons field rest ih =>
    rw [List.forall_mem_cons] at leads
    obtain ⟨column, found⟩ := Option.isSome_iff_exists.mp leads.1
    obtain ⟨columns, others⟩ := ih leads.2
    exact ⟨column :: columns, by rw [List.map_cons, List.map_cons, found, others]⟩

theorem ascending_of_columns {e : Entity} {fields : List String} {columns : List ColumnRef}
    (named : fields.map (fieldColumn? e) = columns.map some) :
    fields.filterMap (ascendingKey e) = columns.map (·, .asc) := by
  have keys : fields.filterMap (ascendingKey e) =
      (fields.map (fieldColumn? e)).filterMap (Option.map (·, .asc)) := by
    rw [List.filterMap_map]
    rfl
  rw [keys, named, List.filterMap_map]
  exact congrFun List.filterMap_eq_map columns

/-- Fields that are repeated decide nothing more. -/
theorem precedes_eraseDups {cells others : ColumnRef → Cell} (e : Entity) (fields : List String)
    (rest : List (ColumnRef × Direction)) :
    Plan.Precedes cells others (fields.eraseDups.filterMap (ascendingKey e) ++ rest) ↔
      Plan.Precedes cells others (fields.filterMap (ascendingKey e) ++ rest) := by
  induction fields using List.reverseRecOn generalizing rest with
  | nil => exact Iff.rfl
  | append_singleton fields field ih =>
    rw [eraseDups_concat, List.filterMap_append, List.append_assoc]
    cases key : ascendingKey e field with
    | none =>
      have nothing : [field].filterMap (ascendingKey e) = [] := by
        rw [List.filterMap_cons, key]
        rfl
      rw [nothing, List.nil_append]
      split
      · exact ih rest
      · rw [List.filterMap_append, nothing, List.append_nil]
        exact ih rest
    | some sortKey =>
      have own : [field].filterMap (ascendingKey e) = [sortKey] := by
        rw [List.filterMap_cons, key]
        rfl
      rw [own, List.singleton_append]
      split
      · rename_i known
        have before : sortKey ∈ fields.filterMap (ascendingKey e) :=
          List.mem_filterMap.mpr ⟨field, known, key⟩
        rw [Plan.precedes_repeated before]
        exact ih rest
      · rw [List.filterMap_append, own, List.append_assoc, List.singleton_append]
        exact ih (sortKey :: rest)

theorem tied_eraseDups {cells others : ColumnRef → Cell} (e : Entity) (fields : List String) :
    Plan.Tied cells others (fields.eraseDups.filterMap (ascendingKey e)) ↔
      Plan.Tied cells others (fields.filterMap (ascendingKey e)) := by
  simp only [Plan.Tied, List.mem_filterMap, List.mem_eraseDups]

/-! ## The same request with another order -/

/-- Parameters that differ in their order compile to specifications that do. -/
theorem Compiles.resort (compiles : Compiles (Members.texts params) r spec search filters)
    (same : without ["sort"] params' = without ["sort"] params) :
    ∃ order, Compiles (Members.texts params') r { spec with order } search filters := by
  have spared : ∀ key ∈ ["sort"], Filter.reserved.contains key = true := by decide
  have kept : ∀ key, key ∉ ["sort"] →
      param (Members.texts params') key = param (Members.texts params) key := by
    intro key other
    rw [← param_without ["sort"] other, same, param_without ["sort"] other]
  obtain ⟨order, ordered⟩ := sortOrder_isOk (params'.lookup "sort") r.config r.format
  rw [← param_texts] at ordered
  refine ⟨order, ?_, ?_, ordered, ?_, compiles.merged⟩
  · rw [kept "page" (by decide), kept "limit" (by decide), kept "offset" (by decide)]
    exact compiles.paged
  · rw [kept "search" (by decide)]
    exact compiles.searched
  · rw [← filterPredicate_without spared, same, filterPredicate_without spared]
    exact compiles.filtered

theorem Plan.Reads.hasDistinctTables {root : Entity} (reads : Plan.Reads plan root) :
    plan.hasDistinctTables = true := by
  rcases reads.joins with none | ⟨isPost, author⟩
  · simp [Plan.hasDistinctTables, Plan.entities, none]
  · rw [Plan.hasDistinctTables, Plan.entities, reads.entity, isPost, author]
    rfl

/-- The listing of a specification without page. -/
theorem Runs.listing_of_unlimited (runs : Runs r db spec plan listing)
    (unlimited : spec.pagination = {}) (reads : Plan.Reads plan r.entity) (keyed : db.Keyed) :
    listing = ⟨plan.ordered db, (plan.ordered db).length, none, 0⟩ := by
  rw [runs.listing, unlimited, reads.run_unlimited keyed, reads.length_selected keyed]

/-- A request that is answered is answered in any other order too, with the same rows. -/
theorem answered_resorted (offered : Offered r) (keyed : db.Keyed)
    (distinct : (params.map Prod.fst).Nodup) (distinct' : (params'.map Prod.fst).Nodup)
    (unlimited : ("limit", "-1") ∈ params)
    (same : without ["sort"] params' = without ["sort"] params)
    (listed : r.list db (Members.texts params) = .ok listing) :
    ∃ listing', r.list db (Members.texts params') = .ok listing' ∧
      listing'.items.Perm listing.items ∧
      (listing'.items = listing.items → listing' = listing) := by
  obtain ⟨spec, search, filters, plan, compiles, runs, planned, reads, -⟩ :=
    exists_plan_of_unlimited offered keyed distinct unlimited listed
  have near := compiles.near offered distinct
  have whole : spec.pagination = {} := compiles.unlimited distinct unlimited
  obtain ⟨order, compiles'⟩ := compiles.resort same
  have near' := compiles'.near offered distinct'
  -- The conditions of a plan come from the predicate alone, which is the same.
  have conditions := Plan.ofSpec_conditions r.entity { spec with order }
  have given : (Plan.ofSpec r.entity { spec with order }).map (·.conditions) =
      .ok plan.conditions := by
    rw [conditions, ← Plan.ofSpec_conditions r.entity spec, runs.planned]
    rfl
  obtain ⟨plan', made, conditions_eq⟩ := map_eq_ok_iff.mp given
  have planned' := Plan.ofSpec_planned made
  have reads' := planned'.reads near'
  have counts : plan'.fault? = none := by
    rw [← runs.counts]
    exact Plan.fault?_congr conditions_eq
      (reads'.hasDistinctTables.trans reads.hasDistinctTables.symm)
      (planned'.limit.trans planned.limit.symm) (planned'.offset.trans planned.offset.symm)
  have runs' : Runs r db { spec with order } plan' _ :=
    ⟨made, counts, Plan.fault?_paginate counts (by rw [whole]; rfl), rfl⟩
  have met : plan'.met db = plan.met db := by
    rw [Plan.met, Plan.met, planned'.entity, planned.entity]
    refine List.filter_congr fun row _ => ?_
    rw [Bool.eq_iff_iff, planned'.accepts_seen_iff near', planned.accepts_seen_iff near]
  have rows : (plan'.ordered db).Perm (plan.ordered db) := by
    refine (List.mergeSort_perm _ _).trans ?_
    rw [met]
    exact (List.mergeSort_perm _ _).symm
  refine ⟨_, list_eq_ok_iff.mpr ⟨_, search, filters, plan', compiles', runs'⟩, ?_⟩
  rw [runs'.listing_of_unlimited whole reads' keyed, runs.listing_of_unlimited whole reads keyed]
  exact ⟨rows, fun items => by rw [Listing.mk.injEq]; exact ⟨items, rows.length_eq, rfl, rfl⟩⟩

/-! ## Sorted listings -/

theorem Plan.cellAt_ne_nan (db : Database) (e : Entity) (row : Row) (c : ColumnRef) :
    cellAt db e row c ≠ .real .nan := by
  unfold cellAt
  split
  · exact row.cell_ne_nan c.column.name
  · cases db.author? row with
    | none => simp
    | some author => exact author.cell_ne_nan c.column.name

/-- Of two rows one at most comes before the other. -/
theorem Plan.ComesBefore.asymm {e : Entity} {keys : List (ColumnRef × Direction)} {row other : Row}
    (keyed : db.Keyed) (before : ComesBefore db e keys row other) :
    ¬ ComesBefore db e keys other row := by
  have number := cellAt_ne_nan db e row
  have number' := cellAt_ne_nan db e other
  rintro (back | ⟨tied', back⟩) <;> rcases before with precedes | ⟨tied, first⟩
  · exact precedes.asymm number number' back
  · exact back.not_tied (tied.symm number number')
  · exact precedes.not_tied (tied'.symm number' number)
  · exact pair_sublist_asymm (keyed.nodup_rows e) first back

theorem Plan.comesBefore_eraseDups {e : Entity} (fields : List String) {row other : Row} :
    ComesBefore db e (fields.eraseDups.filterMap (ascendingKey e)) row other ↔
      ComesBefore db e (fields.filterMap (ascendingKey e)) row other := by
  have precedes := @precedes_eraseDups (cellAt db e row) (cellAt db e other) e fields []
  rw [List.append_nil, List.append_nil] at precedes
  exact or_congr precedes (and_congr_left' (tied_eraseDups e fields))

/-- Sort keys leave the rows of a listing a single order. -/
theorem items_eq_of_comesBefore {e : Entity} {keys : List (ColumnRef × Direction)}
    {rows others : List Row} (keyed : db.Keyed) (perm : rows.Perm others)
    (sorted : rows.Pairwise (Plan.ComesBefore db e keys))
    (sorted' : others.Pairwise (Plan.ComesBefore db e keys)) : rows = others := by
  refine List.Perm.eq_of_pairwise (fun row other _ _ before after => ?_) sorted sorted' perm
  exact absurd after (before.asymm keyed)

/-- A post without author that nobody has read. -/
def unreadPost (id : Nat) : Post where
  id := ⟨id⟩
  userId := ⟨7⟩
  title := "news"
  createdAt := ⟨63902908800000000, none⟩
  updatedAt := ⟨63902908800000000, none⟩

/-- Two unread posts, of which the store visits the one with the greater id first. -/
def visitedBackwards : Database where
  posts := [unreadPost 0x12, unreadPost 0x11]

end QueryDesk
