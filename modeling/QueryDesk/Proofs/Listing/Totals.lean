import Mathlib.Data.List.Perm.Basic
import QueryDesk.Proofs.Listing.Pages
import QueryDesk.Proofs.Plan.Joins
import QueryDesk.Proofs.Store.Ways

/-!
# What a total counts

The total of a listing counts each listed row as often as it can be combined with the associated
rows that its request joins. Where each row has one associated row at most, this is the number of
listed rows. The page does not change the total, and the order changes it only by what it joins.
-/

namespace QueryDesk

/-- The plan of a list request. -/
def Resource.planOf (r : Resource) (params : Members) : Except ListFault Plan := do
  let compiled ← (compileQuery params r.config r.format).mapError .query
  (Plan.ofSpec r.entity compiled.spec).mapError .plan

theorem planOf_eq_ok_iff {r : Resource} {params : Members} {plan : Plan} :
    r.planOf params = .ok plan ↔ ∃ spec search filters,
      Compiles params r spec search filters ∧ Plan.ofSpec r.entity spec = .ok plan := by
  simp only [Resource.planOf, bind_eq_ok_iff, mapError_eq_ok_iff, compileQuery_eq_ok_iff]
  constructor
  · rintro ⟨⟨spec, log⟩, ⟨search, filters, compiles, -⟩, planned⟩
    exact ⟨spec, search, filters, compiles, planned⟩
  · rintro ⟨spec, search, filters, compiles, planned⟩
    exact ⟨⟨spec, _⟩, ⟨search, filters, compiles, rfl⟩, planned⟩

/-! ## Requests that differ in their page or order -/

/-- A request for all rows. -/
def unlimited (params : List (String × String)) : List (String × String) :=
  without ["limit"] params ++ [("limit", "-1")]

/-- The parameters that choose a page or an order. -/
def layoutKeys : List String :=
  "sort" :: pageKeys

variable {r : Resource} {params params' : List (String × String)} {spec spec' : QuerySpec}
  {search filters search' filters' : Members}

theorem without_unlimited (params : List (String × String)) :
    without pageKeys (unlimited params) = without pageKeys params := by
  rw [unlimited, without_append (by decide), without, without, without, List.filter_filter]
  refine List.filter_congr fun p _ => ?_
  by_cases isLimit : p.1 = "limit"
  · simp [isLimit, pageKeys]
  · simp [isLimit]

theorem without_layout_of_pages (same : without pageKeys params' = without pageKeys params) :
    without layoutKeys params' = without layoutKeys params := by
  have twice : ∀ ps : List (String × String),
      without layoutKeys ps = without ["sort"] (without pageKeys ps) := by
    intro ps
    rw [without, without, without, List.filter_filter]
    refine List.filter_congr fun p _ => ?_
    simp [layoutKeys]
  rw [twice, twice, same]

theorem resolve_unlimited (params : List (String × String)) :
    Pagination.resolve (param (Members.texts (unlimited params)) "page")
      (param (Members.texts (unlimited params)) "limit")
      (param (Members.texts (unlimited params)) "offset") = .ok {} := by
  have limit : param (Members.texts (unlimited params)) "limit" = .text "-1" := by
    have none : (without ["limit"] params).lookup "limit" = none := by
      rw [List.lookup_eq_none_iff]
      intro p mem
      have kept : p.1 ≠ "limit" := by simpa using (List.mem_filter.mp mem).2
      simpa using Ne.symm kept
    rw [param, Members.get?_texts, unlimited, List.lookup_append, none]
    rfl
  rw [limit]
  rfl

/-- What is searched and filtered depends on neither page nor order. -/
theorem Compiles.predicate_eq (compiles : Compiles (Members.texts params) r spec search filters)
    (compiles' : Compiles (Members.texts params') r spec' search' filters')
    (same : without layoutKeys params' = without layoutKeys params) :
    spec'.predicate = spec.predicate := by
  have spared : ∀ key ∈ layoutKeys, Filter.reserved.contains key = true := by decide
  have searched := compiles'.searched
  rw [← param_without layoutKeys (by decide), same, param_without _ (by decide),
    compiles.searched] at searched
  have filtered := compiles'.filtered
  rw [← filterPredicate_without spared, same, filterPredicate_without spared,
    compiles.filtered] at filtered
  rw [compiles'.merged, compiles.merged, Except.ok.inj searched, Except.ok.inj filtered]

theorem Compiles.order_eq (compiles : Compiles (Members.texts params) r spec search filters)
    (compiles' : Compiles (Members.texts params') r spec' search' filters')
    (same : without pageKeys params' = without pageKeys params) : spec'.order = spec.order := by
  have ordered := compiles'.ordered
  rw [← param_without pageKeys (by decide), same, param_without _ (by decide),
    compiles.ordered] at ordered
  exact (Except.ok.inj ordered).symm

/-! ## Plans with the same conditions -/

namespace Plan

variable {root : Entity} {plan plan' : Plan} {db : Database}

/-- The joins of associations that may lead to many rows. -/
def manyJoins (plan : Plan) : List Join :=
  plan.joins.filter (!·.association.isToOne)

theorem Planned.prefix_joins (planned : Planned root spec plan) :
    addJoins [] (joinsOf root (predicateTokens spec.predicate)) <+: plan.joins := by
  rw [planned.joins, specTokens, joinsOf_append, addJoins_append]
  exact prefix_addJoins _ _

/-- Plans that join the same associations with many rows count the same, if they have the same
    predicate. -/
theorem Planned.length_selected_eq (planned : Planned root spec plan)
    (planned' : Planned root spec' plan') (distinct : plan.hasDistinctTables = true)
    (distinct' : plan'.hasDistinctTables = true) (predicate : spec'.predicate = spec.predicate)
    (many : plan'.manyJoins = plan.manyJoins) (keyed : db.Keyed) :
    (selected db plan').length = (selected db plan).length := by
  have entity : plan'.entity = plan.entity := planned'.entity.trans planned.entity.symm
  by_cases joins : plan'.joins = plan.joins
  · -- With the same joins the same rows are judged alike.
    have accepts_eq : accepts plan' = accepts plan := by
      funext row
      rw [Bool.eq_iff_iff, planned'.accepts_iff, planned.accepts_iff, predicate]
    rw [selected, selected, joinedRows_congr db entity joins, accepts_eq]
  · -- Otherwise only the orders join, and no more than one row to each.
    have begins := planned.prefix_joins
    have begins' := planned'.prefix_joins
    rw [predicate] at begins'
    have short := planned.length_joins distinct
    have short' := planned'.length_joins distinct'
    have unjoined : joinsOf root (predicateTokens spec.predicate) = [] := by
      by_contra joined
      rw [← addJoins_eq_nil_iff] at joined
      have some_join := List.length_pos_iff.mpr joined
      have same := begins.eq_of_length_le (by omega)
      have same' := begins'.eq_of_length_le (by omega)
      exact joins (same'.symm.trans same)
    have few : plan.manyJoins = [] := by
      by_contra some_many
      have positive := List.length_pos_iff.mpr some_many
      have same := (List.filter_sublist (l := plan.joins)).eq_of_length_le
        (Nat.le_trans short positive)
      have same' := (List.filter_sublist (l := plan'.joins)).eq_of_length_le
        (Nat.le_trans short' (many ▸ positive))
      exact joins (same'.symm.trans (many.trans same))
    have reads := planned.reads_of_toOne distinct (by simpa [manyJoins] using few)
    have reads' := planned'.reads_of_toOne distinct' (by simpa [manyJoins] using many.trans few)
    rw [reads'.selected_eq keyed, reads.selected_eq keyed, List.length_map, List.length_map, met,
      met, entity]
    congr 2
    funext row
    rw [Bool.eq_iff_iff, planned'.accepts_iff, planned.accepts_iff, predicate, seen, seen,
      planned'.entity, planned.entity,
      predicateTruths_congr _ (agree_extended db unjoined plan'.joins plan.joins row)]

end Plan

/-! ## Totals -/

/-- No listing has more items than there are rows. -/
theorem length_items_le {db : Database} {params : Members} {listing : Listing}
    (listed : r.list db params = .ok listing) :
    listing.items.length ≤ (db.rows r.entity).length := by
  obtain ⟨spec, search, filters, plan, -, runs⟩ := list_eq_ok_iff.mp listed
  have planned := Plan.ofSpec_planned runs.planned
  have among : (plan.paginate spec.pagination).run db ⊆ db.rows r.entity := by
    intro row mem
    obtain ⟨combination, inPart, made⟩ :=
      List.mem_filterMap.mp (Plan.mem_distinctFrom.mp mem).1
    have inSorted := (Plan.part_sublist _).subset inPart
    have selected : row ∈ (plan.selected db).filterMap JoinedRow.root? :=
      List.mem_filterMap.mpr ⟨combination, List.mem_mergeSort.mp inSorted, made⟩
    rw [← planned.entity]
    exact (Plan.mem_roots.mp selected).1
  rw [runs.listing]
  exact (List.subperm_of_subset (Plan.nodup_distinctFrom _ _) among).length_le

/-- A total counts each row of the unlimited listing once for each combination with associated rows
    that meets the conditions, which is once if no association leads to many rows. No choice of a
    page changes it, and a choice of an order only if it changes which associations with many rows
    are joined. -/
theorem total_counts_combinations {db : Database} (keyed : db.Keyed) {listing : Listing}
    (listed : r.list db (Members.texts params) = .ok listing) :
    ∃ plan full, r.planOf (Members.texts params) = .ok plan ∧
      r.list db (Members.texts (unlimited params)) = .ok full ∧
      full.total = listing.total ∧ full.items.Nodup ∧
      listing.total = (full.items.map (plan.ways db)).sum ∧
      (∀ row ∈ full.items, 1 ≤ plan.ways db row) ∧
      ((∀ join ∈ plan.joins, join.association.isToOne = true) →
        listing.total = full.items.length) ∧
      ∀ params' listing', r.list db (Members.texts params') = .ok listing' →
        (without pageKeys params' = without pageKeys params → listing'.total = listing.total) ∧
        (without layoutKeys params' = without layoutKeys params →
          ∀ plan', r.planOf (Members.texts params') = .ok plan' →
            plan'.manyJoins = plan.manyJoins → listing'.total = listing.total) := by
  obtain ⟨spec, search, filters, plan, compiles, runs⟩ := list_eq_ok_iff.mp listed
  have planned := Plan.ofSpec_planned runs.planned
  have distinct := Plan.hasDistinctTables_of_fault? runs.counts
  have total : listing.total = (plan.selected db).length := by rw [runs.listing]
  have all : Runs r db { spec with pagination := {} } plan
      ⟨(plan.paginate {}).run db, (plan.selected db).length, none, 0⟩ :=
    ⟨runs.planned, runs.counts, Plan.fault?_paginate runs.counts rfl, rfl⟩
  have answered := list_eq_ok_iff.mpr ⟨_, search, filters, plan,
    compiles.turn (without_unlimited params) (resolve_unlimited params), all⟩
  have totals : ∀ params' listing', r.list db (Members.texts params') = .ok listing' →
      without layoutKeys params' = without layoutKeys params →
      ∀ plan', r.planOf (Members.texts params') = .ok plan' →
        plan'.manyJoins = plan.manyJoins → listing'.total = listing.total := by
    intro params' listing' listed' same plan' has many
    obtain ⟨spec', search', filters', other, compiles', runs'⟩ := list_eq_ok_iff.mp listed'
    obtain rfl : plan' = other := by
      have own := planOf_eq_ok_iff.mpr ⟨spec', search', filters', compiles', runs'.planned⟩
      exact Except.ok.inj (has.symm.trans own)
    rw [total, runs'.listing]
    exact planned.length_selected_eq (Plan.ofSpec_planned runs'.planned) distinct
      (Plan.hasDistinctTables_of_fault? runs'.counts) (compiles.predicate_eq compiles' same) many
      keyed
  refine ⟨plan, _, planOf_eq_ok_iff.mpr ⟨spec, search, filters, compiles, runs.planned⟩, answered,
    total.symm, Plan.nodup_distinctFrom _ _, total.trans (Plan.length_selected_eq keyed),
    fun row mem => (Plan.mem_run_unlimited.mp mem).2, ?_, ?_⟩
  · intro single
    have reads := planned.reads_of_toOne distinct single
    rw [total, reads.length_selected keyed, reads.run_unlimited keyed]
  · intro params' listing' listed'
    refine ⟨fun same => ?_, totals params' listing' listed'⟩
    obtain ⟨spec', search', filters', plan', compiles', runs'⟩ := list_eq_ok_iff.mp listed'
    have planned' := Plan.ofSpec_planned runs'.planned
    have layout := without_layout_of_pages same
    have joins : plan'.joins = plan.joins := by
      rw [planned'.joins, planned.joins, Plan.specTokens, Plan.specTokens,
        compiles.predicate_eq compiles' layout, compiles.order_eq compiles' same]
    refine totals params' listing' listed' layout plan'
      (planOf_eq_ok_iff.mpr ⟨spec', search', filters', compiles', runs'.planned⟩) ?_
    rw [Plan.manyJoins, Plan.manyJoins, joins]

/-- Users that are sorted by the titles of their posts. -/
def usersByPosts : Resource :=
  ⟨.user, { sortFields := ["posts.title"] }, FieldPath.token⟩

theorem author_counted_by_posts :
    ∃ (listing : Listing) (plan : Plan) (full : Listing), usersByPosts.list authorDatabase
        (Members.texts [("sort", "posts.title"), ("limit", "1")]) = .ok listing ∧
      usersByPosts.list authorDatabase
        (Members.texts (unlimited [("sort", "posts.title"), ("limit", "1")])) = .ok full ∧
      listing.total = 2 ∧ full.items.Nodup ∧
      listing.total = (full.items.map (plan.ways authorDatabase)).sum := by
  have answer : (usersByPosts.list authorDatabase
      (Members.texts [("sort", "posts.title"), ("limit", "1")])).toOption.map Listing.total =
        some 2 := by
    decide +kernel
  cases listed : usersByPosts.list authorDatabase
      (Members.texts [("sort", "posts.title"), ("limit", "1")]) with
  | error fault =>
    rw [listed] at answer
    cases answer
  | ok listing =>
    rw [listed] at answer
    obtain ⟨plan, full, -, unlimited, -, once, sum, -⟩ :=
      total_counts_combinations authorDatabase_keyed listed
    exact ⟨listing, plan, full, rfl, unlimited, Option.some.inj answer, once, sum⟩

/-- The only user is counted twice when users are sorted by the titles of their posts, and once
    otherwise. -/
theorem total_differs_from_items :
    ∃ byTitle plain, usersByPosts.list authorDatabase
        (Members.texts [("sort", "posts.title"), ("limit", "-1")]) = .ok byTitle ∧
      usersByPosts.list authorDatabase (Members.texts [("limit", "-1")]) = .ok plain ∧
      byTitle.items.length < byTitle.total ∧ plain.total ≠ byTitle.total := by
  have answers : (usersByPosts.list authorDatabase
        (Members.texts [("sort", "posts.title"), ("limit", "-1")])).toOption.map Listing.total =
          some 2 ∧
      (usersByPosts.list authorDatabase
        (Members.texts [("limit", "-1")])).toOption.map Listing.total = some 1 := by
    decide +kernel
  cases listed : usersByPosts.list authorDatabase
      (Members.texts [("sort", "posts.title"), ("limit", "-1")]) with
  | error fault =>
    rw [listed] at answers
    cases answers.1
  | ok byTitle =>
    cases plainly : usersByPosts.list authorDatabase (Members.texts [("limit", "-1")]) with
    | error fault =>
      rw [plainly] at answers
      cases answers.2
    | ok plain =>
      rw [listed, plainly] at answers
      have two : byTitle.total = 2 := Option.some.inj answers.1
      have one : plain.total = 1 := Option.some.inj answers.2
      have few : byTitle.items.length ≤ 1 := length_items_le listed
      exact ⟨byTitle, plain, rfl, rfl, by omega, by omega⟩

end QueryDesk
