import QueryDesk.Proofs.Listing.Reordered
import QueryDesk.Proofs.Listing.Reported

/-!
# Answered and refused requests

Parameters that compile are answered or refused by what their plan hands to the store. A request for
nothing but a page is answered as long as the store can hold the limit and the offset of the page,
and otherwise refused: the numbers are read from texts of any length and never checked.
-/

namespace QueryDesk

variable {r : Resource} {db : Database} {params : List (String × String)} {spec : QuerySpec}
  {search filters : Members} {plan : Plan}

/-! ## Plans with and without faults -/

theorem list_of_compiles {params : Members} (compiles : Compiles params r spec search filters) :
    r.list db params = r.listSpec db spec := by
  have compiled : compileQuery params r.config r.format =
      .ok ⟨spec, Contribution.log [⟨"search", search⟩, ⟨"filter", filters⟩]⟩ :=
    compileQuery_eq_ok_iff.mpr ⟨search, filters, compiles, rfl⟩
  rw [Resource.list, compiled]
  rfl

/-- A fault of the plan refuses the request before the page matters. -/
theorem listSpec_of_fault (planned : Plan.ofSpec r.entity spec = .ok plan) {fault : StoreFault}
    (faulty : plan.fault? = some fault) : r.listSpec db spec = .error (.store fault) := by
  simp only [Resource.listSpec, planned, Plan.count, faulty, Except.mapError, bind, Except.bind]

/-- A fault that only the page brings refuses the request too. -/
theorem listSpec_of_page_fault (planned : Plan.ofSpec r.entity spec = .ok plan)
    (counts : plan.fault? = none) {fault : StoreFault}
    (faulty : (plan.paginate spec.pagination).fault? = some fault) :
    r.listSpec db spec = .error (.store fault) := by
  simp only [Resource.listSpec, planned, Plan.count, counts, Plan.execute, faulty, Except.mapError,
    bind, Except.bind]

/-! ## Requests for nothing but a page -/

theorem param_of_page (onlyPage : ∀ p ∈ params, p.1 ∈ pageKeys) {key : String}
    (other : key ∉ pageKeys) : param (Members.texts params) key = .null := by
  have absent : params.lookup key = none := by
    rw [List.lookup_eq_none_iff]
    intro p mem
    have differ : key ≠ p.1 := fun same => other (same ▸ onlyPage p mem)
    simpa using differ
  rw [param_texts, absent]
  rfl

theorem filterPredicate_of_reserved (spared : ∀ p ∈ params, Filter.reserved.contains p.1 = true)
    (config : ResourceConfig) (format : FieldPath.Format) :
    Filter.predicate (Members.texts params) config format = .ok [] := by
  have none : Filter.filters config params = [] := by
    rw [Filter.filters, List.filterMap_eq_nil_iff]
    intro p mem
    rw [Filter.field?_of_reserved (spared p mem)]
    rfl
  rw [Filter.predicate, Filter.foldlM_step_texts, none]
  rfl

theorem compiles_of_page (r : Resource) (onlyPage : ∀ p ∈ params, p.1 ∈ pageKeys) :
    ∃ page, Compiles (Members.texts params) r ⟨page, [], []⟩ [] [] := by
  obtain ⟨page, paged⟩ := Pagination.resolve_isOk (params.lookup "page") (params.lookup "limit")
    (params.lookup "offset")
  simp only [← param_texts] at paged
  have spared : ∀ key ∈ pageKeys, Filter.reserved.contains key = true := by decide
  refine ⟨page, paged, ?_, ?_,
    filterPredicate_of_reserved (fun p mem => spared p.1 (onlyPage p mem)) _ _, rfl⟩
  · rw [param_of_page onlyPage (by decide)]
    rfl
  · rw [param_of_page onlyPage (by decide)]
    rfl

namespace Plan

theorem ofSpec_page (e : Entity) (page : Pagination) :
    ofSpec e ⟨page, [], []⟩ = .ok { entity := e } := rfl

theorem fault?_unconditional (e : Entity) : ({ entity := e } : Plan).fault? = none := by
  cases e <;> rfl

theorem ordered_unconditional (db : Database) (e : Entity) :
    (ordered db { entity := e }).Perm (db.rows e) := by
  have all : met db { entity := e } = db.rows e := List.filter_eq_self.mpr fun _ _ => rfl
  rw [ordered, all]
  exact List.mergeSort_perm _ _

end Plan

/-- A request for nothing but a page is answered just if the store can hold the page that its texts
    ask for. It counts all rows, and its items are a window of them, empty where the offset is at
    or beyond their number. -/
theorem page_answered (r : Resource) {db : Database} (keyed : db.Keyed)
    {params : List (String × String)} (onlyPage : ∀ p ∈ params, p.1 ∈ pageKeys) :
    ∃ page, Pagination.resolve (param (Members.texts params) "page")
        (param (Members.texts params) "limit") (param (Members.texts params) "offset") =
          .ok page ∧
      (page.Fits → ∃ listing rows, r.list db (Members.texts params) = .ok listing ∧
        listing.total = (db.rows r.entity).length ∧ listing.limit = page.limit ∧
        listing.offset = page.offset ∧ rows.Perm (db.rows r.entity) ∧
        listing.items = window page.limit page.offset rows ∧
        ((listing.total : Int) ≤ page.offset → listing.items = [])) ∧
      (¬ page.Fits → r.list db (Members.texts params) = .error (.store .integerRange)) := by
  obtain ⟨page, compiles⟩ := compiles_of_page r onlyPage
  have planned := Plan.ofSpec_page r.entity page
  have counts := Plan.fault?_unconditional r.entity
  have perm := Plan.ordered_unconditional db r.entity
  have reads : Plan.Reads { entity := r.entity } r.entity := ⟨rfl, .inl rfl⟩
  have total := (reads.length_selected keyed).trans perm.length_eq
  have items : Plan.run db (Plan.paginate { entity := r.entity } page) =
      window page.limit page.offset (Plan.ordered db { entity := r.entity }) := by
    rw [(reads.paginate page).run_eq keyed, Plan.part_paginate, Plan.ordered_paginate]
  refine ⟨page, compiles.paged, fun fits => ?_, fun exceeds => ?_⟩
  · have runs : Runs r db ⟨page, [], []⟩ _ _ :=
      ⟨planned, counts, Plan.fault?_paginate counts (Plan.pageFault?_paginate.mpr fits), rfl⟩
    have answered := list_eq_ok_iff.mpr ⟨_, [], [], _, compiles, runs⟩
    refine ⟨_, _, answered, total, rfl, rfl, perm, items, fun beyond => ?_⟩
    refine items.trans (window_of_beyond ?_)
    rwa [perm.length_eq, ← total]
  · rw [list_of_compiles compiles]
    exact listSpec_of_page_fault planned counts (Plan.fault?_of_page counts exceeds)

/-- The last offset that the store can hold is answered, and the next one is refused. -/
theorem posts_paged_at_bound :
    (∃ listing, Resource.posts.list sampleDatabase
        (Members.texts [("limit", "10"), ("offset", "9223372036854775807")]) = .ok listing ∧
      listing.total = 3 ∧ listing.items = []) ∧
    Resource.posts.list sampleDatabase (Members.texts [("offset", "9223372036854775808")]) =
      .error (.store .integerRange) := by
  have last : ∀ p ∈ [("limit", "10"), ("offset", "9223372036854775807")], p.1 ∈ pageKeys := by
    decide
  have next : ∀ p ∈ [("offset", "9223372036854775808")], p.1 ∈ pageKeys := by decide
  constructor
  · obtain ⟨page, paged, answered, -⟩ := page_answered .posts sampleDatabase_keyed last
    obtain rfl : ⟨some 10, 9223372036854775807⟩ = page :=
      Except.ok.inj (Eq.trans (by decide +kernel) paged)
    have fits : Pagination.Fits ⟨some 10, 9223372036854775807⟩ :=
      ⟨fun n limit => Option.some.inj limit ▸ by decide, by decide⟩
    obtain ⟨listing, rows, listed, total, -, -, -, -, empty⟩ := answered fits
    have three : listing.total = 3 := total
    exact ⟨listing, listed, three, empty (by rw [three]; decide)⟩
  · obtain ⟨page, paged, -, refused⟩ := page_answered .posts sampleDatabase_keyed next
    obtain rfl : ⟨some 25, 9223372036854775808⟩ = page :=
      Except.ok.inj (Eq.trans (by decide +kernel) paged)
    exact refused fun fits => absurd fits.offset (by decide)

end QueryDesk
