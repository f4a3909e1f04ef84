import QueryDesk.Proofs.Listing.Totals

/-!
# What a listing reports

A listing reports the limit and the offset that were asked for. Its items are those rows of the
unlimited listing that a limit and an offset choose, where a negative offset passes over no row and
a negative limit holds no row back.
-/

namespace QueryDesk

/-- Of a listing and the unlimited one of the same request, the unlimited one has all rows, in the
    order asked for, and ties as the store visits them. The listing reports the limit and the offset
    that were asked for, and its items are the rows that these choose. -/
theorem items_eq_window {r : Resource} (shipped : r = .users ∨ r = .posts) {db : Database}
    (keyed : db.Keyed) {params : List (String × String)} (distinct : (params.map Prod.fst).Nodup)
    {listing : Listing} (listed : r.list db (Members.texts params) = .ok listing) :
    ∃ full, r.list db (Members.texts (unlimited params)) = .ok full ∧
      full.items.Pairwise (Plan.ComesBefore db r.entity (sortKeys r params)) ∧
      Pagination.resolve (param (Members.texts params) "page") (param (Members.texts params) "limit")
        (param (Members.texts params) "offset") = .ok ⟨listing.limit, listing.offset⟩ ∧
      listing.items = window listing.limit listing.offset full.items := by
  have offered := offered_of_shipped shipped
  obtain ⟨spec, search, filters, plan, compiles, runs⟩ := list_eq_ok_iff.mp listed
  have planned := Plan.ofSpec_planned runs.planned
  have reads := planned.reads (compiles.near offered distinct)
  -- The request for all rows has the same plan, but for the page.
  have all : Runs r db { spec with pagination := {} } plan
      ⟨plan.ordered db, (plan.selected db).length, none, 0⟩ :=
    ⟨runs.planned, runs.counts, Plan.fault?_paginate runs.counts rfl, by
      rw [reads.run_unlimited keyed]⟩
  have answered := list_eq_ok_iff.mpr ⟨_, search, filters, plan,
    compiles.turn (without_unlimited params) (resolve_unlimited params), all⟩
  refine ⟨_, answered, ordered_by_sortKeys offered keyed distinct compiles planned, ?_, ?_⟩
  · rw [compiles.paged, runs.listing]
  · rw [runs.listing, (reads.paginate _).run_eq keyed, Plan.part_paginate, Plan.ordered_paginate]

/-- The page before the first shows what the first does, and is reported with a negative offset. -/
theorem shows_page_before_first :
    let params := [("page", "0"), ("limit", "2"), ("f_user.role", "member")]
    ∃ listing full, Resource.posts.list sampleDatabase (Members.texts params) = .ok listing ∧
      Resource.posts.list sampleDatabase (Members.texts (unlimited params)) = .ok full ∧
      listing.items.map (·.id.value) = [1] ∧ listing.items = window (some 2) (-2) full.items := by
  intro params
  have answer : (Resource.posts.list sampleDatabase (Members.texts params)).toOption.map
      (fun listing => (listing.items.map (·.id.value), listing.limit, listing.offset)) =
        some ([1], some 2, -2) := by
    decide +kernel
  obtain ⟨listing, listed, shown⟩ := toOption_map_eq_some_iff.mp answer
  obtain ⟨ids, limit, offset⟩ : listing.items.map (·.id.value) = [1] ∧ listing.limit = some 2 ∧
      listing.offset = -2 := by
    simpa using shown
  obtain ⟨full, unlimited, -, -, items⟩ :=
    items_eq_window (.inr rfl) sampleDatabase_keyed (by decide) listed
  exact ⟨listing, full, listed, unlimited, ids, by rw [items, limit, offset]⟩

theorem negative_offset_reported : ∃ listing, Resource.posts.list sampleDatabase
      (Members.texts [("page", "0"), ("limit", "2")]) = .ok listing ∧ listing.offset < 0 := by
  have answer : (Resource.posts.list sampleDatabase
      (Members.texts [("page", "0"), ("limit", "2")])).toOption.map Listing.offset =
        some (-2) := by
    decide +kernel
  obtain ⟨listing, listed, offset⟩ := toOption_map_eq_some_iff.mp answer
  exact ⟨listing, listed, by omega⟩

end QueryDesk
