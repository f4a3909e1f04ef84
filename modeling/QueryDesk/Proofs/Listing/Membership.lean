import QueryDesk.Proofs.Listing.Listed
import QueryDesk.Proofs.Store.Given

/-!
# Which rows are listed

A listing without limit gives exactly the rows that meet what its parameters ask: each comparison,
all requirements, one of the alternatives, and the search unless requirements took its place. A row
meets a condition only if it is true; where a null makes it neither true nor false, it does not.
-/

namespace QueryDesk

/-- A parameter asks something of a field that may be filtered on. -/
def Asks (r : Resource) (params : List (String × String)) (field value : String) : Prop :=
  field ∈ r.config.filterFields ∧ (Filter.mark ++ field, value) ∈ params

/-- It is true that a relation holds between what a field names and what a text stands for. -/
def Compares (r : Resource) (db : Database) (row : Row) (field : String) (relation : Relation)
    (text : String) : Prop :=
  ∃ column, fieldColumn? r.entity field = some column ∧
    Plan.relationTruth relation column (Plan.cellAt db r.entity row column)
      (Operand.ofText text) = some true

/-- It is true that what a field names matches a pattern. -/
def Matches (r : Resource) (db : Database) (row : Row) (field pattern : String) : Prop :=
  ∃ column, fieldColumn? r.entity field = some column ∧
    Condition.likeTruth pattern (Plan.cellAt db r.entity row column) = some true

/-- A row meets all that parameters ask. -/
structure Meets (r : Resource) (db : Database) (params : List (String × String)) (row : Row) :
    Prop where
  compared : ∀ field value, Asks r params field value → '%' ∉ value.toList → '|' ∉ value.toList →
    ∃ relation text, Filter.Says value relation text ∧ Compares r db row field relation text
  required : ∀ field value, Asks r params field value → '%' ∈ value.toList →
    ∀ part ∈ Text.split '%' value, Compares r db row field .eq part
  alternative : (∃ field value, Asks r params field value ∧ '%' ∉ value.toList ∧
      '|' ∈ value.toList) →
    ∃ field value, Asks r params field value ∧ ('%' ∉ value.toList ∧ '|' ∈ value.toList) ∧
      ∃ part ∈ Text.split '|' value, Compares r db row field .eq part
  searched : ∀ text, ("search", text) ∈ params → text ≠ "" →
    (∀ field value, Asks r params field value → '%' ∉ value.toList) →
    ∀ field ∈ r.config.searchFields, Matches r db row field (Search.pattern text)

variable {r : Resource} {db : Database} {params : List (String × String)} {row : Row}

theorem holds_iff_compares (offered : Offered r) {field : String} (mem : field ∈ r.fields)
    {relation : Relation} {text : String} :
    Plan.Holds (Plan.cellAt db r.entity row) r.entity (r.format field) relation text ↔
      Compares r db row field relation text := by
  obtain ⟨same, -⟩ := Plan.column?_of_isNear (offered.near field mem)
  rw [Plan.Holds, Plan.tokenTruth, same, Compares]
  cases fieldColumn? r.entity field <;> simp

theorem mem_fields_of_filters {f : String × String}
    (mem : f ∈ Filter.filters r.config params) : f.1 ∈ r.fields :=
  List.mem_append_right _ (Filter.mem_filters.mp mem).1

theorem lead_filters (offered : Offered r) :
    Plan.Lead r.entity r.format (Filter.filters r.config params) := by
  intro f mem
  exact (Plan.column?_of_isNear (offered.near f.1 (mem_fields_of_filters mem))).2

/-- The truth that a pattern has of what a field names. -/
def matchTruth (r : Resource) (db : Database) (row : Row) (pattern field : String) : Truth :=
  (fieldColumn? r.entity field).elim (some false) fun column =>
    Condition.likeTruth pattern (Plan.cellAt db r.entity row column)

theorem matches_iff {field pattern : String} :
    Matches r db row field pattern ↔ matchTruth r db row pattern field = some true := by
  unfold Matches matchTruth
  cases fieldColumn? r.entity field <;> simp

theorem allTrue_search (offered : Offered r) (pattern : String) :
    Plan.AllTrue (Plan.predicateTruths (Plan.cellAt db r.entity row) r.entity
        [(Combinator.all.key, .list (Search.clauses r.config r.format pattern))]) ↔
      ∀ field ∈ r.config.searchFields, Matches r db row field pattern := by
  have truths : ∀ field ∈ r.config.searchFields,
      Plan.predicateTruths (Plan.cellAt db r.entity row) r.entity
          [(r.format field, .object [(Search.patternKey, .text pattern)])] =
        [matchTruth r db row pattern field] := by
    intro field mem
    have reachable : field ∈ r.fields :=
      List.mem_append_left _ (List.mem_append_left _ mem)
    obtain ⟨same, leads⟩ := Plan.column?_of_isNear (offered.near field reachable)
    obtain ⟨column, leads⟩ := Option.isSome_iff_exists.mp leads
    rw [Plan.predicateTruths_pattern leads (offered.single field reachable), matchTruth, ← same,
      leads]
    rfl
  rw [Search.clauses, Plan.predicateTruths_group truths, Plan.allTrue_group_all, Plan.AllTrue]
  simp only [List.forall_mem_map, matches_iff]

/-- The demands of the filters are what the row is to meet but for the search. -/
theorem demands_iff (offered : Offered r) :
    Plan.Demands (Plan.cellAt db r.entity row) r.entity r.format
        (Filter.filters r.config params) ∧
      (∀ text, ("search", text) ∈ params → text ≠ "" →
        (∀ f ∈ Filter.filters r.config params, '%' ∉ f.2.toList) →
        ∀ field ∈ r.config.searchFields, Matches r db row field (Search.pattern text)) ↔
      Meets r db params row := by
  have compares : ∀ {f : String × String}, f ∈ Filter.filters r.config params →
      ∀ {relation text}, Plan.Holds (Plan.cellAt db r.entity row) r.entity (r.format f.1)
        relation text ↔ Compares r db row f.1 relation text := by
    intro f mem relation text
    exact holds_iff_compares offered (mem_fields_of_filters mem)
  constructor
  · rintro ⟨demands, searched⟩
    refine ⟨?_, ?_, ?_, ?_⟩
    · intro field value asks noPercent noBar
      have mem := Filter.mem_filters.mpr asks
      obtain ⟨relation, text, said, holds⟩ := demands.compared _ mem noPercent noBar
      exact ⟨relation, text, said, (compares mem).mp holds⟩
    · intro field value asks percent part isPart
      have mem := Filter.mem_filters.mpr asks
      exact (compares mem).mp (demands.required _ mem percent part isPart)
    · rintro ⟨field, value, asks, bar⟩
      obtain ⟨f, mem, bar', part, isPart, holds⟩ :=
        demands.alternative ⟨_, Filter.mem_filters.mpr asks, bar⟩
      exact ⟨f.1, f.2, Filter.mem_filters.mp mem, bar', part, isPart, (compares mem).mp holds⟩
    · intro text given nonempty noPercent
      exact searched text given nonempty fun f mem =>
        noPercent f.1 f.2 (Filter.mem_filters.mp mem)
  · intro meets
    refine ⟨⟨?_, ?_, ?_⟩, ?_⟩
    · intro f mem noPercent noBar
      obtain ⟨relation, text, said, holds⟩ :=
        meets.compared f.1 f.2 (Filter.mem_filters.mp mem) noPercent noBar
      exact ⟨relation, text, said, (compares mem).mpr holds⟩
    · intro f mem percent part isPart
      exact (compares mem).mpr
        (meets.required f.1 f.2 (Filter.mem_filters.mp mem) percent part isPart)
    · rintro ⟨f, mem, bar⟩
      obtain ⟨field, value, asks, bar', part, isPart, holds⟩ :=
        meets.alternative ⟨f.1, f.2, Filter.mem_filters.mp mem, bar⟩
      have mem' := Filter.mem_filters.mpr asks
      exact ⟨_, mem', bar', part, isPart, (compares mem').mpr holds⟩
    · intro text given nonempty noPercent
      exact meets.searched text given nonempty fun field value asks =>
        noPercent _ (Filter.mem_filters.mpr asks)

variable {spec : QuerySpec} {search filters : Members} {plan : Plan}

theorem allTrue_searched (offered : Offered r) (distinct : (params.map Prod.fst).Nodup)
    (compiles : Compiles (Members.texts params) r spec search filters) :
    Plan.AllTrue (Plan.predicateTruths (Plan.cellAt db r.entity row) r.entity search) ↔
      ∀ text, ("search", text) ∈ params → text ≠ "" →
        ∀ field ∈ r.config.searchFields, Matches r db row field (Search.pattern text) := by
  have entries := searchPredicate_texts compiles.searched
  rw [offered.searchesAll] at entries
  have asked : ∀ {text}, ("search", text) ∈ params → textOf params "search" = text := by
    intro text given
    rw [textOf, (lookup_eq_some_iff distinct).mpr given]
    rfl
  split at entries
  · rename_i nothing
    rw [entries]
    constructor
    · intro _ text given nonempty field mem
      rcases nothing with empty | none
      · exact absurd ((asked given).symm.trans empty) nonempty
      · rw [none] at mem
        cases mem
    · intro _ t mem
      cases mem
  · rename_i something
    rw [not_or] at something
    rw [entries, allTrue_search offered]
    constructor
    · intro every text given _
      rw [← asked given]
      exact every
    · intro every
      have given : ("search", textOf params "search") ∈ params := by
        rw [← lookup_eq_some_iff distinct]
        cases found : params.lookup "search" with
        | none => exact absurd (by rw [textOf, found]; rfl) something.1
        | some text => rw [textOf, found]; rfl
      exact every _ given something.1

/-- A plan accepts a row just if all truths of its predicate are true on the cells of the row and
    its author. -/
theorem Plan.Planned.accepts_seen_iff {root : Entity} (planned : Plan.Planned root spec plan)
    (near : ∀ token ∈ Plan.specTokens spec, Plan.Near root token) :
    plan.accepts (plan.seen db row) = true ↔
      Plan.AllTrue (Plan.predicateTruths (Plan.cellAt db root row) root spec.predicate) := by
  have truths : Plan.predicateTruths (plan.seen db row).cell root spec.predicate =
      Plan.predicateTruths (Plan.cellAt db root row) root spec.predicate := by
    rw [Plan.seen, planned.entity]
    exact Plan.predicateTruths_congr _
      ((planned.agree near db row).mono fun _ => List.mem_append_left _)
  rw [planned.accepts_iff, truths]
  rfl

/-- A plan accepts a row just if the row meets what the parameters ask. -/
theorem accepts_iff_meets (offered : Offered r) (distinct : (params.map Prod.fst).Nodup)
    (compiles : Compiles (Members.texts params) r spec search filters)
    (planned : Plan.Planned r.entity spec plan) :
    plan.accepts (plan.seen db row) = true ↔ Meets r db params row := by
  have collects := compiles.collects offered distinct
  have searches : search = [] ∨ ∃ v, search = [(Combinator.all.key, v)] :=
    (compiles.searches offered).imp_right fun same => ⟨_, same⟩
  have merged := Plan.allTrue_merged_iff (Plan.cellAt db r.entity row) collects
    (lead_filters offered) searches
  rw [planned.accepts_seen_iff (compiles.near offered distinct), compiles.merged,
    ← demands_iff offered]
  refine merged.trans (and_congr_right fun _ => ?_)
  rw [allTrue_searched offered distinct compiles]
  exact ⟨fun every text given nonempty noPercent => every noPercent text given nonempty,
    fun every noPercent text given nonempty => every text given nonempty noPercent⟩

/-- The limit `-1` asks for all rows. -/
theorem Compiles.unlimited (distinct : (params.map Prod.fst).Nodup)
    (compiles : Compiles (Members.texts params) r spec search filters)
    (unlimited : ("limit", "-1") ∈ params) : spec.pagination = {} := by
  have paged := compiles.paged
  have limit : param (Members.texts params) "limit" = .text "-1" := by
    rw [param, Members.get?_texts, (lookup_eq_some_iff distinct).mpr unlimited]
    rfl
  rw [limit] at paged
  exact (Except.ok.inj paged).symm

/-- An unlimited listing has the rows that its plan gives, all of them. -/
theorem exists_plan_of_unlimited (offered : Offered r) (keyed : db.Keyed)
    (distinct : (params.map Prod.fst).Nodup) (unlimited : ("limit", "-1") ∈ params)
    {listing : Listing} (listed : r.list db (Members.texts params) = .ok listing) :
    ∃ spec search filters plan, Compiles (Members.texts params) r spec search filters ∧
      Runs r db spec plan listing ∧ Plan.Planned r.entity spec plan ∧ Plan.Reads plan r.entity ∧
      listing.items = plan.ordered db := by
  obtain ⟨spec, search, filters, plan, compiles, runs⟩ := list_eq_ok_iff.mp listed
  have planned := Plan.ofSpec_planned runs.planned
  have reads := planned.reads (compiles.near offered distinct)
  refine ⟨spec, search, filters, plan, compiles, runs, planned, reads, ?_⟩
  rw [runs.listing, compiles.unlimited distinct unlimited]
  exact reads.run_unlimited keyed

/-- An unlimited list request that is answered lists exactly the rows of its entity that meet what
    its parameters ask. -/
theorem listed_iff_meets {r : Resource} (shipped : r = .users ∨ r = .posts) {db : Database}
    (keyed : db.Keyed) {params : List (String × String)} (distinct : (params.map Prod.fst).Nodup)
    (unlimited : ("limit", "-1") ∈ params) {listing : Listing}
    (listed : r.list db (Members.texts params) = .ok listing) (row : Row) :
    row ∈ listing.items ↔ row ∈ db.rows r.entity ∧ Meets r db params row := by
  have offered := offered_of_shipped shipped
  obtain ⟨spec, search, filters, plan, compiles, -, planned, -, items⟩ :=
    exists_plan_of_unlimited offered keyed distinct unlimited listed
  rw [items, Plan.mem_ordered, planned.entity]
  exact and_congr_right fun _ => accepts_iff_meets offered distinct compiles planned

/-- Two users and three posts, one of which has a body and one no author. -/
def sampleDatabase : Database :=
  let day : Moment := ⟨63902908800000000, none⟩
  { users := [
      { id := ⟨1⟩, fullName := "Ann", email := "ann@x", role := "admin", createdAt := day,
        updatedAt := day },
      { id := ⟨2⟩, fullName := "Bob", email := "bob@x", createdAt := day, updatedAt := day }],
    posts := [
      { id := ⟨1⟩, userId := ⟨2⟩, title := "hello", body := some "world", views := 3,
        createdAt := day, updatedAt := day },
      { id := ⟨2⟩, userId := ⟨1⟩, title := "old news", views := 5, createdAt := day,
        updatedAt := day },
      { id := ⟨3⟩, userId := ⟨7⟩, title := "orphan", views := 8, createdAt := day,
        updatedAt := day }] }

theorem sampleDatabase_keyed : sampleDatabase.Keyed := by
  intro e
  cases e <;> decide +kernel

theorem lists_posts_of_members :
    let params := [("limit", "-1"), ("search", "o"), ("f_views", ">2"),
      ("f_user.role", "member|editor")]
    ∃ listing, Resource.posts.list sampleDatabase (Members.texts params) = .ok listing ∧
      listing.items.map (·.id.value) = [1] ∧ ∀ row, row ∈ listing.items ↔
        row ∈ sampleDatabase.rows .post ∧ Meets .posts sampleDatabase params row := by
  intro params
  have answer : (Resource.posts.list sampleDatabase (Members.texts params)).toOption.map
      (fun listing => listing.items.map (·.id.value)) = some [1] := by
    decide +kernel
  cases listed : Resource.posts.list sampleDatabase (Members.texts params) with
  | error fault =>
    rw [listed] at answer
    cases answer
  | ok listing =>
    rw [listed] at answer
    exact ⟨listing, rfl, Option.some.inj answer, listed_iff_meets (.inr rfl) sampleDatabase_keyed
      (by decide) (by decide) listed⟩

end QueryDesk
