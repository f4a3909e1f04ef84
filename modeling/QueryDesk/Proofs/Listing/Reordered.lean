import QueryDesk.Proofs.Listing.Listed
import QueryDesk.Proofs.Plan.Rearranged

/-!
# The order of parameters

A list request looks at five reserved parameters and at the filters on allowed fields. The order in
which they stand does not matter, and neither does what other parameters there are: the
specification is the same up to the order of its entries and clauses, and so are its results.
-/

namespace QueryDesk

/-- A list request looks at the parameter. -/
def isRelevant (config : ResourceConfig) (p : String × String) : Bool :=
  Filter.reserved.contains p.1 || (Filter.field? config p.1).isSome

variable {config : ResourceConfig} {params params' : List (String × String)}

theorem lookup_of_relevant (distinct : (params.map Prod.fst).Nodup)
    (distinct' : (params'.map Prod.fst).Nodup)
    (same : (params.filter (isRelevant config)).Perm (params'.filter (isRelevant config)))
    {key : String} (isReserved : Filter.reserved.contains key = true) :
    params.lookup key = params'.lookup key := by
  ext text
  have relevant : isRelevant config (key, text) = true := by
    rw [isRelevant, isReserved, Bool.true_or]
  have mem_filter (ps : List (String × String)) :
      (key, text) ∈ ps ↔ (key, text) ∈ ps.filter (isRelevant config) := by
    rw [List.mem_filter, and_iff_left relevant]
  rw [lookup_eq_some_iff distinct, lookup_eq_some_iff distinct', mem_filter params,
    mem_filter params', same.mem_iff]

theorem filters_relevant (config : ResourceConfig) (params : List (String × String)) :
    Filter.filters config (params.filter (isRelevant config)) = Filter.filters config params := by
  rw [Filter.filters, Filter.filters, List.filterMap_filter]
  apply List.filterMap_congr
  intro p _
  cases allowed : Filter.field? config p.1 with
  | none => simp
  | some field => simp [isRelevant, allowed]

theorem filters_perm
    (same : (params.filter (isRelevant config)).Perm (params'.filter (isRelevant config))) :
    (Filter.filters config params).Perm (Filter.filters config params') := by
  rw [← filters_relevant, ← filters_relevant config params']
  exact same.filterMap _

/-! ## Filters in another order -/

namespace Filter

variable {format : FieldPath.Format} {fs fs' : List (String × String)}
  {predicate predicate' : Members}

theorem pooled_perm (combinator : Combinator) (same : fs.Perm fs') :
    (pooled format combinator fs).Perm (pooled format combinator fs') :=
  same.flatMap_right _

theorem Collects.get?_of_single (collects : Collects format fs predicate)
    (collects' : Collects format fs' predicate') (same : fs.Perm fs') {key : String}
    (single : Combinator.ofKey? key = none) {v : Value} (held : predicate.get? key = some v) :
    predicate'.get? key = some v := by
  rcases collects.only key v held with ⟨combinator, rfl⟩ | ⟨f, mem, rfl, said⟩
  · rw [Plan.ofKey?_key] at single
    cases single
  · exact collects'.single f (same.mem_iff.mp mem) v said

theorem Collects.get?_eq (collects : Collects format fs predicate)
    (collects' : Collects format fs' predicate') (same : fs.Perm fs') {key : String}
    (single : Combinator.ofKey? key = none) : predicate.get? key = predicate'.get? key := by
  ext v
  exact ⟨collects.get?_of_single collects' same single,
    collects'.get?_of_single collects same.symm single⟩

end Filter

/-! ## Texts compile -/

/-- A parameter of a text that may be absent. -/
def ofText? (text? : Option String) : Value :=
  (text?.map .text).getD .null

theorem param_texts (params : List (String × String)) (key : String) :
    param (Members.texts params) key = ofText? (params.lookup key) := by
  rw [param, Members.get?_texts, ofText?]

namespace Pagination

theorem paramIntOr_isOk (default : Int) (text? : Option String) :
    ∃ n?, paramIntOr default (ofText? text?) = .ok n? := by
  cases text? with
  | none => exact ⟨_, rfl⟩
  | some text => exact ⟨_, rfl⟩

theorem resolve_isOk (page? limit? offset? : Option String) :
    ∃ p, resolve (ofText? page?) (ofText? limit?) (ofText? offset?) = .ok p := by
  have limits : ∃ n?, limitOf (ofText? limit?) = .ok n? := by
    unfold limitOf
    split
    · exact ⟨none, rfl⟩
    · exact paramIntOr_isOk _ limit?
  have given : ∃ b, isGiven (ofText? offset?) = .ok b := by
    cases offset? <;> exact ⟨_, rfl⟩
  have offsets : ∃ n?, paramInt (ofText? offset?) = .ok n? := by
    cases offset? <;> exact ⟨_, rfl⟩
  obtain ⟨limit?, limited⟩ := limits
  obtain ⟨present, given⟩ := given
  obtain ⟨offset, offsets⟩ := offsets
  obtain ⟨page, pages⟩ := paramIntOr_isOk defaultPage page?
  simp only [resolve, limited, given, offsets, pages, bind, Except.bind]
  cases limit? with
  | none => exact ⟨_, rfl⟩
  | some limit => cases present <;> cases page <;> exact ⟨_, rfl⟩

end Pagination

theorem searchPredicate_isOk (text? : Option String) (config : ResourceConfig)
    (format : FieldPath.Format) :
    ∃ search, Search.predicate (ofText? text?) config format = .ok search := by
  unfold Search.predicate
  split
  · exact ⟨_, rfl⟩
  · cases text? with
    | none => simp_all [ofText?, Value.isTruthy]
    | some text => exact ⟨_, rfl⟩

theorem sortOrder_isOk (text? : Option String) (config : ResourceConfig)
    (format : FieldPath.Format) :
    ∃ order, Sort.order (ofText? text?) config format = .ok order := by
  unfold Sort.order
  split
  · exact ⟨_, rfl⟩
  · cases text? with
    | none => simp_all [ofText?, Value.isTruthy]
    | some text => exact ⟨_, rfl⟩

theorem token_ne_key (apart : ∀ combinator : Combinator, combinator.key ∉ config.filterFields) :
    ∀ field ∈ config.filterFields, ∀ combinator : Combinator,
      FieldPath.token field ≠ combinator.key := by
  intro field mem combinator same
  have undotted : (FieldPath.token field).toList.contains '.' = false := by
    rw [same]
    cases combinator <;> rfl
  rw [FieldPath.contains_token] at undotted
  have unwrapped : FieldPath.token field = field := by rw [FieldPath.token, undotted]; rfl
  exact apart combinator (same ▸ unwrapped.symm ▸ mem)

/-- Texts compile, while no group key is an allowed field. -/
theorem compileQuery_texts (e : Entity)
    (apart : ∀ combinator : Combinator, combinator.key ∉ config.filterFields)
    (distinct : (params.map Prod.fst).Nodup) :
    ∃ compiled search filters, compileQuery (Members.texts params) config = .ok compiled ∧
      Compiles (Members.texts params) ⟨e, config, FieldPath.token⟩ compiled.spec search filters ∧
      Filter.Collects FieldPath.token (Filter.filters config params) filters := by
  obtain ⟨pagination, paged⟩ := Pagination.resolve_isOk (params.lookup "page")
    (params.lookup "limit") (params.lookup "offset")
  obtain ⟨search, searched⟩ :=
    searchPredicate_isOk (params.lookup "search") config FieldPath.token
  obtain ⟨order, ordered⟩ := sortOrder_isOk (params.lookup "sort") config FieldPath.token
  obtain ⟨filters, filtered, collects⟩ := Filter.predicate_collects FieldPath.token_injective
    (token_ne_key apart) distinct
  simp only [← param_texts] at paged searched ordered
  have compiles : Compiles (Members.texts params) ⟨e, config, FieldPath.token⟩
      ⟨pagination, order, Contribution.merged [⟨"search", search⟩, ⟨"filter", filters⟩]⟩ search
      filters := ⟨paged, searched, ordered, filtered, rfl⟩
  have compiled : compileQuery (Members.texts params) config = .ok
      ⟨⟨pagination, order, Contribution.merged [⟨"search", search⟩, ⟨"filter", filters⟩]⟩,
        Contribution.log [⟨"search", search⟩, ⟨"filter", filters⟩]⟩ :=
    (compileQuery_eq_ok_iff (r := ⟨e, config, FieldPath.token⟩)).mpr
      ⟨search, filters, compiles, rfl⟩
  exact ⟨_, search, filters, compiled, compiles, collects⟩

/-! ## Parameters in another order -/

theorem search_cases {r : Resource} {spec : QuerySpec} {search filters : Members}
    (compiles : Compiles (Members.texts params) r spec search filters) :
    search = [] ∨ ∃ items, search = [(r.config.searchCombinator.key, .list items)] := by
  rw [searchPredicate_texts compiles.searched]
  split
  · exact .inl rfl
  · exact .inr ⟨_, rfl⟩

theorem predicate_rearranged {r : Resource} {search filters filters' : Members}
    {fs fs' : List (String × String)} (same : fs.Perm fs')
    (shape : search = [] ∨ ∃ items, search = [(r.config.searchCombinator.key, .list items)])
    (collects : Filter.Collects r.format fs filters)
    (collects' : Filter.Collects r.format fs' filters') :
    Rearranged (Contribution.merged [⟨"search", search⟩, ⟨"filter", filters⟩])
      (Contribution.merged [⟨"search", search⟩, ⟨"filter", filters'⟩]) := by
  have distinct : search.keys.Nodup :=
    Members.nodup_keys_of_single (shape.imp_right fun ⟨_, only⟩ => ⟨_, only⟩)
  refine .of_get? (Contribution.nodup_keys_merged ..) (Contribution.nodup_keys_merged ..) ?_ ?_
  · intro key single
    rw [Contribution.get?_merged _ _ distinct collects.distinct,
      Contribution.get?_merged _ _ distinct collects'.distinct,
      collects.get?_eq collects' same single]
  · intro combinator
    have pools : (Filter.pooled r.format combinator fs).Perm
        (Filter.pooled r.format combinator fs') := Filter.pooled_perm combinator same
    rw [Contribution.get?_merged _ _ distinct collects.distinct,
      Contribution.get?_merged _ _ distinct collects'.distinct, collects.groups, collects'.groups,
      ← pools.isEmpty_eq]
    split
    · simp only [Option.none_or]
      cases held : search.get? combinator.key with
      | none => exact .inl ⟨rfl, rfl⟩
      | some v =>
        rcases shape with rfl | ⟨items, rfl⟩
        · cases held
        · obtain ⟨-, rfl⟩ := Prod.mk.inj (List.mem_singleton.mp (Members.mem_of_get? held))
          exact .inr ⟨items, items, rfl, rfl, .refl _⟩
    · exact .inr ⟨_, _, rfl, rfl, pools⟩

/-- Rearranged specifications with the same order and the same page are listed alike. -/
theorem listSpec_rearranged {r : Resource} {db : Database} {spec spec' : QuerySpec}
    (same : Rearranged spec.predicate spec'.predicate) (order : spec'.order = spec.order)
    (pagination : spec'.pagination = spec.pagination) {listing : Listing}
    (listed : r.listSpec db spec = .ok listing) : r.listSpec db spec' = .ok listing := by
  obtain ⟨plan, planned, counts, runs, rfl⟩ := listSpec_eq_ok_iff.mp listed
  obtain ⟨plan', planned', covered⟩ := Plan.ofSpec_rearranged same planned
  obtain ⟨again, planned'', covered'⟩ := Plan.ofSpec_rearranged same.symm planned'
  obtain rfl : plan = again := Except.ok.inj (planned.symm.trans planned'')
  obtain ⟨pages, sound, results⟩ := Plan.results_of_rearranged (Plan.ofSpec_planned planned)
    (Plan.ofSpec_planned planned') same order covered covered' counts
  obtain ⟨selected, run⟩ := results db
  refine listSpec_eq_ok_iff.mpr ⟨plan', planned', sound, ?_, ?_⟩
  · rw [pagination]
    exact pages _ runs
  · rw [pagination, selected, run]

/-- Filters on posts, some of them in groups. -/
def samplePosts : List (String × String) :=
  [("f_status", "draft|live"), ("sort", "-title"), ("f_views", ">3"), ("f_user.role", "a|b")]

/-- The same filters in another order, beside parameters that nothing looks at. -/
def samplePosts' : List (String × String) :=
  [("f_user.role", "a|b"), ("f_nope", "1"), ("f_views", ">3"), ("status", "gone"),
    ("f_status", "draft|live"), ("sort", "-title")]

end QueryDesk
