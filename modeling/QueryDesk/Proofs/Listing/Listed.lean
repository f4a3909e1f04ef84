import QueryDesk.Proofs.Listing.Offered
import QueryDesk.Proofs.Steps

/-!
# What a listing is made of

A request that is answered with a listing has come through three steps: its parameters compile to a
specification, the specification is planned, and neither the plan nor its page has a fault. The
tokens of the specification are those of fields that the resource offers.
-/

namespace QueryDesk

/-- Parameters compile to a specification, step by step. -/
structure Compiles (params : Members) (r : Resource) (spec : QuerySpec) (search filters : Members) :
    Prop where
  paged : Pagination.resolve (param params "page") (param params "limit") (param params "offset") =
    .ok spec.pagination
  searched : Search.predicate (param params "search") r.config r.format = .ok search
  ordered : Sort.order (param params "sort") r.config r.format = .ok spec.order
  filtered : Filter.predicate params r.config r.format = .ok filters
  merged : spec.predicate = Contribution.merged [⟨"search", search⟩, ⟨"filter", filters⟩]

theorem compileQuery_eq_ok_iff {params : Members} {r : Resource} {compiled : CompiledQuery} :
    compileQuery params r.config r.format = .ok compiled ↔
      ∃ search filters, Compiles params r compiled.spec search filters ∧
        compiled.log = Contribution.log [⟨"search", search⟩, ⟨"filter", filters⟩] := by
  simp only [compileQuery, bind_eq_ok_iff]
  constructor
  · rintro ⟨page, paged, search, searched, order, ordered, filters, filtered, done⟩
    cases done
    exact ⟨search, filters, ⟨paged, searched, ordered, filtered, rfl⟩, rfl⟩
  · obtain ⟨⟨pagination, order, predicate⟩, log⟩ := compiled
    rintro ⟨search, filters, ⟨paged, searched, ordered, filtered, same⟩, logged⟩
    refine ⟨pagination, paged, search, searched, order, ordered, filters, filtered, ?_⟩
    cases same
    cases logged
    rfl

/-- A specification is planned and run as a listing. -/
structure Runs (r : Resource) (db : Database) (spec : QuerySpec) (plan : Plan) (listing : Listing) :
    Prop where
  planned : Plan.ofSpec r.entity spec = .ok plan
  counts : plan.fault? = none
  runs : (plan.paginate spec.pagination).fault? = none
  listing : listing = ⟨(plan.paginate spec.pagination).run db, (plan.selected db).length,
    spec.pagination.limit, spec.pagination.offset⟩

theorem count_eq_ok_iff {plan : Plan} {db : Database} {total : Nat} :
    plan.count db = .ok total ↔ plan.fault? = none ∧ (plan.selected db).length = total := by
  unfold Plan.count
  cases plan.fault? <;> simp

theorem execute_eq_ok_iff {plan : Plan} {db : Database} {items : List Row} :
    plan.execute db = .ok items ↔ plan.fault? = none ∧ plan.run db = items := by
  unfold Plan.execute
  cases plan.fault? <;> simp

theorem listSpec_eq_ok_iff {r : Resource} {db : Database} {spec : QuerySpec} {listing : Listing} :
    r.listSpec db spec = .ok listing ↔ ∃ plan, Runs r db spec plan listing := by
  simp only [Resource.listSpec, bind_eq_ok_iff, mapError_eq_ok_iff, count_eq_ok_iff,
    execute_eq_ok_iff]
  constructor
  · rintro ⟨plan, planned, total, ⟨counts, rfl⟩, items, ⟨runs, rfl⟩, done⟩
    cases done
    exact ⟨plan, planned, counts, runs, rfl⟩
  · rintro ⟨plan, planned, counts, runs, rfl⟩
    exact ⟨plan, planned, _, ⟨counts, rfl⟩, _, ⟨runs, rfl⟩, rfl⟩

/-- A listing is what a specification runs as that the parameters compile to. -/
theorem list_eq_ok_iff {r : Resource} {db : Database} {params : Members} {listing : Listing} :
    r.list db params = .ok listing ↔ ∃ spec search filters plan,
      Compiles params r spec search filters ∧ Runs r db spec plan listing := by
  simp only [Resource.list, bind_eq_ok_iff, mapError_eq_ok_iff, compileQuery_eq_ok_iff,
    listSpec_eq_ok_iff]
  constructor
  · rintro ⟨⟨spec, log⟩, ⟨search, filters, compiles, -⟩, plan, runs⟩
    exact ⟨spec, search, filters, plan, compiles, runs⟩
  · rintro ⟨spec, search, filters, plan, compiles, runs⟩
    exact ⟨⟨spec, _⟩, ⟨search, filters, compiles, rfl⟩, plan, runs⟩

/-! ## Texts as parameters -/

theorem Members.get?_texts (params : List (String × String)) (key : String) :
    (texts params).get? key = (params.lookup key).map .text := by
  induction params with
  | nil => rfl
  | cons param rest ih =>
    obtain ⟨other, text⟩ := param
    have head : texts ((other, text) :: rest) = (other, .text text) :: texts rest := rfl
    rw [head, get?_cons, ih, List.lookup_cons]
    by_cases same : key = other
    · simp [same]
    · have differs : (key == other) = false := by simpa using same
      simp [same, differs]

/-- While keys are distinct, a mapping of texts has under a key what it pairs with it. -/
theorem lookup_eq_some_iff {params : List (String × String)} (distinct : (params.map Prod.fst).Nodup)
    {key text : String} : params.lookup key = some text ↔ (key, text) ∈ params := by
  have keys_texts : (Members.texts params).keys = params.map Prod.fst := by
    simp [Members.texts, Members.keys, Function.comp_def]
  have held : (key, Value.text text) ∈ Members.texts params ↔
      (Members.texts params).get? key = some (.text text) :=
    Members.mem_iff_get? (keys_texts ▸ distinct)
  rw [Members.get?_texts, Option.map_eq_some_iff] at held
  constructor
  · intro found
    obtain ⟨p, mem, same⟩ := List.mem_map.mp (held.mpr ⟨text, found, rfl⟩)
    cases same
    exact mem
  · intro mem
    obtain ⟨text', found, same⟩ := held.mp (List.mem_map.mpr ⟨(key, text), mem, rfl⟩)
    cases same
    exact found

/-- The text of a parameter, empty if it is absent. -/
def textOf (params : List (String × String)) (key : String) : String :=
  (params.lookup key).getD ""

/-- The search for a text asks each search field for its pattern, if there is anything to ask. -/
theorem searchPredicate_texts {params : List (String × String)} {config : ResourceConfig}
    {format : FieldPath.Format} {search : Members}
    (searched : Search.predicate (param (Members.texts params) "search") config format =
      .ok search) :
    search = if textOf params "search" = "" ∨ config.searchFields = [] then []
      else [(config.searchCombinator.key,
        .list (Search.clauses config format (Search.pattern (textOf params "search"))))] := by
  rw [param, Members.get?_texts] at searched
  unfold textOf
  cases found : params.lookup "search" with
  | none =>
    rw [found] at searched
    cases searched
    rw [Option.getD_none, if_pos (.inl rfl)]
  | some text =>
    rw [found] at searched
    simp only [Option.map_some, Option.getD_some, Search.predicate, Value.isTruthy, Value.text?,
      Bool.not_not, Bool.or_eq_true, String.isEmpty_iff, List.isEmpty_iff] at searched ⊢
    split at searched
    · rename_i nothing
      cases searched
      rw [if_pos nothing]
    · rename_i something
      cases searched
      rw [if_neg something]

namespace Plan

/-! ## Tokens of specifications -/

theorem clauseTokens_map {α : Type} (clauseOf : α → Members) (xs : List α) :
    clauseTokens (xs.map fun x => .object (clauseOf x)) =
      xs.flatMap fun x => predicateTokens (clauseOf x) := by
  induction xs with
  | nil => rfl
  | cons x rest ih => rw [List.map_cons, clauseTokens, ih, List.flatMap_cons]

theorem mem_clauseTokens_single {α : Type} (tokenOf : α → String) {valueOf : α → Value}
    {xs : List α} (single : ∀ x ∈ xs, Combinator.ofKey? (tokenOf x) = none) {token : String} :
    token ∈ clauseTokens (xs.map fun x => .object [(tokenOf x, valueOf x)]) ↔
      ∃ x ∈ xs, tokenOf x = token := by
  rw [clauseTokens_map (fun x => [(tokenOf x, valueOf x)]), List.mem_flatMap]
  refine exists_congr fun x => and_congr_right fun mem => ?_
  rw [predicateTokens, predicateTokens, List.append_nil, entryTokens_of_single (single x mem),
    List.mem_singleton, eq_comm]

theorem token_of_filters {format : FieldPath.Format} {fs : List (String × String)}
    {predicate : Members} (collects : Filter.Collects format fs predicate) {key token : String}
    {v : Value} (holds : predicate.get? key = some v) (follows : token ∈ entryTokens key v) :
    ∃ f ∈ fs, token = format f.1 := by
  have single : ∀ f ∈ fs, Combinator.ofKey? (format f.1) = none :=
    fun f mem => ofKey?_of_apart (collects.apart f mem)
  rcases collects.only key v holds with ⟨combinator, rfl⟩ | ⟨f, mem, rfl, -⟩
  · rw [collects.groups] at holds
    split at holds
    · cases holds
    · cases holds
      rw [entryTokens_group, pooled_eq, mem_clauseTokens_single] at follows
      · obtain ⟨⟨field, operand⟩, inPairs, rfl⟩ := follows
        obtain ⟨f, from_fs, rfl, -⟩ := mem_pairs.mp inPairs
        exact ⟨f, from_fs, rfl⟩
      · rintro ⟨field, operand⟩ inPairs
        obtain ⟨f, from_fs, rfl, -⟩ := mem_pairs.mp inPairs
        exact single f from_fs
  · rw [entryTokens_of_single (single f mem), List.mem_singleton] at follows
    exact ⟨f, mem, follows⟩

theorem mem_searchTokens {r : Resource} (offered : Offered r) {pattern token : String} :
    token ∈ clauseTokens (Search.clauses r.config r.format pattern) ↔
      ∃ field ∈ r.config.searchFields, r.format field = token := by
  refine mem_clauseTokens_single r.format fun field mem => offered.single field ?_
  exact List.mem_append_left _ (List.mem_append_left _ mem)

end Plan

theorem Sort.token_of_order {sort : Value} {config : ResourceConfig} {format : FieldPath.Format}
    {order : List OrderClause} (ordered : Sort.order sort config format = .ok order)
    {clause : OrderClause} (mem : clause ∈ order) :
    ∃ field ∈ config.sortFields, clause.field = format field := by
  unfold Sort.order at ordered
  split at ordered
  · cases ordered
    cases mem
  · split at ordered
    · cases ordered
      obtain ⟨token, sorts, rfl⟩ := List.mem_map.mp mem
      refine ⟨Sort.key token, ?_, rfl⟩
      simpa using (List.mem_filter.mp sorts).2
    · cases ordered

namespace Compiles

variable {params : List (String × String)} {r : Resource} {spec : QuerySpec}
  {search filters : Members}

theorem collects (offered : Offered r) (distinct : (params.map Prod.fst).Nodup)
    (compiles : Compiles (Members.texts params) r spec search filters) :
    Filter.Collects r.format (Filter.filters r.config params) filters := by
  have injective : Function.Injective r.format := by
    rw [offered.format]
    exact FieldPath.token_injective
  have apart : ∀ field ∈ r.config.filterFields, ∀ combinator : Combinator,
      r.format field ≠ combinator.key :=
    fun field mem => offered.apart (List.mem_append_right _ mem)
  obtain ⟨predicate, filtered, collected⟩ :=
    Filter.predicate_collects injective apart distinct
  rw [compiles.filtered] at filtered
  cases filtered
  exact collected

/-- A search says at most something about all of its clauses. -/
theorem searches (offered : Offered r)
    (compiles : Compiles (Members.texts params) r spec search filters) :
    search = [] ∨ search = [(Combinator.all.key,
      .list (Search.clauses r.config r.format (Search.pattern (textOf params "search"))))] := by
  rw [searchPredicate_texts compiles.searched, offered.searchesAll]
  split
  · exact .inl rfl
  · exact .inr rfl

theorem tokens (offered : Offered r) (distinct : (params.map Prod.fst).Nodup)
    (compiles : Compiles (Members.texts params) r spec search filters) :
    ∀ token ∈ Plan.specTokens spec, ∃ field ∈ r.fields, r.format field = token := by
  intro token mem
  have collects := compiles.collects offered distinct
  have searches := compiles.searches offered
  rcases List.mem_append.mp mem with inPredicate | inOrder
  · obtain ⟨key, v, entry, follows⟩ := Plan.mem_predicateTokens.mp inPredicate
    have distinct_search : search.keys.Nodup :=
      Members.nodup_keys_of_single (searches.imp_right fun only => ⟨_, only⟩)
    rw [compiles.merged, Members.mem_iff_get? (Contribution.nodup_keys_merged ..),
      Contribution.get?_merged "search" "filter" distinct_search collects.distinct,
      Option.or_eq_some_iff] at entry
    rcases entry with holds | ⟨-, holds⟩
    · obtain ⟨⟨field, value⟩, from_fs, rfl⟩ := Plan.token_of_filters collects holds follows
      exact ⟨field, List.mem_append_right _ (Filter.mem_filters.mp from_fs).1, rfl⟩
    · rcases searches with rfl | rfl
      · cases holds
      · cases List.mem_singleton.mp (Members.mem_of_get? holds)
        rw [Plan.entryTokens_group, Plan.mem_searchTokens offered] at follows
        obtain ⟨field, mem, same⟩ := follows
        exact ⟨field, List.mem_append_left _ (List.mem_append_left _ mem), same⟩
  · obtain ⟨clause, sorts, rfl⟩ := List.mem_map.mp inOrder
    obtain ⟨field, mem, same⟩ := Sort.token_of_order compiles.ordered sorts
    exact ⟨field, List.mem_append_left _ (List.mem_append_right _ mem), same.symm⟩

theorem near (offered : Offered r) (distinct : (params.map Prod.fst).Nodup)
    (compiles : Compiles (Members.texts params) r spec search filters) :
    ∀ token ∈ Plan.specTokens spec, Plan.Near r.entity token := by
  intro token mem
  obtain ⟨field, reachable, rfl⟩ := compiles.tokens offered distinct token mem
  exact Plan.near_of_isNear (offered.near field reachable)

end Compiles

end QueryDesk
