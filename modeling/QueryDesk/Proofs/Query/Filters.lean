import Mathlib.Data.List.Nodup
import QueryDesk.Proofs.Query.Comparison
import QueryDesk.Proofs.Query.Members

/-!
# What filters collect

The parameters of a list request that filter on allowed fields are collected into one predicate.
`Collects` says what the predicate holds: the pooled members of all groups of a kind under its
group key, and each other clause under the token of its field. `predicate_collects` proves it for
every mapping of texts.
-/

namespace QueryDesk

/-- The parameters of texts. -/
def Members.texts (params : List (String × String)) : Members :=
  params.map fun p => (p.1, .text p.2)

namespace Filter

/-- The allowed fields among the parameters, with what is asked of them. -/
def filters (config : ResourceConfig) (params : List (String × String)) : List (String × String) :=
  params.filterMap fun p => (field? config p.1).map fun field => (field, p.2)

theorem field?_eq_some_iff {config : ResourceConfig} {key field : String} :
    field? config key = some field ↔ key = mark ++ field ∧ field ∈ config.filterFields := by
  have same_text : ∀ rest : List Char, key.toList = mark.toList ++ rest ↔
      key = mark ++ String.ofList rest := by
    intro rest
    rw [← String.toList_inj, String.toList_append, String.toList_ofList]
  simp only [field?, Option.bind_eq_some_iff, Text.isPrefixOf?_eq_some_iff, same_text]
  constructor
  · rintro ⟨rest, marked, allowed⟩
    split at allowed
    · rename_i listed
      cases allowed
      exact ⟨marked, by simpa using listed⟩
    · cases allowed
  · rintro ⟨marked, listed⟩
    refine ⟨field.toList, by rw [String.ofList_toList, marked], ?_⟩
    rw [String.ofList_toList, if_pos (by simpa using listed)]

theorem mem_filters {config : ResourceConfig} {params : List (String × String)}
    {field value : String} : (field, value) ∈ filters config params ↔
      field ∈ config.filterFields ∧ (mark ++ field, value) ∈ params := by
  simp only [filters, List.mem_filterMap, Option.map_eq_some_iff, field?_eq_some_iff, Prod.exists]
  constructor
  · rintro ⟨key, value', mem, field', ⟨rfl, listed⟩, same⟩
    cases same
    exact ⟨listed, mem⟩
  · rintro ⟨listed, mem⟩
    exact ⟨mark ++ field, value, mem, field, ⟨rfl, listed⟩, rfl⟩

theorem field?_of_reserved {config : ResourceConfig} {key : String}
    (isReserved : reserved.contains key = true) : field? config key = none := by
  have unmarked : ∀ key ∈ reserved, mark.toList.isPrefixOf? key.toList = none := by decide
  have mem : key ∈ reserved := by simpa using isReserved
  rw [field?, unmarked key mem]
  rfl

theorem step_text {config : ResourceConfig} {format : FieldPath.Format} {predicate : Members}
    {key value : String} : step config format predicate (key, .text value) =
      match field? config key with
      | none => .ok predicate
      | some field => add (format field) predicate (clause value) := by
  unfold step
  split
  · rename_i isReserved
    rw [field?_of_reserved isReserved]
  · rfl

/-- Only the filters matter to the predicate. -/
theorem foldlM_step_texts (config : ResourceConfig) (format : FieldPath.Format)
    (params : List (String × String)) (start : Members) :
    (Members.texts params).foldlM (step config format) start =
      (filters config params).foldlM (fun predicate f =>
        add (format f.1) predicate (clause f.2)) start := by
  induction params generalizing start with
  | nil => rfl
  | cons param rest ih =>
    obtain ⟨key, value⟩ := param
    have head : Members.texts ((key, value) :: rest) = (key, .text value) :: Members.texts rest :=
      rfl
    rw [head, List.foldlM_cons, step_text]
    cases allowed : field? config key with
    | none =>
      have same : filters config ((key, value) :: rest) = filters config rest := by
        simp [filters, allowed]
      rw [same]
      exact ih start
    | some field =>
      have more : filters config ((key, value) :: rest) =
          (field, value) :: filters config rest := by
        simp [filters, allowed]
      rw [more, List.foldlM_cons]
      simp only [ih]

theorem nodup_filters {config : ResourceConfig} {params : List (String × String)}
    (distinct : (params.map Prod.fst).Nodup) : ((filters config params).map Prod.fst).Nodup := by
  have fields : (filters config params).map Prod.fst =
      (params.map Prod.fst).filterMap (field? config) := by
    simp only [filters, List.map_filterMap, List.filterMap_map, Function.comp_def, Option.map_map]
    simp
  rw [fields]
  apply List.Nodup.filterMap _ distinct
  intro key other field one two
  rw [(field?_eq_some_iff.mp one).1, (field?_eq_some_iff.mp two).1]

/-! ## What the predicate holds -/

/-- What a value that is no group puts under the token of its field. -/
def leafValue? (value : String) : Option Value :=
  match clause value with
  | .group _ _ => none
  | .comparison operator operand => some (.object [(operator, operand)])
  | .equality operand => some operand

/-- The operands that a value gives to the group of a combinator. -/
def operandsOf (combinator : Combinator) (value : String) : List Value :=
  match clause value with
  | .group own operands => if own = combinator then operands else []
  | _ => []

/-- The members that a filter adds to the group of a combinator. -/
def leaves (format : FieldPath.Format) (combinator : Combinator) (f : String × String) :
    List Value :=
  (operandsOf combinator f.2).map fun operand => .object [(format f.1, operand)]

/-- The members that filters add to the group of a combinator. -/
def pooled (format : FieldPath.Format) (combinator : Combinator) (fs : List (String × String)) :
    List Value :=
  fs.flatMap (leaves format combinator)

theorem operands_ne_nil {value : String} {combinator : Combinator} {operands : List Value}
    (said : clause value = .group combinator operands) : operands ≠ [] := by
  simp only [clause] at said
  split at said
  · cases said
    simpa [Text.split] using Text.splitAt_ne_nil _ value.toList
  · split at said <;> cases said

theorem Combinator.key_injective {one two : Combinator} (same : one.key = two.key) :
    one = two := by
  cases one <;> cases two <;> first | rfl | (exfalso; revert same; decide)

/-- The predicate holds what the filters say: pooled groups, and single clauses by their tokens. -/
structure Collects (format : FieldPath.Format) (fs : List (String × String)) (predicate : Members) :
    Prop where
  /-- No field has the token of a group. -/
  apart : ∀ f ∈ fs, ∀ combinator : Combinator, format f.1 ≠ combinator.key
  distinct : predicate.keys.Nodup
  groups : ∀ combinator : Combinator, predicate.get? combinator.key =
    if (pooled format combinator fs).isEmpty then none
    else some (.list (pooled format combinator fs))
  single : ∀ f ∈ fs, ∀ v, leafValue? f.2 = some v → predicate.get? (format f.1) = some v
  only : ∀ key v, predicate.get? key = some v → (∃ combinator : Combinator, key = combinator.key) ∨
    ∃ f ∈ fs, key = format f.1 ∧ leafValue? f.2 = some v

variable {format : FieldPath.Format}

theorem Collects.nil : Collects format [] [] := by
  refine ⟨by simp, List.nodup_nil, fun combinator => rfl, by simp, fun key v holds => ?_⟩
  cases holds

theorem Collects.apart_snoc {fs : List (String × String)} {predicate : Members}
    (collects : Collects format fs predicate) {f : String × String}
    (apart : ∀ combinator : Combinator, format f.1 ≠ combinator.key) :
    ∀ g ∈ fs ++ [f], ∀ combinator : Combinator, format g.1 ≠ combinator.key := by
  intro g mem
  rcases List.mem_append.mp mem with earlier | last
  · exact collects.apart g earlier
  · obtain rfl := List.mem_singleton.mp last
    exact apart

theorem pooled_snoc (combinator : Combinator) (fs : List (String × String)) (f : String × String) :
    pooled format combinator (fs ++ [f]) =
      pooled format combinator fs ++ leaves format combinator f := by
  simp [pooled]

/-- A single clause is put under the token of its field, which holds nothing yet. -/
theorem Collects.add_leaf {fs : List (String × String)} {predicate : Members}
    (collects : Collects format fs predicate) {f : String × String}
    (fresh : ∀ g ∈ fs, format g.1 ≠ format f.1)
    (apart : ∀ combinator : Combinator, format f.1 ≠ combinator.key) {v : Value}
    (single : leafValue? f.2 = some v) :
    Collects format (fs ++ [f]) (predicate.set (format f.1) v) := by
  have none_pooled : ∀ combinator, leaves format combinator f = [] := by
    intro combinator
    unfold leafValue? at single
    unfold leaves operandsOf
    split at single
    · cases single
    · simp [*]
    · simp [*]
  constructor
  · exact collects.apart_snoc apart
  · exact Members.nodup_keys_set collects.distinct _ _
  · intro combinator
    rw [Members.get?_set_of_ne (apart combinator).symm, collects.groups, pooled_snoc, none_pooled,
      List.append_nil]
  · intro g mem v' single'
    rcases List.mem_append.mp mem with earlier | last
    · rw [Members.get?_set_of_ne (fresh g earlier)]
      exact collects.single g earlier v' single'
    · obtain rfl := List.mem_singleton.mp last
      rw [Members.get?_set_self, ← single, single']
  · intro key v' holds
    rw [Members.get?_set] at holds
    split at holds
    · rename_i same
      cases holds
      exact .inr ⟨f, by simp, same, single⟩
    · rcases collects.only key v' holds with group | ⟨g, mem, same, single'⟩
      · exact .inl group
      · exact .inr ⟨g, List.mem_append_left _ mem, same, single'⟩

/-- A group joins the pool of its combinator. -/
theorem Collects.add_group {fs : List (String × String)} {predicate : Members}
    (collects : Collects format fs predicate) {f : String × String}
    (apart : ∀ combinator : Combinator, format f.1 ≠ combinator.key) {own : Combinator}
    {operands : List Value} (said : clause f.2 = .group own operands) :
    Collects format (fs ++ [f])
      (predicate.set own.key (.list (pooled format own (fs ++ [f])))) := by
  have added : ∀ combinator, leaves format combinator f =
      if own = combinator then operands.map fun operand => .object [(format f.1, operand)]
      else [] := by
    intro combinator
    simp only [leaves, operandsOf, said]
    split <;> rfl
  have no_leaf : leafValue? f.2 = none := by simp [leafValue?, said]
  have some_pooled : (pooled format own (fs ++ [f])).isEmpty = false := by
    rw [pooled_snoc, added, if_pos rfl]
    have := operands_ne_nil said
    cases operands with
    | nil => exact absurd rfl this
    | cons operand rest => simp
  constructor
  · exact collects.apart_snoc apart
  · exact Members.nodup_keys_set collects.distinct _ _
  · intro combinator
    by_cases same : combinator = own
    · rw [same, Members.get?_set_self, some_pooled]
      rfl
    · have ne : combinator.key ≠ own.key := fun eq => same (Combinator.key_injective eq)
      rw [Members.get?_set_of_ne ne, collects.groups, pooled_snoc, added, if_neg (Ne.symm same),
        List.append_nil]
  · intro g mem v single
    rcases List.mem_append.mp mem with earlier | last
    · rw [Members.get?_set_of_ne (collects.apart g earlier own)]
      exact collects.single g earlier v single
    · obtain rfl := List.mem_singleton.mp last
      rw [no_leaf] at single
      cases single
  · intro key v holds
    rw [Members.get?_set] at holds
    split at holds
    · rename_i same
      exact .inl ⟨own, same⟩
    · rcases collects.only key v holds with group | ⟨g, mem, same, single⟩
      · exact .inl group
      · exact .inr ⟨g, List.mem_append_left _ mem, same, single⟩

/-- Adding a filter on a field of its own comes through, and the predicate holds what it says. -/
theorem Collects.add {fs : List (String × String)} {predicate : Members}
    (collects : Collects format fs predicate) {f : String × String}
    (fresh : ∀ g ∈ fs, format g.1 ≠ format f.1)
    (apart : ∀ combinator : Combinator, format f.1 ≠ combinator.key) :
    ∃ after, Filter.add (format f.1) predicate (clause f.2) = .ok after ∧
      Collects format (fs ++ [f]) after := by
  cases said : clause f.2 with
  | group own operands =>
    refine ⟨_, ?_, collects.add_group apart said⟩
    have added : leaves format own f =
        operands.map fun operand => .object [(format f.1, operand)] := by
      simp [leaves, operandsOf, said]
    rw [Filter.add, extend, collects.groups, pooled_snoc, added]
    cases empty : (pooled format own fs).isEmpty with
    | true =>
      rw [List.isEmpty_iff.mp empty]
      rfl
    | false => rfl
  | comparison operator operand =>
    exact ⟨_, rfl, collects.add_leaf fresh apart (by rw [leafValue?, said])⟩
  | equality operand =>
    exact ⟨_, rfl, collects.add_leaf fresh apart (by rw [leafValue?, said])⟩

theorem Collects.run {fs : List (String × String)} {start : Members}
    (collects : Collects format fs start) {more : List (String × String)}
    (distinct : ((fs ++ more).map fun f => format f.1).Nodup)
    (apart : ∀ f ∈ more, ∀ combinator : Combinator, format f.1 ≠ combinator.key) :
    ∃ predicate, more.foldlM (fun predicate f => Filter.add (format f.1) predicate (clause f.2))
        start = .ok predicate ∧ Collects format (fs ++ more) predicate := by
  induction more generalizing fs start with
  | nil => exact ⟨start, rfl, by rwa [List.append_nil]⟩
  | cons f more ih =>
    have fresh : ∀ g ∈ fs, format g.1 ≠ format f.1 := by
      rw [List.map_append, List.nodup_append] at distinct
      intro g mem
      exact distinct.2.2 _ (List.mem_map_of_mem mem) _ List.mem_cons_self
    -- The predicate so far holds what the filters before this one say.
    obtain ⟨next, added, collects'⟩ := collects.add fresh (apart f List.mem_cons_self)
    rw [List.append_cons] at distinct
    obtain ⟨predicate, ran, collected⟩ := ih collects' distinct
      fun g mem => apart g (List.mem_cons_of_mem f mem)
    refine ⟨predicate, ?_, by rwa [List.append_cons]⟩
    rw [List.foldlM_cons, added]
    exact ran

/-- The filters of a mapping of texts are collected without fault, when tokens of fields differ from
    each other and from the group keys. -/
theorem predicate_collects {config : ResourceConfig} (injective : Function.Injective format)
    (apart : ∀ field ∈ config.filterFields, ∀ combinator : Combinator,
      format field ≠ combinator.key)
    {params : List (String × String)} (distinct : (params.map Prod.fst).Nodup) :
    ∃ predicate, Filter.predicate (Members.texts params) config format = .ok predicate ∧
      Collects format (filters config params) predicate := by
  have tokens : ((filters config params).map fun f => format f.1).Nodup := by
    have fields : ((filters config params).map Prod.fst).Nodup := nodup_filters distinct
    have tokens := fields.map injective
    rwa [List.map_map] at tokens
  have allowed : ∀ f ∈ filters config params, ∀ combinator : Combinator,
      format f.1 ≠ combinator.key :=
    fun f mem => apart f.1 (mem_filters.mp mem).1
  rw [Filter.predicate, foldlM_step_texts]
  exact Collects.nil.run tokens allowed

end Filter

end QueryDesk
