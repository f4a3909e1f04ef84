import QueryDesk.Proofs.Listing.GroupKeys
import QueryDesk.Proofs.Listing.Reordered
import QueryDesk.Proofs.Plan.Walks

/-!
# The shape of a filter predicate

Texts compile unless a filter on a field named like a group takes the key that a later group needs.
Where no field is named so, the predicate has one key for each single filter and one for each kind
of group, in the order in which they are first needed, and a group holds the parts of all values of
its kind.
-/

namespace QueryDesk

namespace Filter

/-- The key that a filter writes under. -/
def writtenKey (format : FieldPath.Format) (f : String × String) : String :=
  if IsGroup f.2 .all then Combinator.all.key
  else if IsGroup f.2 .any then Combinator.any.key
  else format f.1

variable {format : FieldPath.Format}

theorem writtenKey_of_isGroup {f : String × String} {combinator : Combinator}
    (group : IsGroup f.2 combinator) : writtenKey format f = combinator.key := by
  cases combinator with
  | all => rw [writtenKey, if_pos group]
  | any =>
    have other : ¬ IsGroup f.2 .all := fun group' => nomatch isGroup_unique group group'
    rw [writtenKey, if_neg other, if_pos group]

theorem writtenKey_of_single {f : String × String} (single : ∀ combinator, ¬ IsGroup f.2 combinator) :
    writtenKey format f = format f.1 := by
  rw [writtenKey, if_neg (single .all), if_neg (single .any)]

/-- A filter writes under one key. -/
theorem exists_set_of_add {f : String × String} {predicate next : Members}
    (added : add (format f.1) predicate (clause f.2) = .ok next) :
    ∃ v, next = predicate.set (writtenKey format f) v := by
  by_cases group : ∃ own, IsGroup f.2 own
  · obtain ⟨own, group⟩ := group
    rw [writtenKey_of_isGroup group]
    rw [clause_of_isGroup group, add] at added
    by_cases taken : Taken own predicate
    · rw [extend_of_taken taken] at added
      cases added
    · obtain ⟨items, extended⟩ := extend_of_not_taken taken
        (((Text.split (separator own) f.2).map Operand.ofText).map fun operand =>
          .object [(format f.1, operand)])
      rw [extended] at added
      cases added
      exact ⟨_, rfl⟩
  · have single := not_exists.mp group
    obtain ⟨⟨relation, operand⟩, reading, -⟩ := existsUnique_saying f.2
    rw [add_of_saying single reading] at added
    cases added
    rw [writtenKey_of_single single]
    exact ⟨_, rfl⟩

/-- The keys of a predicate stand in the order in which the filters first write under them. -/
theorem keys_of_filters {fs : List (String × String)} {predicate : Members}
    (ran : fs.foldlM (fun predicate f => add (format f.1) predicate (clause f.2)) [] =
      .ok predicate) : predicate.keys = (fs.map (writtenKey format)).eraseDups := by
  induction fs using List.reverseRecOn generalizing predicate with
  | nil =>
    cases ran
    rfl
  | append_singleton fs f ih =>
    rw [List.foldlM_append] at ran
    obtain ⟨earlier, before, last⟩ := bind_eq_ok_iff.mp ran
    rw [List.foldlM_cons] at last
    obtain ⟨next, added, done⟩ := bind_eq_ok_iff.mp last
    cases done
    obtain ⟨v, rfl⟩ := exists_set_of_add added
    rw [Members.keys_set, ih before, List.map_append, List.map_singleton, eraseDups_concat]
    simp only [List.mem_eraseDups]

theorem operandsOf_eq (combinator : Combinator) (value : String) : operandsOf combinator value =
    if IsGroup value combinator then
      (Text.split (separator combinator) value).map Operand.ofText
    else [] := by
  cases combinator with
  | all => exact Plan.operandsOf_all value
  | any => exact Plan.operandsOf_any value

/-- Only the groups of a kind contribute to its pool. -/
theorem pooled_eq (combinator : Combinator) (fs : List (String × String)) :
    pooled format combinator fs = (fs.filter (IsGroup ·.2 combinator)).flatMap fun f =>
      (Text.split (separator combinator) f.2).map fun part =>
        .object [(format f.1, Operand.ofText part)] := by
  induction fs with
  | nil => rfl
  | cons f fs ih =>
    rw [pooled, List.flatMap_cons, List.filter_cons, leaves, operandsOf_eq]
    by_cases group : IsGroup f.2 combinator
    · rw [if_pos group, if_pos (by simpa using group), List.flatMap_cons, List.map_map]
      exact congrArg _ ih
    · rw [if_neg group, if_neg (by simpa using group)]
      exact ih

/-- A predicate holds what filters say, each under the key that it is first needed for. -/
structure Shape (format : FieldPath.Format) (fs : List (String × String)) (predicate : Members) :
    Prop where
  keys : predicate.keys = (fs.map (writtenKey format)).eraseDups
  /-- A value that is no group is compared with under the token of its field. -/
  single : ∀ f ∈ fs, (∀ combinator, ¬ IsGroup f.2 combinator) → ∃ relation operand,
    Says f.2 relation operand ∧
      predicate.get? (format f.1) = some (asked relation (Operand.ofText operand))
  /-- The parts of all values of a kind stand together, in the order of the filters. -/
  group : ∀ combinator, (∃ f ∈ fs, IsGroup f.2 combinator) → ∃ parts : String → List String,
    (∀ value, Text.Splits (separator combinator) value (parts value)) ∧
      predicate.get? combinator.key = some (.list
        ((fs.filter (IsGroup ·.2 combinator)).flatMap fun f =>
          (parts f.2).map fun part => .object [(format f.1, Operand.ofText part)]))

theorem Collects.shape {fs : List (String × String)} {predicate : Members}
    (collects : Collects format fs predicate)
    (keys : predicate.keys = (fs.map (writtenKey format)).eraseDups) :
    Shape format fs predicate where
  keys := keys
  single := by
    intro f mem single
    obtain ⟨noPercent, noBar⟩ := not_isGroup_iff.mp single
    obtain ⟨⟨relation, operand⟩, reading, -⟩ := existsUnique_saying f.2
    exact ⟨relation, operand, reading,
      collects.single f mem _ (Plan.leafValue?_of_saying noPercent noBar reading)⟩
  group := by
    rintro combinator ⟨f, mem, group⟩
    have some_pooled : (pooled format combinator fs).isEmpty = false := by
      rw [List.isEmpty_eq_false_iff_exists_mem]
      obtain ⟨part, isPart⟩ := List.exists_mem_of_ne_nil _
        (Text.splits_split (separator combinator) f.2).nonempty
      refine ⟨.object [(format f.1, Operand.ofText part)],
        List.mem_flatMap.mpr ⟨f, mem, List.mem_map.mpr ⟨Operand.ofText part, ?_, rfl⟩⟩⟩
      rw [operandsOf_eq, if_pos group]
      exact List.mem_map.mpr ⟨part, isPart, rfl⟩
    refine ⟨Text.split (separator combinator), Text.splits_split _, ?_⟩
    rw [collects.groups, some_pooled, pooled_eq]
    rfl

/-- The first of two parameters filters by a single value on a field named like a group, and the
    second one filters by a group of that name. -/
structure Collides (config : ResourceConfig) (combinator : Combinator) (p q : String × String) :
    Prop where
  named : p.1 = mark ++ combinator.key
  allowed : combinator.key ∈ config.filterFields
  noPercent : '%' ∉ p.2.toList
  noBar : '|' ∉ p.2.toList
  filters : ∃ field ∈ config.filterFields, q.1 = mark ++ field
  group : IsGroup q.2 combinator

end Filter

theorem FieldPath.token_eq_key_iff {field : String} {combinator : Combinator} :
    token field = combinator.key ↔ field = combinator.key := by
  have own : token combinator.key = combinator.key := by cases combinator <;> rfl
  constructor
  · intro same
    exact token_injective (same.trans own.symm)
  · rintro rfl
    exact own

theorem Filter.collides_iff {config : ResourceConfig} {combinator : Combinator}
    {p q : String × String} : Collides config combinator p q ↔
      Takes config FieldPath.token combinator p ∧ Needs config combinator q := by
  constructor
  · rintro ⟨named, allowed, noPercent, noBar, ⟨field, offered, marked⟩, group⟩
    exact ⟨⟨_, field?_eq_some_iff.mpr ⟨named, allowed⟩, FieldPath.token_eq_key_iff.mpr rfl,
      not_isGroup_iff.mpr ⟨noPercent, noBar⟩⟩,
      field, field?_eq_some_iff.mpr ⟨marked, offered⟩, group⟩
  · rintro ⟨⟨field, found, token, single⟩, field', found', group⟩
    obtain ⟨named, allowed⟩ := field?_eq_some_iff.mp found
    obtain ⟨marked, offered⟩ := field?_eq_some_iff.mp found'
    obtain rfl := FieldPath.token_eq_key_iff.mp token
    obtain ⟨noPercent, noBar⟩ := not_isGroup_iff.mp single
    exact ⟨named, allowed, noPercent, noBar, ⟨field', offered, marked⟩, group⟩

/-- Texts compile to a specification, or fail, as their filters do. -/
theorem compileQuery_of_filters (config : ResourceConfig) (params : List (String × String)) :
    (∃ predicate compiled, Filter.predicate (Members.texts params) config = .ok predicate ∧
      compileQuery (Members.texts params) config = .ok compiled) ∨
    ∃ fault, Filter.predicate (Members.texts params) config = .error fault ∧
      compileQuery (Members.texts params) config = .error fault := by
  obtain ⟨pagination, paged⟩ := Pagination.resolve_isOk (params.lookup "page")
    (params.lookup "limit") (params.lookup "offset")
  obtain ⟨search, searched⟩ :=
    searchPredicate_isOk (params.lookup "search") config FieldPath.token
  obtain ⟨order, ordered⟩ := sortOrder_isOk (params.lookup "sort") config FieldPath.token
  simp only [← param_texts] at paged searched ordered
  simp only [compileQuery, paged, searched, ordered, bind, Except.bind]
  cases filtered : Filter.predicate (Members.texts params) config with
  | ok predicate => exact .inl ⟨predicate, _, rfl, rfl⟩
  | error fault => exact .inr ⟨fault, rfl, rfl⟩

/-- Texts fail to compile just if two of them collide over the key of a group, and with no other
    fault. Where no allowed field is named like a group, the predicate has the shape that the
    filters give it. -/
theorem compileQuery_collides_or_shapes (config : ResourceConfig) (params : List (String × String))
    (distinct : (params.map Prod.fst).Nodup) :
    ((∃ fault, compileQuery (Members.texts params) config = .error fault) ↔
      ∃ combinator p q, [p, q].Sublist params ∧ Filter.Collides config combinator p q) ∧
    (∀ fault, compileQuery (Members.texts params) config = .error fault → fault = .groupTaken) ∧
    ((∀ combinator : Combinator, combinator.key ∉ config.filterFields) →
      ∃ predicate, Filter.predicate (Members.texts params) config = .ok predicate ∧
        Filter.Shape FieldPath.token (Filter.filters config params) predicate) := by
  have untaken : ∀ combinator, ¬ Filter.Taken combinator [] := fun combinator ⟨v, holds, _⟩ =>
    nomatch holds
  have fails_iff := Filter.foldlM_step_fails_iff config FieldPath.token params []
  refine ⟨?_, fun fault failed => ?_, fun apart => ?_⟩
  · simp only [untaken, and_false, exists_false, false_or, ← Filter.collides_iff] at fails_iff
    rw [← fails_iff]
    rcases compileQuery_of_filters config params with
      ⟨predicate, compiled, filtered, same⟩ | ⟨fault, filtered, same⟩
    · rw [same, ← Filter.predicate, filtered]
      simp
    · rw [same, ← Filter.predicate, filtered]
      exact iff_of_true ⟨fault, rfl⟩ ⟨fault, rfl⟩
  · rcases compileQuery_of_filters config params with
      ⟨predicate, compiled, filtered, same⟩ | ⟨fault', filtered, same⟩
    · rw [same] at failed
      cases failed
    · rw [same] at failed
      cases failed
      exact Filter.foldlM_step_fault filtered
  · obtain ⟨predicate, filtered, collects⟩ := Filter.predicate_collects FieldPath.token_injective
      (token_ne_key apart) distinct
    refine ⟨predicate, filtered, collects.shape ?_⟩
    rw [Filter.predicate, Filter.foldlM_step_texts] at filtered
    exact Filter.keys_of_filters filtered

/-- A resource that names a filter like a group. -/
def groupNamed : ResourceConfig where
  filterFields := ["AND", "views"]

/-- Posts are filtered under two keys; a filter on a field named like a group leaves no group to a
    later filter, and an earlier one is replaced. -/
theorem posts_shaped_and_groups_collide :
    (∃ predicate, Filter.predicate (Members.texts samplePosts) .posts = .ok predicate ∧
      predicate.keys = ["OR", "views"]) ∧
    compileQuery (Members.texts [("f_AND", "1"), ("f_views", "2%3")]) groupNamed =
      .error .groupTaken ∧
    ¬ ∃ fault, compileQuery (Members.texts [("f_views", "2%3"), ("f_AND", "1")]) groupNamed =
      .error fault := by
  have apart : ∀ combinator : Combinator, combinator.key ∉ ResourceConfig.posts.filterFields := by
    intro combinator
    cases combinator <;> decide
  obtain ⟨-, -, shapes⟩ := compileQuery_collides_or_shapes .posts samplePosts (by decide)
  obtain ⟨fails, fault, -⟩ := compileQuery_collides_or_shapes groupNamed
    [("f_AND", "1"), ("f_views", "2%3")] (by decide)
  obtain ⟨passes, -, -⟩ := compileQuery_collides_or_shapes groupNamed
    [("f_views", "2%3"), ("f_AND", "1")] (by decide)
  refine ⟨?_, ?_, ?_⟩
  · obtain ⟨predicate, filtered, shape⟩ := shapes apart
    exact ⟨predicate, filtered, shape.keys.trans (by decide +kernel)⟩
  · have collides : Filter.Collides groupNamed .all ("f_AND", "1") ("f_views", "2%3") :=
      ⟨rfl, by decide, by decide, by decide, ⟨"views", by decide, rfl⟩, by decide⟩
    obtain ⟨own, failed⟩ := fails.mpr ⟨_, _, _, List.Sublist.refl _, collides⟩
    rw [failed, fault own failed]
  · rw [passes]
    rintro ⟨combinator, p, q, within, collides⟩
    -- Of two parameters the first one is no single value.
    have same := within.eq_of_length rfl
    obtain ⟨rfl, rest⟩ := List.cons.inj same
    exact collides.noPercent (by decide)

end QueryDesk
