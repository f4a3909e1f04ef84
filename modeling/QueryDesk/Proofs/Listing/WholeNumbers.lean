import QueryDesk.Proofs.Listing.Equalled
import QueryDesk.Proofs.Listing.Shape
import QueryDesk.Proofs.Number.Whole

/-!
# Filters by whole numbers

A filter that compares a column of numbers with a whole number becomes one comparison with just that
number, whatever its magnitude and whichever relation is asked for. In a request with other filters
the comparison is among the conditions of the plan.
-/

namespace QueryDesk

open Numeral

variable {r : Resource} {field text : String} {n : Int} {relation : Relation}
  {params : List (String × String)} {joins : List Join} {c : ColumnRef} {bound : Option Value}

namespace Filter

variable {format : FieldPath.Format}

/-! ## What a filter leaves in the predicate -/

/-- What stands under a token stays there, while no later filter is on a field of that token. -/
theorem get?_of_later {token : String} (single : Combinator.ofKey? token = none)
    {fs : List (String × String)} (others : ∀ f ∈ fs, format f.1 ≠ token) {start predicate : Members}
    (ran : fs.foldlM (fun predicate f => add (format f.1) predicate (clause f.2)) start =
      .ok predicate) : predicate.get? token = start.get? token := by
  induction fs generalizing start with
  | nil =>
    cases ran
    rfl
  | cons f fs ih =>
    rw [List.forall_mem_cons] at others
    rw [List.foldlM_cons] at ran
    obtain ⟨next, added, ran⟩ := bind_eq_ok_iff.mp ran
    obtain ⟨v, rfl⟩ := exists_set_of_add added
    have ne : token ≠ writtenKey format f := by
      intro same
      by_cases group : ∃ own, IsGroup f.2 own
      · obtain ⟨own, group⟩ := group
        rw [same, writtenKey_of_isGroup group, Plan.ofKey?_key] at single
        cases single
      · rw [writtenKey_of_single (not_exists.mp group)] at same
        exact others.1 same.symm
    rw [ih others.2 ran, Members.get?_set_of_ne ne]

/-- A single filter leaves its operand under its token, if no other filter is on a field of that
    token. -/
theorem get?_of_saying {token : String} (named : Combinator.ofKey? token = none)
    {fs : List (String × String)} (distinct : (fs.map Prod.fst).Nodup) {f : String × String}
    (mem : f ∈ fs) (own : format f.1 = token)
    (unshared : ∀ g ∈ fs, format g.1 = token → g.1 = f.1)
    (single : ∀ combinator, ¬ IsGroup f.2 combinator) {operand : String}
    (reading : Says f.2 relation operand) {predicate : Members}
    (ran : fs.foldlM (fun predicate f => add (format f.1) predicate (clause f.2)) [] =
      .ok predicate) :
    predicate.get? token = some (asked relation (Operand.ofText operand)) := by
  obtain ⟨before, after, rfl⟩ := List.append_of_mem mem
  rw [List.foldlM_append] at ran
  obtain ⟨start, -, ran⟩ := bind_eq_ok_iff.mp ran
  rw [List.foldlM_cons] at ran
  obtain ⟨next, added, ran⟩ := bind_eq_ok_iff.mp ran
  rw [add_of_saying single reading, own] at added
  cases added
  have others : ∀ g ∈ after, format g.1 ≠ token := by
    intro g later same
    have fresh := unshared g (List.mem_append_right _ (List.mem_cons_of_mem f later)) same
    rw [List.map_append, List.map_cons, List.nodup_append] at distinct
    exact (List.nodup_cons.mp distinct.2.1).1 (fresh ▸ List.mem_map_of_mem later)
  rw [get?_of_later named others ran, Members.get?_set_self]

end Filter

/-! ## The comparison in the plan -/

/-- A single filter stands in the predicate under its token, if no other filter that is allowed is
    on a field of that token. -/
theorem Compiles.saying_mem_predicate {spec : QuerySpec} {search filters : Members}
    (compiles : Compiles (Members.texts params) r spec search filters)
    (distinct : (params.map Prod.fst).Nodup) (allowed : field ∈ r.config.filterFields)
    (named : Combinator.ofKey? (r.format field) = none)
    (unshared : ∀ other ∈ r.config.filterFields, r.format other = r.format field → other = field)
    {value : String} (given : (Filter.mark ++ field, value) ∈ params)
    (single : ∀ combinator, ¬ Filter.IsGroup value combinator)
    (reading : Filter.Says value relation text) :
    (r.format field, Filter.asked relation (Operand.ofText text)) ∈ spec.predicate := by
  have ran := compiles.filtered
  rw [Filter.predicate, Filter.foldlM_step_texts] at ran
  have held : filters.get? (r.format field) =
      some (Filter.asked relation (Operand.ofText text)) :=
    Filter.get?_of_saying named (Filter.nodup_filters distinct)
      (Filter.mem_filters.mpr ⟨allowed, given⟩) rfl
      (fun g mem same => unshared g.1 (Filter.mem_filters.mp mem).1 same) single reading ran
  have distinct_search : search.keys.Nodup := by
    refine Members.nodup_keys_of_single ?_
    rcases search_cases compiles with none | ⟨items, only⟩
    · exact .inl none
    · exact .inr ⟨_, only⟩
  have distinct_filters : filters.keys.Nodup := by
    rw [Filter.keys_of_filters ran]
    exact nodup_eraseDups _
  rw [compiles.merged, Members.mem_iff_get? (Contribution.nodup_keys_merged ..),
    Contribution.get?_merged "search" "filter" distinct_search distinct_filters, held]
  rfl

/-- What is found for an entry of the predicate is among the conditions of the plan. -/
theorem Plan.mem_conditions_of_entry {e : Entity} {spec : QuerySpec} {plan : Plan}
    (planned : ofSpec e spec = .ok plan) {token : String} {v : Value}
    (entry : (token, v) ∈ spec.predicate) {own : List Condition}
    (finds : found (entryConditions e token v) = .ok own) {condition : Condition}
    (mem : condition ∈ own) : condition ∈ plan.conditions := by
  have conditions := ofSpec_conditions e spec
  rw [planned, found_predicate] at conditions
  have gathers := (gathered_eq_ok_iff.mp conditions.symm).2
  have within : condition ∈ spec.predicate.flatMap fun member =>
      (found (entryConditions e member.1 member.2)).toOption.getD [] := by
    refine List.mem_flatMap.mpr ⟨_, entry, ?_⟩
    rw [finds]
    exact mem
  rwa [← gathers] at within

/-- A single filter on a column becomes one of the conditions of the plan. -/
theorem comparing_mem_conditions (distinct : (params.map Prod.fst).Nodup)
    (allowed : field ∈ r.config.filterFields)
    (unshared : ∀ other ∈ r.config.filterFields, r.format other = r.format field → other = field)
    (resolves : resolve r.entity (r.format field) = ⟨joins, some c⟩) {value : String}
    (given : (Filter.mark ++ field, value) ∈ params)
    (single : ∀ combinator, ¬ Filter.IsGroup value combinator)
    (reading : Filter.Says value relation text)
    (binds : Binding.bind c.column.kind (Operand.ofText text) = .ok bound) {plan : Plan}
    (planned : r.planOf (Members.texts params) = .ok plan) :
    Condition.comparing relation c bound ∈ plan.conditions := by
  obtain ⟨spec, search, filters, compiles, planned⟩ := planOf_eq_ok_iff.mp planned
  have named : Combinator.ofKey? (r.format field) = none := ofKey?_of_leads (by rw [resolves])
  have entry := compiles.saying_mem_predicate distinct allowed named unshared given single reading
  have own : Plan.found (Plan.entryConditions r.entity (r.format field)
      (Filter.asked relation (Operand.ofText text))) =
        .ok [Condition.comparing relation c bound] := by
    rw [Plan.found, Filter.asked, Plan.entryConditions_clause resolves named binds]
    rfl
  exact Plan.mem_conditions_of_entry planned entry own (List.mem_singleton_self _)

namespace Numeral

/-- A symbol before a spelled whole number asks for its relation to the number. -/
theorem SpellsWithin.says (spells : SpellsWithin text.toList n) (relation : Relation) :
    Filter.Says (Filter.symbolOf relation ++ text) relation text := by
  have unmarked := spells.unmarked
  refine Filter.says_symbolOf relation (unmarked '>' (by simp)) (unmarked '<' (by simp))
    (Filter.not_infix_of_notMem (c := '!') (by decide) (unmarked '!' (by simp))) ?_
  exact fun begins => unmarked '=' (by simp) (List.mem_of_head? begins)

theorem SpellsWithin.not_isGroup (spells : SpellsWithin text.toList n) (relation : Relation) :
    ∀ combinator, ¬ Filter.IsGroup (Filter.symbolOf relation ++ text) combinator := by
  have unmarked := spells.unmarked
  have symbol : '%' ∉ (Filter.symbolOf relation).toList ∧
      '|' ∉ (Filter.symbolOf relation).toList := by
    cases relation <;> decide
  rw [Filter.not_isGroup_iff, String.toList_append, List.mem_append, List.mem_append, not_or,
    not_or]
  exact ⟨⟨symbol.1, unmarked '%' (by simp)⟩, symbol.2, unmarked '|' (by simp)⟩

end Numeral

/-- A filter on a column of numbers by a spelled whole number, alone or after the symbol of a
    relation, is planned as a comparison with just that number. Alone in a request it makes up the
    whole plan, and beside other parameters it is among the conditions of each plan. -/
theorem whole_number_compared (allowed : field ∈ r.config.filterFields)
    (resolves : resolve r.entity (r.format field) = ⟨joins, some c⟩)
    (numeric : c.column.kind = .whole ∨ c.column.kind = .decimal)
    (spells : SpellsWithin text.toList n) (relation : Relation) :
    ∃ operand : Value, operand.IsWhole n ∧
      r.planOf (Members.texts (filtering field (Filter.symbolOf relation ++ text))) =
        .ok { entity := r.entity, joins := addJoins [] joins,
              conditions := [.compare relation c operand] } ∧
      ∀ params : List (String × String), (params.map Prod.fst).Nodup →
        (Filter.mark ++ field, Filter.symbolOf relation ++ text) ∈ params →
        (∀ other ∈ r.config.filterFields, r.format other = r.format field → other = field) →
        ∀ plan, r.planOf (Members.texts params) = .ok plan →
          .compare relation c operand ∈ plan.conditions := by
  obtain ⟨operand, binds, whole⟩ := Binding.bind_of_spellsWithin spells numeric
  have single := spells.not_isGroup relation
  have reading := spells.says relation
  refine ⟨operand, whole, ?_, fun params distinct given unshared plan planned => ?_⟩
  · have named : Combinator.ofKey? (r.format field) = none := ofKey?_of_leads (by rw [resolves])
    obtain ⟨noPercent, noBar⟩ := Filter.not_isGroup_iff.mp single
    have compiles := compiles_filtering allowed
      (Plan.leafValue?_of_saying noPercent noBar reading)
    exact planOf_eq_ok_iff.mpr ⟨_, _, _, compiles, Plan.ofSpec_clause resolves named binds {}⟩
  · exact comparing_mem_conditions distinct allowed unshared resolves given single reading binds
      planned

/-- Ten to the power of four hundred, with a blank before it and one after it. -/
def beyondDoubles : List Char :=
  ' ' :: '1' :: List.replicate 400 '0' ++ ['\n']

theorem views_from_beyond_doubles : ∃ operand : Value, operand.IsWhole (Nat.pow 10 400) ∧
    Resource.posts.planOf (Members.texts (filtering "views" (">=" ++ String.ofList beyondDoubles))) =
      .ok { entity := .post,
            conditions := [.compare .ge ⟨.post, ⟨"views", .whole⟩⟩ operand] } ∧
    ∀ plan, Resource.posts.planOf (Members.texts
        [("f_status", "live|draft"), ("f_views", ">=" ++ String.ofList beyondDoubles),
          ("sort", "-title")]) = .ok plan →
      .compare .ge ⟨.post, ⟨"views", .whole⟩⟩ operand ∈ plan.conditions := by
  have spells : SpellsWithin (String.ofList beyondDoubles).toList (Nat.pow 10 400) := by
    have plain : plain (Text.trim beyondDoubles) = '1' :: List.replicate 400 '0' := by
      decide +kernel
    rw [SpellsWithin, String.toList_ofList, plain]
    exact .unsigned ⟨List.cons_ne_nil _ _, List.all_eq_true.mp (by decide +kernel),
      by decide +kernel, by decide +kernel⟩
  have resolves : resolve .post (FieldPath.token "views") =
      ⟨[], some ⟨.post, ⟨"views", .whole⟩⟩⟩ := by decide +kernel
  have allowed : "views" ∈ Resource.posts.config.filterFields := by decide
  obtain ⟨operand, whole, planned, among⟩ :=
    whole_number_compared allowed resolves (.inl rfl) spells .ge
  refine ⟨operand, whole, planned, fun plan planned' => ?_⟩
  exact among _ (by decide) (List.mem_cons_of_mem _ List.mem_cons_self)
    (fun other _ same => FieldPath.token_injective same) plan planned'

end QueryDesk
