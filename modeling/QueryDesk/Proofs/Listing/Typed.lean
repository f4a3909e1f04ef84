import QueryDesk.Proofs.Listing.Equalled

/-!
# Well-typed plans

Texts are turned into numbers before anything is known of the column that they are compared with.
Still every mapping of texts is planned, and what its plan compares with a column suits the column:
a finite number where numbers are held, a text where texts are, and never null or a truth value.
-/

namespace QueryDesk

/-- A column of a kind can be compared with the operand. -/
inductive Operand.Suits (kind : ColumnKind) : Value → Prop
  | number {w : Value} (other : kind ≠ .text) (finite : w.IsNumber) : Suits kind w
  | text {s : String} (worded : kind = .text ∨ kind = .moment) : Suits kind (.text s)
  | uuid {u : Uuid} (identifies : kind = .uuid) : Suits kind (.uuid u)

/-- Every comparison in a condition is with an operand that suits its column, and nothing is
    compared with null. -/
inductive Condition.WellTyped : Condition → Prop
  | never : WellTyped .never
  | compare {relation : Relation} {column : ColumnRef} {operand : Value}
      (suits : Operand.Suits column.column.kind operand) :
      WellTyped (.compare relation column operand)
  | like (column : ColumnRef) (pattern : String) : WellTyped (.like column pattern)
  | group {combinator : Combinator} {conditions : List Condition}
      (members : ∀ c ∈ conditions, WellTyped c) : WellTyped (.group combinator conditions)

/-! ## Operands -/

namespace Operand

theorem ofText_isNumber_or (s : String) : (ofText s).IsNumber ∨ ofText s = .text s := by
  rcases Plan.ofText_cases s with ⟨n, read⟩ | ⟨x, read⟩ | read
  · rw [read]
    exact .inl (.int n)
  · obtain ⟨negative, units, rfl⟩ := finite_of_ofText read
    rw [read]
    exact .inl (.float rfl)
  · exact .inr read

/-- Where neither numbers nor texts are held, numbers are bound as they are. -/
theorem bind_number {kind : ColumnKind} (kept : kind = .uuid ∨ kind = .moment) {w : Value}
    (number : w.IsNumber) : Binding.bind kind w = .ok (some w) := by
  rcases kept with rfl | rfl <;> cases number <;> rfl

/-- What a text is bound to suits the column. -/
theorem suits_of_bind (kind : ColumnKind) (s : String) :
    ∃ bound, Binding.bind kind (ofText s) = .ok bound ∧
      ∀ operand, bound = some operand → Suits kind operand := by
  have numeric : ∀ number, kind.number? = some number → ∃ bound,
      Binding.bind kind (ofText s) = .ok bound ∧
        ∀ operand, bound = some operand → Suits kind operand := by
    intro number same
    obtain ⟨bound, binds, -, -, -, numbers⟩ := Binding.number_ofText number s
    refine ⟨bound, (Binding.bind_of_number? same _).trans binds, fun operand found => ?_⟩
    refine .number (fun isText => ?_) (numbers operand found).1
    rw [isText] at same
    cases same
  have kept : kind = .uuid ∨ kind = .moment → (ofText s).IsNumber → ∃ bound,
      Binding.bind kind (ofText s) = .ok bound ∧
        ∀ operand, bound = some operand → Suits kind operand := by
    intro kept number
    refine ⟨_, bind_number kept number, ?_⟩
    rintro operand ⟨⟩
    exact .number (by rcases kept with rfl | rfl <;> decide) number
  cases kind with
  | whole => exact numeric .whole rfl
  | decimal => exact numeric .decimal rfl
  | text =>
    refine ⟨_, bind_text_ofText s, ?_⟩
    rintro operand ⟨⟩
    exact .text (.inl rfl)
  | uuid =>
    rcases ofText_isNumber_or s with number | read
    · exact kept (.inl rfl) number
    · refine ⟨(Uuid.parse? (Text.strip s)).map .uuid, by rw [read]; rfl, fun operand found => ?_⟩
      obtain ⟨u, -, rfl⟩ := Option.map_eq_some_iff.mp found
      exact .uuid rfl
  | moment =>
    rcases ofText_isNumber_or s with number | read
    · exact kept (.inr rfl) number
    · refine ⟨some (.text s), by rw [read]; rfl, ?_⟩
      rintro operand ⟨⟩
      exact .text (.inr rfl)

end Operand

namespace Condition

theorem wellTyped_hereditary : Hereditary WellTyped := by
  refine ⟨.never, fun combinator conditions => ⟨fun typed => ?_, .group⟩⟩
  cases typed with
  | group members => exact members

theorem WellTyped.comparing {relation : Relation} {column : ColumnRef} {bound : Option Value}
    (suits : ∀ operand, bound = some operand → Operand.Suits column.column.kind operand) :
    (comparing relation column bound).WellTyped := by
  cases bound with
  | none => exact .never
  | some operand => exact .compare (suits operand rfl)

end Condition

namespace Plan

open Condition

variable {root : Entity}

/-! ## Entries -/

theorem wellTyped_equality {token : String} (single : Combinator.ofKey? token = none) (s : String) :
    Gives WellTyped (found (entryConditions root token (Operand.ofText s))) := by
  rw [entryConditions_ofText single]
  refine .leaf fun column _ w => ?_
  obtain ⟨bound, binds, suits⟩ := Operand.suits_of_bind column.column.kind s
  refine ⟨Condition.comparing .eq column bound, ?_, .comparing suits⟩
  rw [StateT.run_bind, equalityCondition_of_bind binds]
  rfl

theorem wellTyped_comparison {token : String} (single : Combinator.ofKey? token = none)
    {relation : Relation} (ne : relation ≠ .eq) (s : String) :
    Gives WellTyped (found (entryConditions root token
      (.object [(Filter.operatorOf relation, Operand.ofText s)]))) := by
  rw [entryConditions, single]
  refine .leaf fun column _ w => ?_
  obtain ⟨bound, binds, suits⟩ := Operand.suits_of_bind column.column.kind s
  refine ⟨Condition.comparing relation column bound, ?_, .comparing suits⟩
  simp only [operatorConditions]
  rw [StateT.run_bind, operatorCondition_of_bind ne binds]
  rfl

/-- A pattern is no comparison; under the key of a group it is nothing. -/
theorem wellTyped_pattern (token pattern : String) : Gives WellTyped
    (found (entryConditions root token (.object [(Search.patternKey, .text pattern)]))) := by
  rw [entryConditions]
  cases Combinator.ofKey? token with
  | some combinator => exact .nil
  | none => exact .leaf fun column _ w => ⟨.like column pattern, rfl, .like column pattern⟩

/-- Whatever filters have put under a key, what is compared with a column suits it. -/
theorem wellTyped_collected {format : FieldPath.Format} {fs : List (String × String)}
    {predicate : Members} (collects : Filter.Collects format fs predicate) {key : String}
    {v : Value} (held : predicate.get? key = some v) :
    Gives WellTyped (found (entryConditions root key v)) := by
  rcases collects.only key v held with ⟨combinator, rfl⟩ | ⟨f, mem, rfl, leaf⟩
  · rw [collects.groups] at held
    split at held
    · cases held
    · cases held
      refine .group wellTyped_hereditary fun item mem => ?_
      rw [pooled_eq] at mem
      obtain ⟨⟨field, operand⟩, inPairs, rfl⟩ := List.mem_map.mp mem
      obtain ⟨f, from_fs, rfl, within⟩ := mem_pairs.mp inPairs
      obtain ⟨text, rfl⟩ := exists_text_of_mem within
      have single := ofKey?_of_apart (collects.apart f from_fs)
      exact .clause wellTyped_hereditary (wellTyped_equality single text)
  · have single := ofKey?_of_apart (collects.apart f mem)
    have ungrouped : ¬ ('%' ∈ f.2.toList ∨ '|' ∈ f.2.toList) := by
      intro group
      rw [leafValue?_of_group group] at leaf
      cases leaf
    rw [not_or] at ungrouped
    obtain ⟨⟨relation, text⟩, asked, -⟩ := Filter.existsUnique_saying f.2
    rw [leafValue?_of_saying ungrouped.1 ungrouped.2 asked] at leaf
    cases leaf
    split
    · exact wellTyped_equality single text
    · rename_i ne
      exact wellTyped_comparison single ne text

theorem wellTyped_searched {params : List (String × String)} {config : ResourceConfig}
    {format : FieldPath.Format} {search : Members}
    (searched : Search.predicate (param (Members.texts params) "search") config format =
      .ok search) {key : String} {v : Value} (held : search.get? key = some v) :
    Gives WellTyped (found (entryConditions root key v)) := by
  rw [searchPredicate_texts searched] at held
  split at held
  · cases held
  · obtain ⟨rfl, rfl⟩ := Prod.mk.inj (List.mem_singleton.mp (Members.mem_of_get? held))
    refine .group wellTyped_hereditary fun item mem => ?_
    obtain ⟨field, -, rfl⟩ := List.mem_map.mp mem
    exact .clause wellTyped_hereditary (wellTyped_pattern _ _)

end Plan

variable {config : ResourceConfig} {params : List (String × String)}

/-- A mapping of texts compiles to a specification that is planned over every entity, and every
    comparison of its plan is with an operand that suits its column. -/
theorem plans_wellTyped (e : Entity)
    (apart : ∀ combinator : Combinator, combinator.key ∉ config.filterFields)
    (distinct : (params.map Prod.fst).Nodup) :
    ∃ compiled plan, compileQuery (Members.texts params) config = .ok compiled ∧
      Plan.ofSpecPaged e compiled.spec = .ok plan ∧
      ∀ condition ∈ plan.conditions, condition.WellTyped := by
  obtain ⟨compiled, search, filters, made, compiles, collects⟩ :=
    compileQuery_texts e apart distinct
  have distinct_search : search.keys.Nodup :=
    Members.nodup_keys_of_single ((search_cases compiles).imp_right fun ⟨_, only⟩ => ⟨_, only⟩)
  have entries : Plan.Gives Condition.WellTyped
      (Plan.found (Plan.predicateConditions e compiled.spec.predicate)) := by
    rw [compiles.merged, Plan.found_predicate]
    refine .gathered fun ⟨key, v⟩ mem => ?_
    rw [Members.mem_iff_get? (Contribution.nodup_keys_merged ..),
      Contribution.get?_merged "search" "filter" distinct_search collects.distinct,
      Option.or_eq_some_iff] at mem
    rcases mem with held | ⟨-, held⟩
    · exact Plan.wellTyped_collected collects held
    · exact Plan.wellTyped_searched compiles.searched held
  obtain ⟨plan, planned, typed⟩ := entries.planned
  refine ⟨compiled, plan.paginate compiled.spec.pagination, made, ?_, typed⟩
  rw [Plan.ofSpecPaged, planned]
  rfl

/-- Parameters for posts that look like nulls, truth values, infinities and numbers. -/
def motleyPosts : List (String × String) :=
  [("search", "100%"), ("f_views", "true|1e999|nan|12"), ("f_status", ">=007"),
    ("f_user_id", "null"), ("f_user.role", "!=-Infinity"), ("sort", "user.full_name&&-views")]

theorem motleyPosts_wellTyped :
    ∃ compiled plan, compileQuery (Members.texts motleyPosts) .posts = .ok compiled ∧
      Plan.ofSpecPaged .post compiled.spec = .ok plan ∧ plan.conditions.length = 5 ∧
      ∀ condition ∈ plan.conditions, condition.WellTyped := by
  have apart : ∀ combinator : Combinator, combinator.key ∉ ResourceConfig.posts.filterFields := by
    intro combinator
    cases combinator <;> decide
  have distinct : (motleyPosts.map Prod.fst).Nodup := by decide
  obtain ⟨compiled, plan, made, planned, typed⟩ := plans_wellTyped .post apart distinct
  refine ⟨compiled, plan, made, planned, ?_, typed⟩
  have counted : ((compileQuery (Members.texts motleyPosts) .posts).toOption.bind fun compiled =>
      (Plan.ofSpecPaged .post compiled.spec).toOption).map (·.conditions.length) = some 5 := by
    decide +kernel
  rw [toOption_eq_some_iff.mpr made, Option.bind_some, toOption_eq_some_iff.mpr planned] at counted
  exact Option.some.inj counted

end QueryDesk
