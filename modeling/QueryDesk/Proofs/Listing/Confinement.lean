import QueryDesk.Proofs.Listing.Listed
import QueryDesk.Proofs.Plan.Joins
import QueryDesk.Proofs.Query.Confined

/-!
# What parameters can reach

A plan made from parameters demands something only of the columns of filter and search fields,
sorts only by those of sort fields, and joins only what lies on their ways. Its conditions are
comparisons and patterns, and groups of these.
-/

namespace QueryDesk

/-! ## Conditions about columns -/

namespace Condition

variable {allowed : ColumnRef → Prop}

/-- The condition compares an allowed column or matches it with a pattern, or no row meets it. -/
def IsAbout (allowed : ColumnRef → Prop) : Condition → Prop
  | never => True
  | compare _ column _ | like column _ => allowed column
  | isNull _ | isNotNull _ | group _ _ => False

/-- The condition is about an allowed column, or a group of such conditions. -/
def IsConfined (allowed : ColumnRef → Prop) : Condition → Prop
  | group _ conditions => ∀ condition ∈ conditions, condition.IsAbout allowed
  | condition => condition.IsAbout allowed

theorem IsAbout.isConfined {condition : Condition} (about : condition.IsAbout allowed) :
    condition.IsConfined allowed := by
  cases condition with
  | group combinator conditions => exact about.elim
  | _ => exact about

theorem membersIn_of_about {condition : Condition} (about : condition.IsAbout allowed)
    (combinator : Combinator) : membersIn combinator condition = [condition] := by
  cases condition with
  | group combinator conditions => exact about.elim
  | _ => rfl

theorem flatMap_membersIn_of_about {conditions : List Condition}
    (about : ∀ condition ∈ conditions, condition.IsAbout allowed) (combinator : Combinator) :
    conditions.flatMap (membersIn combinator) = conditions := by
  induction conditions with
  | nil => rfl
  | cons first rest ih =>
    rw [List.forall_mem_cons] at about
    rw [List.flatMap_cons, membersIn_of_about about.1, ih about.2]
    rfl

theorem grouped_isConfined {conditions : List Condition}
    (about : ∀ condition ∈ conditions, condition.IsAbout allowed) (combinator : Combinator) :
    (grouped combinator conditions).IsConfined allowed := by
  unfold grouped
  split
  · exact (about _ List.mem_cons_self).isConfined
  · exact about

/-- Conditions about columns make a group of no more depth. -/
theorem combine_isConfined {conditions : List Condition}
    (about : ∀ condition ∈ conditions, condition.IsAbout allowed) (combinator : Combinator) :
    (combine combinator conditions).IsConfined allowed := by
  cases combinator with
  | all =>
    rw [combine, all, flatMap_membersIn_of_about about]
    split
    · trivial
    · exact grouped_isConfined about .all
  | any =>
    have possible : ∀ condition ∈ conditions.filter (!·.isNever), condition.IsAbout allowed :=
      fun condition mem => about condition (List.mem_of_mem_filter mem)
    rw [combine, any, flatMap_membersIn_of_about possible]
    split
    · trivial
    · exact grouped_isConfined possible .any

theorem all_singleton_isAbout {condition : Condition} (about : condition.IsAbout allowed) :
    (all [condition]).IsAbout allowed := by
  rw [all, List.flatMap_singleton, membersIn_of_about about]
  split
  · trivial
  · exact about

end Condition

/-! ## Planning confined entries -/

namespace Plan

variable {root : Entity} {allowed : ColumnRef → Prop}

/-- There is one condition at most, and it is about an allowed column. -/
structure AboutOne (allowed : ColumnRef → Prop) (found : List Condition) : Prop where
  one : found.length ≤ 1
  about : ∀ condition ∈ found, condition.IsAbout allowed

theorem aboutOne_nil : AboutOne allowed [] :=
  ⟨Nat.zero_le 1, by simp⟩

theorem aboutOne_singleton {condition : Condition} (about : condition.IsAbout allowed) :
    AboutOne allowed [condition] :=
  ⟨Nat.le_refl 1, by simpa using about⟩

theorem isNull_of_isScalar {v : Value} (scalar : v.IsScalar) : v.isNull = false := by
  cases scalar <;> rfl

theorem equalityCondition_about {column : ColumnRef} {operand : Value} (scalar : operand.IsScalar)
    (offered : allowed column) : Ensures root [] (fun condition => condition.IsAbout allowed)
      (equalityCondition column operand) := by
  unfold equalityCondition
  rw [isNull_of_isScalar scalar]
  refine (Ensures.lift _).then fun bound binds => ?_
  cases bound with
  | none => exact Ensures.pure trivial
  | some operand => exact Ensures.pure offered

theorem operatorCondition_about {column : ColumnRef} {operator : String} {operand : Value}
    (scalar : operand.IsScalar) (offered : allowed column) :
    Ensures root [] (fun found => AboutOne allowed found.toList)
      (operatorCondition column operator operand) := by
  unfold operatorCondition
  rw [isNull_of_isScalar scalar]
  split
  · cases operand.text? with
    | none => exact Ensures.throw _
    | some pattern => exact Ensures.pure (aboutOne_singleton offered)
  · refine (Ensures.lift _).then fun bound binds => ?_
    cases bound with
    | none => exact Ensures.pure (aboutOne_singleton trivial)
    | some operand =>
      cases relationOf? operator with
      | none => exact (Ensures.note _).then fun _ _ => .pure aboutOne_nil
      | some relation =>
        refine (Ensures.lift _).then fun condition compared => .pure (aboutOne_singleton ?_)
        rw [comparison_eq compared]
        exact offered

/-- A value under a token is a text or a number, or an operator with one. -/
inductive IsLeaf : Value → Prop
  | equality {operand : Value} (scalar : operand.IsScalar) : IsLeaf operand
  | operator {name : String} {operand : Value} (scalar : operand.IsScalar) :
      IsLeaf (.object [(name, operand)])

theorem operator_leaf_about {token operator : String} {operand : Value} (scalar : operand.IsScalar)
    (offered : ∀ column, (resolve root token).column? = some column → allowed column) :
    Ensures root [token] (AboutOne allowed)
      (leaf root token fun column => operatorConditions column [(operator, operand)]) := by
  refine Ensures.leaf (fun _ => aboutOne_nil) fun column leads => ?_
  refine (operatorCondition_about scalar (offered column leads)).then fun first about => ?_
  have nothing : Ensures root [] (· = []) (pure [] : Planning (List Condition)) := .pure rfl
  refine nothing.then fun others none => .pure ?_
  rw [none, List.append_nil]
  exact about

theorem equality_leaf_about {token : String} {operand : Value} (scalar : operand.IsScalar)
    (offered : ∀ column, (resolve root token).column? = some column → allowed column) :
    Ensures root [token] (AboutOne allowed)
      (leaf root token fun column => return [← equalityCondition column operand]) := by
  refine Ensures.leaf (fun _ => aboutOne_nil) fun column leads => ?_
  exact (equalityCondition_about scalar (offered column leads)).then fun condition about =>
    .pure (aboutOne_singleton about)

/-- An entry of a leaf makes one condition at most. Under a group key it makes none. -/
theorem leafEntry_about {key : String} {v : Value} (isLeaf : IsLeaf v)
    (offered : ∀ column, (resolve root key).column? = some column → allowed column) :
    Ensures root (entryTokens key v) (AboutOne allowed) (entryConditions root key v) := by
  cases grouped : Combinator.ofKey? key with
  | some combinator =>
    cases isLeaf with
    | operator scalar =>
      simp only [entryTokens, entryConditions, grouped]
      exact Ensures.pure aboutOne_nil
    | equality scalar =>
      cases scalar with
      | text s =>
        simp only [entryTokens, entryConditions, grouped]
        exact Ensures.pure aboutOne_nil
      | _ =>
        simp only [entryTokens, entryConditions, grouped, Option.isSome_some, if_true]
        exact Ensures.refusal aboutOne_nil _
  | none =>
    rw [entryTokens_of_single grouped]
    cases isLeaf with
    | operator scalar =>
      simp only [entryConditions, grouped]
      exact operator_leaf_about scalar offered
    | equality scalar =>
      cases scalar with
      | _ =>
        simp only [entryConditions, grouped]
        exact equality_leaf_about (by constructor) offered

theorem leafMember_about {key : String} {v : Value} (isLeaf : IsLeaf v)
    (offered : ∀ column, (resolve root key).column? = some column → allowed column) :
    Ensures root (predicateTokens [(key, v)]) (AboutOne allowed)
      (predicateConditions root [(key, v)]) := by
  rw [predicateConditions, predicateTokens]
  refine (leafEntry_about isLeaf offered).bind fun own about => ?_
  have nothing : Ensures root [] (· = []) (pure [] : Planning (List Condition)) := .pure rfl
  refine nothing.then fun others none => .pure ?_
  rw [none, List.append_nil]
  exact about

variable {config : ResourceConfig}

/-- The column is at the end of the token of a field. -/
def Reaches (root : Entity) (fields : List String) (column : ColumnRef) : Prop :=
  ∃ field ∈ fields, (resolve root (FieldPath.token field)).column? = some column

theorem exists_leaf_of_clause {clause : Value} (confined : ConfinedClause config clause) :
    ∃ field ∈ config.filterFields ++ config.searchFields, ∃ v, IsLeaf v ∧
      clause = .object [(FieldPath.token field, v)] := by
  cases confined with
  | equality offered scalar => exact ⟨_, List.mem_append_left _ offered, _, .equality scalar, rfl⟩
  | pattern offered => exact ⟨_, List.mem_append_right _ offered, _, .operator (.text _), rfl⟩

theorem clauseConditions_about {clauses : List Value}
    (confined : ∀ clause ∈ clauses, ConfinedClause config clause) :
    Ensures root (clauseTokens clauses)
      (fun found => ∀ condition ∈ found,
        condition.IsAbout (Reaches root (config.filterFields ++ config.searchFields)))
      (clauseConditions root clauses) := by
  induction clauses with
  | nil => exact Ensures.pure (by simp)
  | cons clause rest ih =>
    rw [List.forall_mem_cons] at confined
    obtain ⟨field, offered, v, isLeaf, rfl⟩ := exists_leaf_of_clause confined.1
    rw [clauseTokens, clauseConditions]
    have leaf : Ensures root (predicateTokens [(FieldPath.token field, v)])
        (AboutOne (Reaches root (config.filterFields ++ config.searchFields))) _ :=
      leafMember_about isLeaf fun column leads => ⟨field, offered, leads⟩
    refine leaf.bind fun own ⟨one, about⟩ => ?_
    refine (ih confined.2).map fun others rest_about => ?_
    match own with
    | [] => exact rest_about
    | [single] =>
      rw [List.forall_mem_singleton] at about
      exact List.forall_mem_cons.mpr ⟨Condition.all_singleton_isAbout about, rest_about⟩
    | _ :: _ :: _ => simp at one

theorem entryConditions_confined {key : String} {v : Value}
    (confined : ConfinedEntry config (key, v)) :
    Ensures root (entryTokens key v)
      (fun found => ∀ condition ∈ found,
        condition.IsConfined (Reaches root (config.filterFields ++ config.searchFields)))
      (entryConditions root key v) := by
  have leaf : ∀ {field v}, field ∈ config.filterFields → IsLeaf v →
      Ensures root (entryTokens (FieldPath.token field) v)
        (AboutOne (Reaches root (config.filterFields ++ config.searchFields)))
        (entryConditions root (FieldPath.token field) v) :=
    fun {field v} offered isLeaf => leafEntry_about isLeaf fun column leads =>
      ⟨field, List.mem_append_left _ offered, leads⟩
  have alone : ∀ found, AboutOne (Reaches root (config.filterFields ++ config.searchFields)) found →
      ∀ condition ∈ found, condition.IsConfined _ :=
    fun found about condition mem => (about.about condition mem).isConfined
  cases confined with
  | equality offered scalar => exact (leaf offered (.equality scalar)).mono alone
  | comparison offered known scalar => exact (leaf offered (.operator scalar)).mono alone
  | group combinator confined =>
    simp only [entryTokens, entryConditions, ofKey?_key, Option.isSome_some, if_true]
    refine (clauseConditions_about confined).map fun found about => ?_
    unfold groupConditions
    split
    · simp
    · rw [List.forall_mem_singleton]
      exact Condition.combine_isConfined about combinator

theorem predicateConditions_confined {predicate : Members}
    (confined : ∀ entry ∈ predicate, ConfinedEntry config entry) :
    Ensures root (predicateTokens predicate)
      (fun found => ∀ condition ∈ found,
        condition.IsConfined (Reaches root (config.filterFields ++ config.searchFields)))
      (predicateConditions root predicate) := by
  induction predicate with
  | nil => exact Ensures.pure (by simp)
  | cons entry rest ih =>
    obtain ⟨key, v⟩ := entry
    rw [List.forall_mem_cons] at confined
    rw [predicateTokens, predicateConditions]
    refine (entryConditions_confined confined.1).bind fun own about => ?_
    exact (ih confined.2).map fun others rest_about =>
      List.forall_mem_append.mpr ⟨about, rest_about⟩

/-! ## Tokens of confined entries -/

theorem eq_of_mem_entryTokens {key token : String} {v : Value} (isLeaf : IsLeaf v)
    (follows : token ∈ entryTokens key v) : token = key := by
  cases grouped : Combinator.ofKey? key with
  | none =>
    rw [entryTokens_of_single grouped, List.mem_singleton] at follows
    exact follows
  | some combinator =>
    have none : entryTokens key v = [] := by
      cases isLeaf with
      | operator scalar => simp [entryTokens, grouped]
      | equality scalar => cases scalar <;> simp [entryTokens, grouped]
    rw [none] at follows
    cases follows

theorem token_of_clauses {clauses : List Value} {token : String}
    (confined : ∀ clause ∈ clauses, ConfinedClause config clause)
    (follows : token ∈ clauseTokens clauses) :
    ∃ field ∈ config.filterFields ++ config.searchFields, token = FieldPath.token field := by
  induction clauses with
  | nil => cases follows
  | cons clause rest ih =>
    rw [List.forall_mem_cons] at confined
    obtain ⟨field, offered, v, isLeaf, rfl⟩ := exists_leaf_of_clause confined.1
    rw [clauseTokens, predicateTokens, predicateTokens, List.append_nil] at follows
    rcases List.mem_append.mp follows with own | later
    · exact ⟨field, offered, eq_of_mem_entryTokens isLeaf own⟩
    · exact ih confined.2 later

theorem token_of_entry {key token : String} {v : Value} (confined : ConfinedEntry config (key, v))
    (follows : token ∈ entryTokens key v) :
    ∃ field ∈ config.filterFields ++ config.searchFields, token = FieldPath.token field := by
  cases confined with
  | equality offered scalar =>
    exact ⟨_, List.mem_append_left _ offered, eq_of_mem_entryTokens (.equality scalar) follows⟩
  | comparison offered known scalar =>
    exact ⟨_, List.mem_append_left _ offered, eq_of_mem_entryTokens (.operator scalar) follows⟩
  | group combinator confined =>
    rw [entryTokens_group] at follows
    exact token_of_clauses confined follows

end Plan

/-! ## Plans made from parameters -/

/-- A specification and its plan reach no further than the fields of a configuration. -/
structure Confined (config : ResourceConfig) (e : Entity) (spec : QuerySpec) (plan : Plan) :
    Prop where
  entries : ∀ entry ∈ spec.predicate, ConfinedEntry config entry
  clauses : ∀ clause ∈ spec.order, ∃ field ∈ config.sortFields,
    clause.field = FieldPath.token field
  conditions : ∀ condition ∈ plan.conditions,
    condition.IsConfined (Plan.Reaches e (config.filterFields ++ config.searchFields))
  order : ∀ key ∈ plan.order, Plan.Reaches e config.sortFields key.1
  joins : ∀ join ∈ plan.joins,
    ∃ field ∈ config.filterFields ++ config.searchFields ++ config.sortFields,
      join ∈ (resolve e (FieldPath.token field)).joins

theorem Confined.paginate {config : ResourceConfig} {e : Entity} {spec : QuerySpec} {plan : Plan}
    (confined : Confined config e spec plan) (p : Pagination) :
    Confined config e spec (plan.paginate p) :=
  ⟨confined.entries, confined.clauses, confined.conditions, confined.order, confined.joins⟩

/-- Whatever the parameters are, what they compile to and its plan are confined to the fields of the
    configuration, and so is every page of it. -/
theorem parameters_confined {params : Members} {config : ResourceConfig} {e : Entity}
    {compiled : CompiledQuery} {plan : Plan} (compiles : compileQuery params config = .ok compiled)
    (planned : Plan.ofSpec e compiled.spec = .ok plan) :
    Confined config e compiled.spec plan ∧
      Confined config e compiled.spec (plan.paginate compiled.spec.pagination) := by
  obtain ⟨search, filters, made, -⟩ := compileQuery_eq_ok_iff (r := ⟨e, config, _⟩).mp compiles
  have entries : ∀ entry ∈ compiled.spec.predicate, ConfinedEntry config entry := by
    rw [made.merged, Contribution.merged_pair]
    exact Members.forall_mem_write
      (Members.forall_mem_write (by simp) (Search.predicate_confined made.searched))
      (Filter.predicate_confined made.filtered)
  have clauses : ∀ clause ∈ compiled.spec.order, ∃ field ∈ config.sortFields,
      clause.field = FieldPath.token field :=
    fun clause mem => Sort.token_of_order made.ordered mem
  obtain ⟨conditions, plan_eq⟩ :=
    Plan.ofSpec_ensures (Plan.predicateConditions_confined entries) planned
  have order : ∀ key ∈ plan.order, Plan.Reaches e config.sortFields key.1 := by
    intro key mem
    rw [plan_eq] at mem
    obtain ⟨clause, sorts, leads⟩ := Plan.exists_clause_of_orderKeys mem
    obtain ⟨field, offered, same⟩ := clauses clause sorts
    exact ⟨field, offered, same ▸ leads⟩
  have joins : ∀ join ∈ plan.joins,
      ∃ field ∈ config.filterFields ++ config.searchFields ++ config.sortFields,
        join ∈ (resolve e (FieldPath.token field)).joins := by
    intro join mem
    rw [plan_eq] at mem
    have onWays := (Plan.mem_of_mem_addJoins mem).resolve_left List.not_mem_nil
    obtain ⟨token, follows, passed⟩ := Plan.mem_joinsOf.mp onWays
    rcases List.mem_append.mp follows with demanded | sorts
    · obtain ⟨key, v, entry, inEntry⟩ := Plan.mem_predicateTokens.mp demanded
      obtain ⟨field, offered, rfl⟩ := Plan.token_of_entry (entries _ entry) inEntry
      exact ⟨field, List.mem_append_left _ offered, passed⟩
    · obtain ⟨clause, inOrder, rfl⟩ := List.mem_map.mp sorts
      obtain ⟨field, offered, same⟩ := clauses clause inOrder
      exact ⟨field, List.mem_append_right _ offered, same ▸ passed⟩
  have confined : Confined config e compiled.spec plan :=
    ⟨entries, clauses, conditions, order, joins⟩
  exact ⟨confined, confined.paginate _⟩

/-- Parameters that ask for more than posts offer. -/
def hostileParameters : Members := Members.texts
  [("f_$user.email$", "x"), ("f_user.password", "x"), ("f_OR", "%$user.id$"), ("f_body", "x"),
    ("f_user.role", "||GTE"), ("f_views", ">=ILIKE"),
    ("sort", "user.id&-views&user.full_name-&$title$"), ("search", "$OR$")]

theorem hostile_parameters_confined : ∃ compiled plan,
    compileQuery hostileParameters .posts = .ok compiled ∧
      Plan.ofSpec .post compiled.spec = .ok plan ∧
      compiled.spec.predicate.keys = ["AND", "OR", "views"] ∧ plan.joins = [authorJoin] ∧
      Confined .posts .post compiled.spec plan := by
  have compiling : (compileQuery hostileParameters .posts).toOption.map
      (fun compiled => compiled.spec.predicate.keys) = some ["AND", "OR", "views"] := by
    decide +kernel
  have planning : ((compileQuery hostileParameters .posts).toOption.bind
      fun compiled => (Plan.ofSpec .post compiled.spec).toOption.map (·.joins)) =
        some [authorJoin] := by
    decide +kernel
  cases compiles : compileQuery hostileParameters .posts with
  | error fault =>
    rw [compiles] at compiling
    cases compiling
  | ok compiled =>
    rw [compiles] at compiling planning
    cases planned : Plan.ofSpec .post compiled.spec with
    | error fault =>
      rw [Except.toOption, Option.bind_some, planned] at planning
      cases planning
    | ok plan =>
      rw [Except.toOption, Option.bind_some, planned] at planning
      exact ⟨compiled, plan, rfl, planned, Option.some.inj compiling, Option.some.inj planning,
        (parameters_confined compiles planned).1⟩

end QueryDesk
