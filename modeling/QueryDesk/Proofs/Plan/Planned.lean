import QueryDesk.Proofs.Plan.Meaning
import QueryDesk.Proofs.Steps

/-!
# Plans of specifications

What the plan of a specification joins, demands and sorts by, read off the specification. The
demands depend on a row only by the cells of the columns at the end of the tokens.
-/

namespace QueryDesk.Plan

/-- The columns with directions that an order sorts by; what leads to no column is passed over. -/
def orderKeys (root : Entity) (order : List OrderClause) : List (ColumnRef × Direction) :=
  order.flatMap fun clause => ((resolve root clause.field).column?.map (·, clause.direction)).toList

theorem orderColumns_ensures (root : Entity) (order : List OrderClause) :
    Ensures root (order.map (·.field)) (· = orderKeys root order) (orderColumns root order) := by
  induction order with
  | nil => exact Ensures.pure rfl
  | cons clause rest ih =>
    refine (Ensures.visit clause.field).bind fun column? leads => ?_
    refine ih.map fun others same => ?_
    rw [same, leads]
    rfl

theorem ofKey?_of_apart {token : String} (apart : ∀ combinator : Combinator,
    token ≠ combinator.key) : Combinator.ofKey? token = none := by
  have not_and : token ≠ "AND" := apart .all
  have not_or : token ≠ "OR" := apart .any
  rw [Combinator.ofKey?, if_neg not_and, if_neg not_or]

theorem ofKey?_key (combinator : Combinator) :
    Combinator.ofKey? combinator.key = some combinator := by
  cases combinator <;> rfl

theorem eq_key_of_ofKey? {key : String} {combinator : Combinator}
    (grouped : Combinator.ofKey? key = some combinator) : key = combinator.key := by
  unfold Combinator.ofKey? at grouped
  split at grouped
  · cases grouped
    assumption
  · split at grouped
    · cases grouped
      assumption
    · cases grouped

theorem entryTokens_of_single {key : String} (single : Combinator.ofKey? key = none) (v : Value) :
    entryTokens key v = [key] := by
  cases v <;> simp [entryTokens, single]

theorem entryTokens_group (combinator : Combinator) (items : List Value) :
    entryTokens combinator.key (.list items) = clauseTokens items := by
  rw [entryTokens, ofKey?_key, Option.isSome_some, if_pos rfl]

theorem mem_predicateTokens {token : String} {members : Members} :
    token ∈ predicateTokens members ↔ ∃ key v, (key, v) ∈ members ∧ token ∈ entryTokens key v := by
  induction members with
  | nil => simp [predicateTokens]
  | cons member rest ih =>
    obtain ⟨key, v⟩ := member
    rw [predicateTokens, List.mem_append, ih]
    constructor
    · rintro (first | ⟨key', v', mem, follows⟩)
      · exact ⟨key, v, List.mem_cons_self, first⟩
      · exact ⟨key', v', List.mem_cons_of_mem _ mem, follows⟩
    · rintro ⟨key', v', mem, follows⟩
      rcases List.mem_cons.mp mem with same | later
      · cases same
        exact .inl follows
      · exact .inr ⟨key', v', later, follows⟩

/-- The tokens that planning a specification follows, in order. -/
def specTokens (spec : QuerySpec) : List String :=
  predicateTokens spec.predicate ++ spec.order.map (·.field)

theorem exists_clause_of_orderKeys {root : Entity} {order : List OrderClause}
    {key : ColumnRef × Direction} (mem : key ∈ orderKeys root order) :
    ∃ clause ∈ order, (resolve root clause.field).column? = some key.1 := by
  obtain ⟨clause, inOrder, found⟩ := List.mem_flatMap.mp mem
  refine ⟨clause, inOrder, ?_⟩
  obtain ⟨column, leads, rfl⟩ := Option.map_eq_some_iff.mp (Option.mem_toList.mp found)
  exact leads

/-- The steps of planning a specification, which find its conditions and its sort keys. -/
def steps (root : Entity) (spec : QuerySpec) :
    Planning (List Condition × List (ColumnRef × Direction)) := do
  let conditions ← predicateConditions root spec.predicate
  let order ← orderColumns root spec.order
  return (conditions, order)

theorem ofSpec_eq_ok_iff {root : Entity} {spec : QuerySpec} {plan : Plan} :
    ofSpec root spec = .ok plan ↔ ∃ found walk, (steps root spec).run {} = .ok (found, walk) ∧
      plan = { entity := root, joins := walk.joins, conditions := found.1, order := found.2,
               log := walk.log } := by
  have planning : ofSpec root spec = (steps root spec).run {} >>= fun result =>
      .ok { entity := root, joins := result.2.joins, conditions := result.1.1,
            order := result.1.2, log := result.2.log } := rfl
  rw [planning, bind_eq_ok_iff]
  constructor
  · rintro ⟨⟨found, walk⟩, ran, made⟩
    exact ⟨found, walk, ran, (Except.ok.inj made).symm⟩
  · rintro ⟨found, walk, ran, rfl⟩
    exact ⟨⟨found, walk⟩, ran, rfl⟩

/-- What planning ensures of the conditions of a predicate holds of the conditions of the plan. -/
theorem ofSpec_ensures {root : Entity} {spec : QuerySpec} {plan : Plan}
    {property : List Condition → Prop}
    (ensures : Ensures root (predicateTokens spec.predicate) property
      (predicateConditions root spec.predicate)) (planned : ofSpec root spec = .ok plan) :
    property plan.conditions ∧
      plan = { entity := root, joins := addJoins [] (joinsOf root (specTokens spec)),
               conditions := plan.conditions, order := orderKeys root spec.order,
               log := plan.log } := by
  have both : Ensures root (specTokens spec)
      (fun found => property found.1 ∧ found.2 = orderKeys root spec.order) (steps root spec) :=
    ensures.bind fun conditions holds =>
      (orderColumns_ensures root spec.order).map fun order same => ⟨holds, same⟩
  obtain ⟨found, walk, ran, rfl⟩ := ofSpec_eq_ok_iff.mp planned
  obtain ⟨joined, holds, sorted⟩ := both _ _ _ ran
  dsimp only at joined
  exact ⟨holds, by rw [joined, sorted]⟩

/-- The plan is that of a specification, but for its page and its log. -/
structure Planned (root : Entity) (spec : QuerySpec) (plan : Plan) : Prop where
  entity : plan.entity = root
  joins : plan.joins = addJoins [] (joinsOf root (specTokens spec))
  truths : HasTruths (fun cells => predicateTruths cells root spec.predicate) plan.conditions
  order : plan.order = orderKeys root spec.order
  limit : plan.limit = none
  offset : plan.offset = none

theorem ofSpec_planned {root : Entity} {spec : QuerySpec} {plan : Plan}
    (planned : ofSpec root spec = .ok plan) : Planned root spec plan := by
  obtain ⟨truths, made⟩ := ofSpec_ensures (predicate_ensures root spec.predicate) planned
  rw [made]
  exact ⟨rfl, rfl, truths, rfl, rfl, rfl⟩

/-- A plan accepts a row just if all truths of its predicate are true on it. -/
theorem Planned.accepts_iff {root : Entity} {spec : QuerySpec} {plan : Plan}
    (planned : Planned root spec plan) (row : JoinedRow) :
    accepts plan row = true ↔
      ∀ t ∈ predicateTruths row.cell root spec.predicate, t = some true := by
  rw [accepts, beq_iff_eq, Condition.groupTruth_eq, planned.truths row, Truth.joined_all_iff]

/-! ## Which cells matter -/

/-- Cells agree on the columns at the end of tokens. -/
def Agree (root : Entity) (tokens : List String) (cells others : ColumnRef → Cell) : Prop :=
  ∀ token ∈ tokens, ∀ column, (resolve root token).column? = some column →
    cells column = others column

theorem Agree.mono {root : Entity} {tokens fewer : List String} {cells others : ColumnRef → Cell}
    (agree : Agree root tokens cells others) (subset : ∀ token ∈ fewer, token ∈ tokens) :
    Agree root fewer cells others :=
  fun token mem => agree token (subset token mem)

theorem leafTruths_congr {root : Entity} {token : String} {cells others : ColumnRef → Cell}
    (agree : Agree root [token] cells others) (truths : ColumnRef → Cell → List Truth) :
    leafTruths root token (fun column => truths column (cells column)) =
      leafTruths root token (fun column => truths column (others column)) := by
  unfold leafTruths
  cases leads : (resolve root token).column? with
  | none => rfl
  | some column =>
    simp only [Option.elim]
    rw [agree token List.mem_cons_self column leads]

mutual

theorem entryTruths_congr {root : Entity} {key : String} {cells others : ColumnRef → Cell}
    (value : Value) (agree : Agree root (entryTokens key value) cells others) :
    entryTruths cells root key value = entryTruths others root key value := by
  cases value with
  | list items =>
    cases grouped : Combinator.ofKey? key with
    | some combinator =>
      simp only [entryTokens, entryTruths, grouped, Option.isSome_some, if_true] at agree ⊢
      rw [clauseTruths_congr items agree]
    | none =>
      simp only [entryTokens, entryTruths, grouped] at agree ⊢
      exact leafTruths_congr agree fun column cell => [equalityTruth column cell (.list items)]
  | tuple items =>
    cases grouped : Combinator.ofKey? key with
    | some combinator =>
      simp only [entryTokens, entryTruths, grouped, Option.isSome_some, if_true] at agree ⊢
      rw [clauseTruths_congr items agree]
    | none =>
      simp only [entryTokens, entryTruths, grouped] at agree ⊢
      exact leafTruths_congr agree fun column cell => [equalityTruth column cell (.tuple items)]
  | object members =>
    cases grouped : Combinator.ofKey? key with
    | some combinator => simp only [entryTruths, grouped]
    | none =>
      simp only [entryTokens, entryTruths, grouped] at agree ⊢
      exact leafTruths_congr agree fun column cell => operatorTruths column cell members
  | _ =>
    cases grouped : Combinator.ofKey? key with
    | some combinator => simp only [entryTruths, grouped]
    | none =>
      simp only [entryTokens, entryTruths, grouped] at agree ⊢
      exact leafTruths_congr agree fun column cell => [equalityTruth column cell _]

theorem clauseTruths_congr {root : Entity} {cells others : ColumnRef → Cell}
    (items : List Value) (agree : Agree root (clauseTokens items) cells others) :
    clauseTruths cells root items = clauseTruths others root items := by
  cases items with
  | nil => rfl
  | cons item rest =>
    cases item with
    | object members =>
      simp only [clauseTokens, clauseTruths] at agree ⊢
      rw [predicateTruths_congr members (agree.mono fun _ => List.mem_append_left _),
        clauseTruths_congr rest (agree.mono fun _ => List.mem_append_right _)]
    | _ =>
      simp only [clauseTokens, clauseTruths] at agree ⊢
      exact clauseTruths_congr rest agree

/-- The truths of a predicate depend only on the cells of the columns that its tokens lead to. -/
theorem predicateTruths_congr {root : Entity} {cells others : ColumnRef → Cell}
    (members : List (String × Value)) (agree : Agree root (predicateTokens members) cells others) :
    predicateTruths cells root members = predicateTruths others root members := by
  cases members with
  | nil => rfl
  | cons member rest =>
    obtain ⟨key, value⟩ := member
    simp only [predicateTokens, predicateTruths] at agree ⊢
    rw [entryTruths_congr value (agree.mono fun _ => List.mem_append_left _),
      predicateTruths_congr rest (agree.mono fun _ => List.mem_append_right _)]

end

end QueryDesk.Plan
