import QueryDesk.Proofs.Plan.Planned
import QueryDesk.Proofs.Store.Joined
import QueryDesk.Store.Operand

/-!
# The joins of plans

A plan joins what lies on the ways of its tokens, each path once. Associations only lead from users
to posts and back, so a plan that reads no table twice has one join at most, and that join leads on
from the entity of the plan.
-/

namespace QueryDesk

namespace Plan

/-! ## Collecting joins -/

theorem addJoins_cons (joined more : List Join) (join : Join) :
    addJoins joined (join :: more) = addJoins (if joined.any (·.path == join.path) then joined
      else joined ++ [join]) more := rfl

theorem prefix_addJoins (joined more : List Join) : joined <+: addJoins joined more := by
  induction more generalizing joined with
  | nil => exact List.prefix_rfl
  | cons join rest ih =>
    rw [addJoins_cons]
    split
    · exact ih joined
    · exact (List.prefix_append joined [join]).trans (ih _)

theorem mem_of_mem_addJoins {joined more : List Join} {join : Join}
    (mem : join ∈ addJoins joined more) : join ∈ joined ∨ join ∈ more := by
  induction more generalizing joined with
  | nil => exact .inl mem
  | cons first rest ih =>
    rw [addJoins_cons] at mem
    rcases ih mem with before | after
    · split at before
      · exact .inl before
      · rcases List.mem_append.mp before with before | added
        · exact .inl before
        · exact .inr (List.mem_singleton.mp added ▸ List.mem_cons_self)
    · exact .inr (List.mem_cons_of_mem first after)

theorem exists_path_of_mem {joined more : List Join} {join : Join} (mem : join ∈ more) :
    ∃ other ∈ addJoins joined more, other.path = join.path := by
  induction more generalizing joined with
  | nil => cases mem
  | cons first rest ih =>
    rw [addJoins_cons]
    rcases List.mem_cons.mp mem with rfl | later
    · split
      · rename_i present
        obtain ⟨other, inJoined, same⟩ := List.any_eq_true.mp present
        exact ⟨other, (prefix_addJoins joined rest).subset inJoined, by simpa using same⟩
      · exact ⟨join, (prefix_addJoins _ rest).subset (by simp), rfl⟩
    · exact ih later

theorem addJoins_of_known {joined more : List Join}
    (known : ∀ join ∈ more, ∃ other ∈ joined, other.path = join.path) :
    addJoins joined more = joined := by
  induction more with
  | nil => rfl
  | cons first rest ih =>
    obtain ⟨other, mem, same⟩ := known first List.mem_cons_self
    have present : joined.any (·.path == first.path) = true :=
      List.any_eq_true.mpr ⟨other, mem, by simpa using same⟩
    rw [addJoins_cons, if_pos present]
    exact ih fun join later => known join (List.mem_cons_of_mem first later)

theorem addJoins_eq_nil_iff {joins : List Join} : addJoins [] joins = [] ↔ joins = [] := by
  cases joins with
  | nil => exact iff_of_true rfl rfl
  | cons first rest =>
    obtain ⟨more, begins⟩ := prefix_addJoins [first] rest
    have joined : addJoins [] (first :: rest) = first :: more := begins.symm
    simp [joined]

/-! ## The ways of tokens -/

theorem mem_joinsOf {root : Entity} {tokens : List String} {join : Join} :
    join ∈ joinsOf root tokens ↔ ∃ token ∈ tokens, join ∈ (resolve root token).joins :=
  List.mem_flatMap

/-- The first association of a way leads on from its beginning. -/
theorem head_follow (path : List String) {e : Entity} {names : List String} {join : Join}
    {rest : List Join} (way : (follow path e names).joins = join :: rest) :
    ∃ name a, e.association? name = some a ∧ join = ⟨path ++ [name], a⟩ := by
  match names with
  | [] => cases way
  | [_] => cases way
  | name :: next :: others =>
    unfold follow at way
    cases found : e.association? name with
    | none =>
      rw [found] at way
      cases way
    | some a =>
      rw [found] at way
      exact ⟨name, a, found, (List.cons.inj way).1.symm⟩

theorem head_joinsOf {root : Entity} {tokens : List String} {join : Join} {rest : List Join}
    (ways : joinsOf root tokens = join :: rest) :
    ∃ name a, root.association? name = some a ∧ join = ⟨[name], a⟩ := by
  induction tokens with
  | nil => cases ways
  | cons token others ih =>
    rw [joinsOf, List.flatMap_cons, ← joinsOf] at ways
    cases way : (resolve root token).joins with
    | nil =>
      rw [way, List.nil_append] at ways
      exact ih ways
    | cons first more =>
      rw [way, List.cons_append] at ways
      obtain ⟨name, a, found, same⟩ := head_follow [] way
      exact ⟨name, a, found, (List.cons.inj ways).1 ▸ same⟩

/-- Where no association is passed, the column at the end is one of the beginning. -/
theorem entity_of_no_joins {path : List String} {e : Entity} {names : List String} {c : ColumnRef}
    (way : (follow path e names).joins = []) (leads : (follow path e names).column? = some c) :
    c.entity = e := by
  match names with
  | [] => cases leads
  | [name] =>
    obtain ⟨column, -, rfl⟩ := Option.map_eq_some_iff.mp leads
    rfl
  | name :: next :: others =>
    unfold follow at way leads
    cases found : e.association? name with
    | none =>
      rw [found] at leads
      cases leads
    | some a =>
      rw [found] at way
      cases way

/-! ## Plans that read no table twice -/

/-- Users and posts are the entities that associations connect. -/
def isConnected (e : Entity) : Prop :=
  e = .user ∨ e = .post

theorem connected_of_association {e : Entity} {name : String} {a : Association}
    (found : e.association? name = some a) : isConnected e ∧ isConnected a.target := by
  have mem := List.mem_of_find?_eq_some found
  unfold isConnected
  cases e with
  | user => simp_all [Entity.associations]
  | post => simp_all [Entity.associations]
  | otpSession => simp [Entity.associations] at mem

theorem connected_of_follow {path : List String} {e : Entity} {names : List String} {join : Join}
    (mem : join ∈ (follow path e names).joins) : isConnected join.association.target := by
  induction names generalizing path e with
  | nil => cases mem
  | cons name rest ih =>
    cases rest with
    | nil => cases mem
    | cons next others =>
      unfold follow at mem
      cases found : e.association? name with
      | none =>
        rw [found] at mem
        cases mem
      | some a =>
        rw [found] at mem
        rcases List.mem_cons.mp mem with rfl | later
        · exact (connected_of_association found).2
        · exact ih later

/-- Tokens whose joins read no table twice have one join at most, from the root on. -/
theorem addJoins_cases {root : Entity} {tokens : List String}
    (distinct : (root :: (addJoins [] (joinsOf root tokens)).map (·.association.target)).Nodup) :
    addJoins [] (joinsOf root tokens) = [] ∨
      ∃ name a, root.association? name = some a ∧
        addJoins [] (joinsOf root tokens) = [⟨[name], a⟩] := by
  cases ways : joinsOf root tokens with
  | nil => exact .inl rfl
  | cons first rest =>
    obtain ⟨name, a, found, rfl⟩ := head_joinsOf ways
    refine .inr ⟨name, a, found, ?_⟩
    obtain ⟨more, begins⟩ := prefix_addJoins [⟨[name], a⟩] rest
    have joined : addJoins [] (⟨[name], a⟩ :: rest) = ⟨[name], a⟩ :: more := begins.symm
    rw [joined]
    cases more with
    | nil => rfl
    | cons second others =>
      -- Three distinct tables would have to be among two.
      have fromWays : second ∈ joinsOf root tokens := by
        have mem : second ∈ addJoins [] (⟨[name], a⟩ :: rest) := by simp [joined]
        rw [ways]
        exact (mem_of_mem_addJoins mem).resolve_left (by simp)
      obtain ⟨token, -, onWay⟩ := mem_joinsOf.mp fromWays
      have third := connected_of_follow onWay
      obtain ⟨zeroth, next⟩ := connected_of_association found
      rw [ways, joined] at distinct
      rcases zeroth with rfl | rfl <;> rcases next with next | next <;>
        rcases third with third | third <;> simp [next, third] at distinct

variable {root : Entity} {spec : QuerySpec} {plan : Plan}

theorem Planned.joins_cases (planned : Planned root spec plan)
    (distinct : plan.hasDistinctTables = true) : plan.joins = [] ∨
      ∃ name a, root.association? name = some a ∧ plan.joins = [⟨[name], a⟩] := by
  have tables : plan.entities.Nodup := of_decide_eq_true distinct
  rw [entities, planned.entity, planned.joins] at tables
  rw [planned.joins]
  exact addJoins_cases tables

theorem Planned.length_joins (planned : Planned root spec plan)
    (distinct : plan.hasDistinctTables = true) : plan.joins.length ≤ 1 := by
  rcases planned.joins_cases distinct with none | ⟨name, a, -, joined⟩
  · simp [none]
  · simp [joined]

/-- A specification that follows some of the tokens of another one joins the same, or nothing. -/
theorem Planned.joins_of_fewer {spec' : QuerySpec} {plan' : Plan} (planned : Planned root spec plan)
    (planned' : Planned root spec' plan')
    (fewer : ∀ token ∈ specTokens spec', token ∈ specTokens spec)
    (distinct : plan.hasDistinctTables = true) :
    plan'.joins = plan.joins ∨ (joinsOf root (specTokens spec') = [] ∧ plan'.joins = []) := by
  cases ways : joinsOf root (specTokens spec') with
  | nil => exact .inr ⟨rfl, by rw [planned'.joins, ways]; rfl⟩
  | cons first rest =>
    -- The only join of the plan has the path of every join of the other one.
    have known : ∀ join ∈ first :: rest, ∃ other ∈ plan.joins, other.path = join.path := by
      intro join mem
      rw [← ways] at mem
      obtain ⟨token, follows, onWay⟩ := mem_joinsOf.mp mem
      rw [planned.joins]
      exact exists_path_of_mem (mem_joinsOf.mpr ⟨token, fewer token follows, onWay⟩)
    obtain ⟨name', a', found', rfl⟩ := head_joinsOf ways
    obtain ⟨other, mem, same⟩ := known _ List.mem_cons_self
    rcases planned.joins_cases distinct with none | ⟨name, a, found, joined⟩
    · rw [none] at mem
      cases mem
    · rw [joined] at mem known ⊢
      obtain rfl := List.mem_singleton.mp mem
      obtain rfl : name = name' := by simpa using same
      obtain rfl : a = a' := Option.some.inj (found.symm.trans found')
      refine .inl ?_
      rw [planned'.joins, ways]
      exact addJoins_of_known fun join later => known join (List.mem_cons_of_mem _ later)

theorem hasDistinctTables_of_fault? (sound : plan.fault? = none) :
    plan.hasDistinctTables = true := by
  unfold fault? at sound
  split at sound
  · cases sound
  · split at sound
    · cases sound
    · rename_i distinct
      simpa using distinct

/-! ## Associations with one row at most -/

end Plan

/-- Each row has one associated row at most, since the association asks for a key. -/
def Association.isToOne (a : Association) : Bool :=
  a.targetColumn == "id"

namespace Plan

variable {root : Entity} {spec : QuerySpec} {plan : Plan}

theorem authorJoin_of_toOne {name : String} {a : Association}
    (found : root.association? name = some a) (single : a.isToOne = true) :
    root = .post ∧ (⟨[name], a⟩ : Join) = authorJoin := by
  have mem := List.mem_of_find?_eq_some found
  have called : a.name = name := by simpa using List.find?_some found
  cases root with
  | user =>
    obtain rfl := List.mem_singleton.mp mem
    cases single
  | post =>
    obtain rfl := List.mem_singleton.mp mem
    obtain rfl := called
    exact ⟨rfl, rfl⟩
  | otpSession => cases mem

/-- A plan that reads no table twice and joins one row at most to each reads its entity, or posts
    with their authors. -/
theorem Planned.reads_of_toOne (planned : Planned root spec plan)
    (distinct : plan.hasDistinctTables = true)
    (single : ∀ join ∈ plan.joins, join.association.isToOne = true) : Reads plan root := by
  refine ⟨planned.entity, ?_⟩
  rcases planned.joins_cases distinct with none | ⟨name, a, found, joined⟩
  · exact .inl none
  · rw [joined, List.forall_mem_singleton] at single
    obtain ⟨isPost, same⟩ := authorJoin_of_toOne found single
    exact .inr ⟨isPost, by rw [joined, same]⟩

/-! ## Rows that are joined alike -/

variable {plan' : Plan}

theorem joinedRows_congr (db : Database) (entity : plan'.entity = plan.entity)
    (joins : plan'.joins = plan.joins) : joinedRows db plan' = joinedRows db plan := by
  rw [joinedRows, joinedRows, entity, joins]

/-- Plans that join, accept and order rows alike give the same rows. -/
theorem results_congr (db : Database) (entity : plan'.entity = plan.entity)
    (joins : plan'.joins = plan.joins) (order : plan'.order = plan.order)
    (accept : ∀ row, accepts plan' row = accepts plan row) :
    selected db plan' = selected db plan ∧
      ∀ p, run db (plan'.paginate p) = run db (plan.paginate p) := by
  have selected_eq : selected db plan' = selected db plan := by
    rw [selected, selected, joinedRows_congr db entity joins, funext accept]
  have inOrder_eq : inOrder plan' = inOrder plan := by
    funext row other
    rw [inOrder, inOrder, order]
  have sorted_eq : sorted db plan' = sorted db plan := by
    rw [sorted, sorted, selected_eq, inOrder_eq]
  refine ⟨selected_eq, fun p => ?_⟩
  have part_eq : ∀ rows : List JoinedRow, part (plan'.paginate p) rows =
      part (plan.paginate p) rows := fun _ => rfl
  have sorted_page : ∀ plan : Plan, sorted db (plan.paginate p) = sorted db plan := fun _ => rfl
  rw [run, run, sorted_page, sorted_page, sorted_eq, part_eq]

/-- Cells of the plan's own entity are there whatever else is joined. -/
theorem agree_extended (db : Database) {tokens : List String} (unjoined : joinsOf root tokens = [])
    (joins joins' : List Join) (row : Row) :
    Agree root tokens (extended db root joins row).cell (extended db root joins' row).cell := by
  intro token mem c leads
  have noJoins : (resolve root token).joins = [] :=
    List.flatMap_eq_nil_iff.mp unjoined token mem
  have own : c.entity = root := entity_of_no_joins noJoins leads
  simp [extended, JoinedRow.cell, own]

end Plan

end QueryDesk
