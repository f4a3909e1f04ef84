import QueryDesk.Proofs.Plan.Rearranged

/-!
# Properties of all conditions

A property that a group has just if its members have it is kept when conditions are joined. So all
conditions that planning gives have it, if what is demanded of each single column has it.
-/

namespace QueryDesk

namespace Condition

/-- A property that the impossible condition has, and a group just if its members have it. -/
structure Hereditary (property : Condition → Prop) : Prop where
  never : property .never
  group : ∀ combinator conditions,
    property (.group combinator conditions) ↔ ∀ c ∈ conditions, property c

namespace Hereditary

variable {property : Condition → Prop} {conditions : List Condition}

theorem membersIn (hereditary : Hereditary property) {c : Condition} (holds : property c)
    (combinator : Combinator) : ∀ m ∈ membersIn combinator c, property m := by
  have alone : ∀ m ∈ [c], property m := by simpa using holds
  cases c with
  | group own members =>
    simp only [Condition.membersIn]
    split
    · exact (hereditary.group own members).mp holds
    · exact alone
  | _ => exact alone

theorem grouped (hereditary : Hereditary property) (combinator : Combinator)
    (members : ∀ c ∈ conditions, property c) : property (grouped combinator conditions) := by
  unfold Condition.grouped
  split
  · exact members _ List.mem_cons_self
  · exact (hereditary.group combinator _).mpr members

/-- Joined conditions have the property of all of them. -/
theorem combine (hereditary : Hereditary property) (combinator : Combinator)
    (members : ∀ c ∈ conditions, property c) : property (combine combinator conditions) := by
  have flattened : ∀ {chosen : List Condition}, (∀ c ∈ chosen, c ∈ conditions) →
      ∀ m ∈ chosen.flatMap (Condition.membersIn combinator), property m := by
    intro chosen among m mem
    obtain ⟨c, isChosen, isMember⟩ := List.mem_flatMap.mp mem
    exact hereditary.membersIn (members c (among c isChosen)) combinator m isMember
  cases combinator with
  | all =>
    simp only [Condition.combine, all]
    split
    · exact hereditary.never
    · exact hereditary.grouped .all (flattened fun c mem => mem)
  | any =>
    simp only [Condition.combine, any]
    split
    · exact hereditary.never
    · exact hereditary.grouped .any (flattened fun c mem => List.mem_of_mem_filter mem)

end Hereditary

end Condition

namespace Plan

open Condition

variable {root : Entity} {property : Condition → Prop}

/-- Planning comes through, with conditions that have a property. -/
def Gives (property : Condition → Prop) (given : Except PlanFault (List Condition)) : Prop :=
  ∃ conditions, given = .ok conditions ∧ ∀ c ∈ conditions, property c

theorem Gives.nil : Gives property (.ok []) :=
  ⟨[], rfl, fun _ mem => absurd mem List.not_mem_nil⟩

theorem Gives.singleton {c : Condition} (holds : property c) : Gives property (.ok [c]) :=
  ⟨[c], rfl, by simpa using holds⟩

theorem Gives.gathered {α : Type} {give : α → Except PlanFault (List Condition)} {as : List α}
    (each : ∀ a ∈ as, Gives property (give a)) : Gives property (gathered give as) := by
  refine ⟨_, gathered_eq_ok_iff.mpr ⟨fun a mem => ?_, rfl⟩, fun c mem => ?_⟩
  · obtain ⟨own, given, -⟩ := each a mem
    exact ⟨own, given⟩
  · obtain ⟨a, among, inOwn⟩ := List.mem_flatMap.mp mem
    obtain ⟨own, given, holds⟩ := each a among
    rw [given] at inOwn
    exact holds c inOwn

theorem leaf_of_resolves {e : Entity} {token : String} {joins : List Join} {c : ColumnRef}
    (resolves : resolve e token = ⟨joins, some c⟩)
    (demand : ColumnRef → Planning (List Condition)) (w : Walk) :
    (leaf e token demand).run w = (demand c).run { w with joins := addJoins w.joins joins } := by
  unfold leaf visit
  rw [resolves]
  rfl

/-- A leaf is passed over, or it is one condition on the column to which its token leads. -/
theorem Gives.leaf {token : String} {demand : ColumnRef → Planning (List Condition)}
    (demands : ∀ column, (resolve root token).column? = some column → ∀ w, ∃ c,
      (demand column).run w = .ok ([c], w) ∧ property c) :
    Gives property (found (leaf root token demand)) := by
  unfold found
  cases resolves : resolve root token with
  | mk joins column? =>
    cases column? with
    | none =>
      have skipped : ((Plan.leaf root token demand).run {}).map Prod.fst = .ok [] := by
        unfold Plan.leaf visit
        rw [resolves]
        rfl
      rw [skipped]
      exact .nil
    | some column =>
      obtain ⟨c, ran, holds⟩ := demands column (by rw [resolves]) { joins := addJoins [] joins }
      rw [leaf_of_resolves resolves, ran]
      exact .singleton holds

/-- A clause of one entry gives what its entry does. -/
theorem Gives.clause (hereditary : Hereditary property) {token : String} {v : Value}
    (entry : Gives property (found (entryConditions root token v))) :
    Gives property (clauseCondition root (.object [(token, v)])) := by
  have own : Gives property (found (predicateConditions root [(token, v)])) := by
    rw [found_predicate]
    refine .gathered fun member mem => ?_
    obtain rfl := List.mem_singleton.mp mem
    exact entry
  obtain ⟨conditions, given, holds⟩ := own
  have made : clauseCondition root (.object [(token, v)]) =
      .ok (if conditions.isEmpty then [] else [.all conditions]) := by
    rw [clauseCondition, given]
    rfl
  rw [made]
  split
  · exact .nil
  · exact .singleton (hereditary.combine .all holds)

theorem Gives.group (hereditary : Hereditary property) {combinator : Combinator}
    {items : List Value} (clauses : ∀ item ∈ items, Gives property (clauseCondition root item)) :
    Gives property (found (entryConditions root combinator.key (.list items))) := by
  obtain ⟨conditions, given, holds⟩ := Gives.gathered clauses
  have made : found (entryConditions root combinator.key (.list items)) =
      .ok (groupConditions combinator conditions) := by
    rw [entryConditions, ofKey?_key]
    refine (found_map _ _).trans ?_
    rw [found_clauses, given]
    rfl
  rw [made, groupConditions]
  split
  · exact .nil
  · exact .singleton (hereditary.combine combinator holds)

/-- A specification is planned with the conditions of its predicate. -/
theorem Gives.planned {spec : QuerySpec}
    (gives : Gives property (found (predicateConditions root spec.predicate))) :
    ∃ plan, ofSpec root spec = .ok plan ∧ ∀ c ∈ plan.conditions, property c := by
  obtain ⟨conditions, given, holds⟩ := gives
  rw [← ofSpec_conditions] at given
  obtain ⟨plan, planned, rfl⟩ := map_eq_ok_iff.mp given
  exact ⟨plan, planned, holds⟩

end Plan

end QueryDesk
