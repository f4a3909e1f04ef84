import QueryDesk.Store.Select

/-!
# Truths of conditions

`Condition.all` and `Condition.any` rearrange the conditions that they join. The truth of what comes
out is nevertheless the truths of the parts joined, null included.
-/

namespace QueryDesk

open Condition

/-- Truths joined, from left to right. -/
def Truth.joined (combinator : Combinator) (truths : List Truth) : Truth :=
  truths.foldr (joinTruth combinator) (emptyTruth combinator)

namespace Truth

theorem join_assoc (combinator : Combinator) (a b c : Truth) :
    joinTruth combinator (joinTruth combinator a b) c =
      joinTruth combinator a (joinTruth combinator b c) := by
  cases combinator <;> rcases a with _ | _ | _ <;> rcases b with _ | _ | _ <;>
    rcases c with _ | _ | _ <;> rfl

theorem empty_join (combinator : Combinator) (a : Truth) :
    joinTruth combinator (emptyTruth combinator) a = a := by
  cases combinator <;> rcases a with _ | _ | _ <;> rfl

theorem join_empty (combinator : Combinator) (a : Truth) :
    joinTruth combinator a (emptyTruth combinator) = a := by
  cases combinator <;> rcases a with _ | _ | _ <;> rfl

theorem joined_cons (combinator : Combinator) (t : Truth) (ts : List Truth) :
    joined combinator (t :: ts) = joinTruth combinator t (joined combinator ts) := rfl

theorem joined_append (combinator : Combinator) (ts us : List Truth) :
    joined combinator (ts ++ us) =
      joinTruth combinator (joined combinator ts) (joined combinator us) := by
  induction ts with
  | nil => exact (empty_join combinator _).symm
  | cons t ts ih => rw [List.cons_append, joined_cons, ih, joined_cons, join_assoc]

theorem joined_singleton (combinator : Combinator) (t : Truth) :
    joined combinator [t] = t :=
  join_empty combinator t

theorem and_eq_true {a b : Truth} : and a b = some true ↔ a = some true ∧ b = some true := by
  rcases a with _ | _ | _ <;> rcases b with _ | _ | _ <;> decide

theorem or_eq_true {a b : Truth} : or a b = some true ↔ a = some true ∨ b = some true := by
  rcases a with _ | _ | _ <;> rcases b with _ | _ | _ <;> decide

/-- A conjunction is true just if all its members are. -/
theorem joined_all_iff {truths : List Truth} :
    joined .all truths = some true ↔ ∀ t ∈ truths, t = some true := by
  induction truths with
  | nil => exact iff_of_true rfl (by simp)
  | cons t ts ih =>
    rw [joined_cons, List.forall_mem_cons, ← ih]
    exact and_eq_true

/-- A disjunction is true just if some member is. -/
theorem joined_any_iff {truths : List Truth} :
    joined .any truths = some true ↔ some true ∈ truths := by
  induction truths with
  | nil => exact iff_of_false (by decide) (by simp)
  | cons t ts ih =>
    rw [joined_cons, List.mem_cons, ← ih, eq_comm (a := some true)]
    exact or_eq_true

theorem joined_all_of_false {truths : List Truth} (mem : some false ∈ truths) :
    joined .all truths = some false := by
  induction truths with
  | nil => cases mem
  | cons t ts ih =>
    rw [joined_cons]
    rcases List.mem_cons.mp mem with rfl | later
    · rcases joined .all ts with _ | _ | _ <;> rfl
    · rw [ih later]
      rcases t with _ | _ | _ <;> rfl

end Truth

namespace Condition

open Truth

theorem groupTruth_eq (row : JoinedRow) (combinator : Combinator) (conditions : List Condition) :
    groupTruth row combinator conditions = joined combinator (conditions.map (truth row)) := by
  induction conditions with
  | nil => simp only [groupTruth, List.map_nil, joined, List.foldr_nil]
  | cons condition rest ih => simp only [groupTruth, List.map_cons, joined_cons, ih]

theorem truth_group (row : JoinedRow) (combinator : Combinator) (conditions : List Condition) :
    truth row (group combinator conditions) =
      joined combinator (conditions.map (truth row)) := by
  rw [truth, groupTruth_eq]

theorem truth_grouped (row : JoinedRow) (combinator : Combinator) (conditions : List Condition) :
    truth row (grouped combinator conditions) =
      joined combinator (conditions.map (truth row)) := by
  unfold grouped
  split
  · exact (joined_singleton combinator _).symm
  · exact truth_group row combinator conditions

theorem joined_membersIn (row : JoinedRow) (combinator : Combinator) (condition : Condition) :
    joined combinator ((membersIn combinator condition).map (truth row)) = truth row condition := by
  cases condition with
  | group own conditions =>
    simp only [membersIn]
    split
    · rename_i same
      rw [same, truth_group]
    · exact joined_singleton combinator _
  | _ => exact joined_singleton combinator _

theorem joined_flatMap_membersIn (row : JoinedRow) (combinator : Combinator)
    (conditions : List Condition) :
    joined combinator ((conditions.flatMap (membersIn combinator)).map (truth row)) =
      joined combinator (conditions.map (truth row)) := by
  induction conditions with
  | nil => rfl
  | cons condition rest ih =>
    rw [List.flatMap_cons, List.map_append, joined_append, joined_membersIn, ih, List.map_cons,
      joined_cons]

theorem truth_of_isNever (row : JoinedRow) {condition : Condition}
    (impossible : condition.isNever = true) : truth row condition = some false := by
  cases condition with
  | never => rw [truth]
  | _ => cases impossible

/-- The truth of `all`: an impossible member makes the whole false. -/
theorem truth_all (row : JoinedRow) (conditions : List Condition) :
    truth row (all conditions) = joined .all (conditions.map (truth row)) := by
  unfold all
  split
  · rename_i impossible
    obtain ⟨condition, mem, isNever⟩ := List.any_eq_true.mp impossible
    have mem_false : some false ∈ conditions.map (truth row) :=
      List.mem_map.mpr ⟨condition, mem, truth_of_isNever row isNever⟩
    rw [joined_all_of_false mem_false, truth]
  · rw [truth_grouped, joined_flatMap_membersIn]

/-- Impossible members make no difference to a disjunction. -/
theorem joined_possible (row : JoinedRow) (conditions : List Condition) :
    joined .any ((conditions.filter (!·.isNever)).map (truth row)) =
      joined .any (conditions.map (truth row)) := by
  induction conditions with
  | nil => rfl
  | cons condition rest ih =>
    cases impossible : condition.isNever with
    | true =>
      rw [List.filter_cons_of_neg (by simp [impossible]), ih, List.map_cons, joined_cons,
        truth_of_isNever row impossible]
      exact (empty_join .any _).symm
    | false =>
      rw [List.filter_cons_of_pos (by simp [impossible]), List.map_cons, joined_cons, ih,
        List.map_cons, joined_cons]

theorem truth_any (row : JoinedRow) (conditions : List Condition) :
    truth row (any conditions) = joined .any (conditions.map (truth row)) := by
  rw [← joined_possible, ← joined_flatMap_membersIn]
  unfold any
  split
  · rename_i none
    rw [none, truth]
    rfl
  · exact truth_grouped row .any _

/-- The truth of conditions that were combined is their truths joined. -/
theorem truth_combine (row : JoinedRow) (combinator : Combinator) (conditions : List Condition) :
    truth row (combine combinator conditions) =
      joined combinator (conditions.map (truth row)) := by
  cases combinator with
  | all => exact truth_all row conditions
  | any => exact truth_any row conditions

end Condition

end QueryDesk
