import QueryDesk.Proofs.Plan.Planned

/-!
# What predicates mean

A predicate is a tree: a conjunction of entries, of which each is a leaf or a group of predicates.
What its entries mean is joined as far as it survives. The conditions that a predicate is planned as
have, all together, the truth that it means.
-/

namespace QueryDesk

open Condition

/-! ## Joining what survives -/

namespace Truth

/-- What survives of meanings, joined; nothing survives where none of them does. -/
def survivors (combinator : Combinator) (meanings : List (Option Truth)) : Option Truth :=
  meanings.foldr (Option.merge (joinTruth combinator)) none

variable {combinator : Combinator}

theorem survivors_cons (meaning : Option Truth) (meanings : List (Option Truth)) :
    survivors combinator (meaning :: meanings) =
      Option.merge (joinTruth combinator) meaning (survivors combinator meanings) := rfl

theorem survivors_append (meanings others : List (Option Truth)) :
    survivors combinator (meanings ++ others) = Option.merge (joinTruth combinator)
      (survivors combinator meanings) (survivors combinator others) := by
  induction meanings with
  | nil => exact Option.merge_none_left.symm
  | cons meaning rest ih =>
    -- Joining is associative, and what does not survive is neutral.
    rw [List.cons_append, survivors_cons, survivors_cons, ih]
    cases meaning <;> cases survivors combinator rest <;> cases survivors combinator others <;>
      simp [Option.merge, join_assoc]

theorem survivors_toList (meaning : Option Truth) :
    survivors combinator (meaning.toList.map some) = meaning := by
  cases meaning <;> rfl

/-- Of truths all survive. -/
theorem getD_survivors (truths : List Truth) :
    (survivors combinator (truths.map some)).getD (emptyTruth combinator) =
      joined combinator truths := by
  induction truths with
  | nil => rfl
  | cons t rest ih =>
    rw [List.map_cons, survivors_cons, joined_cons, ← ih]
    cases survivors combinator (rest.map some) with
    | none => exact (join_empty combinator t).symm
    | some u => rfl

theorem survivors_filterMap {α : Type} (meaning : α → Option Truth) (xs : List α) :
    survivors combinator ((xs.filterMap meaning).map some) =
      survivors combinator (xs.map meaning) := by
  induction xs with
  | nil => rfl
  | cons x rest ih =>
    rw [List.map_cons, survivors_cons, ← ih, List.filterMap_cons]
    cases meaning x with
    | none => cases survivors combinator ((rest.filterMap meaning).map some) <;> rfl
    | some t => rfl

end Truth

namespace Plan

open Truth

/-! ## Meanings -/

/-- What a leaf means; one whose token leads to no column does not survive. -/
def leafMeaning (root : Entity) (token : String) (meaning : ColumnRef → Option Truth) :
    Option Truth :=
  (resolve root token).column?.bind meaning

section
variable (cells : ColumnRef → Cell) (root : Entity)

mutual

/-- What an entry means. The clauses of a group are joined, and so are the operators of a leaf. What
    is no list of clauses does not survive as a group. -/
def entryMeaning (key : String) : Value → Option Truth
  | .object operators =>
    match Combinator.ofKey? key with
    | some _ => none
    | none => leafMeaning root key fun column =>
      survivors .all (operators.map fun o => operatorTruth? column (cells column) o.1 o.2)
  | .list items =>
    match Combinator.ofKey? key with
    | some combinator => survivors combinator (clauseMeanings items)
    | none => leafMeaning root key fun column =>
      some (equalityTruth column (cells column) (.list items))
  | .tuple items =>
    match Combinator.ofKey? key with
    | some combinator => survivors combinator (clauseMeanings items)
    | none => leafMeaning root key fun column =>
      some (equalityTruth column (cells column) (.tuple items))
  | operand =>
    match Combinator.ofKey? key with
    | some _ => none
    | none => leafMeaning root key fun column => some (equalityTruth column (cells column) operand)

/-- What clauses mean: each is a predicate, and anything else does not survive. -/
def clauseMeanings : List Value → List (Option Truth)
  | [] => []
  | .object members :: rest => survivors .all (entryMeanings members) :: clauseMeanings rest
  | _ :: rest => none :: clauseMeanings rest

/-- What the entries of a predicate mean. -/
def entryMeanings : List (String × Value) → List (Option Truth)
  | [] => []
  | (key, value) :: rest => entryMeaning key value :: entryMeanings rest

end

/-- What a predicate means. -/
def predicateMeaning (members : Members) : Option Truth :=
  survivors .all (entryMeanings cells root members)

end

/-! ## Truths and meanings -/

variable {cells : ColumnRef → Cell} {root : Entity}

theorem groupTruths_eq (combinator : Combinator) (truths : List Truth) :
    groupTruths combinator truths = (survivors combinator (truths.map some)).toList := by
  cases truths with
  | nil => rfl
  | cons t rest =>
    have whole : (survivors combinator ((t :: rest).map some)).getD (emptyTruth combinator) =
        joined combinator (t :: rest) := getD_survivors (t :: rest)
    rw [groupTruths, List.isEmpty_cons, if_neg Bool.false_ne_true, ← whole, List.map_cons,
      survivors_cons]
    cases survivors combinator (rest.map some) <;> rfl

theorem survivors_leafTruths {token : String} {truths : ColumnRef → List Truth}
    {meaning : ColumnRef → Option Truth}
    (same : ∀ column, survivors .all ((truths column).map some) = meaning column) :
    survivors .all ((leafTruths root token truths).map some) = leafMeaning root token meaning := by
  unfold leafTruths leafMeaning
  cases (resolve root token).column? with
  | none => rfl
  | some column => exact same column

/-! By induction on the tree, what survives of its truths is what it means. -/

mutual

theorem survivors_entryTruths (key : String) (value : Value) :
    survivors .all ((entryTruths cells root key value).map some) =
      entryMeaning cells root key value := by
  cases value with
  | object operators =>
    cases grouped : Combinator.ofKey? key with
    | some combinator =>
      simp only [entryTruths, entryMeaning, grouped]
      rfl
    | none =>
      simp only [entryTruths, entryMeaning, grouped]
      exact survivors_leafTruths fun column => survivors_filterMap _ operators
  | list items =>
    cases grouped : Combinator.ofKey? key with
    | some combinator =>
      simp only [entryTruths, entryMeaning, grouped]
      rw [groupTruths_eq, survivors_toList, survivors_clauseTruths]
    | none =>
      simp only [entryTruths, entryMeaning, grouped]
      exact survivors_leafTruths fun column => rfl
  | tuple items =>
    cases grouped : Combinator.ofKey? key with
    | some combinator =>
      simp only [entryTruths, entryMeaning, grouped]
      rw [groupTruths_eq, survivors_toList, survivors_clauseTruths]
    | none =>
      simp only [entryTruths, entryMeaning, grouped]
      exact survivors_leafTruths fun column => rfl
  | _ =>
    cases grouped : Combinator.ofKey? key with
    | some combinator =>
      simp only [entryTruths, entryMeaning, grouped]
      rfl
    | none =>
      simp only [entryTruths, entryMeaning, grouped]
      exact survivors_leafTruths fun column => rfl

theorem survivors_clauseTruths (combinator : Combinator) (clauses : List Value) :
    survivors combinator ((clauseTruths cells root clauses).map some) =
      survivors combinator (clauseMeanings cells root clauses) := by
  cases clauses with
  | nil => rfl
  | cons clause rest =>
    cases clause with
    | object members =>
      simp only [clauseTruths, clauseMeanings]
      rw [List.map_append, survivors_append, groupTruths_eq, survivors_toList,
        survivors_predicateTruths, survivors_clauseTruths combinator rest, survivors_cons]
    | _ =>
      simp only [clauseTruths, clauseMeanings]
      rw [survivors_clauseTruths combinator rest, survivors_cons, Option.merge_none_left]

theorem survivors_predicateTruths (members : List (String × Value)) :
    survivors .all ((predicateTruths cells root members).map some) =
      survivors .all (entryMeanings cells root members) := by
  cases members with
  | nil => rfl
  | cons member rest =>
    obtain ⟨key, value⟩ := member
    simp only [predicateTruths, entryMeanings]
    rw [List.map_append, survivors_append, survivors_entryTruths key value,
      survivors_predicateTruths rest, survivors_cons]

end

/-- The conditions that a predicate is planned as have all together the truth that the predicate
    means, and are true where nothing of it survives. -/
theorem planned_as_meant {members : Members} {conditions : List Condition} {w w' : Walk}
    (planned : (predicateConditions root members).run w = .ok (conditions, w')) (row : JoinedRow) :
    groupTruth row .all conditions = (predicateMeaning row.cell root members).getD (some true) := by
  obtain ⟨-, truths⟩ := predicate_ensures root members w conditions w' planned
  rw [groupTruth_eq, truths row, predicateMeaning, ← survivors_predicateTruths]
  exact (getD_survivors _).symm

/-- A post that was viewed ten times and has no body, with its author. -/
def viewedRow : JoinedRow :=
  let day : Moment := ⟨63902908800000000, none⟩
  let post : Post := ⟨⟨1⟩, ⟨1⟩, "hello", none, "draft", 10, day, day⟩
  let author : User := ⟨⟨1⟩, "Ann", "ann@x", "member", "active", .finite false 0, day, day⟩
  [(.post, some (.post post)), (.user, some (.user author))]

/-- Few views, or no body and an author with a name; the unknown operator, the unknown field and the
    clause that is no object do not survive. -/
def fewViewsOrNoBody : Members :=
  [("OR", .list [
    .object [("views", .object [("LT", .int 3), ("NEAR", .int 1)])],
    .object [("nope", .text "x")],
    .text "views",
    .object [("AND", .list [
      .object [("body", .null)],
      .object [("$user.full_name$", .object [("NE", .null)])]])]])]

theorem nested_as_meant :
    ∃ conditions walk,
      (predicateConditions .post fewViewsOrNoBody).run {} = .ok (conditions, walk) ∧
      groupTruth viewedRow .all conditions = some true := by
  have comes_through :
      ((predicateConditions .post fewViewsOrNoBody).run {}).toOption.isSome = true := by
    decide +kernel
  obtain ⟨⟨conditions, walk⟩, planned⟩ := exists_ok_of_isSome comes_through
  refine ⟨conditions, walk, planned, ?_⟩
  rw [planned_as_meant planned viewedRow]
  decide +kernel

/-- A pattern is not bound: one that is no number still matches the digits of a number. What is
    bound to nothing makes an unknown operator false, although it is unknown. -/
theorem pattern_is_not_bound :
    Binding.bind .whole (.text "%1%") = .ok none ∧
    (∃ conditions walk, (predicateConditions .post
        [("views", .object [("ILIKE", .text "%1%")])]).run {} = .ok (conditions, walk) ∧
      groupTruth viewedRow .all conditions = some true) ∧
    relationOf? "NEAR" = none ∧ Binding.bind .whole (.text "x") = .ok none ∧
    ∃ conditions walk, (predicateConditions .post
        [("views", .object [("NEAR", .text "x")])]).run {} = .ok (conditions, walk) ∧
      groupTruth viewedRow .all conditions = some false := by
  have like : (predicateConditions .post [("views", .object [("ILIKE", .text "%1%")])]).run {} =
      .ok ([.like ⟨.post, ⟨"views", .whole⟩⟩ "%1%"], {}) := by
    rfl
  have never : (predicateConditions .post [("views", .object [("NEAR", .text "x")])]).run {} =
      .ok ([.never], {}) := by
    rfl
  refine ⟨by rfl, ⟨_, _, like, by decide +kernel⟩, by rfl, by rfl, _, _, never, by decide +kernel⟩

end Plan

end QueryDesk
