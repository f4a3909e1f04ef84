import Mathlib.Data.List.Perm.Basic
import QueryDesk.Proofs.Plan.Joins
import QueryDesk.Proofs.Plan.Pruned
import QueryDesk.Proofs.Query.Members
import QueryDesk.Store.Listing

/-!
# The order of entries and clauses

The entries of a predicate may stand in any order, and so may the clauses of its groups. Its plan
reads the same tables, and its conditions are alike: they are true of the same rows and hand over
the same operands.
-/

namespace QueryDesk

/-- Truths give the same joined in any order. -/
theorem Truth.joined_perm (combinator : Combinator) {ts us : List Truth} (perm : ts.Perm us) :
    joined combinator ts = joined combinator us := by
  refine perm.foldr_eq' (fun a _ b _ c => ?_) _
  cases combinator <;> rcases a with _ | _ | _ <;> rcases b with _ | _ | _ <;>
    rcases c with _ | _ | _ <;> rfl

namespace Condition

/-- Conditions are true of the same rows, hand over the same operands, and are impossible
    together. -/
structure Alike (c c' : Condition) : Prop where
  never : c.isNever = c'.isNever
  slots : ∀ slot, slot ∈ c.slots ↔ slot ∈ c'.slots
  truth : ∀ row, truth row c = truth row c'

/-- Each of some conditions has one that is alike among others. -/
def Covered (conditions others : List Condition) : Prop :=
  ∀ c ∈ conditions, ∃ c' ∈ others, Alike c c'

theorem Alike.symm {c c' : Condition} (alike : Alike c c') : Alike c' c :=
  ⟨alike.never.symm, fun slot => (alike.slots slot).symm, fun row => (alike.truth row).symm⟩

theorem Alike.refl (c : Condition) : Alike c c :=
  ⟨rfl, fun _ => .rfl, fun _ => rfl⟩

theorem mem_slotsOf {conditions : List Condition} {slot : Operand.Slot} :
    slot ∈ slotsOf conditions ↔ ∃ c ∈ conditions, slot ∈ c.slots := by
  induction conditions with
  | nil => simp [slotsOf]
  | cons c rest ih => simp [slotsOf, ih]

theorem grouped_alike (combinator : Combinator) {conditions others : List Condition}
    (perm : conditions.Perm others) :
    Alike (grouped combinator conditions) (grouped combinator others) := by
  have truths : ∀ row, truth row (grouped combinator conditions) =
      truth row (grouped combinator others) := by
    intro row
    rw [truth_grouped, truth_grouped, Truth.joined_perm combinator (perm.map _)]
  have slots : ∀ slot, slot ∈ slotsOf conditions ↔ slot ∈ slotsOf others := by
    intro slot
    simp only [mem_slotsOf, perm.mem_iff]
  match conditions, others, perm with
  | [c], others, perm =>
    rw [List.perm_singleton.mp perm.symm]
    exact .refl _
  | [], others, perm =>
    rw [List.perm_nil.mp perm.symm]
    exact .refl _
  | c :: d :: rest, [], perm => exact absurd perm.length_eq (by simp)
  | c :: d :: rest, [_], perm => exact absurd perm.length_eq (by simp)
  | c :: d :: rest, c' :: d' :: rest', perm =>
    refine ⟨rfl, fun slot => ?_, truths⟩
    simpa only [grouped, Condition.slots] using slots slot

theorem combine_alike (combinator : Combinator) {conditions others : List Condition}
    (perm : conditions.Perm others) :
    Alike (combine combinator conditions) (combine combinator others) := by
  cases combinator with
  | all =>
    simp only [combine, all, perm.any_eq]
    split
    · exact .refl _
    · exact grouped_alike .all (perm.flatMap_right _)
  | any =>
    have possible := (perm.filter (!·.isNever)).flatMap_right (membersIn .any)
    simp only [combine, any]
    split
    · rename_i none
      rw [none] at possible
      rw [List.perm_nil.mp possible.symm]
      exact .refl _
    · rename_i some
      split
      · rename_i none
        rw [none] at possible
        exact absurd (List.perm_nil.mp possible) some
      · exact grouped_alike .any possible

end Condition

namespace Plan

open Condition

variable {α β : Type} {root : Entity}

/-! ## What planning gives, whatever it has collected -/

/-- What a step of planning gives at the beginning. -/
def found (step : Planning α) : Except PlanFault α :=
  (step.run {}).map Prod.fst

/-- Where the later step gives the same whatever was collected, what two steps give is put
    together. -/
theorem found_bind (step : Planning α) {next : α → Planning β}
    (fixed : ∀ a, Same (next a) (next a)) :
    found (step >>= next) = found step >>= fun a => found (next a) := by
  unfold found
  rw [StateT.run_bind]
  cases ran : step.run {} with
  | error fault => rfl
  | ok result => exact fixed result.1 result.2 {}

theorem found_map (step : Planning α) (f : α → β) :
    found (step >>= fun a => pure (f a)) = (found step).map f := by
  rw [found_bind step fun a => .pure (f a)]
  cases found step <;> rfl

theorem predicate_fixed (root : Entity) (members : List (String × Value)) :
    Same (predicateConditions root members) (predicateConditions root members) :=
  (predicate_pruned root members).symm.trans (predicate_pruned root members)

theorem clause_fixed (root : Entity) (items : List Value) :
    Same (clauseConditions root items) (clauseConditions root items) :=
  (clause_pruned root items).symm.trans (clause_pruned root items)

/-- Conditions that are given one after the other, if all of them are given. -/
def gathered (give : α → Except PlanFault (List Condition)) :
    List α → Except PlanFault (List Condition)
  | [] => return []
  | a :: rest => do
    let own ← give a
    let others ← gathered give rest
    return own ++ others

theorem gathered_eq_ok_iff {give : α → Except PlanFault (List Condition)} {as : List α}
    {conditions : List Condition} : gathered give as = .ok conditions ↔
      (∀ a ∈ as, ∃ own, give a = .ok own) ∧
        conditions = as.flatMap fun a => (give a).toOption.getD [] := by
  induction as generalizing conditions with
  | nil => simp [gathered, pure, Except.pure, eq_comm]
  | cons a rest ih =>
    simp only [gathered, bind_eq_ok_iff, ih, List.forall_mem_cons, List.flatMap_cons]
    constructor
    · rintro ⟨own, given, others, ⟨all, rfl⟩, done⟩
      cases done
      exact ⟨⟨⟨own, given⟩, all⟩, by rw [given]; rfl⟩
    · rintro ⟨⟨⟨own, given⟩, all⟩, rfl⟩
      exact ⟨own, given, _, ⟨all, rfl⟩, by rw [given]; rfl⟩

theorem gathered_perm {give : α → Except PlanFault (List Condition)} {as bs : List α}
    (perm : as.Perm bs) {conditions : List Condition} (given : gathered give as = .ok conditions) :
    ∃ others, gathered give bs = .ok others ∧ conditions.Perm others := by
  obtain ⟨all, rfl⟩ := gathered_eq_ok_iff.mp given
  exact ⟨_, gathered_eq_ok_iff.mpr ⟨fun b mem => all b (perm.mem_iff.mpr mem), rfl⟩,
    perm.flatMap_right _⟩

/-- The condition of a clause, if it demands something. -/
def clauseCondition (root : Entity) : Value → Except PlanFault (List Condition)
  | .object members => do
    let own ← found (predicateConditions root members)
    return if own.isEmpty then [] else [.all own]
  | _ => return []

theorem found_clauses (root : Entity) (items : List Value) :
    found (clauseConditions root items) = gathered (clauseCondition root) items := by
  induction items with
  | nil => rfl
  | cons item rest ih =>
    have fixed (own : List Condition) : Same
        (do
          let others ← clauseConditions root rest
          return if own.isEmpty then others else .all own :: others)
        (do
          let others ← clauseConditions root rest
          return if own.isEmpty then others else .all own :: others) :=
      (clause_fixed root rest).bind fun others => .pure _
    cases item with
    | object members =>
      simp only [clauseConditions, gathered, clauseCondition, ← ih]
      rw [found_bind _ fixed]
      simp only [found_map]
      cases found (predicateConditions root members) with
      | error fault => rfl
      | ok own =>
        simp only [bind, Except.bind, pure, Except.pure]
        cases found (clauseConditions root rest) with
        | error fault => rfl
        | ok others =>
          simp only [Except.map]
          split <;> rfl
    | _ =>
      simp only [clauseConditions, gathered, clauseCondition, ← ih]
      cases found (clauseConditions root rest) <;> rfl

theorem found_predicate (root : Entity) (members : List (String × Value)) :
    found (predicateConditions root members) =
      gathered (fun member => found (entryConditions root member.1 member.2)) members := by
  induction members with
  | nil => rfl
  | cons member rest ih =>
    have fixed (own : List Condition) :
        Same (do let others ← predicateConditions root rest; return own ++ others)
          (do let others ← predicateConditions root rest; return own ++ others) :=
      (predicate_fixed root rest).bind fun others => .pure _
    rw [predicateConditions, found_bind _ fixed, gathered, ← ih]
    simp only [found_map]
    rfl

theorem found_order (root : Entity) (order : List OrderClause) :
    found (orderColumns root order) = .ok (orderKeys root order) := by
  induction order with
  | nil => rfl
  | cons clause rest ih =>
    have visited := Same.visit root clause.field
    have fixed := (order_pruned root rest).symm.trans (order_pruned root rest)
    rw [orderColumns, found_bind _ fun column => fixed.bind fun others => .pure _]
    simp only [found_map, ih]
    rfl

/-- Planning a specification gives the conditions of its predicate, or its fault. -/
theorem ofSpec_conditions (root : Entity) (spec : QuerySpec) :
    (ofSpec root spec).map (·.conditions) =
      found (predicateConditions root spec.predicate) := by
  have fixed := (order_pruned root spec.order).symm.trans (order_pruned root spec.order)
  have stepped : found (steps root spec) = (found (predicateConditions root spec.predicate)).map
      fun conditions => (conditions, orderKeys root spec.order) := by
    rw [steps, found_bind _ fun _ => fixed.bind fun order => .pure _]
    simp only [found_map, found_order]
    rfl
  have planning : (ofSpec root spec).map (·.conditions) =
      (found (steps root spec)).map Prod.fst := by
    change ((steps root spec).run {} >>= fun result => pure _).map _ = _
    rw [found]
    cases (steps root spec).run {} <;> rfl
  rw [planning, stepped]
  cases found (predicateConditions root spec.predicate) <;> rfl

/-! ## Rearranged predicates -/

end Plan

/-- Members with the same keys that hold the same, but for the order of the entries and of the
    clauses of groups. -/
structure Rearranged (members others : Members) : Prop where
  distinct : members.keys.Nodup
  distinct' : others.keys.Nodup
  keys : members.keys.Perm others.keys
  single : ∀ key, Combinator.ofKey? key = none → members.get? key = others.get? key
  groups : ∀ combinator : Combinator,
    (members.get? combinator.key = none ∧ others.get? combinator.key = none) ∨
    ∃ items items', members.get? combinator.key = some (.list items) ∧
      others.get? combinator.key = some (.list items') ∧ items.Perm items'

/-- The value of an entry and a rearranged one. -/
inductive SameEntry (key : String) : Value → Value → Prop
  | single (v : Value) : SameEntry key v v
  | group {combinator : Combinator} {items items' : List Value} (named : key = combinator.key)
      (perm : items.Perm items') : SameEntry key (.list items) (.list items')

theorem SameEntry.symm {key : String} {v v' : Value} (same : SameEntry key v v') :
    SameEntry key v' v := by
  cases same with
  | single => exact .single _
  | group named perm => exact .group named perm.symm

namespace Rearranged

variable {members others : Members}

theorem of_get? (distinct : members.keys.Nodup) (distinct' : others.keys.Nodup)
    (single : ∀ key, Combinator.ofKey? key = none → members.get? key = others.get? key)
    (groups : ∀ combinator : Combinator,
      (members.get? combinator.key = none ∧ others.get? combinator.key = none) ∨
      ∃ items items', members.get? combinator.key = some (.list items) ∧
        others.get? combinator.key = some (.list items') ∧ items.Perm items') :
    Rearranged members others := by
  have held : ∀ key, (members.get? key).isSome = (others.get? key).isSome := by
    intro key
    cases grouped : Combinator.ofKey? key with
    | none => rw [single key grouped]
    | some combinator =>
      obtain rfl := Plan.eq_key_of_ofKey? grouped
      rcases groups combinator with ⟨absent, absent'⟩ | ⟨items, items', held, held', -⟩
      · rw [absent, absent']
      · rw [held, held']
        rfl
  refine ⟨distinct, distinct', ?_, single, groups⟩
  rw [List.perm_ext_iff_of_nodup distinct distinct']
  intro key
  rw [Members.mem_keys_iff distinct, Members.mem_keys_iff distinct', held]

theorem symm (same : Rearranged members others) : Rearranged others members where
  distinct := same.distinct'
  distinct' := same.distinct
  keys := same.keys.symm
  single key single := (same.single key single).symm
  groups combinator := by
    rcases same.groups combinator with ⟨absent, absent'⟩ | ⟨items, items', held, held', perm⟩
    · exact .inl ⟨absent', absent⟩
    · exact .inr ⟨items', items, held', held, perm.symm⟩

theorem entry (same : Rearranged members others) {key : String} {v : Value}
    (mem : (key, v) ∈ members) : ∃ v', (key, v') ∈ others ∧ SameEntry key v v' := by
  have held := (Members.mem_iff_get? same.distinct).mp mem
  cases grouped : Combinator.ofKey? key with
  | none =>
    rw [same.single key grouped] at held
    exact ⟨v, Members.mem_of_get? held, .single v⟩
  | some combinator =>
    obtain rfl := Plan.eq_key_of_ofKey? grouped
    rcases same.groups combinator with ⟨absent, -⟩ | ⟨items, items', held₁, held₂, perm⟩
    · rw [absent] at held
      cases held
    · obtain rfl := Option.some.inj (held.symm.trans held₁)
      exact ⟨_, Members.mem_of_get? held₂, .group rfl perm⟩

end Rearranged

namespace Plan

open Condition

theorem mem_clauseTokens {items : List Value} {token : String} :
    token ∈ clauseTokens items ↔ ∃ members, .object members ∈ items ∧
      token ∈ predicateTokens members := by
  induction items with
  | nil => simp [clauseTokens]
  | cons item rest ih => cases item <;> simp [clauseTokens, ih]

theorem entryTokens_of_same {key : String} {v v' : Value} (same : SameEntry key v v')
    {token : String} (mem : token ∈ entryTokens key v) : token ∈ entryTokens key v' := by
  cases same with
  | single => exact mem
  | group named perm =>
    subst named
    simp only [entryTokens_group, mem_clauseTokens, perm.mem_iff] at mem ⊢
    exact mem

theorem found_of_same {key : String} {v v' : Value} (same : SameEntry key v v')
    {own : List Condition} (given : found (entryConditions root key v) = .ok own) :
    ∃ own', found (entryConditions root key v') = .ok own' ∧ Covered own own' := by
  cases same with
  | single => exact ⟨own, given, fun c mem => ⟨c, mem, .refl c⟩⟩
  | group named perm =>
    subst named
    simp only [entryConditions, ofKey?_key, found_map, found_clauses, map_eq_ok_iff] at given ⊢
    obtain ⟨clauses, gathers, rfl⟩ := given
    obtain ⟨others, gathers', perm'⟩ := gathered_perm perm gathers
    refine ⟨_, ⟨others, gathers', rfl⟩, ?_⟩
    intro c mem
    unfold groupConditions at mem ⊢
    rw [← perm'.isEmpty_eq]
    split at mem
    · cases mem
    · rename_i some
      obtain rfl := List.mem_singleton.mp mem
      rw [if_neg some]
      exact ⟨_, List.mem_singleton_self _, combine_alike _ perm'⟩

theorem predicateTokens_of_rearranged {members others : Members}
    (same : Rearranged members others) {token : String} (mem : token ∈ predicateTokens members) :
    token ∈ predicateTokens others := by
  obtain ⟨key, v, entry, follows⟩ := mem_predicateTokens.mp mem
  obtain ⟨v', entry', alike⟩ := same.entry entry
  exact mem_predicateTokens.mpr ⟨key, v', entry', entryTokens_of_same alike follows⟩

/-- A rearranged predicate gives conditions too, and each condition has one that is alike. -/
theorem found_of_rearranged {members others : Members} (same : Rearranged members others)
    {conditions : List Condition}
    (given : found (predicateConditions root members) = .ok conditions) :
    ∃ conditions', found (predicateConditions root others) = .ok conditions' ∧
      Covered conditions conditions' := by
  rw [found_predicate, gathered_eq_ok_iff] at given
  obtain ⟨all, rfl⟩ := given
  have all' : ∀ m ∈ others, ∃ own, found (entryConditions root m.1 m.2) = .ok own := by
    rintro ⟨key, v'⟩ mem
    obtain ⟨v, entry, alike⟩ := same.symm.entry mem
    obtain ⟨own, given⟩ := all (key, v) entry
    obtain ⟨own', given', -⟩ := found_of_same alike.symm given
    exact ⟨own', given'⟩
  refine ⟨_, by rw [found_predicate]; exact gathered_eq_ok_iff.mpr ⟨all', rfl⟩, ?_⟩
  intro c mem
  obtain ⟨⟨key, v⟩, entry, demanded⟩ := List.mem_flatMap.mp mem
  obtain ⟨own, given⟩ := all _ entry
  obtain ⟨v', entry', alike⟩ := same.entry entry
  obtain ⟨own', given', pairs⟩ := found_of_same alike given
  dsimp only at demanded
  rw [given] at demanded
  obtain ⟨c', mem', alike'⟩ := pairs c demanded
  exact ⟨c', List.mem_flatMap.mpr ⟨(key, v'), entry', by rw [given']; exact mem'⟩, alike'⟩

/-! ## Plans of rearranged specifications -/

theorem mem_slots {plan : Plan} {slot : Operand.Slot} : slot ∈ plan.slots ↔
    (∀ c ∈ plan.conditions, c.isNever = false) ∧ ∃ c ∈ plan.conditions, slot ∈ c.slots := by
  unfold slots
  split
  · rename_i impossible
    obtain ⟨c, mem, never⟩ := List.any_eq_true.mp impossible
    refine iff_of_false List.not_mem_nil fun both => ?_
    rw [both.1 c mem] at never
    cases never
  · rename_i possible
    rw [mem_slotsOf, and_iff_right]
    simpa using possible

theorem fault?_eq_none_iff {plan : Plan} : plan.fault? = none ↔
    plan.hasDistinctTables = true ∧
      (∀ slot ∈ plan.slots, slot.isBindable = true ∧ slot.fault? = none) ∧
      plan.pageFault? = none := by
  unfold fault?
  split
  · rename_i unbindable
    refine iff_of_false (by simp) fun all => ?_
    simp only [Bool.not_eq_true', List.all_eq_false] at unbindable
    obtain ⟨slot, mem, refused⟩ := unbindable
    exact refused (all.2.1 slot mem).1
  · rename_i bindable
    simp only [Bool.not_eq_true', Bool.not_eq_false, List.all_eq_true] at bindable
    split
    · rename_i ambiguous
      exact iff_of_false (by simp) fun all => by simp [all.1] at ambiguous
    · rename_i distinct
      simp only [Bool.not_eq_true', Bool.not_eq_false] at distinct
      simp only [Option.or_eq_none_iff, List.findSome?_eq_none_iff, distinct, true_and]
      exact and_congr_left fun _ =>
        forall₂_congr fun slot mem => (and_iff_right (bindable slot mem)).symm

variable {spec spec' : QuerySpec} {plan plan' : Plan}

theorem ofSpec_rearranged (same : Rearranged spec.predicate spec'.predicate)
    (planned : ofSpec root spec = .ok plan) :
    ∃ plan', ofSpec root spec' = .ok plan' ∧ Covered plan.conditions plan'.conditions := by
  have given : found (predicateConditions root spec.predicate) = .ok plan.conditions := by
    rw [← ofSpec_conditions, planned]
    rfl
  obtain ⟨conditions, given', covered⟩ := found_of_rearranged same given
  rw [← ofSpec_conditions, map_eq_ok_iff] at given'
  obtain ⟨plan', planned', rfl⟩ := given'
  exact ⟨plan', planned', covered⟩

theorem accepts_of_covered (covered : Covered plan.conditions plan'.conditions) {row : JoinedRow}
    (accepted : accepts plan' row = true) : accepts plan row = true := by
  rw [accepts, beq_iff_eq, groupTruth_eq, Truth.joined_all_iff, List.forall_mem_map] at accepted ⊢
  intro c mem
  obtain ⟨c', mem', alike⟩ := covered c mem
  rw [alike.truth, accepted c' mem']

theorem slots_of_covered (covered : Covered plan.conditions plan'.conditions)
    (covered' : Covered plan'.conditions plan.conditions) {slot : Operand.Slot}
    (mem : slot ∈ plan'.slots) : slot ∈ plan.slots := by
  rw [mem_slots] at mem ⊢
  obtain ⟨possible, c', mem', handed⟩ := mem
  obtain ⟨c, mem, alike⟩ := covered' c' mem'
  refine ⟨fun c mem => ?_, c, mem, (alike.slots slot).mp handed⟩
  obtain ⟨c', mem', alike⟩ := covered c mem
  rw [alike.never, possible c' mem']

/-- Plans of rearranged specifications join the same, if they read no table twice. -/
theorem joins_of_rearranged (planned : Planned root spec plan) (planned' : Planned root spec' plan')
    (same : Rearranged spec.predicate spec'.predicate) (order : spec'.order = spec.order)
    (distinct : plan.hasDistinctTables = true) : plan'.joins = plan.joins := by
  have follows : ∀ token ∈ specTokens spec, token ∈ specTokens spec' := by
    intro token mem
    rw [specTokens, List.mem_append] at mem ⊢
    rw [order]
    exact mem.imp_left (predicateTokens_of_rearranged same)
  have follows' : ∀ token ∈ specTokens spec', token ∈ specTokens spec := by
    intro token mem
    rw [specTokens, List.mem_append] at mem ⊢
    rw [← order]
    exact mem.imp_left (predicateTokens_of_rearranged same.symm)
  rcases planned.joins_of_fewer planned' follows' distinct with joins | ⟨unjoined, none⟩
  · exact joins
  · have unjoined' : joinsOf root (specTokens spec) = [] := by
      rw [joinsOf, List.flatMap_eq_nil_iff] at unjoined ⊢
      exact fun token mem => unjoined token (follows token mem)
    rw [none, planned.joins, unjoined']
    rfl

/-- The plan of a rearranged specification has a fault only where the plan itself has one, and gives
    the same rows. -/
theorem results_of_rearranged (planned : Planned root spec plan)
    (planned' : Planned root spec' plan') (same : Rearranged spec.predicate spec'.predicate)
    (order : spec'.order = spec.order) (covered : Covered plan.conditions plan'.conditions)
    (covered' : Covered plan'.conditions plan.conditions) (sound : plan.fault? = none) :
    (∀ p, (plan.paginate p).fault? = none → (plan'.paginate p).fault? = none) ∧
      plan'.fault? = none ∧ ∀ db, selected db plan' = selected db plan ∧
        ∀ p, run db (plan'.paginate p) = run db (plan.paginate p) := by
  have distinct := hasDistinctTables_of_fault? sound
  have entity : plan'.entity = plan.entity := planned'.entity.trans planned.entity.symm
  have joins := joins_of_rearranged planned planned' same order distinct
  have distinct' : plan'.hasDistinctTables = true := by
    rw [hasDistinctTables, entities, entity, joins]
    exact distinct
  have page : plan'.pageFault? = plan.pageFault? := by
    rw [pageFault?, pageFault?, planned'.limit, planned'.offset, planned.limit, planned.offset]
  have slots : ∀ slot ∈ plan'.slots, slot ∈ plan.slots :=
    fun slot => slots_of_covered covered covered'
  have accept : ∀ row, accepts plan' row = accepts plan row := by
    intro row
    rw [Bool.eq_iff_iff]
    exact ⟨accepts_of_covered covered, accepts_of_covered covered'⟩
  have sorts : plan'.order = plan.order := by rw [planned'.order, planned.order, order]
  refine ⟨fun p fits => ?_, ?_, fun db => results_congr db entity joins sorts accept⟩
  · obtain ⟨-, taken, fits⟩ := fault?_eq_none_iff.mp fits
    exact fault?_eq_none_iff.mpr ⟨distinct', fun slot mem => taken slot (slots slot mem), fits⟩
  · obtain ⟨-, taken, fits⟩ := fault?_eq_none_iff.mp sound
    exact fault?_eq_none_iff.mpr
      ⟨distinct', fun slot mem => taken slot (slots slot mem), page.trans fits⟩

end Plan

end QueryDesk
