import QueryDesk.Proofs.Plan.Planned
import QueryDesk.Proofs.Query.Filters

/-!
# What collected filters demand

The truths of a predicate that filters and a search make up, put in terms of the filter values: each
comparison, all requirements, one of the pooled alternatives, and the search unless requirements
took its place.
-/

namespace QueryDesk.Plan

open Condition QueryDesk.Filter

/-- Every truth is true. -/
def AllTrue (truths : List Truth) : Prop :=
  ∀ t ∈ truths, t = some true

theorem allTrue_append {truths others : List Truth} :
    AllTrue (truths ++ others) ↔ AllTrue truths ∧ AllTrue others := by
  simp [AllTrue, or_imp, forall_and]

theorem allTrue_singleton {t : Truth} : AllTrue [t] ↔ t = some true := by
  simp [AllTrue]

theorem allTrue_group_all {truths : List Truth} :
    AllTrue (groupTruths .all truths) ↔ AllTrue truths := by
  unfold groupTruths
  split
  · rename_i empty
    rw [List.isEmpty_iff.mp empty]
  · rw [allTrue_singleton, Truth.joined_all_iff]
    rfl

theorem allTrue_group_any {truths : List Truth} :
    AllTrue (groupTruths .any truths) ↔ (truths ≠ [] → some true ∈ truths) := by
  unfold groupTruths
  split
  · rename_i empty
    simp [List.isEmpty_iff.mp empty, AllTrue]
  · rename_i present
    have nonempty : truths ≠ [] := fun eq => present (by rw [eq]; rfl)
    rw [allTrue_singleton, Truth.joined_any_iff]
    exact ⟨fun mem _ => mem, fun mem => mem nonempty⟩

/-- All truths of a predicate are true just if those of each entry are. -/
theorem allTrue_predicate_iff {cells : ColumnRef → Cell} {root : Entity} {predicate : Members} :
    AllTrue (predicateTruths cells root predicate) ↔
      ∀ key v, (key, v) ∈ predicate → AllTrue (entryTruths cells root key v) := by
  induction predicate with
  | nil => simp [predicateTruths, AllTrue]
  | cons entry rest ih =>
    obtain ⟨key, v⟩ := entry
    rw [predicateTruths, allTrue_append, ih]
    constructor
    · rintro ⟨first, others⟩ key' v' mem
      rcases List.mem_cons.mp mem with same | later
      · cases same
        exact first
      · exact others key' v' later
    · intro every
      exact ⟨every key v List.mem_cons_self,
        fun key' v' mem => every key' v' (List.mem_cons_of_mem _ mem)⟩

theorem clauseTruths_map {α : Type} {cells : ColumnRef → Cell} {root : Entity}
    {clauseOf : α → Members} {truthOf : α → Truth} {xs : List α}
    (truths : ∀ x ∈ xs, predicateTruths cells root (clauseOf x) = [truthOf x]) :
    clauseTruths cells root (xs.map fun x => .object (clauseOf x)) = xs.map truthOf := by
  induction xs with
  | nil => rfl
  | cons x rest ih =>
    rw [List.map_cons, List.map_cons, clauseTruths, truths x List.mem_cons_self,
      ih fun y mem => truths y (List.mem_cons_of_mem x mem)]
    simp [groupTruths, Truth.joined_singleton]

/-! ## Operands -/

/-- What a text stands for is a number or the text. -/
theorem ofText_cases (s : String) :
    (∃ n, Operand.ofText s = .int n) ∨ (∃ x, Operand.ofText s = .float x) ∨
      Operand.ofText s = .text s := by
  unfold Operand.ofText
  cases plain : Operand.plain? (Text.trim s.toList) with
  | none => exact .inr (.inr rfl)
  | some p =>
    simp only [Option.bind_some, Operand.number?]
    split
    · exact .inr (.inr rfl)
    · split
      · split
        · exact .inl ⟨_, rfl⟩
        · exact .inr (.inl ⟨_, rfl⟩)
      · exact .inr (.inl ⟨_, rfl⟩)

theorem isNull_ofText (s : String) : (Operand.ofText s).isNull = false := by
  rcases ofText_cases s with ⟨n, eq⟩ | ⟨x, eq⟩ | eq <;> rw [eq] <;> rfl

theorem entryTruths_equality {cells : ColumnRef → Cell} {root : Entity} {token : String}
    {column : ColumnRef} (leads : (resolve root token).column? = some column)
    (single : Combinator.ofKey? token = none) (s : String) :
    entryTruths cells root token (Operand.ofText s) =
      [relationTruth .eq column (cells column) (Operand.ofText s)] := by
  have entry : entryTruths cells root token (Operand.ofText s) =
      [equalityTruth column (cells column) (Operand.ofText s)] := by
    rcases ofText_cases s with ⟨n, eq⟩ | ⟨x, eq⟩ | eq <;> rw [eq] <;>
      simp only [entryTruths, single, leafTruths, leads, Option.elim]
  rw [entry, equalityTruth, isNull_ofText]
  rfl

theorem relationOf?_operatorOf {relation : Relation} (ne : relation ≠ .eq) :
    relationOf? (operatorOf relation) = some relation := by
  cases relation <;> first | rfl | exact absurd rfl ne

theorem operatorOf_ne_pattern (relation : Relation) : operatorOf relation ≠ Search.patternKey := by
  cases relation <;> decide

theorem entryTruths_comparison {cells : ColumnRef → Cell} {root : Entity} {token : String}
    {column : ColumnRef} (leads : (resolve root token).column? = some column)
    (single : Combinator.ofKey? token = none) {relation : Relation} (ne : relation ≠ .eq)
    (s : String) :
    entryTruths cells root token (.object [(operatorOf relation, Operand.ofText s)]) =
      [relationTruth relation column (cells column) (Operand.ofText s)] := by
  have truth : operatorTruth? column (cells column) (operatorOf relation) (Operand.ofText s) =
      some (relationTruth relation column (cells column) (Operand.ofText s)) := by
    unfold operatorTruth? relationTruth
    rw [if_neg (operatorOf_ne_pattern relation), relationOf?_operatorOf ne, isNull_ofText]
    cases Binding.bind column.column.kind (Operand.ofText s) with
    | error fault => rfl
    | ok bound => cases bound <;> rfl
  simp only [entryTruths, single, leafTruths, leads, Option.elim, operatorTruths,
    List.filterMap_cons, List.filterMap_nil, truth]

theorem entryTruths_pattern {cells : ColumnRef → Cell} {root : Entity} {token : String}
    {column : ColumnRef} (leads : (resolve root token).column? = some column)
    (single : Combinator.ofKey? token = none) (pattern : String) :
    entryTruths cells root token (.object [(Search.patternKey, .text pattern)]) =
      [likeTruth pattern (cells column)] := by
  have truth : operatorTruth? column (cells column) Search.patternKey (.text pattern) =
      some (likeTruth pattern (cells column)) := by
    unfold operatorTruth?
    rw [if_pos rfl]
    rfl
  simp only [entryTruths, single, leafTruths, leads, Option.elim, operatorTruths,
    List.filterMap_cons, List.filterMap_nil, truth]

theorem predicateTruths_pattern {cells : ColumnRef → Cell} {root : Entity} {token : String}
    {column : ColumnRef} (leads : (resolve root token).column? = some column)
    (single : Combinator.ofKey? token = none) (pattern : String) :
    predicateTruths cells root [(token, .object [(Search.patternKey, .text pattern)])] =
      [likeTruth pattern (cells column)] := by
  rw [predicateTruths, predicateTruths, List.append_nil, entryTruths_pattern leads single]

theorem entryTruths_group {cells : ColumnRef → Cell} {root : Entity} (combinator : Combinator)
    (items : List Value) : entryTruths cells root combinator.key (.list items) =
      groupTruths combinator (clauseTruths cells root items) := by
  simp only [entryTruths, ofKey?_key]

/-- A predicate of one group has the truth of the group. -/
theorem predicateTruths_group {α : Type} {cells : ColumnRef → Cell} {root : Entity}
    {clauseOf : α → Members} {truthOf : α → Truth} {xs : List α}
    (truths : ∀ x ∈ xs, predicateTruths cells root (clauseOf x) = [truthOf x])
    (combinator : Combinator) : predicateTruths cells root
        [(combinator.key, .list (xs.map fun x => .object (clauseOf x)))] =
      groupTruths combinator (xs.map truthOf) := by
  rw [predicateTruths, predicateTruths, List.append_nil, entryTruths_group,
    clauseTruths_map truths]

/-! ## Filters in terms of their values -/

/-- The truth of a relation between the column that a token leads to and a value. -/
def tokenTruth (cells : ColumnRef → Cell) (root : Entity) (token : String) (relation : Relation)
    (v : Value) : Truth :=
  ((resolve root token).column?).elim (some false) fun column =>
    relationTruth relation column (cells column) v

/-- A relation holds between the column that a token leads to and what a text stands for. -/
def Holds (cells : ColumnRef → Cell) (root : Entity) (token : String) (relation : Relation)
    (text : String) : Prop :=
  tokenTruth cells root token relation (Operand.ofText text) = some true

theorem operandsOf_all (value : String) : operandsOf .all value =
    if '%' ∈ value.toList then (Text.split '%' value).map Operand.ofText else [] := by
  by_cases percent : '%' ∈ value.toList
  · have group : groupSymbol? value.toList = some ('%', .all) := by
      simp [groupSymbol?, groupSymbols, percent]
    simp [operandsOf, clause, group, percent]
  · by_cases bar : '|' ∈ value.toList
    · have group : groupSymbol? value.toList = some ('|', .any) := by
        simp [groupSymbol?, groupSymbols, percent, bar]
      simp [operandsOf, clause, group, percent]
    · have none := groupSymbol?_eq_none_iff.mpr ⟨percent, bar⟩
      simp only [operandsOf, clause, none, percent, if_false]
      cases comparison? value.toList <;> rfl

theorem operandsOf_any (value : String) : operandsOf .any value =
    if '%' ∉ value.toList ∧ '|' ∈ value.toList then (Text.split '|' value).map Operand.ofText
    else [] := by
  by_cases percent : '%' ∈ value.toList
  · have group : groupSymbol? value.toList = some ('%', .all) := by
      simp [groupSymbol?, groupSymbols, percent]
    simp [operandsOf, clause, group, percent]
  · by_cases bar : '|' ∈ value.toList
    · have group : groupSymbol? value.toList = some ('|', .any) := by
        simp [groupSymbol?, groupSymbols, percent, bar]
      simp [operandsOf, clause, group, percent, bar]
    · have none := groupSymbol?_eq_none_iff.mpr ⟨percent, bar⟩
      simp only [operandsOf, clause, none, percent, bar, and_false, if_false]
      cases comparison? value.toList <;> rfl

/-- A value without group symbols is a single clause. -/
theorem leafValue?_of_saying {value : String} (noPercent : '%' ∉ value.toList)
    (noBar : '|' ∉ value.toList) {relation : Relation} {text : String}
    (asked : Says value relation text) : leafValue? value = some
      (if relation = .eq then Operand.ofText text
       else .object [(operatorOf relation, Operand.ofText text)]) := by
  rw [leafValue?, clause_of_saying noPercent noBar asked, asking]
  by_cases eq : relation = .eq
  · simp [eq]
  · simp [eq]

theorem leafValue?_of_group {value : String} (group : '%' ∈ value.toList ∨ '|' ∈ value.toList) :
    leafValue? value = none := by
  have grouped : groupSymbol? value.toList ≠ none := by
    rw [Ne, groupSymbol?_eq_none_iff]
    rintro ⟨noPercent, noBar⟩
    exact group.elim noPercent noBar
  obtain ⟨symbol, found⟩ := Option.ne_none_iff_exists'.mp grouped
  simp only [leafValue?, clause, found]

variable {cells : ColumnRef → Cell} {root : Entity} {format : FieldPath.Format}

/-- The filters lead to columns. -/
def Lead (root : Entity) (format : FieldPath.Format) (fs : List (String × String)) : Prop :=
  ∀ f ∈ fs, ((resolve root (format f.1)).column?).isSome = true

/-- A single clause is true just if the relation that its value asks for holds. -/
theorem allTrue_single {token value : String}
    (leads : ((resolve root token).column?).isSome = true)
    (single : Combinator.ofKey? token = none) (noPercent : '%' ∉ value.toList)
    (noBar : '|' ∉ value.toList) {v : Value} (leaf : leafValue? value = some v) :
    AllTrue (entryTruths cells root token v) ↔
      ∃ relation text, Says value relation text ∧ Holds cells root token relation text := by
  obtain ⟨column, leads⟩ := Option.isSome_iff_exists.mp leads
  have meaning : ∀ {relation text}, Says value relation text →
      (AllTrue (entryTruths cells root token v) ↔ Holds cells root token relation text) := by
    intro relation text asked
    rw [leafValue?_of_saying noPercent noBar asked] at leaf
    cases leaf
    rw [Holds, tokenTruth, leads, Option.elim]
    split
    · rename_i eq
      rw [eq, entryTruths_equality leads single, allTrue_singleton]
    · rename_i ne
      rw [entryTruths_comparison leads single ne, allTrue_singleton]
  constructor
  · intro all
    obtain ⟨⟨relation, text⟩, asked, -⟩ := existsUnique_saying value
    exact ⟨relation, text, asked, (meaning asked).mp all⟩
  · rintro ⟨relation, text, asked, holds⟩
    exact (meaning asked).mpr holds

/-- The fields and operands in the group of a combinator. -/
def pairs (combinator : Combinator) (fs : List (String × String)) : List (String × Value) :=
  fs.flatMap fun f => (operandsOf combinator f.2).map fun operand => (f.1, operand)

theorem mem_pairs {combinator : Combinator} {fs : List (String × String)} {field : String}
    {operand : Value} : (field, operand) ∈ pairs combinator fs ↔
      ∃ f ∈ fs, f.1 = field ∧ operand ∈ operandsOf combinator f.2 := by
  simp only [pairs, List.mem_flatMap, List.mem_map, Prod.mk.injEq]
  constructor
  · rintro ⟨f, mem, operand', within, same, rfl⟩
    exact ⟨f, mem, same, within⟩
  · rintro ⟨f, mem, same, within⟩
    exact ⟨f, mem, operand, within, same, rfl⟩

theorem pooled_eq (combinator : Combinator) (fs : List (String × String)) :
    pooled format combinator fs =
      (pairs combinator fs).map fun p => .object [(format p.1, p.2)] := by
  simp only [pooled, pairs, List.map_flatMap, List.map_map]
  rfl

theorem mem_operandsOf_all {value : String} {operand : Value} :
    operand ∈ operandsOf .all value ↔ '%' ∈ value.toList ∧
      ∃ part ∈ Text.split '%' value, Operand.ofText part = operand := by
  rw [operandsOf_all]
  split <;> simp [*]

theorem mem_operandsOf_any {value : String} {operand : Value} :
    operand ∈ operandsOf .any value ↔ ('%' ∉ value.toList ∧ '|' ∈ value.toList) ∧
      ∃ part ∈ Text.split '|' value, Operand.ofText part = operand := by
  rw [operandsOf_any]
  split <;> simp [*]

theorem exists_text_of_mem {combinator : Combinator} {value : String} {operand : Value}
    (mem : operand ∈ operandsOf combinator value) : ∃ text, Operand.ofText text = operand := by
  cases combinator with
  | all =>
    obtain ⟨-, part, -, same⟩ := mem_operandsOf_all.mp mem
    exact ⟨part, same⟩
  | any =>
    obtain ⟨-, part, -, same⟩ := mem_operandsOf_any.mp mem
    exact ⟨part, same⟩

theorem clauseTruths_pooled {fs : List (String × String)} (lead : Lead root format fs)
    (apart : ∀ f ∈ fs, ∀ combinator : Combinator, format f.1 ≠ combinator.key)
    (combinator : Combinator) :
    clauseTruths cells root (pooled format combinator fs) =
      (pairs combinator fs).map fun p => tokenTruth cells root (format p.1) .eq p.2 := by
  rw [pooled_eq]
  apply clauseTruths_map
  rintro ⟨field, operand⟩ mem
  obtain ⟨f, from_fs, rfl, within⟩ := mem_pairs.mp mem
  obtain ⟨text, rfl⟩ := exists_text_of_mem within
  obtain ⟨column, leads⟩ := Option.isSome_iff_exists.mp (lead f from_fs)
  rw [predicateTruths, predicateTruths, List.append_nil,
    entryTruths_equality leads (ofKey?_of_apart (apart f from_fs)), tokenTruth, leads]
  rfl

/-- The group of requirements is true just if each of them holds. -/
theorem allTrue_required (cells : ColumnRef → Cell) {fs : List (String × String)}
    (lead : Lead root format fs)
    (apart : ∀ f ∈ fs, ∀ combinator : Combinator, format f.1 ≠ combinator.key) :
    AllTrue (entryTruths cells root Combinator.all.key (.list (pooled format .all fs))) ↔
      ∀ f ∈ fs, '%' ∈ f.2.toList → ∀ part ∈ Text.split '%' f.2,
        Holds cells root (format f.1) .eq part := by
  rw [entryTruths_group, clauseTruths_pooled lead apart, allTrue_group_all]
  constructor
  · intro all f mem percent part within
    have inGroup := mem_operandsOf_all.mpr ⟨percent, part, within, rfl⟩
    have inPairs := mem_pairs.mpr ⟨f, mem, rfl, inGroup⟩
    exact all _ (List.mem_map.mpr ⟨(f.1, Operand.ofText part), inPairs, rfl⟩)
  · intro all t mem
    obtain ⟨⟨field, operand⟩, inPairs, rfl⟩ := List.mem_map.mp mem
    obtain ⟨f, from_fs, rfl, within⟩ := mem_pairs.mp inPairs
    obtain ⟨percent, part, isPart, rfl⟩ := mem_operandsOf_all.mp within
    exact all f from_fs percent part isPart

/-- The group of alternatives is true just if there are none or one of them holds. -/
theorem allTrue_alternative (cells : ColumnRef → Cell) {fs : List (String × String)}
    (lead : Lead root format fs)
    (apart : ∀ f ∈ fs, ∀ combinator : Combinator, format f.1 ≠ combinator.key) :
    AllTrue (entryTruths cells root Combinator.any.key (.list (pooled format .any fs))) ↔
      ((∃ f ∈ fs, '%' ∉ f.2.toList ∧ '|' ∈ f.2.toList) →
        ∃ f ∈ fs, ('%' ∉ f.2.toList ∧ '|' ∈ f.2.toList) ∧ ∃ part ∈ Text.split '|' f.2,
          Holds cells root (format f.1) .eq part) := by
  have offered : (pairs .any fs).map (fun p => tokenTruth cells root (format p.1) .eq p.2) ≠ [] ↔
      ∃ f ∈ fs, '%' ∉ f.2.toList ∧ '|' ∈ f.2.toList := by
    rw [Ne, List.map_eq_nil_iff]
    constructor
    · intro nonempty
      obtain ⟨⟨field, operand⟩, mem⟩ := List.exists_mem_of_ne_nil _ nonempty
      obtain ⟨f, from_fs, -, within⟩ := mem_pairs.mp mem
      exact ⟨f, from_fs, (mem_operandsOf_any.mp within).1⟩
    · rintro ⟨f, from_fs, bar⟩
      obtain ⟨part, isPart⟩ : ∃ part, part ∈ Text.split '|' f.2 := by
        apply List.exists_mem_of_ne_nil
        simpa [Text.split] using Text.splitAt_ne_nil '|' f.2.toList
      have inGroup := mem_operandsOf_any.mpr ⟨bar, part, isPart, rfl⟩
      exact List.ne_nil_of_mem (mem_pairs.mpr ⟨f, from_fs, rfl, inGroup⟩)
  have chosen : some true ∈ (pairs .any fs).map
        (fun p => tokenTruth cells root (format p.1) .eq p.2) ↔
      ∃ f ∈ fs, ('%' ∉ f.2.toList ∧ '|' ∈ f.2.toList) ∧ ∃ part ∈ Text.split '|' f.2,
        Holds cells root (format f.1) .eq part := by
    constructor
    · intro mem
      obtain ⟨⟨field, operand⟩, inPairs, holds⟩ := List.mem_map.mp mem
      obtain ⟨f, from_fs, rfl, within⟩ := mem_pairs.mp inPairs
      obtain ⟨bar, part, isPart, rfl⟩ := mem_operandsOf_any.mp within
      exact ⟨f, from_fs, bar, part, isPart, holds⟩
    · rintro ⟨f, from_fs, bar, part, isPart, holds⟩
      have inGroup := mem_operandsOf_any.mpr ⟨bar, part, isPart, rfl⟩
      have inPairs := mem_pairs.mpr ⟨f, from_fs, rfl, inGroup⟩
      exact List.mem_map.mpr ⟨(f.1, Operand.ofText part), inPairs, holds⟩
  rw [entryTruths_group, clauseTruths_pooled lead apart, allTrue_group_any, offered, chosen]

theorem operandsOf_all_eq_nil_iff {value : String} :
    operandsOf .all value = [] ↔ '%' ∉ value.toList := by
  rw [operandsOf_all]
  split
  · rename_i percent
    simp [Text.split, Text.splitAt_ne_nil, percent]
  · rename_i noPercent
    simpa using noPercent

theorem pooled_all_isEmpty_iff (format : FieldPath.Format) {fs : List (String × String)} :
    (pooled format .all fs).isEmpty = true ↔ ∀ f ∈ fs, '%' ∉ f.2.toList := by
  rw [List.isEmpty_iff, pooled, List.flatMap_eq_nil_iff]
  refine forall₂_congr fun f _ => ?_
  rw [leaves, List.map_eq_nil_iff, operandsOf_all_eq_nil_iff]

/-- What filters demand of cells: what their single clauses compare holds, all requirements hold, and
    so does one of the alternatives, if there are any. -/
structure Demands (cells : ColumnRef → Cell) (root : Entity) (format : FieldPath.Format)
    (fs : List (String × String)) : Prop where
  compared : ∀ f ∈ fs, '%' ∉ f.2.toList → '|' ∉ f.2.toList →
    ∃ relation text, Says f.2 relation text ∧ Holds cells root (format f.1) relation text
  required : ∀ f ∈ fs, '%' ∈ f.2.toList → ∀ part ∈ Text.split '%' f.2,
    Holds cells root (format f.1) .eq part
  alternative : (∃ f ∈ fs, '%' ∉ f.2.toList ∧ '|' ∈ f.2.toList) →
    ∃ f ∈ fs, ('%' ∉ f.2.toList ∧ '|' ∈ f.2.toList) ∧ ∃ part ∈ Text.split '|' f.2,
      Holds cells root (format f.1) .eq part

/-- The truths of the entries that filters make are true just if what they demand holds. -/
theorem allTrue_filters_iff {fs : List (String × String)} {predicate : Members}
    (collects : Collects format fs predicate) (lead : Lead root format fs) :
    (∀ key v, predicate.get? key = some v → AllTrue (entryTruths cells root key v)) ↔
      Demands cells root format fs := by
  have required := allTrue_required cells lead collects.apart
  have alternative := allTrue_alternative cells lead collects.apart
  constructor
  · intro entries
    refine ⟨?_, ?_, ?_⟩
    · intro f mem noPercent noBar
      obtain ⟨⟨relation, text⟩, asked, -⟩ := existsUnique_saying f.2
      have leaf := leafValue?_of_saying noPercent noBar asked
      have single := ofKey?_of_apart (collects.apart f mem)
      exact (allTrue_single (lead f mem) single noPercent noBar leaf).mp
        (entries _ _ (collects.single f mem _ leaf))
    · intro f mem percent
      have present : (pooled format .all fs).isEmpty = false := by
        rw [Bool.eq_false_iff, Ne, pooled_all_isEmpty_iff format]
        exact fun none => none f mem percent
      have group := collects.groups .all
      rw [present] at group
      exact required.mp (entries _ _ group) f mem percent
    · intro offered
      have group := collects.groups .any
      cases empty : (pooled format .any fs).isEmpty with
      | true =>
        have vacuous : AllTrue (entryTruths cells root Combinator.any.key
            (.list (pooled format .any fs))) := by
          rw [List.isEmpty_iff.mp empty, entryTruths_group, allTrue_group_any]
          exact fun nonempty => absurd rfl nonempty
        exact alternative.mp vacuous offered
      | false =>
        rw [empty] at group
        exact alternative.mp (entries _ _ group) offered
  · intro demands key v holds
    rcases collects.only key v holds with ⟨combinator, rfl⟩ | ⟨f, mem, rfl, leaf⟩
    · rw [collects.groups] at holds
      split at holds
      · cases holds
      · cases holds
        cases combinator with
        | all => exact required.mpr demands.required
        | any => exact alternative.mpr demands.alternative
    · have ungrouped : ¬ ('%' ∈ f.2.toList ∨ '|' ∈ f.2.toList) := by
        intro group
        rw [leafValue?_of_group group] at leaf
        cases leaf
      rw [not_or] at ungrouped
      have single := ofKey?_of_apart (collects.apart f mem)
      exact (allTrue_single (lead f mem) single ungrouped.1 ungrouped.2 leaf).mpr
        (demands.compared f mem ungrouped.1 ungrouped.2)

theorem key_of_searches {search : Members} {key : String} {v : Value}
    (searches : search = [] ∨ ∃ v, search = [(Combinator.all.key, v)])
    (holds : search.get? key = some v) : key = Combinator.all.key := by
  rcases searches with rfl | ⟨v', rfl⟩
  · cases holds
  · have mem := List.mem_singleton.mp (Members.mem_of_get? holds)
    exact (Prod.mk.inj mem).1

/-- A search that is merged with filters counts unless requirements take its place. -/
theorem allTrue_merged_iff (cells : ColumnRef → Cell) {fs : List (String × String)}
    {predicate search : Members} (collects : Collects format fs predicate) (lead : Lead root format fs)
    (searches : search = [] ∨ ∃ v, search = [(Combinator.all.key, v)]) :
    AllTrue (predicateTruths cells root
        (Contribution.merged [⟨"search", search⟩, ⟨"filter", predicate⟩])) ↔
      Demands cells root format fs ∧ ((∀ f ∈ fs, '%' ∉ f.2.toList) →
        AllTrue (predicateTruths cells root search)) := by
  have distinct : search.keys.Nodup :=
    Members.nodup_keys_of_single (searches.imp_right fun ⟨_, only⟩ => ⟨_, only⟩)
  have merged_holds := Contribution.get?_merged "search" "filter" distinct collects.distinct
  -- Only under the key of the requirements can both contributions hold something.
  have group := collects.groups .all
  rw [← allTrue_filters_iff collects lead, allTrue_predicate_iff, allTrue_predicate_iff]
  simp only [Members.mem_iff_get? (Contribution.nodup_keys_merged ..), Members.mem_iff_get? distinct,
    merged_holds]
  constructor
  · intro entries
    refine ⟨fun key v holds => entries key v (by rw [holds, Option.some_or]), ?_⟩
    intro noPercent key v holds
    obtain rfl := key_of_searches searches holds
    rw [(pooled_all_isEmpty_iff format).mpr noPercent] at group
    exact entries _ v (by rw [group]; exact holds)
  · rintro ⟨filters, searched⟩ key v holds
    cases filtered : predicate.get? key with
    | some v' =>
      rw [filtered] at holds
      cases holds
      exact filters key _ filtered
    | none =>
      rw [filtered, Option.none_or] at holds
      refine searched ?_ key v holds
      obtain rfl := key_of_searches searches holds
      rw [filtered] at group
      rw [← pooled_all_isEmpty_iff format]
      by_contra present
      rw [if_neg present] at group
      cases group

end QueryDesk.Plan
