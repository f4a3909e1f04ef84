import QueryDesk.Proofs.Listing.Demands

/-!
# Filters on fields named like groups

A filter on a field whose token is a group key writes its operand under that key, and a group that
comes later cannot be extended. `foldlM_step_fails_iff` proves that filters on texts fail in no
other way: some parameter takes the key of a group, and a later one needs the group.
-/

namespace QueryDesk

namespace Filter

/-- The symbol between the parts of a group. -/
def separator : Combinator → Char
  | .all => '%'
  | .any => '|'

/-- A value is a group of a combinator; a percent sign decides before a bar. -/
def IsGroup (value : String) : Combinator → Prop
  | .all => '%' ∈ value.toList
  | .any => '%' ∉ value.toList ∧ '|' ∈ value.toList

instance (value : String) : (combinator : Combinator) → Decidable (IsGroup value combinator)
  | .all => inferInstanceAs (Decidable ('%' ∈ value.toList))
  | .any => inferInstanceAs (Decidable ('%' ∉ value.toList ∧ '|' ∈ value.toList))

theorem groupSymbol?_eq_some_iff {value : String} {combinator : Combinator} :
    groupSymbol? value.toList = some (separator combinator, combinator) ↔
      IsGroup value combinator := by
  by_cases percent : '%' ∈ value.toList
  · cases combinator <;> simp [groupSymbol?, groupSymbols, IsGroup, separator, percent]
  · by_cases bar : '|' ∈ value.toList
    · cases combinator <;> simp [groupSymbol?, groupSymbols, IsGroup, separator, percent, bar]
    · cases combinator <;> simp [groupSymbol?, groupSymbols, IsGroup, percent, bar]

/-- A group consists of the parts of its value. -/
theorem clause_of_isGroup {value : String} {combinator : Combinator}
    (group : IsGroup value combinator) : clause value =
      .group combinator ((Text.split (separator combinator) value).map Operand.ofText) := by
  rw [clause, groupSymbol?_eq_some_iff.mpr group]

theorem isGroup_unique {value : String} {one two : Combinator} (group : IsGroup value one)
    (group' : IsGroup value two) : one = two := by
  have same := (clause_of_isGroup group).symm.trans (clause_of_isGroup group')
  exact (Clause.group.inj same).1

theorem not_isGroup_iff {value : String} : (∀ combinator, ¬ IsGroup value combinator) ↔
    '%' ∉ value.toList ∧ '|' ∉ value.toList := by
  constructor
  · intro none
    have noPercent : '%' ∉ value.toList := none .all
    exact ⟨noPercent, fun bar => none .any ⟨noPercent, bar⟩⟩
  · rintro ⟨noPercent, noBar⟩ combinator group
    cases combinator with
    | all => exact noPercent group
    | any => exact noBar group.2

/-- What a filter writes that compares with an operand. -/
def asked (relation : Relation) (operand : Value) : Value :=
  if relation = .eq then operand else .object [(operatorOf relation, operand)]

/-- A value that is no group is written under the token of its field. -/
theorem add_of_saying {value : String} (single : ∀ combinator, ¬ IsGroup value combinator)
    {relation : Relation} {operand : String} (reading : Says value relation operand)
    (token : String) (predicate : Members) : add token predicate (clause value) =
      .ok (predicate.set token (asked relation (Operand.ofText operand))) := by
  obtain ⟨noPercent, noBar⟩ := not_isGroup_iff.mp single
  rw [clause_of_saying noPercent noBar reading, asking, asked]
  split <;> rfl

/-! ## Taken keys -/

/-- The key of a combinator holds no group but something else. -/
def Taken (combinator : Combinator) (predicate : Members) : Prop :=
  ∃ v, predicate.get? combinator.key = some v ∧ ∀ items, v ≠ .list items

/-- A filter writes its operand under the key of a combinator. -/
def Takes (config : ResourceConfig) (format : FieldPath.Format) (combinator : Combinator)
    (p : String × String) : Prop :=
  ∃ field, field? config p.1 = some field ∧ format field = combinator.key ∧
    ∀ own, ¬ IsGroup p.2 own

/-- A filter extends the group of a combinator. -/
def Needs (config : ResourceConfig) (combinator : Combinator) (p : String × String) : Prop :=
  ∃ field, field? config p.1 = some field ∧ IsGroup p.2 combinator

theorem extend_of_taken {combinator : Combinator} {predicate : Members}
    (taken : Taken combinator predicate) (items : List Value) :
    extend combinator items predicate = .error .groupTaken := by
  obtain ⟨v, holds, noList⟩ := taken
  rw [extend, holds]
  split
  · rename_i none
    cases none
  · rename_i earlier same
    exact absurd (Option.some.inj same) (noList earlier)
  · rfl

theorem extend_of_not_taken {combinator : Combinator} {predicate : Members}
    (free : ¬ Taken combinator predicate) (items : List Value) :
    ∃ items', extend combinator items predicate =
      .ok (predicate.set combinator.key (.list items')) := by
  unfold extend
  split
  · exact ⟨_, rfl⟩
  · exact ⟨_, rfl⟩
  · rename_i v noList holds
    exact absurd ⟨v, holds, fun items same => noList items same⟩ free

theorem asked_ne_list (relation : Relation) (s : String) (items : List Value) :
    asked relation (Operand.ofText s) ≠ .list items := by
  intro same
  unfold asked at same
  split at same
  · rcases Plan.ofText_cases s with ⟨n, read⟩ | ⟨x, read⟩ | read <;> rw [read] at same <;> cases same
  · cases same

variable (config : ResourceConfig) (format : FieldPath.Format)

theorem taken_set_list (own combinator : Combinator) (items : List Value) (predicate : Members) :
    Taken combinator (predicate.set own.key (.list items)) ↔
      combinator ≠ own ∧ Taken combinator predicate := by
  by_cases same : combinator = own
  · subst same
    simp [Taken]
  · have ne : combinator.key ≠ own.key := fun eq => same (Combinator.key_injective eq)
    rw [Taken, Taken, Members.get?_set_of_ne ne, and_iff_right same]

theorem taken_set {v : Value} (noList : ∀ items, v ≠ .list items) (token : String)
    (combinator : Combinator) (predicate : Members) : Taken combinator (predicate.set token v) ↔
      Taken combinator predicate ∨ token = combinator.key := by
  rw [Taken, Taken, Members.get?_set]
  split
  · rename_i same
    simp [same, noList]
  · rename_i ne
    simp [Ne.symm ne]

/-- A group fails just if its key is taken, and takes none. -/
theorem add_group_cases {value : String} {own : Combinator} (group : IsGroup value own)
    (token : String) (predicate : Members) :
    (Taken own predicate ∧ add token predicate (clause value) = .error .groupTaken) ∨
    (¬ Taken own predicate ∧
      ∃ next, add token predicate (clause value) = .ok next ∧
        ∀ combinator, Taken combinator next ↔ Taken combinator predicate) := by
  rw [clause_of_isGroup group, add]
  by_cases taken : Taken own predicate
  · exact .inl ⟨taken, extend_of_taken taken _⟩
  · obtain ⟨items, extended⟩ := extend_of_not_taken taken _
    refine .inr ⟨taken, _, extended, fun combinator => ?_⟩
    rw [taken_set_list]
    exact and_iff_right_of_imp fun held same => taken (same ▸ held)

/-- One parameter fails just if it needs a group whose key is taken, and otherwise the taken keys
    are those from before and the one that it takes. -/
theorem step_cases (predicate : Members) (p : String × String) :
    ((∃ combinator, Needs config combinator p ∧ Taken combinator predicate) ∧
      step config format predicate (p.1, .text p.2) = .error .groupTaken) ∨
    ((∀ combinator, Needs config combinator p → ¬ Taken combinator predicate) ∧
      ∃ next, step config format predicate (p.1, .text p.2) = .ok next ∧
        ∀ combinator, Taken combinator next ↔
          Taken combinator predicate ∨ Takes config format combinator p) := by
  rw [step_text]
  simp only [Needs, Takes]
  cases allowed : field? config p.1 with
  | none => exact .inr ⟨by simp, predicate, rfl, by simp⟩
  | some field =>
    simp only [Option.some.injEq, exists_eq_left']
    by_cases group : ∃ own, IsGroup p.2 own
    · obtain ⟨own, group⟩ := group
      have groups : ∀ combinator, IsGroup p.2 combinator → combinator = own :=
        fun combinator group' => isGroup_unique group' group
      rcases add_group_cases group (format field) predicate with
        ⟨taken, failed⟩ | ⟨free, next, added, same⟩
      · exact .inl ⟨⟨own, group, taken⟩, failed⟩
      · refine .inr ⟨fun combinator group' => groups combinator group' ▸ free, next, added,
          fun combinator => ?_⟩
        rw [same, or_iff_left]
        exact fun takes => takes.2 own group
    · have single := not_exists.mp group
      obtain ⟨⟨relation, operand⟩, reading, -⟩ := existsUnique_saying p.2
      refine .inr ⟨fun combinator own => absurd own (single combinator), _,
        add_of_saying single reading (format field) predicate, fun combinator => ?_⟩
      rw [taken_set (asked_ne_list relation operand), and_iff_left single]

theorem needs_before_iff {p : String × String} {rest : List (String × String)} :
    (∃ combinator, ∃ q r, [q, r].Sublist (p :: rest) ∧ Takes config format combinator q ∧
        Needs config combinator r) ↔
      (∃ combinator, ∃ q ∈ rest, Takes config format combinator p ∧ Needs config combinator q) ∨
      ∃ combinator, ∃ q r, [q, r].Sublist rest ∧ Takes config format combinator q ∧
        Needs config combinator r := by
  simp only [List.cons_sublist_cons', List.singleton_sublist]
  constructor
  · rintro ⟨combinator, q, r, within | ⟨rfl, mem⟩, takes, needs⟩
    · exact .inr ⟨combinator, q, r, within, takes, needs⟩
    · exact .inl ⟨combinator, r, mem, takes, needs⟩
  · rintro (⟨combinator, r, mem, takes, needs⟩ | ⟨combinator, q, r, within, takes, needs⟩)
    · exact ⟨combinator, p, r, .inr ⟨rfl, mem⟩, takes, needs⟩
    · exact ⟨combinator, q, r, .inl within, takes, needs⟩

/-- Filters on texts fail just if one of them needs a group whose key is taken, before them or by an
    earlier one of them. -/
theorem foldlM_step_fails_iff (params : List (String × String)) (start : Members) :
    (∃ fault, (Members.texts params).foldlM (step config format) start = .error fault) ↔
      (∃ combinator, ∃ p ∈ params, Needs config combinator p ∧ Taken combinator start) ∨
      ∃ combinator, ∃ p q, [p, q].Sublist params ∧ Takes config format combinator p ∧
        Needs config combinator q := by
  induction params generalizing start with
  | nil => simp [Members.texts, pure, Except.pure]
  | cons p rest ih =>
    have head : Members.texts (p :: rest) = (p.1, .text p.2) :: Members.texts rest := rfl
    rw [head, List.foldlM_cons, needs_before_iff]
    rcases step_cases config format start p with
      ⟨⟨combinator, needs, taken⟩, failed⟩ | ⟨free, next, stepped, taken_next⟩
    · rw [failed]
      exact iff_of_true ⟨_, rfl⟩ (.inl ⟨combinator, p, List.mem_cons_self, needs, taken⟩)
    · rw [stepped]
      refine (ih next).trans ?_
      simp only [List.mem_cons, exists_eq_or_imp, taken_next]
      constructor
      · rintro (⟨combinator, q, mem, needs, taken | takes⟩ | later)
        · exact .inl ⟨combinator, .inr ⟨q, mem, needs, taken⟩⟩
        · exact .inr (.inl ⟨combinator, q, mem, takes, needs⟩)
        · exact .inr (.inr later)
      · rintro (⟨combinator, ⟨needs, taken⟩ | ⟨q, mem, needs, taken⟩⟩ |
          ⟨combinator, q, mem, takes, needs⟩ | later)
        · exact absurd taken (free combinator needs)
        · exact .inl ⟨combinator, q, mem, needs, .inl taken⟩
        · exact .inl ⟨combinator, q, mem, needs, .inr takes⟩
        · exact .inr later

variable {config format} in
/-- A taken key is the only fault of filters on texts. -/
theorem foldlM_step_fault {params : List (String × String)} {start : Members} {fault : QueryFault}
    (failed : (Members.texts params).foldlM (step config format) start = .error fault) :
    fault = .groupTaken := by
  induction params generalizing start with
  | nil => cases failed
  | cons p rest ih =>
    have head : Members.texts (p :: rest) = (p.1, .text p.2) :: Members.texts rest := rfl
    rw [head, List.foldlM_cons] at failed
    rcases step_cases config format start p with
      ⟨-, own⟩ | ⟨-, next, stepped, -⟩
    · rw [own] at failed
      cases failed
      rfl
    · rw [stepped] at failed
      exact ih failed

end Filter

end QueryDesk
