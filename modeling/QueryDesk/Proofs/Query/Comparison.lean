import QueryDesk.Plan.OfSpec
import QueryDesk.Proofs.Text.Cut

/-!
# What a filter value compares with

`Says` tells, without an algorithm, which relation a filter value asks for and to which text: the
symbol of the relation is the first of the known ones that occurs in the value, and the text stands
between its first and its second occurrence. `clause_of_asked` proves that reading the value finds
just this.
-/

namespace QueryDesk.Filter

open Text

theorem between_iff {symbol cs segment : List Char} :
    Between symbol cs segment ↔ occurs symbol cs = true ∧ segmentAfter symbol cs = segment := by
  unfold Between segmentAfter occurs
  cases cut : cut? symbol cs with
  | none =>
    simp only [Option.isSome_none, Bool.false_eq_true, false_and, iff_false, not_exists, not_and]
    intro before after found
    rw [← cut?_eq_some_iff, cut] at found
    cases found
  | some found =>
    obtain ⟨before, after⟩ := found
    simp only [Option.isSome_some, true_and]
    cases again : cut? symbol after with
    | none =>
      simp only [Option.map_none, Option.getD_none]
      constructor
      · rintro ⟨before', after', found, rest⟩
        rw [← cut?_eq_some_iff, cut] at found
        cases found
        rcases rest with ⟨-, same⟩ | ⟨rest, found⟩
        · exact same.symm
        · rw [← cut?_eq_some_iff, again] at found
          cases found
      · rintro rfl
        refine ⟨before, after, cut?_eq_some_iff.mp cut, .inl ⟨?_, rfl⟩⟩
        rw [← occurs_iff, occurs, again]
        simp
    | some second =>
      obtain ⟨segment', rest⟩ := second
      simp only [Option.map_some, Option.getD_some]
      constructor
      · rintro ⟨before', after', found, rest'⟩
        rw [← cut?_eq_some_iff, cut] at found
        cases found
        rcases rest' with ⟨absent, -⟩ | ⟨rest', found⟩
        · refine absurd ?_ absent
          rw [← occurs_iff, occurs, again]
          rfl
        · rw [← cut?_eq_some_iff, again] at found
          cases found
          rfl
      · rintro rfl
        exact ⟨before, after, cut?_eq_some_iff.mp cut, .inr ⟨rest, cut?_eq_some_iff.mp again⟩⟩

/-- The symbols of the relations; one comes before those that it begins with. -/
def relationSymbols : List (String × Relation) :=
  [(">=", .ge), ("<=", .le), (">", .gt), ("<", .lt), ("!=", .ne)]

/-- A filter value asks for a relation to a text. -/
inductive Says (value : String) : Relation → String → Prop
  /-- No symbol occurs in the value: it asks to be equalled. -/
  | equal (none : ∀ s ∈ relationSymbols, ¬ s.1.toList <:+: value.toList) : Says value .eq value
  /-- The first symbol that occurs in the value gives the relation. -/
  | compare {earlier later symbol relation operand}
      (known : relationSymbols = earlier ++ (symbol, relation) :: later)
      (first : ∀ s ∈ earlier, ¬ s.1.toList <:+: value.toList)
      (between : Between symbol.toList value.toList operand.toList) : Says value relation operand

/-- The operator of a relation that has a symbol. -/
def operatorOf : Relation → String
  | .eq => ""
  | .ne => "NE"
  | .lt => "LT"
  | .le => "LTE"
  | .gt => "GT"
  | .ge => "GTE"

/-- The clause that asks for a relation to an operand. -/
def asking (relation : Relation) (operand : Value) : Clause :=
  if relation = .eq then .equality operand else .comparison (operatorOf relation) operand

theorem comparisonSymbols_eq :
    comparisonSymbols = relationSymbols.map fun s => (s.1, operatorOf s.2) := rfl

theorem relation_ne_eq {symbol : String} {relation : Relation}
    (known : (symbol, relation) ∈ relationSymbols) : relation ≠ .eq := by
  rintro rfl
  simp [relationSymbols] at known

theorem groupSymbol?_eq_none_iff {cs : List Char} :
    groupSymbol? cs = none ↔ '%' ∉ cs ∧ '|' ∉ cs := by
  simp [groupSymbol?, groupSymbols]

/-- The symbol that decides what a value asks for, with its relation. -/
def decisive? (value : String) : Option (String × Relation) :=
  relationSymbols.find? fun s => occurs s.1.toList value.toList

theorem comparison?_eq (value : String) : comparison? value.toList =
    (decisive? value).map fun s => (s.1, operatorOf s.2) := by
  rw [comparison?, comparisonSymbols_eq, List.find?_map]
  rfl

/-- The text that a value compares with. -/
def textAfter (value : String) : Option (String × Relation) → String
  | none => value
  | some (symbol, _) => String.ofList (segmentAfter symbol.toList value.toList)

/-- What a value asks for is decided by the first symbol that occurs in it. -/
theorem says_iff {value : String} {relation : Relation} {operand : String} :
    Says value relation operand ↔
      ((decisive? value).map Prod.snd).getD .eq = relation ∧
        textAfter value (decisive? value) = operand := by
  constructor
  · intro reading
    cases reading with
    | equal none =>
      have absent : decisive? value = .none := by
        rw [decisive?, List.find?_eq_none]
        intro s mem
        rw [occurs_iff]
        exact none s mem
      rw [absent]
      exact ⟨rfl, rfl⟩
    | @compare earlier later symbol relation operand known first between =>
      obtain ⟨here, segment⟩ := between_iff.mp between
      have found : decisive? value = some (symbol, relation) := by
        rw [decisive?, List.find?_eq_some_iff_append]
        refine ⟨here, earlier, later, known, fun s mem => ?_⟩
        have absent := first s mem
        rw [← occurs_iff] at absent
        simpa using absent
      rw [found, textAfter, segment, String.ofList_toList]
      exact ⟨rfl, rfl⟩
  · rintro ⟨rfl, rfl⟩
    cases found : decisive? value with
    | none =>
      refine .equal fun s mem => ?_
      rw [← occurs_iff]
      exact List.find?_eq_none.mp found s mem
    | some s =>
      obtain ⟨symbol, relation⟩ := s
      obtain ⟨here, earlier, later, known, first⟩ := List.find?_eq_some_iff_append.mp found
      refine .compare known (fun s mem => ?_) ?_
      · rw [← occurs_iff]
        simpa using first s mem
      · rw [textAfter, String.toList_ofList]
        exact between_iff.mpr ⟨here, rfl⟩

/-- Every value asks for some relation, and for no other. -/
theorem existsUnique_saying (value : String) : ∃! p : Relation × String, Says value p.1 p.2 := by
  refine ⟨(_, _), says_iff.mpr ⟨rfl, rfl⟩, ?_⟩
  rintro ⟨relation, operand⟩ reading
  obtain ⟨rfl, rfl⟩ := says_iff.mp reading
  rfl

/-- A value without group symbols is read as the relation and the text that it asks for. -/
theorem clause_of_saying {value : String} (noPercent : '%' ∉ value.toList)
    (noBar : '|' ∉ value.toList) {relation : Relation} {operand : String}
    (reading : Says value relation operand) :
    clause value = asking relation (Operand.ofText operand) := by
  have ungrouped := groupSymbol?_eq_none_iff.mpr ⟨noPercent, noBar⟩
  obtain ⟨rfl, rfl⟩ := says_iff.mp reading
  simp only [clause, ungrouped, comparison?_eq]
  cases found : decisive? value with
  | none => rfl
  | some s =>
    obtain ⟨symbol, relation⟩ := s
    have ne_eq := relation_ne_eq (List.mem_of_find?_eq_some found)
    simp only [Option.map_some, Option.getD_some, textAfter, asking, ne_eq, if_false]

theorem not_infix_of_notMem {symbol cs : List Char} {c : Char} (mem : c ∈ symbol)
    (absent : c ∉ cs) : ¬ symbol <:+: cs :=
  fun occurs => absent (occurs.subset mem)

/-- No symbol occurs in a text that has neither of the first two characters and not the symbol of
    inequality. -/
theorem symbol_absent {cs : List Char} (noGreater : '>' ∉ cs) (noLess : '<' ∉ cs)
    (noUnequal : ¬ "!=".toList <:+: cs) : ∀ s ∈ relationSymbols, ¬ s.1.toList <:+: cs := by
  have symbols : ∀ s ∈ relationSymbols, '>' ∈ s.1.toList ∨ '<' ∈ s.1.toList ∨ s.1 = "!=" := by
    decide
  intro s mem
  rcases symbols s mem with greater | less | unequal
  · exact not_infix_of_notMem greater noGreater
  · exact not_infix_of_notMem less noLess
  · rwa [unequal]

/-- A value that no symbol occurs in asks to be equalled. -/
theorem says_equal {value : String} (noGreater : '>' ∉ value.toList) (noLess : '<' ∉ value.toList)
    (noUnequal : ¬ "!=".toList <:+: value.toList) : Says value .eq value :=
  .equal (symbol_absent noGreater noLess noUnequal)

/-! ## Writing relations -/

/-- The symbol of a relation; equality has none. -/
def symbolOf : Relation → String
  | .eq => ""
  | .ne => "!="
  | .lt => "<"
  | .le => "<="
  | .gt => ">"
  | .ge => ">="

/-- A symbol has a character that those after it lack, or an equals sign behind the only character
    of the other one. -/
theorem relationSymbols_apart : relationSymbols.Pairwise fun s t =>
    (∃ c ∈ ['>', '<'], c ∈ s.1.toList ∧ c ∉ t.1.toList) ∨
      ∃ c ∈ ['>', '<'], s.1.toList = [c, '='] ∧ t.1.toList = [c] := by
  simp [relationSymbols]

/-- A relation is asked for by its symbol before a text in which no symbol occurs and that does not
    complete it to another one. -/
theorem says_symbolOf (relation : Relation) {operand : String} (noGreater : '>' ∉ operand.toList)
    (noLess : '<' ∉ operand.toList) (noUnequal : ¬ "!=".toList <:+: operand.toList)
    (begins : operand.toList.head? ≠ some '=') :
    Says (symbolOf relation ++ operand) relation operand := by
  have absent := symbol_absent noGreater noLess noUnequal
  have without : ∀ c ∈ ['>', '<'], c ∉ operand.toList := by
    simpa using And.intro noGreater noLess
  by_cases eq : relation = .eq
  · subst eq
    rw [symbolOf, String.empty_append]
    exact .equal absent
  · have listed : (symbolOf relation, relation) ∈ relationSymbols := by
      cases relation <;> first | exact absurd rfl eq | decide
    obtain ⟨earlier, later, known⟩ := List.append_of_mem listed
    refine .compare known (fun s mem => ?_) ⟨[], operand.toList, ⟨?_, ?_⟩, .inl ⟨?_, rfl⟩⟩
    · have apart := relationSymbols_apart
      rw [known, List.pairwise_append] at apart
      rw [String.toList_append]
      rcases apart.2.2 s mem _ List.mem_cons_self with
        ⟨c, mark, inSymbol, notOther⟩ | ⟨c, mark, symbol, other⟩
      · refine not_infix_of_notMem inSymbol fun inValue => ?_
        exact (List.mem_append.mp inValue).elim notOther (without c mark)
      · rw [symbol, other, List.singleton_append, List.infix_cons_iff]
        rintro (completed | within)
        · obtain ⟨rest, same⟩ := completed
          refine begins ?_
          rw [← (List.cons.inj same).2]
          rfl
        · exact without c mark (within.subset List.mem_cons_self)
    · exact String.toList_append
    · exact fun _ short => absurd short (Nat.not_lt_zero _)
    · exact absent _ listed

end QueryDesk.Filter
