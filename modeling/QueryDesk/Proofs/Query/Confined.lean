import QueryDesk.Proofs.Query.Filters
import QueryDesk.Proofs.Steps

/-!
# What parameters can put into a predicate

Whatever the names and the values of parameters are, a compiled predicate compares filter fields
with texts and numbers by the known operators, asks search fields for patterns, and groups nothing
but these.
-/

namespace QueryDesk

/-- A text or a number. -/
inductive Value.IsScalar : Value → Prop
  | text (s : String) : IsScalar (.text s)
  | int (n : Int) : IsScalar (.int n)
  | float (x : Binary64) : IsScalar (.float x)

/-- A clause of a group: a filter field is to equal a text or a number, or a search field is to
    match a pattern. -/
inductive ConfinedClause (config : ResourceConfig) : Value → Prop
  | equality {field : String} {operand : Value} (offered : field ∈ config.filterFields)
      (scalar : operand.IsScalar) :
      ConfinedClause config (.object [(FieldPath.token field, operand)])
  | pattern {field pattern : String} (offered : field ∈ config.searchFields) :
      ConfinedClause config
        (.object [(FieldPath.token field, .object [(Search.patternKey, .text pattern)])])

/-- An entry of a predicate: a filter field is compared with a text or a number, or clauses are
    grouped. -/
inductive ConfinedEntry (config : ResourceConfig) : String × Value → Prop
  | equality {field : String} {operand : Value} (offered : field ∈ config.filterFields)
      (scalar : operand.IsScalar) : ConfinedEntry config (FieldPath.token field, operand)
  | comparison {field operator : String} {operand : Value} (offered : field ∈ config.filterFields)
      (known : operator ∈ ["GTE", "LTE", "GT", "LT", "NE"]) (scalar : operand.IsScalar) :
      ConfinedEntry config (FieldPath.token field, .object [(operator, operand)])
  | group (combinator : Combinator) {clauses : List Value}
      (confined : ∀ clause ∈ clauses, ConfinedClause config clause) :
      ConfinedEntry config (combinator.key, .list clauses)

theorem ConfinedEntry.clauses {config : ResourceConfig} {key : String} {clauses : List Value}
    (entry : ConfinedEntry config (key, .list clauses)) :
    ∀ clause ∈ clauses, ConfinedClause config clause := by
  cases entry with
  | equality _ scalar => cases scalar
  | group _ confined => exact confined

theorem Operand.ofText_isScalar (s : String) : (Operand.ofText s).IsScalar := by
  unfold Operand.ofText
  cases Operand.plain? (Text.trim s.toList) with
  | none => exact .text s
  | some p =>
    simp only [Option.bind_some, Operand.number?]
    split
    · exact .text s
    · split
      · split
        · exact .int _
        · exact .float _
      · exact .float _

namespace Filter

/-- What a clause says is said with known operators about texts and numbers. -/
def Clause.IsPlain : Clause → Prop
  | .group _ operands => ∀ operand ∈ operands, operand.IsScalar
  | .comparison operator operand =>
    operator ∈ ["GTE", "LTE", "GT", "LT", "NE"] ∧ operand.IsScalar
  | .equality operand => operand.IsScalar

theorem clause_isPlain (value : String) : (clause value).IsPlain := by
  have operators : ∀ s ∈ comparisonSymbols, s.2 ∈ ["GTE", "LTE", "GT", "LT", "NE"] := by decide
  unfold clause
  dsimp only
  cases groupSymbol? value.toList with
  | some symbol =>
    intro operand mem
    obtain ⟨s, -, rfl⟩ := List.mem_map.mp mem
    exact Operand.ofText_isScalar s
  | none =>
    cases found : comparison? value.toList with
    | some symbol =>
      exact ⟨operators symbol (List.mem_of_find?_eq_some found), Operand.ofText_isScalar _⟩
    | none => exact Operand.ofText_isScalar value

variable {config : ResourceConfig} {predicate predicate' : Members}

theorem extend_confined {combinator : Combinator} {leaves : List Value}
    (held : ∀ entry ∈ predicate, ConfinedEntry config entry)
    (confined : ∀ clause ∈ leaves, ConfinedClause config clause)
    (extended : extend combinator leaves predicate = .ok predicate') :
    ∀ entry ∈ predicate', ConfinedEntry config entry := by
  unfold extend at extended
  split at extended
  · obtain rfl := Except.ok.inj extended
    exact Members.forall_mem_set held (.group combinator confined)
  · rename_i earlier found
    obtain rfl := Except.ok.inj extended
    refine Members.forall_mem_set held (.group combinator fun clause mem => ?_)
    rcases List.mem_append.mp mem with before | added
    · exact (held _ (Members.mem_of_get? found)).clauses clause before
    · exact confined clause added
  · cases extended

/-- One parameter keeps a predicate confined. -/
theorem step_confined {param : String × Value}
    (held : ∀ entry ∈ predicate, ConfinedEntry config entry)
    (stepped : step config FieldPath.token predicate param = .ok predicate') :
    ∀ entry ∈ predicate', ConfinedEntry config entry := by
  unfold step at stepped
  split at stepped
  · obtain rfl := Except.ok.inj stepped
    exact held
  · split at stepped
    · obtain rfl := Except.ok.inj stepped
      exact held
    · rename_i field allowed
      have offered := (field?_eq_some_iff.mp allowed).2
      obtain ⟨text, -, added⟩ := bind_eq_ok_iff.mp stepped
      have plain := clause_isPlain text
      cases said : clause text with
      | group combinator operands =>
        rw [said] at plain added
        refine extend_confined held (fun clause mem => ?_) added
        obtain ⟨operand, inOperands, rfl⟩ := List.mem_map.mp mem
        exact .equality offered (plain operand inOperands)
      | comparison operator operand =>
        rw [said] at plain added
        obtain rfl := Except.ok.inj added
        exact Members.forall_mem_set held (.comparison offered plain.1 plain.2)
      | equality operand =>
        rw [said] at plain added
        obtain rfl := Except.ok.inj added
        exact Members.forall_mem_set held (.equality offered plain)

theorem predicate_confined {params : Members}
    (collected : Filter.predicate params config = .ok predicate) :
    ∀ entry ∈ predicate, ConfinedEntry config entry := by
  have run : ∀ (params start : Members), (∀ entry ∈ start, ConfinedEntry config entry) →
      params.foldlM (step config FieldPath.token) start = .ok predicate →
      ∀ entry ∈ predicate, ConfinedEntry config entry := by
    intro params
    induction params with
    | nil =>
      intro start held ran
      obtain rfl := Except.ok.inj ran
      exact held
    | cons param rest ih =>
      intro start held ran
      rw [List.foldlM_cons] at ran
      obtain ⟨next, stepped, more⟩ := bind_eq_ok_iff.mp ran
      exact ih next (step_confined held stepped) more
  exact run params [] (by simp) collected

end Filter

theorem Search.predicate_confined {search : Value} {config : ResourceConfig} {predicate : Members}
    (searched : Search.predicate search config = .ok predicate) :
    ∀ entry ∈ predicate, ConfinedEntry config entry := by
  unfold Search.predicate at searched
  split at searched
  · obtain rfl := Except.ok.inj searched
    simp
  · split at searched
    · obtain rfl := Except.ok.inj searched
      rw [List.forall_mem_singleton]
      refine .group _ fun clause mem => ?_
      obtain ⟨field, offered, rfl⟩ := List.mem_map.mp mem
      exact .pattern offered
    · cases searched

end QueryDesk
