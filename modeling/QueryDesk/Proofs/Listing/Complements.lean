import QueryDesk.Proofs.Listing.Typed
import QueryDesk.Store.Schema

/-!
# Opposite filters

A relation holds between a cell and an operand just where its opposite does not, unless one of them
is null. No column of users may hold a null, and a text is bound to none. So the users that two
opposite filters find are all users, each by one of the filters; where the text is bound to nothing
at all, neither finds any.
-/

namespace QueryDesk

variable {r : Resource} {db : Database} {column : Column} {field v : String} {relation : Relation}
  {bound : Option Value}

/-- The relation that holds where this one does not. -/
def Relation.opposite : Relation → Relation
  | .eq => .ne
  | .ne => .eq
  | .lt => .ge
  | .le => .gt
  | .gt => .le
  | .ge => .lt

/-- No row holds a null in a column that the schema does not let be null. -/
def Database.Filled (db : Database) : Prop :=
  ∀ e, ∀ row ∈ db.rows e, ∀ c ∈ Schema.columns .declared e, c.nullable = false →
    row.cell c.name ≠ .null

/-! ## Cells of operands -/

theorem Binary64.ofScientific_ne_nan (negative : Bool) (coefficient : Nat) (exponent : Int) :
    ofScientific negative coefficient exponent ≠ .nan := by
  have ofRatio_ne_nan : ∀ num den, ofRatio negative num den ≠ .nan := by
    intro num den
    unfold ofRatio ofUnits
    split <;> simp
  unfold ofScientific
  split
  · simp
  · dsimp only
    split
    · simp
    · split
      · simp
      · split <;> exact ofRatio_ne_nan _ _

theorem Cell.ofBinary64_eq {x : Binary64} (number : x ≠ .nan) : ofBinary64 x = .real x := by
  cases x with
  | nan => exact absurd rfl number
  | _ => rfl

theorem Affinity.convert_ne_null {cell : Cell} (present : cell ≠ .null) (affinity : Affinity) :
    affinity.convert cell ≠ .null := by
  cases affinity with
  | textual => cases cell <;> simp_all [convert]
  | numeric =>
    cases cell with
    | null => exact absurd rfl present
    | int n => simp [convert]
    | real x => simp [convert]
    | text cs =>
      simp only [convert, numericText?]
      cases Numeral.scientific? (Numeral.takeSign (Text.dropWhileEnd Text.isAsciiBlank
        (cs.dropWhile Text.isAsciiBlank))).2 <;> simp

namespace Operand.Suits

variable {kind : ColumnKind} {operand : Value}

/-- What a column can be compared with is not stored as null. -/
theorem cell_ne_null (suits : Suits kind operand) : Operand.cell operand ≠ .null := by
  cases suits with
  | number other finite =>
    cases finite with
    | int n => simp [Operand.cell]
    | @float x finite =>
      have number : x ≠ .nan := by
        rintro rfl
        cases finite
      rw [Operand.cell, Cell.ofBinary64_eq number]
      simp
    | @decimal d finite =>
      cases d with
      | finite negative coefficient exponent =>
        rw [Operand.cell, Decimal.toBinary64?, Option.map_some, Option.getD_some,
          Cell.ofBinary64_eq (Binary64.ofScientific_ne_nan negative coefficient exponent)]
        simp
      | infinite negative => cases finite
      | nan negative signaling payload => cases finite
  | text worded => simp [Operand.cell]
  | uuid identifies => simp [Operand.cell]

theorem isBindable (suits : Suits kind operand) (column : ColumnRef) :
    (Operand.Slot.operand column operand).isBindable = true := by
  cases suits with
  | number other finite =>
    cases finite with
    | int n => simp [Operand.Slot.isBindable, Operand.isCollection]
    | float finite => simp [Operand.Slot.isBindable, Operand.isCollection]
    | @decimal d finite =>
      cases d with
      | nan negative signaling payload => cases finite
      | _ => simp [Operand.Slot.isBindable, Operand.isCollection]
  | text worded => simp [Operand.Slot.isBindable, Operand.isCollection]
  | uuid identifies => simp [Operand.Slot.isBindable, Operand.isCollection]

end Operand.Suits

/-! ## Opposite truths -/

theorem Condition.relationHolds_opposite (relation : Relation) (o : Ordering) :
    relationHolds relation.opposite o = !relationHolds relation o := by
  cases relation <;> cases o <;> rfl

/-- Of two opposite comparisons without null one is true. -/
theorem Condition.compareTruth_opposite {kind : ColumnKind} {cell : Cell} {operand : Value}
    (filled : cell ≠ .null) (suits : Operand.Suits kind operand) (relation : Relation) :
    compareTruth relation.opposite kind cell operand = some true ↔
      ¬ compareTruth relation kind cell operand = some true := by
  have present := Affinity.convert_ne_null suits.cell_ne_null kind.affinity
  have ordered : ∃ o,
      Cell.compare? cell (kind.affinity.convert (Operand.cell operand)) = some o := by
    generalize kind.affinity.convert (Operand.cell operand) = converted at present
    cases cell with
    | null => exact absurd rfl filled
    | _ =>
      cases converted with
      | null => exact absurd rfl present
      | _ => exact ⟨_, rfl⟩
  obtain ⟨o, ordered⟩ := ordered
  rw [compareTruth, compareTruth, ordered, Option.map_some, Option.map_some,
    relationHolds_opposite, Option.some.injEq, Option.some.injEq, Bool.not_eq_true',
    Bool.not_eq_true]

/-! ## Opposite filters -/

/-- A value that no symbol occurs in can be asked for by every relation. -/
theorem FiltersOn.related (filters : FiltersOn r column field v .eq v) (unmarked : Unmarked v)
    (begins : v.toList.head? ≠ some '=') (relation : Relation) :
    FiltersOn r column field (Filter.symbolOf relation ++ v) relation v := by
  have absent : ∀ c, c ∉ (Filter.symbolOf relation).toList → c ∉ v.toList →
      c ∉ (Filter.symbolOf relation ++ v).toList := by
    intro c notSymbol notValue
    rw [String.toList_append, List.mem_append]
    exact fun mem => mem.elim notSymbol notValue
  exact ⟨filters.allowed, filters.resolves, filters.single,
    absent '%' (by cases relation <;> decide) unmarked.noPercent,
    absent '|' (by cases relation <;> decide) unmarked.noBar,
    Filter.says_symbolOf relation unmarked.noGreater unmarked.noLess unmarked.noUnequal begins⟩

/-- Where a value is answered, the store takes what it is bound to. -/
theorem FiltersOn.taken (filters : FiltersOn r column field v .eq v)
    (binds : Binding.bind column.kind (Operand.ofText v) = .ok bound)
    (suits : ∀ operand, bound = some operand → Operand.Suits column.kind operand)
    {listing : Listing} (listed : r.list db (Members.texts (filtering field v)) = .ok listing) :
    ∀ operand, bound = some operand →
      (Operand.Slot.operand ⟨r.entity, column⟩ operand).isBindable = true ∧
        (Operand.Slot.operand ⟨r.entity, column⟩ operand).fault? = none := by
  rintro operand rfl
  have bindable := (suits operand rfl).isBindable ⟨r.entity, column⟩
  refine ⟨bindable, ?_⟩
  cases faulty : (Operand.Slot.operand ⟨r.entity, column⟩ operand).fault? with
  | none => rfl
  | some fault =>
    have refused : r.list db (Members.texts (filtering field v)) = .error (.store fault) :=
      filters.refused binds bindable faulty
    rw [listed] at refused
    cases refused

/-- One listing splits rows with another: each row is in just one of the two. -/
structure Listing.Splits (one other : Listing) (rows : List Row) : Prop where
  disjoint : one.items.Disjoint other.items
  together : ∀ row, row ∈ one.items ∨ row ∈ other.items ↔ row ∈ rows

/-- Where no row has a null, what two opposite filters find splits the rows of the resource, or is
    nothing if the text is bound to nothing. -/
theorem FiltersOn.splits (filters : FiltersOn r column field v .eq v) (unmarked : Unmarked v)
    (begins : v.toList.head? ≠ some '=') (keyed : db.Keyed)
    (filled : ∀ row ∈ db.rows r.entity, row.cell column.name ≠ .null)
    (binds : Binding.bind column.kind (Operand.ofText v) = .ok bound)
    (suits : ∀ operand, bound = some operand → Operand.Suits column.kind operand)
    {listing : Listing} (listed : r.list db (Members.texts (filtering field v)) = .ok listing)
    (relation : Relation) :
    ∃ one other, r.list db (Members.texts (filtering field (Filter.symbolOf relation ++ v))) =
        .ok one ∧
      r.list db (Members.texts (filtering field (Filter.symbolOf relation.opposite ++ v))) =
        .ok other ∧
      (bound = none → one.items = [] ∧ other.items = []) ∧
      (bound ≠ none → one.Splits other (db.rows r.entity)) := by
  have taken := filters.taken binds suits listed
  obtain ⟨one, answered, -, found⟩ :=
    (filters.related unmarked begins relation).answered keyed binds taken
  obtain ⟨other, answered', -, found'⟩ :=
    (filters.related unmarked begins relation.opposite).answered keyed binds taken
  refine ⟨one, other, answered, answered', ?_, ?_⟩
  · rintro rfl
    constructor <;> refine List.eq_nil_iff_forall_not_mem.mpr fun row mem => ?_
    · obtain ⟨-, operand, bound, -⟩ := (found row).mp mem
      cases bound
    · obtain ⟨-, operand, bound, -⟩ := (found' row).mp mem
      cases bound
  · intro bindable
    obtain ⟨operand, rfl⟩ := Option.ne_none_iff_exists'.mp bindable
    simp only [Option.some.injEq, exists_eq_left'] at found found'
    -- On a stored row, the second filter holds where the first does not.
    have opposite : ∀ row ∈ db.rows r.entity, (row ∈ other.items ↔ row ∉ one.items) := by
      intro row stored
      rw [found', found, and_iff_right stored, and_iff_right stored]
      exact Condition.compareTruth_opposite (filled row stored) (suits operand rfl) relation
    refine ⟨?_, fun row => ⟨?_, fun stored => ?_⟩⟩
    · intro row mem mem'
      exact (opposite row ((found row).mp mem).1).mp mem' mem
    · rintro (mem | mem)
      · exact ((found row).mp mem).1
      · exact ((found' row).mp mem).1
    · rw [opposite row stored]
      exact Classical.em _

/-- A field that users are filtered on is a column of theirs that holds no null. -/
theorem exists_filled_column (filled : db.Filled)
    (allowed : field ∈ ResourceConfig.users.filterFields) : ∃ column,
      Entity.user.column? field = some column ∧
        ∀ row ∈ db.rows .user, row.cell column.name ≠ .null := by
  have known : ∀ field ∈ ResourceConfig.users.filterFields,
      (Entity.user.column? field).isSome = true ∧
        ∃ c ∈ Schema.columns .declared .user, c.name = field ∧ c.nullable = false := by
    decide +kernel
  obtain ⟨leads, c, declared, named, needed⟩ := known field allowed
  obtain ⟨column, own⟩ := Option.isSome_iff_exists.mp leads
  refine ⟨column, own, fun row stored => ?_⟩
  rw [(Entity.own_column own).1, ← named]
  exact filled .user row stored c declared needed

/-- Users are split by each pair of opposite filters on a field of theirs: by equality and
    inequality, by less and not less, by greater and not greater. Where the text of the filters is
    bound to nothing on the column, both find nobody. -/
theorem users_split (keyed : db.Keyed) (filled : db.Filled)
    (allowed : field ∈ ResourceConfig.users.filterFields) (unmarked : Unmarked v)
    (begins : v.toList.head? ≠ some '=') {listing : Listing}
    (listed : Resource.users.list db (Members.texts (filtering field v)) = .ok listing) :
    ∃ column bound, Entity.user.column? field = some column ∧
      Binding.bind column.kind (Operand.ofText v) = .ok bound ∧
      ∀ relation : Relation, ∃ one other : Listing,
        Resource.users.list db
          (Members.texts (filtering field (Filter.symbolOf relation ++ v))) = .ok one ∧
        Resource.users.list db
          (Members.texts (filtering field (Filter.symbolOf relation.opposite ++ v))) = .ok other ∧
        (one.Splits other (db.rows .user) ∨ (one.items = [] ∧ other.items = [])) ∧
        (db.users ≠ [] → (one.items = [] ∧ other.items = [] ↔ bound = none)) := by
  obtain ⟨column, own, present⟩ := exists_filled_column filled allowed
  obtain ⟨-, token, resolves, single⟩ := Entity.own_column own
  have filters : FiltersOn .users column field v .eq v := by
    refine ⟨allowed, ?_, ?_, unmarked.noPercent, unmarked.noBar, unmarked.says⟩
    · exact (congrArg (resolve .user) token).trans resolves
    · exact (congrArg Combinator.ofKey? token).trans single
  obtain ⟨bound, binds, suits⟩ := Operand.suits_of_bind column.kind v
  refine ⟨column, bound, own, binds, fun relation => ?_⟩
  obtain ⟨one, other, answered, answered', nothing, splits⟩ :=
    filters.splits unmarked begins keyed present binds suits listed relation
  refine ⟨one, other, answered, answered', ?_, fun someone => ⟨fun both => ?_, nothing⟩⟩
  · by_cases bindable : bound = none
    · exact .inr (nothing bindable)
    · exact .inl (splits bindable)
  · by_contra bindable
    obtain ⟨u, stored⟩ := List.exists_mem_of_ne_nil _ someone
    have mem := ((splits bindable).together (.user u)).mpr (List.mem_map.mpr ⟨u, stored, rfl⟩)
    rw [both.1, both.2] at mem
    exact mem.elim List.not_mem_nil List.not_mem_nil

theorem users_split_at_twelve :
    ∃ one other : Listing,
      Resource.users.list sampleDatabase (Members.texts (filtering "balance" ">12")) = .ok one ∧
      Resource.users.list sampleDatabase (Members.texts (filtering "balance" "<=12")) = .ok other ∧
      one.Splits other (sampleDatabase.rows .user) := by
  have filled : sampleDatabase.Filled := by
    intro e
    cases e <;> decide +kernel
  have answer : (Resource.users.list sampleDatabase
      (Members.texts (filtering "balance" "12"))).toOption.isSome = true := by
    decide +kernel
  obtain ⟨listing, listed⟩ := exists_ok_of_isSome answer
  have allowed : "balance" ∈ ResourceConfig.users.filterFields := by decide
  have unmarked : Unmarked "12" := unmarked_of_apart (by simp)
  have begins : "12".toList.head? ≠ some '=' := by decide
  obtain ⟨column, bound, own, binds, split⟩ :=
    users_split sampleDatabase_keyed filled allowed unmarked begins listed
  obtain ⟨one, other, answered, answered', splits | nobody, whether⟩ := split .gt
  · exact ⟨one, other, answered, answered', splits⟩
  · obtain rfl := (whether (List.cons_ne_nil _ _)).mp nobody
    obtain rfl : ⟨"balance", .decimal⟩ = column := Option.some.inj own
    have bindable :
        ((Binding.bind .decimal (Operand.ofText "12")).toOption.bind id).isSome = true := by
      decide +kernel
    rw [binds] at bindable
    cases bindable

end QueryDesk
