import QueryDesk.Proofs.Json.Shown
import QueryDesk.Proofs.Listing.Authors
import QueryDesk.Proofs.Listing.Totals
import QueryDesk.Proofs.Number.Grammar

/-!
# Filters by one value

A filter value without symbols asks for the rows whose cell equals what its text is bound to on the
column. A column of texts is compared with the text of the number that the value stands for, which
need not be the text that was sent. A column of numbers is compared with nothing but a number that
the value has in plain notation; there digits of other scripts and underscores are let through.
-/

namespace QueryDesk

open Numeral

variable {r : Resource} {db : Database} {field v : String} {joins : List Join} {c : ColumnRef}
  {bound : Option Value}

/-! ## The plan -/

/-- A token that leads to a column is no key of a group. -/
theorem ofKey?_of_leads {e : Entity} {token : String}
    (leads : (resolve e token).column? = some c) : Combinator.ofKey? token = none := by
  cases grouped : Combinator.ofKey? token with
  | none => rfl
  | some combinator =>
    obtain rfl := Plan.eq_key_of_ofKey? grouped
    have nowhere : (resolve e combinator.key).column? = none := by
      cases e <;> cases combinator <;> decide +kernel
    rw [nowhere] at leads
    cases leads

/-- The request is planned as one comparison with what the value is bound to. -/
theorem planOf_filtering (allowed : field ∈ r.config.filterFields)
    (resolves : resolve r.entity (r.format field) = ⟨joins, some c⟩) (unmarked : Unmarked v)
    (binds : Binding.bind c.column.kind (Operand.ofText v) = .ok bound) :
    r.planOf (Members.texts (filtering field v)) =
      .ok { entity := r.entity, joins := addJoins [] joins,
            conditions := [Condition.comparing .eq c bound] } := by
  have single : Combinator.ofKey? (r.format field) = none := ofKey?_of_leads (by rw [resolves])
  have compiles := compiles_filtering allowed
    (Plan.leafValue?_of_saying unmarked.noPercent unmarked.noBar unmarked.says)
  exact planOf_eq_ok_iff.mpr ⟨_, _, _, compiles, Plan.ofSpec_clause resolves single binds {}⟩

/-! ## Columns of texts -/

namespace Numeral

theorem natAbs_of_spells {cs : List Char} {n : Int} (spells : Spells cs n) :
    n.natAbs < Nat.pow 10 maxDigits := by
  obtain ⟨negative, digits, m, -, run, rfl⟩ := spells.takeSign
  have value : natOfDigits digits = m := by rw [natOfDigits_eq, run.value]
  have magnitude : (signed negative m).natAbs = natOfDigits digits := by
    rw [value, signed]
    split <;> simp
  rw [magnitude]
  exact natOfDigits_lt (List.all_eq_true.mpr run.every) run.short

end Numeral

namespace Operand

/-- The text of what a text stands for. -/
def written (s : String) : String :=
  match ofText s with
  | .int n => toString n
  | .float x => x.text
  | _ => s

theorem written_of_text (kept : ofText v = .text v) : written v = v := by
  rw [written, kept]

/-- On a column of texts a value is bound to the text of what it stands for. -/
theorem bind_text_ofText (s : String) :
    Binding.bind .text (ofText s) = .ok (some (.text (written s))) := by
  rcases Plan.ofText_cases s with ⟨n, read⟩ | ⟨x, read⟩ | read
  · have short := natAbs_of_spells (spells_of_ofText read)
    have shown : intText? n = some (toString n) := by rw [intText?, if_pos short]
    rw [written, read]
    unfold Binding.bind
    simp only [shown]
  · rw [written, read]
    rfl
  · rw [written, read]
    rfl

end Operand

/-- A cell equals a text just if it holds the text. -/
theorem compareTruth_text_iff {cell : Cell} {s : String} :
    Condition.compareTruth .eq .text cell (.text s) = some true ↔ cell = .text s.toList := by
  have compared : Condition.compareTruth .eq .text cell (.text s) =
      (Cell.compare? cell (.text s.toList)).map (Condition.relationHolds .eq) := rfl
  rw [compared]
  cases cell with
  | null => simp [Cell.compare?]
  | int n => simp [Cell.compare?, Cell.order, Condition.relationHolds]
  | real x => simp [Cell.compare?, Cell.order, Condition.relationHolds]
  | text cs => simp [Cell.compare?, Cell.order, Condition.relationHolds, Cell.compareText_eq_iff]

theorem FiltersOn.answered_text {column : Column} (filters : FiltersOn r column field v .eq v)
    (keyed : db.Keyed) (isText : column.kind = .text) :
    ∃ listing, r.list db (Members.texts (filtering field v)) = .ok listing ∧
      listing.items.Nodup ∧ ∀ row, row ∈ listing.items ↔ row ∈ db.rows r.entity ∧
        row.cell column.name = .text (Operand.written v).toList := by
  have binds : Binding.bind column.kind (Operand.ofText v) =
      .ok (some (.text (Operand.written v))) := by
    rw [isText, Operand.bind_text_ofText]
  obtain ⟨listing, listed, distinct, members⟩ := filters.answered keyed binds
    fun operand same => by
      obtain rfl := Option.some.inj same
      exact ⟨by simp [Operand.Slot.isBindable, Operand.isCollection], rfl⟩
  refine ⟨listing, listed, distinct, fun row => ?_⟩
  rw [members, isText]
  simp only [Option.some.injEq, exists_eq_left', compareTruth_text_iff]

/-- A filter on a column of texts compares it with the text of what the value stands for. That is
    the value itself if it is not in plain notation; a whole number is written in its shortest form,
    and any other number as a double. Rows that hold the value itself are found only if it is
    written so. -/
theorem text_filtered (keyed : db.Keyed) (allowed : field ∈ r.config.filterFields)
    (resolves : resolve r.entity (r.format field) = ⟨joins, some c⟩)
    (isText : c.column.kind = .text) (unmarked : Unmarked v) :
    r.planOf (Members.texts (filtering field v)) =
      .ok { entity := r.entity, joins := addJoins [] joins,
            conditions := [.compare .eq c (.text (Operand.written v))] } ∧
    (joins = [] → ∃ listing, r.list db (Members.texts (filtering field v)) = .ok listing ∧
      listing.items.Nodup ∧
      (∀ row, row ∈ listing.items ↔ row ∈ db.rows r.entity ∧
        row.cell c.column.name = .text (Operand.written v).toList) ∧
      ∀ row ∈ db.rows r.entity, row.cell c.column.name = .text v.toList →
        (row ∈ listing.items ↔ Operand.written v = v)) ∧
    (¬ PlainNotation (Text.trim v.toList) → Operand.written v = v) ∧
    (∀ n, Operand.ofText v = .int n →
      Spells (Text.trim v.toList) n ∧ Operand.written v = toString n) ∧
    ∀ x, Operand.ofText v = .float x →
      PlainNotation (Text.trim v.toList) ∧ Operand.written v = x.text := by
  have binds : Binding.bind c.column.kind (Operand.ofText v) =
      .ok (some (.text (Operand.written v))) := by
    rw [isText, Operand.bind_text_ofText]
  refine ⟨planOf_filtering allowed resolves unmarked binds, ?_, ?_, ?_, ?_⟩
  · rintro rfl
    obtain ⟨e, column⟩ := c
    obtain rfl : e = r.entity := Plan.entity_of_no_joins
      (congrArg Resolution.joins resolves) (congrArg Resolution.column? resolves)
    have filters : FiltersOn r column field v .eq v :=
      ⟨allowed, resolves, ofKey?_of_leads (by rw [resolves]), unmarked.noPercent, unmarked.noBar,
        unmarked.says⟩
    obtain ⟨listing, listed, distinct, found⟩ := filters.answered_text keyed isText
    refine ⟨listing, listed, distinct, found, fun row stored holds => ?_⟩
    rw [found, holds, Cell.text.injEq, String.toList_inj, eq_comm]
    exact and_iff_right stored
  · exact fun other => Operand.written_of_text (Operand.ofText_of_not_plain other)
  · intro n read
    exact ⟨Operand.spells_of_ofText read, by rw [Operand.written, read]⟩
  · intro x read
    exact ⟨Operand.plainNotation_of_ofText (by simp [read]), by rw [Operand.written, read]⟩

/-- Two users whose statuses are written like the same number. -/
def statusDatabase : Database :=
  let day : Moment := ⟨63902908800000000, none⟩
  { users :=
      [{ id := ⟨1⟩, fullName := "Ann", email := "ann@x", status := "007", createdAt := day,
         updatedAt := day },
       { id := ⟨2⟩, fullName := "Bob", email := "bob@x", status := "7", createdAt := day,
         updatedAt := day }] }

/-- The user whose status is `007` is not among those that are found by `007`, and the one whose
    status is `7` is. -/
theorem status_loses_zeros :
    ∃ ann ∈ statusDatabase.rows .user, ∃ bob ∈ statusDatabase.rows .user, ∃ listing,
      ann.cell "status" = .text "007".toList ∧ bob.cell "status" = .text "7".toList ∧
      Resource.users.list statusDatabase (Members.texts (filtering "status" "007")) = .ok listing ∧
      ann ∉ listing.items ∧ bob ∈ listing.items := by
  have keyed : statusDatabase.Keyed := by
    intro e
    cases e <;> decide +kernel
  have unmarked : Unmarked "007" := unmarked_of_apart (by simp)
  have written : Operand.written "007" = "7" := by decide +kernel
  have allowed : "status" ∈ Resource.users.config.filterFields := by decide
  have resolves : resolve Resource.users.entity (Resource.users.format "status") =
      ⟨[], some ⟨.user, ⟨"status", .text⟩⟩⟩ := by
    decide +kernel
  obtain ⟨-, listed, -⟩ := text_filtered keyed allowed resolves rfl unmarked
  obtain ⟨listing, answer, -, found, -⟩ := listed rfl
  rw [written] at found
  refine ⟨_, List.mem_cons_self, _, List.mem_cons_of_mem _ List.mem_cons_self, listing, rfl, rfl,
    answer, ?_, ?_⟩
  · rw [found]
    rintro ⟨-, holds⟩
    exact absurd holds (by decide)
  · exact (found _).mpr ⟨List.mem_cons_of_mem _ List.mem_cons_self, rfl⟩

/-! ## Columns of numbers -/

/-- The kind of number that a column of a kind holds; none holds doubles. -/
def ColumnKind.number? : ColumnKind → Option Binding.NumberKind
  | .whole => some .whole
  | .decimal => some .decimal
  | _ => none

theorem Binding.bind_of_number? {kind : ColumnKind} {number : NumberKind}
    (numeric : kind.number? = some number) (operand : Value) :
    bind kind operand = Binding.number number operand := by
  cases kind <;> cases numeric <;> rfl

/-- On a column of numbers a value is bound to nothing, or to a number that it has in plain notation
    once it is folded. -/
theorem Binding.number_ofText (kind : NumberKind) (s : String) :
    ∃ bound, number kind (Operand.ofText s) = .ok bound ∧
      (∀ n, Operand.ofText s = .int n → bound = some (.int n)) ∧
      (∀ x, Operand.ofText s = .float x → bound = some (.float x)) ∧
      (Operand.ofText s = .text s → bound = readNumber? kind (Text.trim s.toList)) ∧
      ∀ w, bound = some w → w.IsNumber ∧ PlainNotation (folded (Text.trim s.toList)) := by
  have plain : Operand.ofText s ≠ .text s → PlainNotation (folded (Text.trim s.toList)) := by
    intro other
    have grammar := Operand.plainNotation_of_ofText other
    rwa [folded_eq_self grammar.ascii]
  rcases Plan.ofText_cases s with ⟨n, read⟩ | ⟨x, read⟩ | read
  · refine ⟨some (.int n), by rw [read]; rfl, by simp [read], by simp [read], by simp [read], ?_⟩
    rintro w ⟨⟩
    exact ⟨.int n, plain (by simp [read])⟩
  · refine ⟨some (.float x), by rw [read]; rfl, by simp [read], by simp [read], by simp [read], ?_⟩
    rintro w ⟨⟩
    obtain ⟨negative, units, rfl⟩ := Operand.finite_of_ofText read
    exact ⟨.float rfl, plain (by simp [read])⟩
  · refine ⟨readNumber? kind (Text.trim s.toList), by rw [read]; rfl, by simp [read],
      by simp [read], fun _ => rfl, fun w same => plainNotation_of_readNumber? same⟩

/-- A filter on a column of numbers compares it with a number that the value has in plain notation
    once its digits are ASCII digits and its underscores are dropped, or matches nothing. A value
    that is read as a number before its column is known is compared with that number; any other is
    read once more for the column. -/
theorem number_filtered (allowed : field ∈ r.config.filterFields)
    (resolves : resolve r.entity (r.format field) = ⟨joins, some c⟩) (unmarked : Unmarked v)
    (kind : Binding.NumberKind) :
    ∃ bound, Binding.number kind (Operand.ofText v) = .ok bound ∧
      (c.column.kind.number? = some kind → r.planOf (Members.texts (filtering field v)) =
        .ok { entity := r.entity, joins := addJoins [] joins,
              conditions := [Condition.comparing .eq c bound] }) ∧
      (∀ w, bound = some w → w.IsNumber ∧ PlainNotation (folded (Text.trim v.toList))) ∧
      ((∀ ch ∈ Text.trim v.toList, ch.toNat < 128 ∧ ch ≠ '_') → ∀ w, bound = some w →
        PlainNotation (Text.trim v.toList)) ∧
      (∀ n, Operand.ofText v = .int n → bound = some (.int n)) ∧
      (∀ x, Operand.ofText v = .float x → bound = some (.float x)) ∧
      (Operand.ofText v = .text v →
        bound = Binding.readNumber? kind (Text.trim v.toList)) := by
  obtain ⟨bound, binds, whole, double, other, plain⟩ := Binding.number_ofText kind v
  refine ⟨bound, binds, ?_, plain, ?_, whole, double, other⟩
  · intro numeric
    exact planOf_filtering allowed resolves unmarked
      ((Binding.bind_of_number? numeric _).trans binds)
  · intro ascii w same
    have grammar := (plain w same).2
    rwa [folded_eq_self ascii] at grammar

/-- An underscore is no part of plain notation, and views are compared with the number around it. -/
theorem views_pass_separators :
    ¬ PlainNotation (Text.trim "1_000".toList) ∧
    Resource.posts.planOf (Members.texts (filtering "views" "1_000")) =
      .ok { entity := .post, joins := [],
            conditions := [.compare .eq ⟨.post, ⟨"views", .whole⟩⟩ (.int 1000)] } := by
  have unmarked : Unmarked "1_000" := unmarked_of_apart (by simp)
  have other : ¬ PlainNotation (Text.trim "1_000".toList) := by
    rw [← plain?_isSome_iff]
    decide +kernel
  have allowed : "views" ∈ Resource.posts.config.filterFields := by decide
  have resolves : resolve Resource.posts.entity (Resource.posts.format "views") =
      ⟨[], some ⟨.post, ⟨"views", .whole⟩⟩⟩ := by
    decide +kernel
  obtain ⟨bound, -, planned, -, -, -, -, read⟩ := number_filtered allowed resolves unmarked .whole
  have thousand : readInt? (Text.trim "1_000".toList) = some 1000 := by decide +kernel
  rw [read (Operand.ofText_of_not_plain other), Binding.readNumber?, thousand] at planned
  exact ⟨other, planned rfl⟩

end QueryDesk
