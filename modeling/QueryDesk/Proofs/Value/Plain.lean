import Mathlib.Data.List.Forall2
import QueryDesk.Proofs.Steps
import QueryDesk.Value.Plain

/-!
# JSON-ready forms, part by part

The parts of a value are told apart by their positions. A value has a JSON-ready form just if none
of its parts is a signaling NaN. The form has parts in the same positions: each is what the part of
the value there becomes by itself, and none is of a kind that JSON lacks. So a value is JSON-ready
just if it is its own form.
-/

namespace QueryDesk

variable {v w : Value} {property : Value → Prop}

namespace Value

/-! ## Parts -/

/-- The values that stand immediately within a value, in order. -/
def children : Value → List Value
  | list items | tuple items => items
  | object members => members.map Prod.snd
  | _ => []

/-- The part of a value in a position. A position is a path: each step of it is the place of a child
    among the children of the part before. -/
def part? (v : Value) : List Nat → Option Value
  | [] => some v
  | place :: position => v.children[place]?.bind fun child => child.part? position

/-- A property of all parts of a value, which are the value itself and what is within it at any
    depth. -/
def Throughout (property : Value → Prop) (v : Value) : Prop :=
  ∀ position part, v.part? position = some part → property part

theorem throughout_iff :
    v.Throughout property ↔ property v ∧ ∀ child ∈ v.children, child.Throughout property := by
  constructor
  · intro all
    refine ⟨all [] v rfl, fun child mem position part found => ?_⟩
    obtain ⟨place, there⟩ := List.mem_iff_getElem?.mp mem
    refine all (place :: position) part ?_
    rw [part?, there, Option.bind_some, found]
  · rintro ⟨own, all⟩ (_ | ⟨place, position⟩) part found
    · cases found
      exact own
    · obtain ⟨child, there, found⟩ := Option.bind_eq_some_iff.mp found
      exact all child (List.mem_of_getElem? there) position part found

theorem throughout_of_leaf (hollow : v.children = []) (own : property v) :
    v.Throughout property := by
  rw [throughout_iff, hollow]
  exact ⟨own, List.forall_mem_nil _⟩

theorem sizeOf_lt_of_mem_children {child : Value} (mem : child ∈ v.children) :
    sizeOf child < sizeOf v := by
  cases v with
  | list items | tuple items =>
    have smaller : sizeOf child < sizeOf items := List.sizeOf_lt_of_mem mem
    simp only [list.sizeOf_spec, tuple.sizeOf_spec]
    omega
  | object members =>
    obtain ⟨⟨key, value⟩, among, rfl⟩ := List.mem_map.mp mem
    have smaller := List.sizeOf_lt_of_mem among
    simp only [Prod.mk.sizeOf_spec, object.sizeOf_spec] at smaller ⊢
    omega
  | _ => exact absurd mem List.not_mem_nil

/-- What passes from the children of a value to the value holds of all values. -/
theorem induction_on_children (v : Value)
    (step : ∀ v : Value, (∀ child ∈ v.children, property child) → property v) : property v :=
  step v fun child mem =>
    have := sizeOf_lt_of_mem_children mem
    induction_on_children child step
termination_by sizeOf v

/-! ## Kinds -/

/-- The value is of a kind of JSON that holds no other values. -/
def isJsonScalar : Value → Bool
  | null | bool _ | int _ | float _ | text _ | damaged _ => true
  | _ => false

/-- The value is of a kind of JSON. -/
def isJsonKind : Value → Bool
  | list _ | object _ => true
  | v => v.isJsonScalar

/-- All parts of a value are of kinds of JSON. -/
def IsJsonReady : Value → Prop :=
  Throughout (·.isJsonKind = true)

/-- The value is a signaling NaN. -/
def isSignalingNan : Value → Bool
  | decimal (.nan _ signaling _) => signaling
  | _ => false

/-- The value has a JSON-ready form. -/
def HasForm (v : Value) : Prop :=
  ∃ w, v.plain = .ok w

/-- What stands in the place of a value in a JSON-ready form. What is within a collection has places
    of its own, so here only the number of its values counts, and their keys. -/
inductive Becomes : Value → Value → Prop where
  | scalar {v : Value} (kind : v.isJsonScalar = true) : Becomes v v
  | moment (m : Moment) : Becomes (.moment m) (.text m.isoText)
  | date (days : Nat) :
      Becomes (.date days) (.text (String.ofList (Calendar.Date.ofDays days).text))
  | uuid (u : Uuid) : Becomes (.uuid u) (.text u.text)
  | decimal {d : Decimal} {x : Binary64} (rounded : d.toBinary64? = some x) :
      Becomes (.decimal d) (.float x)
  | list {items items' : List Value} (length : items.length = items'.length) :
      Becomes (.list items) (.list items')
  | tuple {items items' : List Value} (length : items.length = items'.length) :
      Becomes (.tuple items) (.list items')
  | object {members members' : Members} (keys : Members.keys members = Members.keys members') :
      Becomes (.object members) (.object members')

theorem Becomes.isJsonKind (becomes : Becomes v w) : w.isJsonKind = true := by
  cases becomes with
  | scalar kind => cases v <;> first | rfl | cases kind
  | _ => rfl

/-- A value of a kind of JSON stays as it is. -/
theorem becomes_self (kind : v.isJsonKind = true) : Becomes v v := by
  cases v with
  | list => exact .list rfl
  | object => exact .object rfl
  | _ => exact .scalar kind

end Value

/-! ## Related lists -/

section Lists

variable {α β : Type} {related : α → β → Prop} {xs : List α}

theorem exists_forall₂_iff :
    (∃ ys, List.Forall₂ related xs ys) ↔ ∀ x ∈ xs, ∃ y, related x y := by
  induction xs with
  | nil => exact iff_of_true ⟨[], .nil⟩ (List.forall_mem_nil _)
  | cons x rest ih =>
    rw [List.forall_mem_cons, ← ih]
    constructor
    · rintro ⟨ys, each⟩
      obtain ⟨y, ys, first, others, -⟩ := List.forall₂_cons_left_iff.mp each
      exact ⟨⟨y, first⟩, ys, others⟩
    · rintro ⟨⟨y, first⟩, ys, others⟩
      exact ⟨y :: ys, .cons first others⟩

theorem rel_getElem?_of_forall₂ {ys : List β} (each : List.Forall₂ related xs ys) (place : Nat) :
    Option.Rel related xs[place]? ys[place]? := by
  induction each generalizing place with
  | nil => exact .none
  | cons first _ ih =>
    cases place with
    | zero => exact .some first
    | succ place => exact ih place

end Lists

/-! ## One step -/

theorem plainItems_eq_ok_iff {items items' : List Value} :
    plainItems items = .ok items' ↔ List.Forall₂ (fun x y => x.plain = .ok y) items items' := by
  induction items generalizing items' with
  | nil =>
    rw [List.forall₂_nil_left_iff, plainItems]
    exact ⟨fun same => (Except.ok.inj same).symm, fun empty => empty ▸ rfl⟩
  | cons item rest ih =>
    rw [List.forall₂_cons_left_iff, plainItems]
    constructor
    · intro given
      obtain ⟨first, own, given⟩ := bind_eq_ok_iff.mp given
      obtain ⟨others, more, same⟩ := bind_eq_ok_iff.mp given
      exact ⟨first, others, own, ih.mp more, (Except.ok.inj same).symm⟩
    · rintro ⟨first, others, own, more, rfl⟩
      rw [own, ih.mpr more]
      rfl

/-- Members become ready by their values; their keys stay. -/
theorem plainMembers_eq (members : Members) : plainMembers members =
    (plainItems (members.map Prod.snd)).map fun values => (Members.keys members).zip values := by
  induction members with
  | nil => rfl
  | cons member rest ih =>
    obtain ⟨key, value⟩ := member
    rw [plainMembers, List.map_cons, plainItems, ih]
    cases value.plain with
    | error fault => rfl
    | ok first => cases plainItems (rest.map Prod.snd) <;> rfl

namespace Value

theorem plain_list (items : List Value) : (list items).plain = (plainItems items).map list := by
  rw [plain]
  cases plainItems items <;> rfl

theorem plain_tuple (items : List Value) : (tuple items).plain = (plainItems items).map list := by
  rw [plain]
  cases plainItems items <;> rfl

theorem plain_object (members : Members) : (object members).plain =
    (plainItems (members.map Prod.snd)).map fun values =>
      object ((Members.keys members).zip values) := by
  rw [plain, plainMembers_eq]
  cases plainItems (members.map Prod.snd) <;> rfl

/-- The form of a value is what it becomes, with the forms of its children. -/
theorem becomes_of_plain (given : v.plain = .ok w) :
    Becomes v w ∧ List.Forall₂ (fun x y => x.plain = .ok y) v.children w.children := by
  cases v with
  | null | bool | int | float | text | damaged =>
    obtain rfl := Except.ok.inj given
    exact ⟨.scalar rfl, .nil⟩
  | moment m =>
    obtain rfl := Except.ok.inj given
    exact ⟨.moment m, .nil⟩
  | date days =>
    obtain rfl := Except.ok.inj given
    exact ⟨.date days, .nil⟩
  | uuid u =>
    obtain rfl := Except.ok.inj given
    exact ⟨.uuid u, .nil⟩
  | decimal d =>
    rw [plain] at given
    split at given
    · rename_i x rounded
      obtain rfl := Except.ok.inj given
      exact ⟨.decimal rounded, .nil⟩
    · cases given
  | list items =>
    rw [plain_list] at given
    obtain ⟨items', within, rfl⟩ := map_eq_ok_iff.mp given
    have forms := plainItems_eq_ok_iff.mp within
    exact ⟨.list forms.length_eq, forms⟩
  | tuple items =>
    rw [plain_tuple] at given
    obtain ⟨items', within, rfl⟩ := map_eq_ok_iff.mp given
    have forms := plainItems_eq_ok_iff.mp within
    exact ⟨.tuple forms.length_eq, forms⟩
  | object members =>
    rw [plain_object] at given
    obtain ⟨values, within, rfl⟩ := map_eq_ok_iff.mp given
    have forms := plainItems_eq_ok_iff.mp within
    -- There is a form for each key, so that pairing them leaves out neither.
    have enough : (Members.keys members).length = values.length := by
      simpa [Members.keys] using forms.length_eq
    refine ⟨.object (List.map_fst_zip (Nat.le_of_eq enough)).symm, ?_⟩
    rw [children, children, List.map_snd_zip (Nat.le_of_eq enough.symm)]
    exact forms

theorem plain_of_becomes (becomes : Becomes v w)
    (forms : List.Forall₂ (fun x y => x.plain = .ok y) v.children w.children) :
    v.plain = .ok w := by
  cases becomes with
  | scalar kind => cases v <;> first | rfl | cases kind
  | moment | date | uuid => rfl
  | decimal rounded =>
    rw [plain, rounded]
    rfl
  | @list items items' =>
    have forms : List.Forall₂ _ items items' := forms
    rw [plain_list, plainItems_eq_ok_iff.mpr forms]
    rfl
  | @tuple items items' =>
    have forms : List.Forall₂ _ items items' := forms
    rw [plain_tuple, plainItems_eq_ok_iff.mpr forms]
    rfl
  | @object members members' keys =>
    have forms : List.Forall₂ _ (members.map Prod.snd) (members'.map Prod.snd) := forms
    have whole : members' = (Members.keys members).zip (members'.map Prod.snd) :=
      List.zip_of_prod keys.symm rfl
    rw [plain_object, plainItems_eq_ok_iff.mpr forms, Except.map, ← whole]

theorem hasForm_iff_children {whole : List Value → Value}
    (gathers : v.plain = (plainItems v.children).map whole) :
    v.HasForm ↔ ∀ child ∈ v.children, child.HasForm := by
  have forms : (∃ items, plainItems v.children = .ok items) ↔
      ∀ child ∈ v.children, child.HasForm := by
    simp only [plainItems_eq_ok_iff, exists_forall₂_iff, HasForm]
  rw [HasForm, gathers, ← forms]
  simp [map_eq_ok_iff]

/-- A value has a form just if it is no signaling NaN and its children have forms. -/
theorem hasForm_iff :
    v.HasForm ↔ v.isSignalingNan = false ∧ ∀ child ∈ v.children, child.HasForm := by
  cases v with
  | null | bool | int | float | text | damaged | moment | date | uuid =>
    exact iff_of_true ⟨_, rfl⟩ ⟨rfl, nofun⟩
  | decimal d =>
    cases d with
    | finite | infinite => exact iff_of_true ⟨_, rfl⟩ ⟨rfl, nofun⟩
    | nan negative signaling payload =>
      cases signaling with
      | false => exact iff_of_true ⟨_, rfl⟩ ⟨rfl, nofun⟩
      | true => exact iff_of_false nofun nofun
  | list items => exact (hasForm_iff_children (plain_list items)).trans (and_iff_right rfl).symm
  | tuple items => exact (hasForm_iff_children (plain_tuple items)).trans (and_iff_right rfl).symm
  | object members =>
    exact (hasForm_iff_children (plain_object members)).trans (and_iff_right rfl).symm

/-! ## All parts -/

/-- A form has a part in a position just if the value has one, and it is the form of that. -/
theorem part?_of_plain (given : v.plain = .ok w) (position : List Nat) :
    Option.Rel (fun x y => x.plain = .ok y) (v.part? position) (w.part? position) := by
  -- A step of the position leads from a value and its form to a child and the form of that.
  induction position generalizing v w with
  | nil => exact .some given
  | cons place position ih =>
    have there := rel_getElem?_of_forall₂ (becomes_of_plain given).2 place
    rw [part?, part?]
    generalize v.children[place]? = child, w.children[place]? = form at there
    cases there with
    | none => exact .none
    | some given => exact ih given

theorem isJsonReady_of_plain (given : v.plain = .ok w) : w.IsJsonReady := by
  intro position part found
  have related := part?_of_plain given position
  rw [found] at related
  generalize v.part? position = own at related
  cases related with
  | some given => exact (becomes_of_plain given).1.isJsonKind

/-- A value is its own form just if it is JSON-ready. -/
theorem plain_eq_self_iff : v.plain = .ok v ↔ v.IsJsonReady := by
  refine ⟨isJsonReady_of_plain, ?_⟩
  induction v using induction_on_children with
  | step v ih =>
    intro ready
    obtain ⟨kind, within⟩ := throughout_iff.mp ready
    -- The value becomes itself, so it is enough that each child is its own form.
    refine plain_of_becomes (becomes_self kind) (List.forall₂_same.mpr fun child mem => ?_)
    exact ih child mem (within child mem)

/-- A value has a form just if no part of it is a signaling NaN. -/
theorem hasForm_iff_throughout : v.HasForm ↔ v.Throughout (·.isSignalingNan = false) := by
  induction v using induction_on_children with
  | step v ih =>
    rw [hasForm_iff, throughout_iff]
    exact and_congr_right fun _ => forall₂_congr fun child mem => ih child mem

/-- Some part of the value is a signaling NaN. -/
def HoldsSignalingNan (v : Value) : Prop :=
  ∃ position part, v.part? position = some part ∧ part.isSignalingNan = true

theorem not_holdsSignalingNan_iff : ¬ v.HoldsSignalingNan ↔ v.HasForm := by
  simp [hasForm_iff_throughout, HoldsSignalingNan, Throughout]

/-- What is asked of a JSON-ready form of a value, for all of its parts. -/
structure IsFormOf (w v : Value) : Prop where
  /-- In each position the form has a part just if the value has one, and the part of the value
      becomes that of the form. -/
  parts : ∀ position, Option.Rel Becomes (v.part? position) (w.part? position)
  ready : w.IsJsonReady
  /-- Made JSON-ready again, the form stays as it is; a NaN counts as the same as itself. -/
  settled : w.plain = .ok w

theorem isFormOf_of_plain (given : v.plain = .ok w) : IsFormOf w v := by
  have ready := isJsonReady_of_plain given
  refine ⟨fun position => ?_, ready, plain_eq_self_iff.mpr ready⟩
  have related := part?_of_plain given position
  generalize v.part? position = own, w.part? position = form at related
  cases related with
  | none => exact .none
  | some given => exact .some (becomes_of_plain given).1

/-- Making a value JSON-ready fails just if some part of it is a signaling NaN. If none is, there is
    a form with parts in the same positions. Each of them is what the part of the value there
    becomes by itself, all are of kinds of JSON, and the form made ready again stays as it is. -/
theorem plain_part_by_part (v : Value) :
    ((∃ fault, v.plain = .error fault) ↔ v.HoldsSignalingNan) ∧
      (¬ v.HoldsSignalingNan → ∃ w, v.plain = .ok w ∧ IsFormOf w v) := by
  have fails : (∃ fault, v.plain = .error fault) ↔ ¬ v.HasForm := by
    rw [HasForm]
    cases v.plain with
    | error fault => exact iff_of_true ⟨fault, rfl⟩ nofun
    | ok w => exact iff_of_false nofun (not_not_intro ⟨w, rfl⟩)
  refine ⟨by rw [fails, ← not_holdsSignalingNan_iff, not_not], fun free => ?_⟩
  obtain ⟨w, given⟩ := not_holdsSignalingNan_iff.mp free
  exact ⟨w, given, isFormOf_of_plain given⟩

/-- Values of all kinds that JSON lacks, and deep within them a NaN. -/
def sampleRecord (signaling : Bool) : Value :=
  .tuple [.tuple [.moment ⟨0, some 0⟩, .date 0, .uuid ⟨7⟩, .float .nan],
    .object [("amounts", .list [.decimal (.finite true 150 (-2)),
      .object [("rate", .tuple [.decimal (.nan false signaling 5)])]])]]

theorem sampleRecord_part_by_part :
    (∃ fault, (sampleRecord true).plain = .error fault) ∧
    ∃ w, (sampleRecord false).plain = .ok w ∧ w.plain = .ok w ∧
      (∃ items, w.part? [1, 0, 1, 0] = some (.list items) ∧ items.length = 1) ∧
      w.part? [1, 0, 1, 0, 0] = some (.float .nan) := by
  refine ⟨(plain_part_by_part (sampleRecord true)).1.mpr ⟨[1, 0, 1, 0, 0], _, rfl, rfl⟩, ?_⟩
  have free : ¬ (sampleRecord false).HoldsSignalingNan :=
    not_holdsSignalingNan_iff.mpr ⟨_, rfl⟩
  obtain ⟨w, given, form⟩ := (plain_part_by_part (sampleRecord false)).2 free
  have there (position : List Nat) {x : Value}
      (own : (sampleRecord false).part? position = some x) :
      ∃ y, w.part? position = some y ∧ Becomes x y := by
    have related := form.parts position
    rw [own] at related
    generalize w.part? position = found at related
    cases related with
    | some becomes => exact ⟨_, rfl, becomes⟩
  refine ⟨w, given, form.settled, ?_, ?_⟩
  · obtain ⟨y, found, becomes⟩ := there [1, 0, 1, 0] rfl
    cases becomes with
    | scalar kind => cases kind
    | tuple length => exact ⟨_, found, length.symm⟩
  · obtain ⟨y, found, becomes⟩ := there [1, 0, 1, 0, 0] rfl
    cases becomes with
    | scalar kind => cases kind
    | decimal rounded =>
      cases rounded
      exact found

end Value

end QueryDesk
