import QueryDesk.Proofs.Store.Given

/-!
# The order of rows

Cells have a rank that orders them, since no column holds a NaN. So sort keys order rows
transitively, and sorting, which is stable, leaves the rows that they do not tell apart as the store
visits them: the rows that a plan gives stand in a single possible order.
-/

namespace QueryDesk

open Std

/-! ## Visiting -/

/-- The store visits a row before another. -/
def Database.VisitsBefore (db : Database) (e : Entity) (row other : Row) : Prop :=
  [row, other].Sublist (db.rows e)

/-- The store visits the rows of an entity in the order of their ids. -/
def Database.VisitsById (db : Database) (e : Entity) : Prop :=
  (db.rows e).Pairwise fun row other => Cell.compareText row.id.hex other.id.hex = .lt

/-- Of two elements, one stands before the other. -/
theorem pair_sublist_of_mem {α : Type} {xs : List α} {a b : α} (mem : a ∈ xs) (mem' : b ∈ xs)
    (differ : a ≠ b) : [a, b].Sublist xs ∨ [b, a].Sublist xs := by
  induction xs with
  | nil => cases mem
  | cons x rest ih =>
    rcases List.mem_cons.mp mem with rfl | later
    · have later' := (List.mem_cons.mp mem').resolve_left differ.symm
      exact .inl ((List.singleton_sublist.mpr later').cons_cons a)
    rcases List.mem_cons.mp mem' with rfl | later'
    · exact .inr ((List.singleton_sublist.mpr later).cons_cons b)
    · exact (ih later later').imp (·.cons x) (·.cons x)

theorem pair_sublist_asymm {α : Type} {xs : List α} {a b : α} (distinct : xs.Nodup)
    (first : [a, b].Sublist xs) : ¬ [b, a].Sublist xs := by
  induction xs with
  | nil => cases first
  | cons x rest ih =>
    obtain ⟨fresh, distinct⟩ := List.nodup_cons.mp distinct
    intro last
    cases first with
    | cons _ first =>
      cases last with
      | cons _ last => exact ih distinct first last
      | cons_cons _ last => exact fresh (first.subset (by simp))
    | cons_cons _ first =>
      cases last with
      | cons _ last => exact fresh (last.subset (by simp))
      | cons_cons _ last => exact fresh (List.singleton_sublist.mp last)

/-! ## Cells -/

namespace Cell

/-- What decides the place of a cell: its class, then its number, then its text. -/
structure Rank where
  place : Nat
  number : Int
  text : List Nat

/-- The order of ranks. -/
def Rank.order : Rank → Rank → Ordering :=
  compareLex (compareOn Rank.place)
    (compareLex (compareOn Rank.number) fun a b => List.compareLex compare a.text b.text)

theorem transCmp_images {α β : Type} (cmp : β → β → Ordering) [TransCmp cmp] (f : α → β) :
    TransCmp fun a b => cmp (f a) (f b) where
  eq_swap := OrientedCmp.eq_swap
  isLE_trans := TransCmp.isLE_trans

instance : TransCmp Rank.order :=
  have : TransCmp fun a b : Rank => List.compareLex compare a.text b.text :=
    transCmp_images (List.compareLex compare) Rank.text
  inferInstanceAs (TransCmp (compareLex _ _))

/-- The rank of a number. -/
def rankOfNumber : Binary64 → Rank
  | .infinite true => ⟨1, 0, []⟩
  | .infinite false => ⟨3, 0, []⟩
  | x => ⟨2, x.scaled?.getD 0, []⟩

/-- The rank of a cell. -/
def rank : Cell → Rank
  | null => ⟨0, 0, []⟩
  | int n => ⟨2, n * Binary64.one, []⟩
  | real x => rankOfNumber x
  | text cs => ⟨4, 0, cs.map Char.toNat⟩

theorem compareText_eq (a b : List Char) :
    compareText a b = List.compareLex compare (a.map Char.toNat) (b.map Char.toNat) := by
  induction a generalizing b with
  | nil => cases b <;> rfl
  | cons c rest ih =>
    cases b with
    | nil => rfl
    | cons d rest' =>
      rw [compareText, ih, List.map_cons, List.map_cons, List.compareLex_cons_cons]

theorem Rank.order_number (m n : Int) : Rank.order ⟨2, m, []⟩ ⟨2, n, []⟩ = compare m n :=
  Ordering.then_eq

theorem compare_mul_pos {unit : Int} (positive : 0 < unit) (m n : Int) :
    compare (m * unit) (n * unit) = compare m n := by
  have less : m * unit < n * unit ↔ m < n := Int.mul_lt_mul_right positive
  have same : m * unit = n * unit ↔ m = n := Int.mul_eq_mul_right_iff (Int.ne_of_gt positive)
  simp only [compare, compareOfLessAndEq, less, same]

theorem one_pos : (0 : Int) < Binary64.one := by
  unfold Binary64.one
  generalize 1074 = exponent
  exact Int.natCast_pos.mpr (Nat.two_pow_pos exponent)

theorem compareIntReal_eq_rank (n : Int) {x : Binary64} (number : x ≠ .nan) :
    compareIntReal n x = Rank.order ⟨2, n * Binary64.one, []⟩ (rankOfNumber x) := by
  cases x with
  | finite negative units => exact (Rank.order_number _ _).symm
  | infinite negative => cases negative <;> rfl
  | nan => exact absurd rfl number

theorem compare?_eq_rank {x y : Binary64} (number : x ≠ .nan) (number' : y ≠ .nan) :
    (Binary64.compare? x y).getD .eq = (rankOfNumber x).order (rankOfNumber y) := by
  cases x with
  | nan => exact absurd rfl number
  | infinite negative =>
    cases y with
    | nan => exact absurd rfl number'
    | infinite negative' => cases negative <;> cases negative' <;> rfl
    | finite negative' units' => cases negative <;> rfl
  | finite negative units =>
    cases y with
    | nan => exact absurd rfl number'
    | infinite negative' => cases negative' <;> rfl
    | finite negative' units' => exact (Rank.order_number _ _).symm

theorem place_rankOfNumber (x : Binary64) :
    0 < (rankOfNumber x).place ∧ (rankOfNumber x).place < 4 := by
  cases x with
  | infinite negative => cases negative <;> exact ⟨by decide, by decide⟩
  | finite negative units => exact ⟨Nat.two_pos, Nat.lt_of_sub_eq_succ rfl⟩
  | nan => exact ⟨by decide, by decide⟩

theorem Rank.order_of_place_lt {a b : Rank} (lower : a.place < b.place) :
    a.order b = .lt ∧ b.order a = .gt := by
  have less : compare a.place b.place = .lt := Nat.compare_eq_lt.mpr lower
  have more : compare b.place a.place = .gt := Nat.compare_eq_gt.mpr lower
  simp [Rank.order, compareLex, compareOn, less, more]

/-- Cells other than NaN stand in the order of their ranks. -/
theorem order_eq_rank {a b : Cell} (number : a ≠ .real .nan) (number' : b ≠ .real .nan) :
    a.order b = a.rank.order b.rank := by
  cases a with
  | null =>
    cases b with
    | real x => exact (Rank.order_of_place_lt (place_rankOfNumber x).1).1.symm
    | _ => rfl
  | int m =>
    cases b with
    | int n => exact ((Rank.order_number _ _).trans (compare_mul_pos one_pos m n)).symm
    | real x => exact compareIntReal_eq_rank m fun same => number' (same ▸ rfl)
    | _ => rfl
  | real x =>
    have number : x ≠ .nan := fun same => number (same ▸ rfl)
    cases b with
    | null => exact (Rank.order_of_place_lt (place_rankOfNumber x).1).2.symm
    | int n =>
      rw [order, compareIntReal_eq_rank n number, rank, rank]
      exact OrientedCmp.eq_swap.symm
    | real y => exact compare?_eq_rank number fun same => number' (same ▸ rfl)
    | text ds => exact (Rank.order_of_place_lt (place_rankOfNumber x).2).1.symm
  | text cs =>
    cases b with
    | real y => exact (Rank.order_of_place_lt (place_rankOfNumber y).2).2.symm
    | text ds => exact compareText_eq cs ds
    | _ => rfl

end Cell

theorem Cell.ofStored_ne_nan (x : Binary64) : Cell.ofStored x ≠ .real .nan := by
  unfold ofStored
  cases whole : x.truncate? with
  | none => cases x <;> simp [ofBinary64]
  | some n =>
    have number : x ≠ .nan := by
      rintro rfl
      cases whole
    simp only
    split
    · simp
    · simpa using number

/-- No column holds a NaN. -/
theorem Row.cell_ne_nan (row : Row) (name : String) : row.cell name ≠ .real .nan := by
  unfold Row.cell
  split
  all_goals try simp only [uuidCell, textCell, momentCell, ne_eq, reduceCtorEq, not_false_eq_true]
  · exact Cell.ofStored_ne_nan _
  · rename_i p
    cases p.body <;> simp [textCell]

theorem JoinedRow.cell_ne_nan (row : JoinedRow) (c : ColumnRef) : row.cell c ≠ .real .nan := by
  unfold JoinedRow.cell
  split
  · exact Row.cell_ne_nan _ _
  · simp

/-! ## Rows -/

namespace Plan

/-- The order of two rows by one column. -/
def compareColumn (key : ColumnRef × Direction) (row other : JoinedRow) : Ordering :=
  match key.2 with
  | .asc => (row.cell key.1).order (other.cell key.1)
  | .desc => ((row.cell key.1).order (other.cell key.1)).swap

theorem compareBy_cons (key : ColumnRef × Direction) (rest : List (ColumnRef × Direction))
    (row other : JoinedRow) : compareBy row other (key :: rest) =
      (compareColumn key row other).then (compareBy row other rest) := rfl

/-- Sort keys only see the cells of their columns. -/
theorem compareBy_congr {row other row' other' : JoinedRow} {keys : List (ColumnRef × Direction)}
    (agree : ∀ key ∈ keys,
      row.cell key.1 = row'.cell key.1 ∧ other.cell key.1 = other'.cell key.1) :
    compareBy row other keys = compareBy row' other' keys := by
  induction keys with
  | nil => rfl
  | cons key rest ih =>
    rw [List.forall_mem_cons] at agree
    rw [compareBy_cons, compareBy_cons, compareColumn, compareColumn, agree.1.1, agree.1.2,
      ih agree.2]

theorem compareColumn_transCmp (key : ColumnRef × Direction) : TransCmp (compareColumn key) := by
  have ascending : TransCmp fun row other : JoinedRow =>
      (row.cell key.1).order (other.cell key.1) := by
    have ranks := Cell.transCmp_images Cell.Rank.order
      fun row : JoinedRow => (row.cell key.1).rank
    simpa only [← Cell.order_eq_rank (JoinedRow.cell_ne_nan _ _) (JoinedRow.cell_ne_nan _ _)]
      using ranks
  obtain ⟨column, direction⟩ := key
  cases direction with
  | asc => exact ascending
  | desc =>
    have descending : TransCmp fun row other : JoinedRow =>
        (other.cell column).order (row.cell column) :=
      ascending.opposite
    have swapped : compareColumn (column, .desc) = fun row other : JoinedRow =>
        (other.cell column).order (row.cell column) := by
      funext row other
      exact ascending.eq_swap.symm
    rw [swapped]
    exact descending

/-- Sort keys order rows transitively. -/
theorem compareBy_transCmp (keys : List (ColumnRef × Direction)) :
    TransCmp (compareBy · · keys) := by
  induction keys with
  | nil =>
    exact { eq_swap := rfl, isLE_trans := fun _ _ => rfl }
  | cons key rest ih =>
    have first := compareColumn_transCmp key
    exact inferInstanceAs (TransCmp (compareLex (compareColumn key) (compareBy · · rest)))

/-- A row comes before another: at the first sort key in which their cells differ. -/
inductive Precedes (cells others : ColumnRef → Cell) : List (ColumnRef × Direction) → Prop
  | up {column rest} (less : (cells column).order (others column) = .lt) :
      Precedes cells others ((column, .asc) :: rest)
  | down {column rest} (more : (cells column).order (others column) = .gt) :
      Precedes cells others ((column, .desc) :: rest)
  | later {key rest} (same : (cells key.1).order (others key.1) = .eq)
      (precedes : Precedes cells others rest) : Precedes cells others (key :: rest)

theorem Precedes.congr {cells others cells' others' : ColumnRef → Cell}
    {keys : List (ColumnRef × Direction)} (precedes : Precedes cells others keys)
    (same : ∀ key ∈ keys, cells key.1 = cells' key.1 ∧ others key.1 = others' key.1) :
    Precedes cells' others' keys := by
  induction precedes with
  | @up column rest less =>
    obtain ⟨left, right⟩ := same (column, .asc) List.mem_cons_self
    exact .up (by rw [← left, ← right, less])
  | @down column rest more =>
    obtain ⟨left, right⟩ := same (column, .desc) List.mem_cons_self
    exact .down (by rw [← left, ← right, more])
  | @later key rest tied precedes ih =>
    obtain ⟨left, right⟩ := same key List.mem_cons_self
    exact .later (by rw [← left, ← right, tied])
      (ih fun key mem => same key (List.mem_cons_of_mem _ mem))

/-- A sort key only asks for what follows it where it leaves a tie. -/
theorem precedes_cons_congr {cells others : ColumnRef → Cell} {key : ColumnRef × Direction}
    {rest rest' : List (ColumnRef × Direction)}
    (same : (cells key.1).order (others key.1) = .eq →
      (Precedes cells others rest ↔ Precedes cells others rest')) :
    Precedes cells others (key :: rest) ↔ Precedes cells others (key :: rest') := by
  constructor
  · intro precedes
    cases precedes with
    | up less => exact .up less
    | down more => exact .down more
    | later tied later => exact .later tied ((same tied).mp later)
  · intro precedes
    cases precedes with
    | up less => exact .up less
    | down more => exact .down more
    | later tied later => exact .later tied ((same tied).mpr later)

/-- A sort key of a tie decides nothing. -/
theorem precedes_of_tie {cells others : ColumnRef → Cell} {key : ColumnRef × Direction}
    (tied : (cells key.1).order (others key.1) = .eq)
    (keys rest : List (ColumnRef × Direction)) :
    Precedes cells others (keys ++ key :: rest) ↔ Precedes cells others (keys ++ rest) := by
  induction keys with
  | nil =>
    refine ⟨fun precedes => ?_, .later tied⟩
    cases precedes with
    | up less => exact absurd (tied.symm.trans less) (by decide)
    | down more => exact absurd (tied.symm.trans more) (by decide)
    | later _ later => exact later
  | cons first others ih => exact precedes_cons_congr fun _ => ih

/-- A sort key that has come before is asked for only where it has left a tie. -/
theorem precedes_repeated {cells others : ColumnRef → Cell} {key : ColumnRef × Direction}
    {keys : List (ColumnRef × Direction)} (mem : key ∈ keys)
    (rest : List (ColumnRef × Direction)) :
    Precedes cells others (keys ++ key :: rest) ↔ Precedes cells others (keys ++ rest) := by
  induction keys with
  | nil => cases mem
  | cons first others ih =>
    refine precedes_cons_congr fun tied => ?_
    rcases List.mem_cons.mp mem with rfl | later
    · exact precedes_of_tie tied others rest
    · exact ih later

/-- No sort key tells two rows apart. -/
def Tied (cells others : ColumnRef → Cell) (keys : List (ColumnRef × Direction)) : Prop :=
  ∀ key ∈ keys, (cells key.1).order (others key.1) = .eq

theorem Tied.congr {cells others cells' others' : ColumnRef → Cell}
    {keys : List (ColumnRef × Direction)} (tied : Tied cells others keys)
    (same : ∀ key ∈ keys, cells key.1 = cells' key.1 ∧ others key.1 = others' key.1) :
    Tied cells' others' keys := by
  intro key mem
  rw [← (same key mem).1, ← (same key mem).2]
  exact tied key mem

theorem Precedes.not_tied {cells others : ColumnRef → Cell} {keys : List (ColumnRef × Direction)}
    (precedes : Precedes cells others keys) : ¬ Tied cells others keys := by
  induction precedes with
  | up less => exact fun tied => absurd ((tied _ List.mem_cons_self).symm.trans less) (by decide)
  | down more => exact fun tied => absurd ((tied _ List.mem_cons_self).symm.trans more) (by decide)
  | later _ _ ih => exact fun tied => ih fun key mem => tied key (List.mem_cons_of_mem _ mem)

/-- Further sort keys decide nothing between rows that are told apart. -/
theorem Precedes.append {cells others : ColumnRef → Cell} {keys : List (ColumnRef × Direction)}
    (precedes : Precedes cells others keys) (rest : List (ColumnRef × Direction)) :
    Precedes cells others (keys ++ rest) := by
  induction precedes with
  | up less => exact .up less
  | down more => exact .down more
  | later tied _ ih => exact .later tied ih

/-- Further sort keys decide between rows that tie. -/
theorem Tied.precedes_append {cells others : ColumnRef → Cell}
    {keys rest : List (ColumnRef × Direction)} (tied : Tied cells others keys)
    (precedes : Precedes cells others rest) : Precedes cells others (keys ++ rest) := by
  induction keys with
  | nil => exact precedes
  | cons key keys ih =>
    exact .later (tied key List.mem_cons_self)
      (ih fun other mem => tied other (List.mem_cons_of_mem _ mem))

theorem order_swap {cells others : ColumnRef → Cell} (number : ∀ column, cells column ≠ .real .nan)
    (number' : ∀ column, others column ≠ .real .nan) (column : ColumnRef) :
    (others column).order (cells column) = ((cells column).order (others column)).swap := by
  rw [Cell.order_eq_rank (number' column) (number column),
    Cell.order_eq_rank (number column) (number' column)]
  exact OrientedCmp.eq_swap

theorem Tied.symm {cells others : ColumnRef → Cell} {keys : List (ColumnRef × Direction)}
    (tied : Tied cells others keys) (number : ∀ column, cells column ≠ .real .nan)
    (number' : ∀ column, others column ≠ .real .nan) : Tied others cells keys := by
  intro key mem
  rw [order_swap number number', tied key mem]
  rfl

/-- Of two rows one at most comes before the other. -/
theorem Precedes.asymm {cells others : ColumnRef → Cell} {keys : List (ColumnRef × Direction)}
    (precedes : Precedes cells others keys) (number : ∀ column, cells column ≠ .real .nan)
    (number' : ∀ column, others column ≠ .real .nan) : ¬ Precedes others cells keys := by
  have swapped := order_swap number number'
  induction precedes with
  | up less =>
    intro back
    cases back with
    | up less' =>
      rw [swapped, less] at less'
      cases less'
    | later tied _ =>
      rw [swapped, less] at tied
      cases tied
  | down more =>
    intro back
    cases back with
    | down more' =>
      rw [swapped, more] at more'
      cases more'
    | later tied _ =>
      rw [swapped, more] at tied
      cases tied
  | later tied _ ih =>
    intro back
    cases back with
    | up less' =>
      rw [swapped, tied] at less'
      cases less'
    | down more' =>
      rw [swapped, tied] at more'
      cases more'
    | later _ later => exact ih later

theorem precedes_iff {row other : JoinedRow} {keys : List (ColumnRef × Direction)} :
    compareBy row other keys = .lt ↔ Precedes row.cell other.cell keys := by
  induction keys with
  | nil =>
    constructor
    · intro less
      cases less
    · intro precedes
      cases precedes
  | cons key rest ih =>
    obtain ⟨column, direction⟩ := key
    rw [compareBy_cons, Ordering.then_eq_lt, ih]
    constructor
    · rintro (first | ⟨same, precedes⟩)
      · cases direction with
        | asc => exact .up first
        | desc => exact .down (Ordering.swap_eq_lt.mp first)
      · cases direction with
        | asc => exact .later same precedes
        | desc => exact .later (Ordering.swap_eq_eq.mp same) precedes
    · intro precedes
      cases precedes with
      | up less => exact .inl less
      | down more => exact .inl (Ordering.swap_eq_lt.mpr more)
      | later same precedes =>
        refine .inr ⟨?_, precedes⟩
        cases direction with
        | asc => exact same
        | desc => exact Ordering.swap_eq_eq.mpr same

theorem tied_iff {row other : JoinedRow} {keys : List (ColumnRef × Direction)} :
    compareBy row other keys = .eq ↔ Tied row.cell other.cell keys := by
  unfold Tied
  induction keys with
  | nil => exact ⟨fun _ => List.forall_mem_nil _, fun _ => rfl⟩
  | cons key rest ih =>
    obtain ⟨column, direction⟩ := key
    rw [compareBy_cons, Ordering.then_eq_eq, ih, List.forall_mem_cons]
    cases direction with
    | asc => exact Iff.rfl
    | desc => exact and_congr_left fun _ => Ordering.swap_eq_eq

variable {db : Database} {plan : Plan}

theorem inOrder_iff {row other : JoinedRow} : inOrder plan row other = true ↔
    (compareBy row other plan.order).isLE = true := by
  unfold inOrder
  cases compareBy row other plan.order <;> decide

/-- The rows that a plan gives come one after the other by its sort keys, and ties as they are
    visited. -/
theorem ordered_pairwise (keyed : db.Keyed) : (ordered db plan).Pairwise fun row other =>
    Precedes (seen db plan row).cell (seen db plan other).cell plan.order ∨
      Tied (seen db plan row).cell (seen db plan other).cell plan.order ∧
        db.VisitsBefore plan.entity row other := by
  have lawful := compareBy_transCmp plan.order
  have trans : ∀ a b c : Row, inOrder plan (seen db plan a) (seen db plan b) = true →
      inOrder plan (seen db plan b) (seen db plan c) = true →
      inOrder plan (seen db plan a) (seen db plan c) = true := by
    intro a b c first second
    rw [inOrder_iff] at first second ⊢
    exact lawful.isLE_trans first second
  have total : ∀ a b : Row, (inOrder plan (seen db plan a) (seen db plan b) ||
      inOrder plan (seen db plan b) (seen db plan a)) = true := by
    intro a b
    rw [Bool.or_eq_true, inOrder_iff, inOrder_iff, lawful.eq_swap (a := seen db plan b)]
    cases compareBy (seen db plan a) (seen db plan b) plan.order <;> decide
  have nodup : (ordered db plan).Nodup := nodup_ordered keyed
  refine List.pairwise_iff_forall_sublist.mpr fun {row other} stand => ?_
  have sorted := List.pairwise_iff_forall_sublist.mp (List.pairwise_mergeSort trans total _) stand
  rw [inOrder_iff] at sorted
  cases place : compareBy (seen db plan row) (seen db plan other) plan.order with
  | lt => exact .inl (precedes_iff.mp place)
  | gt =>
    rw [place] at sorted
    cases sorted
  | eq =>
    refine .inr ⟨tied_iff.mp place, ?_⟩
    have differ : row ≠ other := by
      rintro rfl
      exact List.nodup_iff_sublist.mp nodup row stand
    have mem : ∀ r ∈ [row, other], r ∈ met db plan := fun r here =>
      List.mem_mergeSort.mp (stand.subset here)
    rcases pair_sublist_of_mem (mem row (by simp)) (mem other (by simp)) differ with first | last
    · exact first.trans List.filter_sublist
    · -- Were the other row visited first, sorting would have left it there.
      have back : inOrder plan (seen db plan other) (seen db plan row) = true := by
        rw [inOrder_iff, lawful.eq_swap, place]
        rfl
      exact absurd (List.pair_sublist_mergeSort trans total back last)
        (pair_sublist_asymm nodup stand)

end Plan

end QueryDesk
