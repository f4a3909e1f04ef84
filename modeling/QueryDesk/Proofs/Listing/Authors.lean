import QueryDesk.Proofs.Listing.Filtered
import QueryDesk.Proofs.Number.Notation
import QueryDesk.Proofs.Uuid

/-!
# Posts by the id of their author

A filter on the author's id finds the posts of the UUID that its text is read as. A text in plain
decimal notation is taken for a number before it could be read as a UUID, and a number is the id of
no author.
-/

namespace QueryDesk

variable {db : Database} {u : Uuid} {v : String}

/-! ## Comparing with digits -/

theorem compareTruth_hex_iff {operand : Value} {cs : List Char}
    (written : Affinity.textual.convert (Operand.cell operand) = .text cs) :
    Condition.compareTruth .eq .uuid (.text u.hex) operand = some true ↔ u.hex = cs := by
  have compared : Condition.compareTruth .eq .uuid (.text u.hex) operand =
      (Cell.compare? (.text u.hex) (.text cs)).map (Condition.relationHolds .eq) := by
    rw [← written]
    rfl
  have ordered : Cell.compare? (.text u.hex) (.text cs) = some (Cell.compareText u.hex cs) := rfl
  rw [compared, ordered, Option.map_some, Option.some.injEq, Condition.relationHolds, beq_iff_eq,
    Cell.compareText_eq_iff]

/-- A UUID equals just the UUID of the same value. -/
theorem compareTruth_uuid_iff {w : Uuid} (u_fits : u.Fits) (w_fits : w.Fits) :
    Condition.compareTruth .eq .uuid (.text u.hex) (.uuid w) = some true ↔ u = w := by
  rw [compareTruth_hex_iff rfl, Uuid.hex_inj u_fits w_fits]

theorem length_toString_of_fits {n : Int} (fits : Cell.fits n = true) :
    (toString n).toList.length < 32 := by
  obtain ⟨above, below⟩ := Cell.fits_iff.mp fits
  have digits : ∀ m : Nat, (m : Int) ≤ Cell.intBound → (Nat.repr m).toList.length ≤ 19 := by
    intro m small
    rw [Nat.toList_repr, Nat.length_toDigits_le_iff (by decide) (by decide)]
    unfold Cell.intBound at small
    omega
  cases n with
  | ofNat m =>
    have short := digits m (Int.le_of_lt below)
    have text : (toString (Int.ofNat m)).toList = (Nat.repr m).toList := rfl
    rw [text]
    omega
  | negSucc m =>
    have short := digits (m + 1) (Int.neg_le_neg_iff.mp above)
    have text : (toString (Int.negSucc m)).toList = '-' :: (Nat.repr (m + 1)).toList :=
      String.toList_append
    rw [text, List.length_cons]
    omega

/-- No number that a cell can hold has 32 digits. -/
theorem compareTruth_int_hex {n : Int} (fits : Cell.fits n = true) :
    Condition.compareTruth .eq .uuid (.text u.hex) (.int n) ≠ some true := by
  rw [Ne, compareTruth_hex_iff rfl]
  intro same
  have short := length_toString_of_fits fits
  rw [← same, Uuid.hex, Text.length_hexDigits] at short
  exact Nat.lt_irrefl _ short

/-- A double is not written as hexadecimal digits. -/
theorem compareTruth_float_hex (negative : Bool) (units : Nat) :
    Condition.compareTruth .eq .uuid (.text u.hex) (.float (.finite negative units)) ≠
      some true := by
  rw [Ne, compareTruth_hex_iff rfl]
  intro same
  obtain ⟨c, mem, mark⟩ := Binary64.mem_significant negative units
  rw [← same] at mem
  have code := Uuid.toNat_of_mem_hex mem
  revert mark
  simp only [List.mem_cons, List.not_mem_nil, or_false]
  rintro (rfl | rfl | rfl) <;> exact absurd code (by decide)

/-! ## Filters on the author's id -/

/-- The value asks to be equalled: it has no symbol of a group or of another relation. -/
structure Unmarked (v : String) : Prop where
  noPercent : '%' ∉ v.toList
  noBar : '|' ∉ v.toList
  noGreater : '>' ∉ v.toList
  noLess : '<' ∉ v.toList
  noUnequal : ¬ "!=".toList <:+: v.toList

theorem unmarked_of_apart (apart : ∀ c ∈ ['%', '|', '>', '<', '!'], c ∉ v.toList) : Unmarked v :=
  ⟨apart '%' (by decide), apart '|' (by decide), apart '>' (by decide), apart '<' (by decide),
    Filter.not_infix_of_notMem (by decide) (apart '!' (by decide))⟩

theorem Unmarked.says (unmarked : Unmarked v) : Filter.Says v .eq v :=
  Filter.says_equal unmarked.noGreater unmarked.noLess unmarked.noUnequal

theorem filtersOn_author (unmarked : Unmarked v) :
    FiltersOn .posts ⟨"user_id", .uuid⟩ "user_id" v .eq v :=
  ⟨by decide, by decide +kernel, by decide, unmarked.noPercent, unmarked.noBar, unmarked.says⟩

/-- A text that is no number finds the posts of the UUID that it is read as. -/
theorem posts_of_text (keyed : db.Keyed) (stored : ∀ p ∈ db.posts, p.userId.Fits)
    (unmarked : Unmarked v) (kept : Operand.ofText v = .text v) :
    ∃ listing, Resource.posts.list db (Members.texts (filtering "user_id" v)) = .ok listing ∧
      listing.items.Nodup ∧ ∀ row, row ∈ listing.items ↔
        ∃ p ∈ db.posts, row = .post p ∧ Uuid.parse? (Text.strip v) = some p.userId := by
  have binds : Binding.bind .uuid (Operand.ofText v) =
      .ok ((Uuid.parse? (Text.strip v)).map .uuid) := by
    rw [kept]
    rfl
  obtain ⟨listing, listed, distinct, members⟩ := (filtersOn_author unmarked).answered keyed binds
    fun operand bound => by
      obtain ⟨w, -, rfl⟩ := Option.map_eq_some_iff.mp bound
      exact ⟨rfl, rfl⟩
  refine ⟨listing, listed, distinct, fun row => (members row).trans ?_⟩
  constructor
  · rintro ⟨mem, operand, bound, holds⟩
    obtain ⟨p, isStored, rfl⟩ := mem_rows_post.mp mem
    obtain ⟨w, read, rfl⟩ := Option.map_eq_some_iff.mp bound
    have same := (compareTruth_uuid_iff (stored p isStored) (Uuid.fits_of_parse? read)).mp holds
    exact ⟨p, isStored, rfl, by rw [read, same]⟩
  · rintro ⟨p, isStored, rfl, read⟩
    refine ⟨mem_rows_post.mpr ⟨p, isStored, rfl⟩, .uuid p.userId, by rw [read]; rfl, ?_⟩
    exact (compareTruth_uuid_iff (stored p isStored) (stored p isStored)).mpr rfl

/-- A number that equals the digits of no UUID finds no post. -/
theorem no_posts_of_number (keyed : db.Keyed) (unmarked : Unmarked v) {operand : Value}
    (binds : Binding.bind .uuid (Operand.ofText v) = .ok (some operand))
    (taken : (Operand.Slot.operand ⟨.post, ⟨"user_id", .uuid⟩⟩ operand).isBindable = true ∧
      (Operand.Slot.operand ⟨.post, ⟨"user_id", .uuid⟩⟩ operand).fault? = none)
    (differs : ∀ u : Uuid, Condition.compareTruth .eq .uuid (.text u.hex) operand ≠ some true) :
    ∃ listing, Resource.posts.list db (Members.texts (filtering "user_id" v)) = .ok listing ∧
      listing.items = [] := by
  obtain ⟨listing, listed, -, members⟩ := (filtersOn_author unmarked).answered keyed binds
    fun other bound => Option.some.inj bound ▸ taken
  refine ⟨listing, listed, List.eq_nil_iff_forall_not_mem.mpr fun row mem => ?_⟩
  obtain ⟨isRow, other, bound, holds⟩ := (members row).mp mem
  obtain ⟨p, -, rfl⟩ := mem_rows_post.mp isRow
  cases bound
  exact differs p.userId holds

/-- A filter on the author's id by a text that is no number finds the posts of the UUID that the text
    is read as, each once, and none if it is read as no UUID. A text in plain decimal notation finds
    no post, and it is refused if it is a whole number that no cell can hold. -/
theorem author_filtered (keyed : db.Keyed) (stored : ∀ p ∈ db.posts, p.userId.Fits)
    (unmarked : Unmarked v) :
    (Operand.ofText v = .text v → ∃ listing,
      Resource.posts.list db (Members.texts (filtering "user_id" v)) = .ok listing ∧
      listing.items.Nodup ∧ ∀ row, row ∈ listing.items ↔
        ∃ p ∈ db.posts, row = .post p ∧ Uuid.parse? (Text.strip v) = some p.userId) ∧
    (∀ n, Operand.ofText v = .int n → Cell.fits n = false →
      Resource.posts.list db (Members.texts (filtering "user_id" v)) =
        .error (.store .integerRange)) ∧
    ((∃ n, Operand.ofText v = .int n ∧ Cell.fits n = true) ∨ (∃ x, Operand.ofText v = .float x) →
      ∃ listing, Resource.posts.list db (Members.texts (filtering "user_id" v)) = .ok listing ∧
        listing.items = []) := by
  refine ⟨posts_of_text keyed stored unmarked, fun n number exceeds => ?_, ?_⟩
  · have binds : Binding.bind .uuid (Operand.ofText v) = .ok (some (.int n)) := by
      rw [number]
      rfl
    exact (filtersOn_author unmarked).refused binds rfl (if_neg (by simp [exceeds]))
  · rintro (⟨n, number, fits⟩ | ⟨x, number⟩)
    · have binds : Binding.bind .uuid (Operand.ofText v) = .ok (some (.int n)) := by
        rw [number]
        rfl
      exact no_posts_of_number keyed unmarked binds ⟨rfl, if_pos fits⟩ fun _ =>
        compareTruth_int_hex fits
    · have binds : Binding.bind .uuid (Operand.ofText v) = .ok (some (.float x)) := by
        rw [number]
        rfl
      obtain ⟨negative, units, rfl⟩ := Operand.finite_of_ofText number
      exact no_posts_of_number keyed unmarked binds ⟨rfl, rfl⟩ fun _ =>
        compareTruth_float_hex negative units

/-- The same UUID finds the post of its author in braces and with hyphens, and none as 32 digits. -/
theorem author_written_two_ways :
    (∃ listing, Resource.posts.list sampleDatabase (Members.texts
        (filtering "user_id" "{00000000-0000-0000-0000-000000000007}")) = .ok listing ∧
      ∀ row, row ∈ listing.items ↔ ∃ p ∈ sampleDatabase.posts, row = .post p ∧ p.userId = ⟨7⟩) ∧
    Uuid.parse? "00000000000000000000000000000007" = some ⟨7⟩ ∧
    ∃ listing, Resource.posts.list sampleDatabase (Members.texts
        (filtering "user_id" "00000000000000000000000000000007")) = .ok listing ∧
      listing.items = [] := by
  have stored : ∀ p ∈ sampleDatabase.posts, p.userId.Fits := by decide +kernel
  constructor
  · have unmarked : Unmarked "{00000000-0000-0000-0000-000000000007}" :=
      ⟨by decide, by decide, by decide, by decide,
        Filter.not_infix_of_notMem (c := '!') (by decide) (by decide)⟩
    obtain ⟨listing, listed, -, members⟩ := (author_filtered sampleDatabase_keyed stored unmarked).1
      (Operand.ofText_of_hyphens (by decide +kernel))
    have read : Uuid.parse? (Text.strip "{00000000-0000-0000-0000-000000000007}") = some ⟨7⟩ := by
      decide +kernel
    refine ⟨listing, listed, fun row => (members row).trans ?_⟩
    rw [read]
    simp only [Option.some.injEq, eq_comm]
  · have unmarked : Unmarked "00000000000000000000000000000007" :=
      ⟨by decide, by decide, by decide, by decide,
        Filter.not_infix_of_notMem (c := '!') (by decide) (by decide)⟩
    have spells : Numeral.Spells "00000000000000000000000000000007".toList 7 :=
      .unsigned ⟨by decide, List.all_eq_true.mp (by decide), by decide, by decide⟩
    have written : (Operand.ofText "00000000000000000000000000000007").text? = some "7" := by
      decide +kernel
    refine ⟨by decide +kernel, (author_filtered sampleDatabase_keyed stored unmarked).2.2 (.inl ?_)⟩
    rcases Operand.ofText_of_spells spells with number | kept
    · exact ⟨7, number, by decide⟩
    · rw [kept] at written
      exact absurd (Option.some.inj written) (by decide)

/-! ## The text of the id itself -/

theorem unmarked_text (u : Uuid) : Unmarked u.text := by
  refine unmarked_of_apart fun c symbol mem => ?_
  have code := Uuid.toNat_of_mem_text mem
  simp only [List.mem_cons, List.not_mem_nil, or_false] at symbol
  rcases symbol with rfl | rfl | rfl | rfl | rfl <;> exact absurd code (by decide)

/-- A UUID finds its posts by its text, which is never taken for a number. -/
theorem posts_of_uuid_text (keyed : db.Keyed) (stored : ∀ p ∈ db.posts, p.userId.Fits)
    (fits : u.Fits) :
    ∃ listing, Resource.posts.list db (Members.texts (filtering "user_id" u.text)) = .ok listing ∧
      listing.items.Nodup ∧ ∀ row, row ∈ listing.items ↔
        ∃ p ∈ db.posts, row = .post p ∧ p.userId = u := by
  obtain ⟨listing, listed, distinct, members⟩ :=
    posts_of_text keyed stored (unmarked_text u) u.ofText_text
  refine ⟨listing, listed, distinct, fun row => (members row).trans ?_⟩
  rw [u.strip_text, Uuid.parse?_text fits]
  simp only [Option.some.injEq, eq_comm]

end QueryDesk
