import QueryDesk.Proofs.Listing.Filtered
import QueryDesk.Proofs.Number.Spelling

/-!
# Posts by their views

A filter on the views of posts compares them with the whole number that its text spells. Posts are
found by the number and not by its double, so that no digit is lost; a number that no cell can hold
is refused by the store.
-/

namespace QueryDesk

/-- A relation between whole numbers. -/
def Relation.Holds : Relation → Int → Int → Prop
  | .eq, m, n => m = n
  | .ne, m, n => m ≠ n
  | .lt, m, n => m < n
  | .le, m, n => m ≤ n
  | .gt, m, n => n < m
  | .ge, m, n => n ≤ m

namespace Relation

theorem holds_iff {relation : Relation} {m n : Int} :
    Condition.relationHolds relation (compare m n) = true ↔ relation.Holds m n := by
  cases relation <;>
    simp [Condition.relationHolds, Holds, Int.compare_eq_lt, Int.compare_eq_gt]

/-- Whole numbers are compared as numbers, not as doubles or texts. -/
theorem compareTruth_whole_iff {relation : Relation} {m n : Int} :
    Condition.compareTruth relation .whole (.int m) (.int n) = some true ↔ relation.Holds m n := by
  have compared : Condition.compareTruth relation .whole (.int m) (.int n) =
      some (Condition.relationHolds relation (compare m n)) := rfl
  rw [compared, Option.some.injEq, holds_iff]

end Relation

/-- A relation before the spelling of a number is a filter on views. -/
theorem filtersOn_views (relation : Relation) {spelling : String} {n : Int}
    (spells : Numeral.Spells spelling.toList n) :
    FiltersOn .posts ⟨"views", .whole⟩ "views" (Filter.symbolOf relation ++ spelling) relation
      spelling := by
  have chars := spells.all_isSpelling
  have other : ∀ c, Numeral.isSpelling c = false → c ∉ spelling.toList := by
    intro c notSpelling mem
    exact Bool.false_ne_true (notSpelling.symm.trans (chars c mem))
  have absent : ∀ c, c ∉ (Filter.symbolOf relation).toList → Numeral.isSpelling c = false →
      c ∉ (Filter.symbolOf relation ++ spelling).toList := by
    intro c notSymbol notSpelling
    rw [String.toList_append, List.mem_append]
    exact fun mem => mem.elim notSymbol (other c notSpelling)
  have begins : spelling.toList.head? ≠ some '=' :=
    fun first => other '=' (by decide) (List.mem_of_head? first)
  exact ⟨by decide, by decide +kernel, by decide,
    absent '%' (by cases relation <;> decide) (by decide),
    absent '|' (by cases relation <;> decide) (by decide),
    Filter.says_symbolOf relation (other '>' (by decide)) (other '<' (by decide))
      (Filter.not_infix_of_notMem (by decide) (other '!' (by decide))) begins⟩

/-- A filter on views that asks for a relation to a spelled number, whatever its length, is refused
    if no cell can hold the number, and otherwise answered with the posts whose views stand in that
    relation to it, each once. -/
theorem views_compared {db : Database} (keyed : db.Keyed) (relation : Relation) {spelling : String}
    {n : Int} (spells : Numeral.Spells spelling.toList n) :
    (Cell.fits n = true → ∃ listing, Resource.posts.list db
        (Members.texts (filtering "views" (Filter.symbolOf relation ++ spelling))) = .ok listing ∧
      listing.items.Nodup ∧ ∀ row, row ∈ listing.items ↔
        ∃ p ∈ db.posts, row = .post p ∧ relation.Holds p.views n) ∧
    (Cell.fits n = false → Resource.posts.list db
        (Members.texts (filtering "views" (Filter.symbolOf relation ++ spelling))) =
      .error (.store .integerRange)) := by
  have filters := filtersOn_views relation spells
  have binds := Binding.bind_whole_of_spells spells
  have bindable : (Operand.Slot.operand ⟨.post, ⟨"views", .whole⟩⟩ (.int n)).isBindable = true := rfl
  constructor
  · intro fits
    have sound : (Operand.Slot.operand ⟨.post, ⟨"views", .whole⟩⟩ (.int n)).fault? = none :=
      if_pos fits
    obtain ⟨listing, listed, distinct, members⟩ := filters.answered keyed binds
      fun operand same => Option.some.inj same ▸ ⟨bindable, sound⟩
    refine ⟨listing, listed, distinct, fun row => (members row).trans ?_⟩
    constructor
    · rintro ⟨mem, operand, bound, holds⟩
      cases bound
      obtain ⟨p, stored, rfl⟩ := mem_rows_post.mp mem
      exact ⟨p, stored, rfl, Relation.compareTruth_whole_iff.mp holds⟩
    · rintro ⟨p, stored, rfl, holds⟩
      exact ⟨mem_rows_post.mpr ⟨p, stored, rfl⟩, .int n, rfl,
        Relation.compareTruth_whole_iff.mpr holds⟩
  · intro exceeds
    exact filters.refused binds bindable (if_neg (by simp [exceeds]))

/-- A sign and leading zeros make no difference, and the first number above all views that a post
    can have is refused. -/
theorem posts_viewed_five_times :
    (∃ listing, Resource.posts.list sampleDatabase
        (Members.texts (filtering "views" ">=+05")) = .ok listing ∧
      ∀ row, row ∈ listing.items ↔ ∃ p ∈ sampleDatabase.posts, row = .post p ∧ 5 ≤ p.views) ∧
    Resource.posts.list sampleDatabase
      (Members.texts (filtering "views" "<9223372036854775808")) =
        .error (.store .integerRange) := by
  have five : Numeral.Spells "+05".toList 5 :=
    .plus ⟨by decide, List.all_eq_true.mp (by decide), by decide, by decide⟩
  have bound : Numeral.Spells "9223372036854775808".toList 9223372036854775808 :=
    .unsigned ⟨by decide, List.all_eq_true.mp (by decide), by decide, by decide⟩
  obtain ⟨listing, listed, -, members⟩ :=
    (views_compared sampleDatabase_keyed .ge five).1 (by decide)
  exact ⟨⟨listing, listed, members⟩,
    (views_compared sampleDatabase_keyed .lt bound).2 (by decide)⟩

end QueryDesk
