import Mathlib.Data.List.Infix
import Mathlib.Data.List.TakeWhile
import QueryDesk.Proofs.Text.NormalForm
import QueryDesk.Store.Like

/-!
# What patterns match

A text matches a pattern if it can be cut into one piece for each character of the pattern. The
store follows the pattern and keeps what may remain of the text. All that may remain are ends of the
longest remainder, so that a percent sign needs to look at no other.
-/

namespace QueryDesk.Like

/-- A text is cut into what the characters of a pattern stand for. -/
inductive Matches : List Char → List Char → Prop
  | nil : Matches [] []
  | many {p cs : List Char} (passed : List Char) (rest : Matches p cs) :
      Matches ('%' :: p) (passed ++ cs)
  | one {p cs : List Char} (c : Char) (rest : Matches p cs) : Matches ('_' :: p) (c :: cs)
  | same {c : Char} {p cs : List Char} (many : c ≠ '%') (one : c ≠ '_') (rest : Matches p cs) :
      Matches (c :: p) (c :: cs)

theorem mem_suffixes {cs rest : List Char} : rest ∈ suffixes cs ↔ rest <:+ cs := by
  induction cs with
  | nil => simp [suffixes]
  | cons c cs ih => rw [suffixes, List.mem_cons, ih, List.suffix_cons_iff]

theorem matches_percent_iff {p cs : List Char} :
    Matches ('%' :: p) cs ↔ ∃ rest, rest <:+ cs ∧ Matches p rest := by
  constructor
  · intro cut
    cases cut with
    | many passed rest => exact ⟨_, List.suffix_append passed _, rest⟩
    | same many => exact absurd rfl many
  · rintro ⟨rest, ⟨passed, rfl⟩, cut⟩
    exact .many passed cut

/-! ## Candidates -/

/-- What may remain of a text: each candidate is an end of those before it. -/
def Chain (candidates : List (List Char)) : Prop :=
  candidates.Pairwise fun longer shorter => shorter <:+ longer

theorem chain_suffixes (cs : List Char) : Chain (suffixes cs) := by
  induction cs with
  | nil => exact List.pairwise_singleton _ _
  | cons c rest ih =>
    exact List.pairwise_cons.mpr ⟨fun shorter mem =>
      (mem_suffixes.mp mem).trans (List.suffix_cons c rest), ih⟩

/-- Where ends of a text begin with any character, what follows them are ends too. -/
theorem suffix_of_cons_suffix {c d : Char} {shorter longer : List Char}
    (ends : c :: shorter <:+ d :: longer) : shorter <:+ longer := by
  rcases List.suffix_cons_iff.mp ends with same | inside
  · rw [(List.cons.inj same).2]
  · exact (List.suffix_cons c shorter).trans inside

theorem chain_advance {candidates : List (List Char)} (chain : Chain candidates) (p : Char) :
    Chain (advance candidates p) := by
  unfold advance
  split
  · cases candidates with
    | nil => exact List.Pairwise.nil
    | cons longest others => exact chain_suffixes longest
  · refine List.pairwise_filterMap.mpr (chain.imp ?_)
    intro longer shorter ends rest kept rest' kept'
    cases longer with
    | nil => cases kept
    | cons c longer =>
      cases shorter with
      | nil => cases kept'
      | cons d shorter =>
        simp only [Option.ite_none_right_eq_some, Option.some.injEq] at kept kept'
        obtain ⟨-, rfl⟩ := kept
        obtain ⟨-, rfl⟩ := kept'
        exact suffix_of_cons_suffix ends

/-- After one more character some candidate matches the rest of the pattern just if some candidate
    before it has matched the whole. -/
theorem exists_advance_iff {candidates : List (List Char)} (chain : Chain candidates)
    (p : Char) (pattern : List Char) :
    (∃ rest ∈ advance candidates p, Matches pattern rest) ↔
      ∃ cs ∈ candidates, Matches (p :: pattern) cs := by
  unfold advance
  split
  · rename_i percent
    subst percent
    simp only [matches_percent_iff]
    cases candidates with
    | nil => simp
    | cons longest others =>
      constructor
      · rintro ⟨rest, mem, cut⟩
        exact ⟨longest, List.mem_cons_self, rest, mem_suffixes.mp mem, cut⟩
      · rintro ⟨cs, mem, rest, ends, cut⟩
        refine ⟨rest, mem_suffixes.mpr ?_, cut⟩
        rcases List.mem_cons.mp mem with rfl | later
        · exact ends
        · exact ends.trans (List.rel_of_pairwise_cons chain later)
  · rename_i percent
    constructor
    · rintro ⟨rest, mem, cut⟩
      obtain ⟨cs, among, kept⟩ := List.mem_filterMap.mp mem
      cases cs with
      | nil => cases kept
      | cons c cs =>
        simp only [Option.ite_none_right_eq_some, Option.some.injEq, Bool.or_eq_true,
          decide_eq_true_eq] at kept
        obtain ⟨allowed, rfl⟩ := kept
        refine ⟨c :: cs, among, ?_⟩
        by_cases underscore : p = '_'
        · subst underscore
          exact .one c cut
        · obtain rfl := allowed.resolve_left underscore
          exact .same percent underscore cut
    · rintro ⟨cs, among, cut⟩
      cases cut with
      | many => exact absurd rfl percent
      | one c rest => exact ⟨_, List.mem_filterMap.mpr ⟨_, among, by simp⟩, rest⟩
      | same many one rest => exact ⟨_, List.mem_filterMap.mpr ⟨_, among, by simp⟩, rest⟩

theorem any_isEmpty_foldl_iff (pattern : List Char) {candidates : List (List Char)}
    (chain : Chain candidates) : (pattern.foldl advance candidates).any (·.isEmpty) = true ↔
      ∃ cs ∈ candidates, Matches pattern cs := by
  induction pattern generalizing candidates with
  | nil =>
    rw [List.foldl_nil, List.any_eq_true]
    refine exists_congr fun cs => and_congr_right fun _ => ?_
    rw [List.isEmpty_iff]
    constructor
    · rintro rfl
      exact .nil
    · intro cut
      cases cut
      rfl
  | cons p pattern ih =>
    rw [List.foldl_cons, ih (chain_advance chain p), exists_advance_iff chain]

/-- The store finds that a text matches just if it can be cut. -/
theorem matchesExactly_iff {pattern cs : List Char} :
    matchesExactly pattern cs = true ↔ Matches pattern cs := by
  have chain : Chain [cs] := List.pairwise_singleton _ _
  rw [matchesExactly, any_isEmpty_foldl_iff pattern chain]
  simp

/-! ## Patterns of a part -/

/-- Any text matches itself as a pattern, before a text that matches what follows. -/
theorem matches_append (s : List Char) {p cs : List Char} (rest : Matches p cs) :
    Matches (s ++ p) (s ++ cs) := by
  induction s with
  | nil => exact rest
  | cons c s ih =>
    by_cases percent : c = '%'
    · subst percent
      exact .many ['%'] ih
    · by_cases underscore : c = '_'
      · subst underscore
        exact .one '_' ih
      · exact .same percent underscore ih

/-- A pattern without percent signs and underscores matches nothing but itself. -/
theorem matches_append_iff {s p cs : List Char} (noPercent : '%' ∉ s) (noUnderscore : '_' ∉ s) :
    Matches (s ++ p) cs ↔ ∃ rest, cs = s ++ rest ∧ Matches p rest := by
  constructor
  · intro cut
    induction s generalizing cs with
    | nil => exact ⟨cs, rfl, cut⟩
    | cons c s ih =>
      rw [List.mem_cons, not_or] at noPercent noUnderscore
      cases cut with
      | many => exact absurd rfl noPercent.1
      | one => exact absurd rfl noUnderscore.1
      | same _ _ rest =>
        obtain ⟨rest', rfl, others⟩ := ih noPercent.2 noUnderscore.2 rest
        exact ⟨rest', rfl, others⟩
  · rintro ⟨rest, rfl, cut⟩
    exact matches_append s cut

theorem matches_any (cs : List Char) : Matches ['%'] cs := by
  have whole := Matches.many cs .nil
  rwa [List.append_nil] at whole

theorem matches_part {s cs : List Char} (part : s <:+: cs) : Matches ('%' :: (s ++ ['%'])) cs := by
  obtain ⟨before, after, rfl⟩ := part
  rw [List.append_assoc]
  exact .many before (matches_append s (matches_any after))

theorem part_of_matches {s cs : List Char} (noPercent : '%' ∉ s) (noUnderscore : '_' ∉ s)
    (cut : Matches ('%' :: (s ++ ['%'])) cs) : s <:+: cs := by
  obtain ⟨rest, ends, others⟩ := matches_percent_iff.mp cut
  obtain ⟨after, rfl, -⟩ := (matches_append_iff noPercent noUnderscore).mp others
  exact (List.prefix_append s after).isInfix.trans ends.isInfix

/-! ## ASCII case and NUL -/

end QueryDesk.Like

namespace QueryDesk.Text

/-- No other character becomes one that is no ASCII letter. -/
theorem asciiLowerChar_eq_iff {c d : Char}
    (unlettered : d.toNat < 65 ∨ (90 < d.toNat ∧ d.toNat < 97)) : asciiLowerChar c = d ↔ c = d := by
  unfold asciiLowerChar
  split
  · rename_i capital
    rw [Bool.and_eq_true, decide_eq_true_eq, decide_eq_true_eq] at capital
    have small : (Char.ofNat (c.toNat + 32)).toNat = c.toNat + 32 :=
      toNat_ofNat_of_valid (.inl (by omega))
    constructor
    · rintro rfl
      omega
    · rintro rfl
      omega
  · rfl

theorem mem_asciiLower_iff {d : Char} (unlettered : d.toNat < 65 ∨ (90 < d.toNat ∧ d.toNat < 97))
    {cs : List Char} : d ∈ asciiLower cs ↔ d ∈ cs := by
  simp [asciiLower, asciiLowerChar_eq_iff unlettered]

end QueryDesk.Text

namespace QueryDesk.Like

open Text

theorem untilNul_eq_self {cs : List Char} (whole : '\x00' ∉ cs) : untilNul cs = cs := by
  rw [untilNul, List.takeWhile_eq_self_iff]
  intro c mem
  have other : c ≠ '\x00' := fun same => whole (same ▸ mem)
  have positive : c.toNat ≠ 0 := fun zero => other (Char.toNat_inj.mp zero)
  simpa using positive

theorem untilNul_asciiLower (cs : List Char) :
    untilNul (asciiLower cs) = asciiLower (untilNul cs) := by
  have kept : ∀ c : Char, decide ((asciiLowerChar c).toNat ≠ 0) = decide (c.toNat ≠ 0) := by
    intro c
    have zero : (asciiLowerChar c).toNat = '\x00'.toNat ↔ c.toNat = '\x00'.toNat := by
      rw [Char.toNat_inj, Char.toNat_inj, asciiLowerChar_eq_iff (.inl (by decide))]
    exact decide_eq_decide.mpr (not_congr zero)
  rw [untilNul, asciiLower, List.takeWhile_map, untilNul]
  simp only [Function.comp_def, kept, asciiLower]

/-- A text has another one as a part, up to ASCII case; a NUL ends the text. -/
def Contains (part cs : List Char) : Prop :=
  asciiLower part <:+: asciiLower (untilNul cs)

theorem holds_around_iff {part cs : List Char} (whole : '\x00' ∉ part) :
    holds ('%' :: (part ++ ['%'])) cs = true ↔
      Matches ('%' :: (asciiLower part ++ ['%'])) (asciiLower (untilNul cs)) := by
  have lower : asciiLower ('%' :: (part ++ ['%'])) = '%' :: (asciiLower part ++ ['%']) := by
    simp [asciiLower, asciiLowerChar]
  have entire : '\x00' ∉ '%' :: (asciiLower part ++ ['%']) := by
    simp [mem_asciiLower_iff (d := '\x00') (.inl (by decide)), whole]
  rw [holds, matchesExactly_iff, lower, untilNul_eq_self entire, untilNul_asciiLower]

/-- What contains a text matches the text with anything around it. -/
theorem holds_of_contains {part cs : List Char} (whole : '\x00' ∉ part)
    (contains : Contains part cs) : holds ('%' :: (part ++ ['%'])) cs = true :=
  (holds_around_iff whole).mpr (matches_part contains)

/-- Without percent signs and underscores nothing else does. -/
theorem contains_of_holds {part cs : List Char} (whole : '\x00' ∉ part) (noPercent : '%' ∉ part)
    (noUnderscore : '_' ∉ part) (matched : holds ('%' :: (part ++ ['%'])) cs = true) :
    Contains part cs := by
  refine part_of_matches ?_ ?_ ((holds_around_iff whole).mp matched)
  · rwa [mem_asciiLower_iff (.inl (by decide))]
  · rwa [mem_asciiLower_iff (.inr (by decide))]

end QueryDesk.Like
