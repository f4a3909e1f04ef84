import QueryDesk.Mail.Recipients
import QueryDesk.Proofs.Text.Trim

/-!
# Normal forms of texts

Trimming a trimmed text and lowering a text in lower case change nothing. Lowering moves no
character to a blank, so the normal form of an address is its own normal form.
-/

namespace QueryDesk

namespace Text

/-! ## The table of lower-case letters -/

/-- The code points that a run maps to, as a run. -/
def CaseRun.image (run : CaseRun) : CaseRun :=
  { run with first := (run.first + run.shift).toNat, last := (run.last + run.shift).toNat }

/-- No two code points of the run are neighbours. -/
def CaseRun.isAlternate (run : CaseRun) : Bool :=
  run.step == 2 || run.first == run.last

/-- One run ends before the other begins, or the two alternate. -/
def CaseRun.apart (run other : CaseRun) : Bool :=
  Nat.blt run.last other.first || Nat.blt other.last run.first ||
    (run.isAlternate && other.isAlternate && (run.first + other.first) % 2 == 1)

theorem CaseRun.covers_image {run : CaseRun} (positive : 0 ≤ run.first + run.shift) {point : Nat}
    (covers : run.covers point = true) :
    run.image.covers (point + run.shift).toNat = true := by
  simp only [CaseRun.covers, Bool.and_eq_true, decide_eq_true_eq, beq_iff_eq] at covers
  obtain ⟨⟨low, high⟩, own⟩ := covers
  have same : (point + run.shift).toNat - (run.first + run.shift).toNat = point - run.first := by
    omega
  have above : (run.first + run.shift).toNat ≤ (point + run.shift).toNat := by omega
  have below : (point + run.shift).toNat ≤ (run.last + run.shift).toNat := by omega
  simp only [CaseRun.covers, Bool.and_eq_true, decide_eq_true_eq, beq_iff_eq]
  exact ⟨⟨above, below⟩, same ▸ own⟩

theorem CaseRun.not_covers_of_apart {run other : CaseRun} (apart : run.apart other = true)
    {point : Nat} (covers : run.covers point = true) : other.covers point = false := by
  rw [← Bool.not_eq_true]
  intro reached
  simp only [CaseRun.covers, Bool.and_eq_true, decide_eq_true_eq, beq_iff_eq] at covers reached
  simp only [CaseRun.apart, isAlternate, Bool.or_eq_true, Bool.and_eq_true, Nat.blt_eq,
    beq_iff_eq] at apart
  obtain ⟨⟨low, high⟩, own⟩ := covers
  obtain ⟨⟨low', high'⟩, own'⟩ := reached
  rcases apart with (before | after) | ⟨⟨even | single, even' | single'⟩, odd⟩
  · omega
  · omega
  · rw [even] at own
    rw [even'] at own'
    omega
  · rw [even] at own
    omega
  · rw [even'] at own'
    omega
  · omega

/-- What lowering changes: the letters of its table, the capital sigma and the dotted capital I. -/
def capitalRuns : List CaseRun :=
  ⟨0x3A3, 0x3A3, 1, 0⟩ :: ⟨0x130, 0x130, 1, 0⟩ :: lowerRuns

/-- The blanks. -/
def blankRuns : List CaseRun := [
  ⟨9, 13, 1, 0⟩, ⟨28, 32, 1, 0⟩, ⟨0x85, 0x85, 1, 0⟩, ⟨0xA0, 0xA0, 1, 0⟩, ⟨0x1680, 0x1680, 1, 0⟩,
  ⟨0x2000, 0x200A, 1, 0⟩, ⟨0x2028, 0x2029, 1, 0⟩, ⟨0x202F, 0x202F, 1, 0⟩, ⟨0x205F, 0x205F, 1, 0⟩,
  ⟨0x3000, 0x3000, 1, 0⟩]

/-- The code points among those of characters that are no characters themselves. -/
def halfRun : CaseRun := ⟨0xD800, 0xDFFF, 1, 0⟩

/-- What the table of lower-case letters maps to is a character, no blank and not mapped again. -/
theorem lowerRuns_land : ∀ run ∈ lowerRuns,
    0 ≤ run.first + run.shift ∧ run.last + run.shift < 0x110000 ∧
      (halfRun :: capitalRuns ++ blankRuns).all run.image.apart = true := by
  decide +kernel

theorem exists_run_of_isBlank {c : Char} (blank : isBlank c = true) :
    ∃ run ∈ blankRuns, run.covers c.toNat = true := by
  simp only [isBlank, Bool.or_eq_true, Bool.and_eq_true, decide_eq_true_eq, beq_iff_eq] at blank
  simp only [blankRuns, List.mem_cons, List.not_mem_nil, or_false, exists_eq_or_imp,
    exists_eq_left, CaseRun.covers, Bool.and_eq_true, decide_eq_true_eq, beq_iff_eq]
  omega

/-- Lowering leaves the character alone. -/
def isLow (c : Char) : Bool :=
  !capitalRuns.any (·.covers c.toNat)

theorem isValidChar_of_not_half {n : Nat} (small : n < 0x110000)
    (whole : halfRun.covers n = false) : n.isValidChar := by
  rw [← Bool.not_eq_true] at whole
  simp only [CaseRun.covers, Bool.and_eq_true, decide_eq_true_eq, beq_iff_eq] at whole
  simp only [halfRun] at whole
  unfold Nat.isValidChar
  omega

theorem toNat_ofNat_of_valid {n : Nat} (valid : n.isValidChar) : (Char.ofNat n).toNat = n := by
  rw [Char.ofNat, dif_pos valid]
  rfl

/-- A character in lower case, as the table has it: the character itself, or a letter that is no
    blank if it is not. -/
theorem mapPoint_cases (c : Char) :
    (mapPoint lowerRuns c.toNat = c.toNat ∧ ∀ run ∈ lowerRuns, run.covers c.toNat = false) ∨
      (isLow (Char.ofNat (mapPoint lowerRuns c.toNat)) = true ∧
        isBlank (Char.ofNat (mapPoint lowerRuns c.toNat)) = false) := by
  unfold mapPoint
  cases found : lowerRuns.find? (·.covers c.toNat) with
  | none => exact .inl ⟨rfl, by simpa using found⟩
  | some run =>
    obtain ⟨positive, small, lands⟩ := lowerRuns_land run (List.mem_of_find?_eq_some found)
    have covers : run.covers c.toNat = true := by simpa using List.find?_some found
    have misses : ∀ other ∈ halfRun :: capitalRuns ++ blankRuns,
        other.covers (c.toNat + run.shift).toNat = false :=
      fun other mem => CaseRun.not_covers_of_apart (List.all_eq_true.mp lands other mem)
        (CaseRun.covers_image positive covers)
    have valid : (c.toNat + run.shift).toNat.isValidChar := by
      simp only [CaseRun.covers, Bool.and_eq_true, decide_eq_true_eq] at covers
      exact isValidChar_of_not_half (by omega) (misses halfRun (by simp))
    have toNat_eq := toNat_ofNat_of_valid valid
    refine .inr ⟨?_, ?_⟩
    · simp only [isLow, toNat_eq, Bool.not_eq_true', List.any_eq_false, Bool.not_eq_true]
      exact fun other mem => misses other (by simp [mem])
    · rw [← Bool.not_eq_true]
      intro blank
      obtain ⟨other, mem, reached⟩ := exists_run_of_isBlank blank
      rw [toNat_eq, misses other (by simp [mem])] at reached
      cases reached

/-! ## Lowering -/

theorem isLow_of_not_covers {c : Char} (sigma : c ≠ 'Σ') (dotted : c ≠ 'İ')
    (kept : ∀ run ∈ lowerRuns, run.covers c.toNat = false) : isLow c = true := by
  have apart : ∀ d : Char, c ≠ d → c.toNat ≠ d.toNat :=
    fun d ne same => ne (Char.toNat_inj.mp same)
  have noSigma : c.toNat ≠ 0x3A3 := apart 'Σ' sigma
  have noDotted : c.toNat ≠ 0x130 := apart 'İ' dotted
  simp only [isLow, capitalRuns, Bool.not_eq_true', List.any_eq_false, Bool.not_eq_true,
    List.forall_mem_cons]
  refine ⟨?_, ?_, kept⟩ <;>
    simp only [CaseRun.covers, Bool.and_eq_false_iff, decide_eq_false_iff_not] <;> omega

theorem lowerChar_of_isLow {c : Char} (low : isLow c = true) (before after : List Char) :
    lowerChar before c after = [c] := by
  simp only [isLow, capitalRuns, Bool.not_eq_true', List.any_eq_false, Bool.not_eq_true,
    List.forall_mem_cons] at low
  obtain ⟨sigma, dotted, kept⟩ := low
  have noSigma : c ≠ 'Σ' := by
    rintro rfl
    exact absurd sigma (by decide)
  have noDotted : c ≠ 'İ' := by
    rintro rfl
    exact absurd dotted (by decide)
  have still : mapPoint lowerRuns c.toNat = c.toNat := by
    unfold mapPoint
    rw [List.find?_eq_none.mpr (by simpa using kept)]
  rw [lowerChar, if_neg noSigma, if_neg noDotted, still, Char.ofNat_toNat]

/-- The characters that lowering makes of one are in lower case, and no blanks unless it is one. -/
theorem of_mem_lowerChar {before after : List Char} {c d : Char}
    (mem : d ∈ lowerChar before c after) :
    isLow d = true ∧ (isBlank c = false → isBlank d = false) := by
  unfold lowerChar at mem
  by_cases sigma : c = 'Σ'
  · rw [if_pos sigma, List.mem_singleton] at mem
    rw [mem]
    split
    · exact ⟨by decide +kernel, fun _ => by decide⟩
    · exact ⟨by decide +kernel, fun _ => by decide⟩
  · rw [if_neg sigma] at mem
    by_cases dotted : c = 'İ'
    · rw [if_pos dotted] at mem
      simp only [List.mem_cons, List.not_mem_nil, or_false] at mem
      rcases mem with rfl | rfl
      · exact ⟨by decide +kernel, fun _ => by decide⟩
      · exact ⟨by decide +kernel, fun _ => by decide⟩
    · rw [if_neg dotted, List.mem_singleton] at mem
      rw [mem]
      rcases mapPoint_cases c with ⟨still, kept⟩ | ⟨low, bare⟩
      · rw [still, Char.ofNat_toNat]
        exact ⟨isLow_of_not_covers sigma dotted kept, id⟩
      · exact ⟨low, fun _ => bare⟩

theorem lowerChar_ne_nil (before : List Char) (c : Char) (after : List Char) :
    lowerChar before c after ≠ [] := by
  unfold lowerChar
  split
  · simp
  · split <;> simp

theorem isLow_of_mem_lowerAfter {before cs : List Char} {d : Char}
    (mem : d ∈ lowerAfter before cs) : isLow d = true := by
  induction cs generalizing before with
  | nil => cases mem
  | cons c rest ih =>
    rcases List.mem_append.mp mem with own | later
    · exact (of_mem_lowerChar own).1
    · exact ih later

theorem lowerAfter_of_isLow {cs : List Char} (low : ∀ c ∈ cs, isLow c = true)
    (before : List Char) : lowerAfter before cs = cs := by
  induction cs generalizing before with
  | nil => rfl
  | cons c rest ih =>
    rw [List.forall_mem_cons] at low
    rw [lowerAfter, lowerChar_of_isLow low.1, ih low.2, List.singleton_append]

theorem lower_lower (s : String) : lower (lower s) = lower s := by
  rw [lower, lower, String.toList_ofList,
    lowerAfter_of_isLow fun c mem => isLow_of_mem_lowerAfter mem]

theorem head?_lowerAfter {cs : List Char} (bare : ∀ c, cs.head? = some c → isBlank c = false)
    {before : List Char} {d : Char} (first : (lowerAfter before cs).head? = some d) :
    isBlank d = false := by
  cases cs with
  | nil => exact bare d first
  | cons c rest =>
    rw [lowerAfter, List.head?_append, Option.or_of_isSome (by simp [lowerChar_ne_nil])] at first
    exact (of_mem_lowerChar (List.mem_of_mem_head? first)).2 (bare c rfl)

theorem getLast?_lowerAfter {cs : List Char}
    (bare : ∀ c, cs.getLast? = some c → isBlank c = false) {before : List Char} {d : Char}
    (last : (lowerAfter before cs).getLast? = some d) : isBlank d = false := by
  induction cs generalizing before with
  | nil => exact bare d last
  | cons c rest ih =>
    cases rest with
    | nil =>
      rw [lowerAfter, lowerAfter, List.append_nil] at last
      exact (of_mem_lowerChar (List.mem_of_getLast? last)).2 (bare c rfl)
    | cons e more =>
      have later : (lowerAfter (c :: before) (e :: more)) ≠ [] := by
        simp [lowerAfter, lowerChar_ne_nil]
      rw [lowerAfter, List.getLast?_append, Option.or_of_isSome (by simpa using later)] at last
      exact ih (fun d same => bare d (by rw [List.getLast?_cons_cons, same])) last

/-- Lowering keeps bare ends bare. -/
theorem isBare_lowerAfter {cs : List Char} (bare : IsBare isBlank cs) (before : List Char) :
    IsBare isBlank (lowerAfter before cs) :=
  ⟨fun _ first => head?_lowerAfter bare.1 first, fun _ last => getLast?_lowerAfter bare.2 last⟩

end Text

open Text in
/-- The normal form of an address is its own normal form. -/
theorem normalizeEmail_normalizeEmail (s : String) :
    normalizeEmail (normalizeEmail s) = normalizeEmail s := by
  have bare := isBare_lowerAfter (isBare_trim s.toList) []
  have trimmed : strip (lower (strip s)) = lower (strip s) := by
    rw [strip, lower, String.toList_ofList, toList_strip, trim_eq_self bare]
  rw [normalizeEmail, normalizeEmail, trimmed, lower_lower]

end QueryDesk
