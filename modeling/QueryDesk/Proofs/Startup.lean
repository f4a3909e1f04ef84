import Mathlib.Algebra.BigOperators.Group.List.Basic
import Mathlib.Algebra.Order.BigOperators.Group.List
import Mathlib.Algebra.Order.Floor.Semifield
import Mathlib.Data.Rat.Floor
import QueryDesk.Startup

/-!
# Attempts within a deadline

Time is measured exactly here and passes only in sleep. Then the service connects at the first
attempt that succeeds, if that comes by the deadline, and otherwise gives up after the last attempt
that does. `Tries` says how a run goes on; what it does is read off by induction.
-/

namespace QueryDesk

/-- Exact time. -/
instance exactSeconds {K : Type} [Field K] [LinearOrder K] : Seconds K where
  zero := 0
  add x y := x + y
  after x y := decide (y < x)

namespace Startup

variable {K : Type}

/-! ## What is done -/

/-- The step begins an attempt. -/
def Step.isConnect : Step K → Bool
  | .connect => true
  | _ => false

/-- The time that a step sleeps. -/
def Step.pause? : Step K → Option K
  | .sleep seconds => some seconds
  | _ => none

/-- The number of attempts among steps. -/
def attemptCount (steps : List (Step K)) : Nat :=
  steps.countP Step.isConnect

/-- The pauses among steps. -/
def pauses (steps : List (Step K)) : List K :=
  steps.filterMap Step.pause?

/-- The first attempt that succeeds; attempts count from zero. -/
structure SucceedsFirst (syncSchema : Bool) (outcome : Nat → Attempt) (k : Nat) : Prop where
  succeeds : (outcome k).given syncSchema = .succeeds
  first : ∀ j < k, (outcome j).given syncSchema ≠ .succeeds

/-- The database answers in an attempt, whatever comes after that. -/
inductive Attempt.Answers : Attempt → Prop
  | succeeds : Answers .succeeds
  | fails : Answers (.fails .creating)

@[simp] theorem attemptCount_append (steps more : List (Step K)) :
    attemptCount (steps ++ more) = attemptCount steps + attemptCount more :=
  List.countP_append

@[simp] theorem pauses_append (steps more : List (Step K)) :
    pauses (steps ++ more) = pauses steps ++ pauses more :=
  List.filterMap_append

@[simp] theorem attemptCount_sleep (seconds : K) (steps : List (Step K)) :
    attemptCount (.sleep seconds :: steps) = attemptCount steps :=
  List.countP_cons_of_neg Bool.false_ne_true

@[simp] theorem pauses_sleep (seconds : K) (steps : List (Step K)) :
    pauses (.sleep seconds :: steps) = seconds :: pauses steps := rfl

@[simp] theorem attemptCount_steps (stage : Stage) : attemptCount (K := K) stage.steps = 1 := by
  cases stage <;> rfl

@[simp] theorem pauses_steps (stage : Stage) : pauses (K := K) stage.steps = [] := by
  cases stage <;> rfl

theorem Attempt.given_cases (syncSchema : Bool) {attempt : Attempt}
    (unbroken : ∀ stage, attempt ≠ .breaks stage) :
    attempt.given syncSchema = .succeeds ∨ ∃ stage, attempt.given syncSchema = .fails stage := by
  cases attempt with
  | succeeds => exact .inl rfl
  | breaks stage => exact absurd rfl (unbroken stage)
  | fails stage =>
    cases stage with
    | connecting => exact .inr ⟨_, rfl⟩
    | asking => exact .inr ⟨_, rfl⟩
    | creating =>
      cases syncSchema with
      | false => exact .inl rfl
      | true => exact .inr ⟨_, rfl⟩

theorem Attempt.syncs_of_fails {syncSchema : Bool} {attempt : Attempt}
    (fails : attempt.given syncSchema = .fails .creating) : syncSchema = true := by
  cases syncSchema with
  | true => rfl
  | false =>
    cases attempt with
    | succeeds => cases fails
    | fails stage => cases stage <;> cases fails
    | breaks stage => cases stage <;> cases fails

/-! ## Runs -/

/-- How a run goes on after `done` attempts, when `limit` pauses fit before the deadline. -/
inductive Tries (policy : Policy K) (outcome : Nat → Attempt) (limit : Nat) :
    (done : Nat) → Report K → Prop
  | connects {done} (succeeds : (outcome done).given policy.syncSchema = .succeeds) :
      Tries policy outcome limit done
        ⟨policy.lastStage.steps, [.connected (done + 1)], .connected⟩
  | givesUp {done stage} (fails : (outcome done).given policy.syncSchema = .fails stage)
      (late : limit ≤ done) :
      Tries policy outcome limit done ⟨stage.steps, [.gaveUp (done + 1)], .unavailable⟩
  | again {done stage report} (fails : (outcome done).given policy.syncSchema = .fails stage)
      (inTime : done < limit) (onward : Tries policy outcome limit (done + 1) report) :
      Tries policy outcome limit done
        (report.after (stage.steps ++ [.sleep policy.delay]) [.retrying policy.delay (done + 1)])

section

variable [Field K] [LinearOrder K] {policy : Policy K} {outcome : Nat → Attempt} {done : Nat}
  {deadline now : K}

theorem attempts_of_succeeds (succeeds : (outcome done).given policy.syncSchema = .succeeds)
    (fuel : Nat) :
    attempts policy 0 deadline outcome (fuel + 1) done now =
      ⟨policy.lastStage.steps, [.connected (done + 1)], .connected⟩ := by
  rw [attempts, succeeds]

theorem attempts_of_late {stage : Stage}
    (fails : (outcome done).given policy.syncSchema = .fails stage)
    (late : deadline < now + policy.delay) (fuel : Nat) :
    attempts policy 0 deadline outcome (fuel + 1) done now =
      ⟨stage.steps, [.gaveUp (done + 1)], .unavailable⟩ := by
  have passed : Seconds.after (Seconds.add (Seconds.add now 0) policy.delay) deadline = true := by
    show decide (deadline < now + 0 + policy.delay) = true
    rwa [add_zero, decide_eq_true_eq]
  rw [attempts, fails]
  simp only [passed, if_true]

theorem attempts_of_inTime {stage : Stage}
    (fails : (outcome done).given policy.syncSchema = .fails stage)
    (inTime : ¬ deadline < now + policy.delay) (fuel : Nat) :
    attempts policy 0 deadline outcome (fuel + 1) done now =
      (attempts policy 0 deadline outcome fuel (done + 1) (now + policy.delay)).after
        (stage.steps ++ [.sleep policy.delay]) [.retrying policy.delay (done + 1)] := by
  have next : Seconds.add (Seconds.add now 0) policy.delay = now + policy.delay := by
    show now + 0 + policy.delay = now + policy.delay
    rw [add_zero]
  have waits : Seconds.after (now + policy.delay) deadline = false := by
    show decide (deadline < now + policy.delay) = false
    rwa [decide_eq_false_iff_not]
  rw [attempts, fails]
  simp only [next, waits, if_neg Bool.false_ne_true]

/-- With enough fuel a run comes to its end, and more fuel changes nothing. -/
theorem exists_tries [IsStrictOrderedRing K] {limit : Nat}
    (fits : ∀ n : Nat, n ≤ limit ↔ n * policy.delay ≤ policy.timeout)
    (unbroken : ∀ n stage, outcome n ≠ .breaks stage) (clock : K) (left : Nat) :
    ∀ done, done + left = limit → ∃ report, Tries policy outcome limit done report ∧
      ∀ extra, attempts policy 0 (clock + policy.timeout) outcome (left + extra + 1) done
        (clock + done * policy.delay) = report := by
  -- Another pause ends by the deadline just if it is among those that fit.
  have next (done : Nat) : clock + done * policy.delay + policy.delay =
      clock + (done + 1 : Nat) * policy.delay := by
    rw [Nat.cast_add, Nat.cast_one, add_mul, one_mul, add_assoc]
  have late_iff (done : Nat) : clock + policy.timeout < clock + done * policy.delay + policy.delay ↔
      limit ≤ done := by
    rw [next, add_lt_add_iff_left, ← not_le, ← fits, Nat.not_le, Nat.lt_succ_iff]
  induction left with
  | zero =>
    intro done last
    rcases Attempt.given_cases policy.syncSchema (unbroken done) with succeeds | ⟨stage, fails⟩
    · refine ⟨_, .connects succeeds, ?_⟩
      intro extra
      exact attempts_of_succeeds succeeds _
    · have late : limit ≤ done := by omega
      refine ⟨_, .givesUp fails late, ?_⟩
      intro extra
      exact attempts_of_late fails ((late_iff done).mpr late) _
  | succ left ih =>
    intro done last
    rcases Attempt.given_cases policy.syncSchema (unbroken done) with succeeds | ⟨stage, fails⟩
    · refine ⟨_, .connects succeeds, ?_⟩
      intro extra
      exact attempts_of_succeeds succeeds _
    · obtain ⟨report, onward, ran⟩ := ih (done + 1) (by omega)
      refine ⟨_, .again fails (by omega) onward, ?_⟩
      intro extra
      have inTime : ¬ clock + policy.timeout < clock + done * policy.delay + policy.delay := by
        rw [late_iff]
        omega
      have fuel : left + 1 + extra = left + extra + 1 := by omega
      rw [attempts_of_inTime fails inTime, next, fuel, ran]

end

/-! ## What runs do -/

section

variable {policy : Policy K} {outcome : Nat → Attempt} {limit done : Nat} {report : Report K}

/-- The pauses of a run are delays, and they fit. -/
theorem Tries.pauses (tries : Tries policy outcome limit done report) (inTime : done ≤ limit) :
    ∃ n, Startup.pauses report.steps = List.replicate n policy.delay ∧ done + n ≤ limit := by
  induction tries with
  | connects _ => exact ⟨0, by simp, inTime⟩
  | givesUp _ _ => exact ⟨0, by simp, inTime⟩
  | again _ earlier _ ih =>
    obtain ⟨n, pauses, fits⟩ := ih earlier
    refine ⟨n + 1, ?_, by omega⟩
    simp [Report.after, pauses, List.replicate_succ]

/-- A run connects at the first attempt that succeeds, if that comes in time. -/
theorem Tries.connected (tries : Tries policy outcome limit done report) :
    ∀ n, (outcome (done + n)).given policy.syncSchema = .succeeds →
      (∀ j < n, (outcome (done + j)).given policy.syncSchema ≠ .succeeds) → done + n ≤ limit →
      report.ending = .connected ∧ attemptCount report.steps = n + 1 ∧
        Startup.pauses report.steps = List.replicate n policy.delay := by
  induction tries with
  | @connects done succeeds =>
    intro n _ first _
    cases n with
    | zero => exact ⟨rfl, attemptCount_steps _, pauses_steps _⟩
    | succ n => exact absurd succeeds (first 0 (Nat.zero_lt_succ n))
  | @givesUp done stage fails late =>
    intro n succeeds _ inTime
    obtain rfl : n = 0 := by omega
    rw [Nat.add_zero, fails] at succeeds
    cases succeeds
  | @again done stage report fails _ _ ih =>
    intro n succeeds first inTime
    cases n with
    | zero =>
      rw [Nat.add_zero, fails] at succeeds
      cases succeeds
    | succ n =>
      have shift (j : Nat) : done + (j + 1) = done + 1 + j := by omega
      rw [shift] at succeeds inTime
      have later : ∀ j < n, (outcome (done + 1 + j)).given policy.syncSchema ≠ .succeeds := by
        intro j before
        rw [← shift]
        exact first (j + 1) (Nat.succ_lt_succ before)
      obtain ⟨ending, count, pauses⟩ := ih n succeeds later inTime
      refine ⟨ending, ?_, ?_⟩
      · simp [Report.after, count, Nat.add_comm]
      · simp [Report.after, pauses, List.replicate_succ]

/-- A run without success in time gives up at the last attempt that is in time. -/
theorem Tries.unavailable (tries : Tries policy outcome limit done report) :
    ∀ n, done + n = limit →
      (∀ j ≤ n, (outcome (done + j)).given policy.syncSchema ≠ .succeeds) →
      report.ending = .unavailable ∧ attemptCount report.steps = n + 1 := by
  induction tries with
  | @connects done succeeds =>
    intro n _ fails
    exact absurd succeeds (fails 0 (Nat.zero_le n))
  | givesUp _ late =>
    intro n last _
    obtain rfl : n = 0 := by omega
    exact ⟨rfl, attemptCount_steps _⟩
  | @again done stage report _ inTime _ ih =>
    intro n last fails
    obtain ⟨n, rfl⟩ := Nat.exists_eq_add_one_of_ne_zero (n := n) (by omega)
    have later : ∀ j ≤ n, (outcome (done + 1 + j)).given policy.syncSchema ≠ .succeeds := by
      intro j before
      have shift : done + 1 + j = done + (j + 1) := by omega
      rw [shift]
      exact fails (j + 1) (Nat.succ_le_succ before)
    obtain ⟨ending, count⟩ := ih n (by omega) later
    refine ⟨ending, ?_⟩
    simp [Report.after, count, Nat.add_comm]

/-- No attempt comes after one that succeeds. -/
theorem Tries.attemptCount_le (tries : Tries policy outcome limit done report) :
    ∀ n, (outcome (done + n)).given policy.syncSchema = .succeeds →
      attemptCount report.steps ≤ n + 1 := by
  induction tries with
  | connects _ =>
    intro n _
    simp
  | givesUp _ _ =>
    intro n _
    simp
  | @again done stage report fails _ _ ih =>
    intro n succeeds
    cases n with
    | zero =>
      rw [Nat.add_zero, fails] at succeeds
      cases succeeds
    | succ n =>
      have shift : done + (n + 1) = done + 1 + n := by omega
      rw [shift] at succeeds
      have count := ih n succeeds
      simp [Report.after]
      omega

theorem exists_of_append_eq {α : Type} {xs ys before after : List α} {x : α}
    (same : xs ++ ys = before ++ x :: after) :
    (∃ more, xs = before ++ x :: more) ∨ ∃ front, before = xs ++ front ∧ ys = front ++ x :: after := by
  rcases List.append_eq_append_iff.mp same with ⟨front, rfl, later⟩ | ⟨more, rfl, earlier⟩
  · exact .inr ⟨front, rfl, later⟩
  · cases more with
    | nil => exact .inr ⟨[], by simp, earlier.symm⟩
    | cons c more =>
      obtain ⟨rfl, -⟩ := List.cons.inj earlier
      exact .inl ⟨more, rfl⟩

/-- An attempt creates tables last, once the database has answered. -/
theorem Stage.creates {stage : Stage} {before after : List (Step K)}
    (creates : stage.steps = before ++ .createTables :: after) :
    stage = .creating ∧ before = [.connect, .query] := by
  cases stage with
  | connecting => simp [Stage.steps, List.cons_eq_append_iff] at creates
  | asking => simp [Stage.steps, List.cons_eq_append_iff] at creates
  | creating =>
    have parts : before = [.connect, .query] ∧ after = [] := by
      simpa [Stage.steps, List.cons_eq_append_iff] using creates
    exact ⟨rfl, parts.1⟩

/-- Tables are created in an attempt in which the database has answered, if at all. -/
theorem Tries.creates (tries : Tries policy outcome limit done report) :
    ∀ before after, report.steps = before ++ .createTables :: after →
      policy.syncSchema = true ∧ ∃ earlier, before = earlier ++ [.connect, .query] ∧
        ((outcome (done + attemptCount earlier)).given policy.syncSchema).Answers := by
  induction tries with
  | connects succeeds =>
    intro before after creates
    obtain ⟨last, rfl⟩ := Stage.creates creates
    refine ⟨?_, [], rfl, ?_⟩
    · by_contra unsynced
      rw [Policy.lastStage, if_neg unsynced] at last
      cases last
    · show ((outcome (_ + 0)).given policy.syncSchema).Answers
      rw [Nat.add_zero, succeeds]
      exact .succeeds
  | givesUp fails _ =>
    intro before after creates
    obtain ⟨rfl, rfl⟩ := Stage.creates creates
    refine ⟨Attempt.syncs_of_fails fails, [], rfl, ?_⟩
    show ((outcome (_ + 0)).given policy.syncSchema).Answers
    rw [Nat.add_zero, fails]
    exact .fails
  | @again done stage report fails _ _ ih =>
    intro before after creates
    rw [Report.after, List.append_assoc] at creates
    rcases exists_of_append_eq creates with ⟨more, own⟩ | ⟨front, rfl, later⟩
    · obtain ⟨rfl, rfl⟩ := Stage.creates own
      refine ⟨Attempt.syncs_of_fails fails, [], rfl, ?_⟩
      show ((outcome (done + 0)).given policy.syncSchema).Answers
      rw [Nat.add_zero, fails]
      exact .fails
    · cases front with
      | nil => cases later
      | cons _ front =>
        obtain ⟨rfl, onward⟩ := List.cons.inj later
        obtain ⟨synced, earlier, rfl, answers⟩ := ih front after onward
        refine ⟨synced, stage.steps ++ .sleep policy.delay :: earlier, by simp, ?_⟩
        have count : done + attemptCount (stage.steps ++ .sleep policy.delay :: earlier) =
            done + 1 + attemptCount earlier := by
          rw [attemptCount_append, attemptCount_steps, attemptCount_sleep, Nat.add_assoc]
        rw [count]
        exact answers

end

/-- A run keeps its deadline: it connects at the first attempt that succeeds, if that comes in time,
    and gives up after the last attempt that is in time if none of them succeeds. -/
structure KeepsDeadline [Field K] [LinearOrder K] [FloorSemiring K] (timeout delay : K)
    (syncSchema : Bool) (outcome : Nat → Attempt) (report : Report K) : Prop where
  connects : ∀ k : Nat, SucceedsFirst syncSchema outcome k → k * delay ≤ timeout →
    report.ending = .connected ∧ attemptCount report.steps = k + 1 ∧
      pauses report.steps = List.replicate k delay
  givesUp : (∀ k : Nat, SucceedsFirst syncSchema outcome k → timeout < k * delay) →
    report.ending = .unavailable ∧ attemptCount report.steps = ⌊timeout / delay⌋₊ + 1
  /-- No pause ends after the deadline. -/
  inTime : ∀ before, before <+: report.steps → (pauses before).sum ≤ timeout
  /-- No attempt comes after one that succeeds. -/
  stops : ∀ k, (outcome k).given syncSchema = .succeeds → attemptCount report.steps ≤ k + 1
  /-- Tables are created only where that is asked for, and right after the database has answered. -/
  creates : ∀ before after, report.steps = before ++ .createTables :: after →
    syncSchema = true ∧ ∃ earlier, before = earlier ++ [.connect, .query] ∧
      ((outcome (attemptCount earlier)).given syncSchema).Answers

section

variable [Field K] [LinearOrder K]

theorem atLeastZero_eq (x : K) : atLeastZero x = max x 0 := by
  show (if decide (x < 0) = true then 0 else x) = max x 0
  by_cases negative : x < 0
  · simp [negative, negative.le]
  · simp [negative, not_lt.mp negative]

variable [IsStrictOrderedRing K] [FloorSemiring K]

theorem le_floor_iff {timeout delay : K} (positive : 0 < delay) (nonneg : 0 ≤ timeout) (n : Nat) :
    n ≤ ⌊timeout / delay⌋₊ ↔ n * delay ≤ timeout := by
  rw [Nat.le_floor_iff (div_nonneg nonneg positive.le), le_div_iff₀ positive]

theorem keepsDeadline_of_tries {timeout delay : K} {syncSchema : Bool} {outcome : Nat → Attempt}
    {report : Report K} (positive : 0 < delay) (nonneg : 0 ≤ timeout)
    (tries : Tries ⟨timeout, delay, syncSchema⟩ outcome ⌊timeout / delay⌋₊ 0 report) :
    KeepsDeadline timeout delay syncSchema outcome report where
  connects := by
    intro k succeedsFirst inTime
    have fits : k ≤ ⌊timeout / delay⌋₊ := (le_floor_iff positive nonneg k).mpr inTime
    apply tries.connected k
    · rw [Nat.zero_add]
      exact succeedsFirst.succeeds
    · intro j before
      rw [Nat.zero_add]
      exact succeedsFirst.first j before
    · rwa [Nat.zero_add]
  givesUp := by
    intro late
    apply tries.unavailable _ (Nat.zero_add _)
    intro j inTime succeeds
    rw [Nat.zero_add] at succeeds
    -- The first success comes no later than this one, and so in time.
    have found : ∃ k, (outcome k).given syncSchema = .succeeds := ⟨j, succeeds⟩
    have first : SucceedsFirst syncSchema outcome (Nat.find found) :=
      ⟨Nat.find_spec found, fun _ before => Nat.find_min found before⟩
    have within : Nat.find found ≤ ⌊timeout / delay⌋₊ :=
      (Nat.find_min' found succeeds).trans inTime
    rw [le_floor_iff positive nonneg] at within
    exact absurd (late _ first) (not_lt.mpr within)
  inTime := by
    intro before isPrefix
    obtain ⟨n, all, fits⟩ := tries.pauses (Nat.zero_le _)
    have part : pauses before <+: pauses report.steps := isPrefix.filterMap _
    rw [all, List.prefix_replicate_iff] at part
    rw [part.2, List.sum_replicate, nsmul_eq_mul, ← le_floor_iff positive nonneg]
    exact part.1.trans (by omega)
  stops := by
    intro k succeeds
    apply tries.attemptCount_le k
    rwa [Nat.zero_add]
  creates := by
    intro before after creates
    obtain ⟨synced, earlier, split, answers⟩ := tries.creates before after creates
    rw [Nat.zero_add] at answers
    exact ⟨synced, earlier, split, answers⟩

/-- Connecting ends, whatever the attempts come to, and keeps its deadline. -/
theorem connect_keepsDeadline (timeout : K) {delay : K} (positive : 0 < delay) (syncSchema : Bool)
    {outcome : Nat → Attempt} (unbroken : ∀ n stage, outcome n ≠ .breaks stage) (clock : K) :
    ∃ report, KeepsDeadline (max timeout 0) delay syncSchema outcome report ∧
      ∀ fuel, ⌊max timeout 0 / delay⌋₊ < fuel →
        connectAt clock (.ofTimes timeout delay syncSchema) 0 outcome fuel = report := by
  have policy : Policy.ofTimes timeout delay syncSchema = ⟨max timeout 0, delay, syncSchema⟩ := by
    rw [Policy.ofTimes, atLeastZero_eq, atLeastZero_eq, max_eq_left positive.le]
  have nonneg : 0 ≤ max timeout 0 := le_max_right timeout 0
  have fits : ∀ n : Nat, n ≤ ⌊max timeout 0 / delay⌋₊ ↔
      n * (Policy.mk (max timeout 0) delay syncSchema).delay ≤
        (Policy.mk (max timeout 0) delay syncSchema).timeout := le_floor_iff positive nonneg
  obtain ⟨report, tries, ran⟩ := exists_tries fits unbroken clock _ 0 (Nat.zero_add _)
  refine ⟨report, keepsDeadline_of_tries positive nonneg tries, ?_⟩
  intro fuel enough
  obtain ⟨extra, rfl⟩ := Nat.exists_eq_add_of_lt enough
  rw [policy, ← ran extra]
  show attempts _ 0 (clock + 0 + max timeout 0) outcome _ 0 (clock + 0) = _
  rw [add_zero, Nat.cast_zero, zero_mul, add_zero]

/-- An attempt right at the deadline is still made, and a deadline that is any earlier cuts it off. -/
theorem connects_at_deadline :
    let outcome : Nat → Attempt := fun n =>
      if n = 0 then .fails else if n = 1 then .fails .asking else .succeeds
    let report : Report ℚ := connectAt (7 / 2) (.ofTimes 2 1 true) 0 outcome 3
    let earlier : Report ℚ := connectAt (7 / 2) (.ofTimes (3 / 2) 1 true) 0 outcome 3
    report.ending = .connected ∧ attemptCount report.steps = 3 ∧ pauses report.steps = [1, 1] ∧
      earlier.ending = .unavailable ∧ attemptCount earlier.steps = 2 := by
  intro outcome report earlier
  have unbroken : ∀ n stage, outcome n ≠ .breaks stage := by
    intro n stage
    simp only [outcome]
    split
    · simp
    · split <;> simp
  have first : SucceedsFirst true outcome 2 := by
    refine ⟨rfl, ?_⟩
    intro j before
    match j, before with
    | 0, _ => decide
    | 1, _ => decide
  have only : ∀ k, SucceedsFirst true outcome k → k = 2 := by
    intro k succeedsFirst
    rcases Nat.lt_trichotomy k 2 with before | same | after
    · exact absurd succeedsFirst.succeeds (first.first k before)
    · exact same
    · exact absurd first.succeeds (succeedsFirst.first 2 after)
  have two : ⌊max (2 : ℚ) 0 / 1⌋₊ = 2 := by norm_num
  have one : ⌊max (3 / 2 : ℚ) 0 / 1⌋₊ = 1 := by norm_num
  obtain ⟨_, keeps, ran⟩ := connect_keepsDeadline (2 : ℚ) one_pos true unbroken (7 / 2)
  obtain ⟨_, keeps', ran'⟩ := connect_keepsDeadline (3 / 2 : ℚ) one_pos true unbroken (7 / 2)
  obtain rfl := ran 3 (by omega)
  obtain rfl := ran' 3 (by omega)
  obtain ⟨ending, count, pauses⟩ := keeps.connects 2 first (by norm_num)
  obtain ⟨ending', count'⟩ := keeps'.givesUp fun k succeedsFirst => by
    rw [only k succeedsFirst]
    norm_num
  rw [one] at count'
  exact ⟨ending, count, pauses, ending', count'⟩

end

end Startup

end QueryDesk
