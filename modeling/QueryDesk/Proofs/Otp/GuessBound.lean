import QueryDesk.Proofs.Otp.Tracking

/-!
# How often a code can be guessed

Between two codes of a key at most as many checks are judged as the settings allow, in whatever
order requests come. A session that has counted so many wrong codes refuses every further code, the
right one included.
-/

namespace QueryDesk.Otp

/-- The checks judged since the latest code are within a limit. -/
def WithinLimit (limit : Int) (key : OtpKey) (past : List Exchange) : Prop :=
  ((recent key past).countP (·.judged key) : Int) ≤ max limit 0

theorem Exchange.judged_of_quiet {key : OtpKey} {x : Exchange} (quiet : x.Quiet key) :
    x.judged key = false := by
  simp [Exchange.judged, quiet.accepted, quiet.wrong]

theorem countP_judged_eq {key : OtpKey} {since : List Exchange}
    (unused : ∀ x ∈ since, x.accepted key = false) :
    since.countP (·.judged key) = since.countP (·.wrong key) := by
  apply List.countP_congr
  intro x mem
  simp [Exchange.judged, unused x mem]

theorem WithinLimit.of_stored {limit : Int} {key : OtpKey} {x : Exchange}
    (stored : x.stored key = true) (past : List Exchange) : WithinLimit limit key (x :: past) := by
  rw [WithinLimit, recent_of_stored stored]
  exact Int.le_max_right limit 0

theorem WithinLimit.of_quiet {limit : Int} {key : OtpKey} {x : Exchange} {past : List Exchange}
    (within : WithinLimit limit key past) (quiet : x.Quiet key) :
    WithinLimit limit key (x :: past) := by
  simpa [WithinLimit, recent_of_not_stored quiet.stored, Exchange.judged_of_quiet quiet] using within

theorem WithinLimit.of_attempts {limit : Int} {key : OtpKey} {x : Exchange} {past : List Exchange}
    {s : OtpSession} (tracks : Tracks key past [s]) (left : s.attempts < limit)
    (unstored : x.stored key = false) : WithinLimit limit key (x :: past) := by
  cases tracks with
  | running sent stems attempts unused =>
    rw [← countP_judged_eq unused] at attempts
    have one_more : (x :: recent key past).countP (·.judged key) ≤
        (recent key past).countP (·.judged key) + 1 := by
      rw [List.countP_cons]
      split <;> omega
    simp only [WithinLimit, recent_of_not_stored unstored]
    omega

/-- No turn goes beyond the limit that is in force. -/
theorem WithinLimit.turn {limit : Int} {key : OtpKey} {past : List Exchange} {x : Exchange}
    {rows after : List OtpSession} (within : WithinLimit limit key past)
    (tracks : Tracks key past rows)
    (configured : x.arrival.settings.get .otpMaxAttempts = .int limit)
    (turn : Turn key x rows after) : WithinLimit limit key (x :: past) := by
  cases turn with
  | idle quiet => exact within.of_quiet quiet
  | opened stored opens => exact .of_stored stored past
  | counted wrong verdict =>
    rw [verdictOn, configured] at verdict
    exact .of_attempts tracks (attempts_lt_of_judged (.inr verdict)) (Exchange.stored_of_wrong wrong)
  | consumed unstored wrong verdict accepted =>
    rw [verdictOn, configured] at verdict
    exact .of_attempts tracks (attempts_lt_of_judged (.inl verdict)) unstored
  | expired quiet late => exact within.of_quiet quiet

/-- Every history of a run under one limit is within it. -/
theorem withinLimit_history {db : Database} (start : db.otpSessions = []) {limit : Int}
    {run : List Arrival} (configured : ∀ a ∈ run, a.settings.get .otpMaxAttempts = .int limit)
    (key : OtpKey) : WithinLimit limit key (history db run) := by
  induction run with
  | nil => exact Int.le_max_right limit 0
  | cons a earlier ih =>
    obtain ⟨sound, tracks⟩ := tracks_history start earlier
    have turn := (turn_of (a := a) sound).2 key
    have within := ih fun b mem => configured b (List.mem_cons_of_mem a mem)
    exact within.turn (tracks key) (configured a List.mem_cons_self) turn

/-- Within the limit, so is every stretch of a history without a stored code. -/
theorem WithinLimit.stretch {limit : Int} {key : OtpKey} {between older : List Exchange}
    (within : WithinLimit limit key (between ++ older))
    (unstored : ∀ x ∈ between, x.stored key = false) :
    (between.countP (·.judged key) : Int) ≤ max limit 0 := by
  rw [WithinLimit, recent_append unstored, List.countP_append] at within
  omega

theorem countP_wrong_le (key : OtpKey) (xs : List Exchange) :
    xs.countP (·.wrong key) ≤ xs.countP (·.judged key) := by
  apply List.countP_mono_left
  intro x _ wrong
  simp [Exchange.judged, wrong]

/-- A session that has counted as many wrong codes as the limit refuses every code until it is over,
    and nothing changes. -/
theorem locked_check {db : Database} (sound : Sound db.otpSessions) {key : OtpKey} {s : OtpSession}
    (mem : s ∈ rowsOf key db.otpSessions) {limit : Int} (spent : limit ≤ s.attempts) {a : Arrival}
    (configured : a.settings.get .otpMaxAttempts = .int limit) {attempt : CodeCheck}
    (asks : a.task? = some (.check attempt)) (own : (Task.check attempt).key = key)
    (running : a.time < s.expiresAt.micros) (admitted : Admitted key) :
    refusalOf? (a.answer db) = some (429, "Too many attempts") ∧ a.tables db = db := by
  subst own
  rcases check_cases sound asks with ⟨absent, -⟩ | ⟨row, only, -, -, locked, after⟩
  · simp [absent admitted] at mem
  · obtain rfl : s = row := by simpa [only] using mem
    have verdict : verdictOn a attempt.code s = .locked := by
      rw [verdictOn, configured]
      exact judge_locked running spent
    refine ⟨locked verdict, ?_⟩
    rw [after, verdict]
    rfl

/-- What is promised about guesses at the codes of a key after a run. -/
structure GuessBound (limit : Int) (db : Database) (run : List Arrival) (key : OtpKey) : Prop where
  /-- There is at most one session. -/
  single : (rowsOf key (tablesAfter db run).otpSessions).length ≤ 1
  /-- Between two codes, at most so many checks were judged. -/
  judged : ∀ newer between older, history db run = newer ++ (between ++ older) →
    (∀ x ∈ between, x.stored key = false) → (between.countP (·.judged key) : Int) ≤ max limit 0
  /-- The session counts the wrong codes since its own was sent. -/
  attempts : ∀ s ∈ rowsOf key (tablesAfter db run).otpSessions,
    (∃ sent, latestSend? key (history db run) = some sent ∧ s.id = sent.arrival.draw.sessionId) ∧
    s.attempts = (recent key (history db run)).countP (·.wrong key) ∧
    s.attempts ≤ max limit 0
  /-- When it has counted the limit, every code is refused until it is over, and nothing changes. -/
  locked : ∀ s ∈ rowsOf key (tablesAfter db run).otpSessions, limit ≤ s.attempts →
    ∀ (a : Arrival) (attempt : CodeCheck), a.settings.get .otpMaxAttempts = .int limit →
      a.task? = some (.check attempt) → (Task.check attempt).key = key →
      a.time < s.expiresAt.micros →
      refusalOf? (a.answer (tablesAfter db run)) = some (429, "Too many attempts") ∧
        a.tables (tablesAfter db run) = tablesAfter db run

/-- Guesses are bounded after every run that starts without sessions, for every key. -/
theorem guesses_bounded {db : Database} (start : db.otpSessions = []) {limit : Int}
    {run : List Arrival} (configured : ∀ a ∈ run, a.settings.get .otpMaxAttempts = .int limit)
    (key : OtpKey) : GuessBound limit db run key := by
  obtain ⟨sound, tracks⟩ := tracks_history start run
  have within := withinLimit_history start configured key
  refine ⟨sound.keys key, ?_, ?_, ?_⟩
  · intro newer between older splits unstored
    obtain ⟨earlier, same, suffix⟩ := history_suffix splits
    have within' := withinLimit_history start
      (fun a mem => configured a (suffix.mem mem)) key
    rw [← same] at within'
    exact within'.stretch unstored
  · intro s mem
    have tracks' := tracks key
    cases rows : rowsOf key (tablesAfter db run).otpSessions with
    | nil => simp [rows] at mem
    | cons row others =>
      rw [rows] at tracks'
      cases tracks' with
      | running sent stems attempts unused =>
        obtain rfl : s = row := by simpa [rows] using mem
        refine ⟨⟨_, sent, stems.id⟩, attempts, ?_⟩
        have fewer := countP_wrong_le key (recent key (history db run))
        rw [WithinLimit] at within
        omega
  · intro s mem spent a attempt limited asks own running
    have tracks' := tracks key
    cases rows : rowsOf key (tablesAfter db run).otpSessions with
    | nil => simp [rows] at mem
    | cons row others =>
      rw [rows] at tracks'
      cases tracks' with
      | running sent stems attempts unused =>
        exact locked_check sound mem spent limited asks own running stems.admitted

/-- After a wrong code under a limit of one, the code that was sent is refused. -/
theorem refuses_code_when_locked :
    refusalOf? ((sampleCheck 2 "111111").answer
      (tablesAfter {} [sampleCheck 1 "0", sampleSend 0 "111111" ""])) =
        some (429, "Too many attempts") := by
  have configured : ∀ a ∈ [sampleCheck 1 "0", sampleSend 0 "111111" ""],
      a.settings.get .otpMaxAttempts = .int 1 := by
    simp only [List.forall_mem_cons, List.not_mem_nil, false_imp_iff, implies_true, and_true]
    exact ⟨rfl, rfl⟩
  have asks : (sampleCheck 2 "111111").task? =
      some (.check (sampleAttempt "111111")) := by decide +kernel
  have start : ({} : Database).otpSessions = [] := rfl
  have bound := guesses_bounded start configured sampleKey
  have counted : ∃ s ∈ rowsOf sampleKey
      (tablesAfter {} [sampleCheck 1 "0", sampleSend 0 "111111" ""]).otpSessions,
      1 ≤ s.attempts ∧ (sampleCheck 2 "111111").time < s.expiresAt.micros := by decide +kernel
  obtain ⟨s, mem, spent, running⟩ := counted
  exact (bound.locked s mem spent _ _ rfl asks (by decide +kernel) running).1

/-- A run under a limit of one in which the answer to the second of three codes cannot be written. -/
def renewal : List Arrival :=
  [sampleSend 4 "333333" "", sampleCheck 3 "0", sampleSend 2 "222222" "[NaN]", sampleCheck 1 "0",
    sampleSend 0 "111111" ""]

/-- Between the two requests for a code that are answered with status 200, two checks are judged,
    because the code of an unwritten answer is open to guesses of its own. -/
theorem unwritten_send_renews_guesses :
    (∀ a ∈ renewal, a.settings.get .otpMaxAttempts = .int 1) ∧
    (history {} renewal).map (fun x =>
        (x.sends sampleKey && statusOf? x.answer == some 200, x.judged sampleKey)) =
      [(true, false), (false, true), (false, false), (false, true), (true, false)] := by
  refine ⟨?_, ?_⟩
  · simp only [renewal, List.forall_mem_cons, List.not_mem_nil, false_imp_iff, implies_true,
      and_true]
    exact ⟨rfl, rfl, rfl, rfl, rfl⟩
  · decide +kernel

end QueryDesk.Otp
