import QueryDesk.Otp.Checking
import QueryDesk.Proofs.Otp.WrongCodes

/-!
# What a check consumes

A check that fails leaves the sessions as they were, wherever it fails, with one exception: once a
right code has ended its session, the token for it may still be missing. Every answer of a check
goes with what it has done to the newest session of its key, and no other session is touched.
-/

namespace QueryDesk.Otp

open Http

variable {α β : Type}

/-! ## Running steps -/

/-- Runs steps: their outcome, and the table after them. -/
def Checking.from (steps : Checking α) (table : Transaction) : Except CheckStop α × Transaction :=
  steps.run.run table

/-- From a table, steps lead to an outcome and to stored sessions that go with each other. -/
def Leads (steps : Checking α) (table : Transaction)
    (post : Except CheckStop α → List OtpSession → Prop) : Prop :=
  post (steps.from table).1 (steps.from table).2.stored

/-- What steps lead to goes with all that holds of it. -/
theorem Leads.both {steps : Checking α} {table : Transaction}
    {first second : Except CheckStop α → List OtpSession → Prop} (one : Leads steps table first)
    (other : Leads steps table second) :
    ∃ outcome stored, first outcome stored ∧ second outcome stored :=
  ⟨_, _, one, other⟩

section

variable {table : Transaction} {post : Except CheckStop β → List OtpSession → Prop}

theorem leads_pure {b : β} (holds : post (.ok b) table.stored) : Leads (pure b) table post :=
  holds

theorem leads_throw {stop : CheckStop} (holds : post (.error stop) table.stored) :
    Leads (throw stop) table post :=
  holds

theorem leads_get {next : Transaction → Checking β} (onward : Leads (next table) table post) :
    Leads (get >>= next) table post :=
  onward

theorem leads_modify {next : Unit → Checking β} {change : Transaction → Transaction}
    (onward : Leads (next ()) (change table) post) : Leads (modify change >>= next) table post :=
  onward

theorem leads_reach {next : Unit → Checking β} {broken : CheckStep → Bool} {step : CheckStep}
    (stops : broken step = true → post (.error (.broken step)) table.stored)
    (onward : Leads (next ()) table post) :
    Leads (Checking.reach broken step >>= next) table post := by
  unfold Checking.reach
  by_cases breaks : broken step = true
  · rw [if_pos breaks]
    exact stops breaks
  · rw [if_neg breaks]
    exact onward

theorem leads_take {next : α → Checking β} {result : Except CheckStop α}
    (stops : ∀ stop, result = .error stop → post (.error stop) table.stored)
    (onward : ∀ a, result = .ok a → Leads (next a) table post) :
    Leads (Checking.take result >>= next) table post := by
  cases result with
  | ok a => exact onward a rfl
  | error stop => exact stops stop rfl

/-- A result whose fault is a reason to stop. -/
theorem leads_take_mapError {ε : Type} {next : α → Checking β} {result : Except ε α}
    {reason : ε → CheckStop}
    (stops : ∀ fault, result = .error fault → post (.error (reason fault)) table.stored)
    (onward : ∀ a, result = .ok a → Leads (next a) table post) :
    Leads (Checking.take (result.mapError reason) >>= next) table post := by
  cases result with
  | ok a => exact onward a rfl
  | error fault => exact stops fault rfl

/-- A change that is broken off before its commit is not stored. -/
theorem leads_record {next : Unit → Checking β} {broken : CheckStep → Bool}
    {change : List OtpSession → List OtpSession}
    (stops : ∀ step, step = .write ∨ step = .commit → broken step = true →
      post (.error (.broken step)) table.stored)
    (onward : Leads (next ()) ⟨change table.pending, change table.pending⟩ post) :
    Leads (Checking.record broken change >>= next) table post := by
  unfold Checking.record
  simp only [bind_assoc]
  refine leads_reach (stops .write (.inl rfl)) (leads_modify ?_)
  exact leads_reach (stops .commit (.inr rfl)) (leads_modify onward)

end

/-! ## What each outcome leaves -/

/-- The check stopped when the code was accepted already: all that is missing is the token. -/
def CheckStop.lacksToken : CheckStop → Bool
  | .token _ | .broken .token => true
  | _ => false

/-- A check that stops so has written nothing. -/
def CheckStop.writesNothing : CheckStop → Bool
  | .wrong | .expired | .token _ | .broken .token => false
  | _ => true

/-- What a check leaves of the sessions, by its outcome: a code that is accepted ends the newest
    session of its key, and so does a check that finds this session to be over; a wrong code is
    counted for it; any other outcome leaves everything as it was. -/
inductive Leaves (key : OtpKey) (now : Int) (sessions : List OtpSession) :
    Except CheckStop Grant → List OtpSession → Prop
  | granted {grant row before after} (newest : Newest key sessions row before after) :
      Leaves key now sessions (.ok grant) (before ++ after)
  | lacking {stop row before after} (lacks : stop.lacksToken = true)
      (newest : Newest key sessions row before after) :
      Leaves key now sessions (.error stop) (before ++ after)
  | counted {row before after} (newest : Newest key sessions row before after) :
      Leaves key now sessions (.error .wrong) (before ++ withWrong now row :: after)
  | expired {row before after} (newest : Newest key sessions row before after)
      (late : row.expiresAt.micros ≤ now) :
      Leaves key now sessions (.error .expired) (before ++ after)
  | kept {stop} (nothing : stop.writesNothing = true) :
      Leaves key now sessions (.error stop) sessions

theorem compareCode_eq_error {code sent : String} {stop : CheckStop}
    (failed : compareCode code sent = .error stop) : stop = .tooLong := by
  unfold compareCode at failed
  split at failed
  · cases failed
  · split at failed
    · exact (Except.error.inj failed).symm
    · cases failed

/-- Wherever a check stops or is broken off, it leaves what goes with its outcome. -/
theorem checkSteps_leaves {sessions : List OtpSession} (ids : (sessions.map (·.id)).Nodup)
    (broken : CheckStep → Bool) (settings : Settings) (now : Moment)
    (purpose email code : String) :
    Leads (checkSteps broken settings now purpose email code) ⟨sessions, sessions⟩
      (Leaves ⟨OtpKey.normalizePurpose purpose, normalizeEmail email⟩ now.universal sessions) := by
  have unwritten : ∀ step, step = .write ∨ step = .commit → broken step = true →
      Leaves ⟨OtpKey.normalizePurpose purpose, normalizeEmail email⟩ now.universal sessions
        (.error (.broken step)) sessions := by
    rintro _ (rfl | rfl) -
    · exact .kept rfl
    · exact .kept rfl
  -- Until a change is recorded, every stop leaves the sessions as they were. All that can be
  -- missing afterwards is the token.
  unfold checkSteps
  refine leads_reach (fun _ => .kept rfl) ?_
  refine leads_take_mapError (fun fault _ => .kept rfl) fun key named => ?_
  obtain ⟨rfl, -⟩ := ofTexts_ok_iff.mp named
  refine leads_reach (fun _ => .kept rfl) (leads_get ?_)
  dsimp only
  split
  · exact leads_throw (.kept rfl)
  rename_i row found
  obtain ⟨before, after, newest⟩ := current?_eq_some_iff.mp found
  refine leads_reach (fun _ => .kept rfl) ?_
  split
  · rename_i late
    refine leads_record unwritten (leads_throw ?_)
    rw [newest.remove_eq ids]
    exact .expired newest late
  refine leads_reach (fun _ => .kept rfl) ?_
  refine leads_take_mapError (fun fault _ => .kept rfl) fun limit _ => ?_
  split
  · exact leads_throw (.kept rfl)
  refine leads_reach (fun _ => .kept rfl) (leads_take ?_ fun same _ => ?_)
  · intro stop failed
    exact compareCode_eq_error failed ▸ .kept rfl
  split
  · refine leads_record unwritten ?_
    rw [newest.remove_eq ids]
    refine leads_reach (fun _ => .lacking rfl newest) ?_
    refine leads_take_mapError (fun fault _ => .lacking rfl newest) fun token _ => ?_
    exact leads_pure (.granted newest)
  · refine leads_record unwritten (leads_throw ?_)
    rw [newest.countWrong_eq ids]
    exact .counted newest

/-! ## Checks that nothing breaks off -/

/-- The answer with a token. -/
def Grant.value (grant : Grant) : Value :=
  .object [("status", .text "verified"), ("purpose", .text grant.key.purpose),
    ("access_token", .text grant.token), ("token_type", .text "bearer")]

/-- The answer to a check that was not broken off. -/
def answerTo? : Except CheckStop Grant → Option Answer
  | .ok grant => some (Answer.json grant.value)
  | .error (.key fault) => some (.ok (detail 400 fault.message))
  | .error .absent | .error .expired => some (.ok (detail 400 "OTP not found or expired"))
  | .error .locked => some (.ok (detail 429 "Too many attempts"))
  | .error .wrong => some (.ok (detail 400 "Invalid OTP code"))
  | .error (.unlimited fault) => some (.error (.setting fault))
  | .error .tooLong => some (.error .codeTooLong)
  | .error (.token fault) => some (.error (.token fault))
  | .error (.broken _) => none

/-- An outcome and the sessions that it leaves are what a check answers and leaves. -/
def Reports (handled : Handled) (s : Service) (outcome : Except CheckStop Grant)
    (stored : List OtpSession) : Prop :=
  answerTo? outcome = some handled.1 ∧ handled.2 = s.withSessions stored

/-- Nothing breaks off a check. -/
def neverBroken : CheckStep → Bool :=
  fun _ => false

theorem reports_judged {s : Service} {attempt : CodeCheck} {key : OtpKey}
    (named : OtpKey.ofTexts attempt.purpose attempt.email = .ok key) {row : OtpSession}
    (found : current? key s.db.otpSessions = some row) (verdict : Verdict)
    (judged : judge Secret.alike (s.settings.get .otpMaxAttempts).toInt s.now.universal
      (Text.strip attempt.code) row = verdict) {outcome : Except CheckStop Grant}
    (answers : answerTo? outcome = some (s.judged key verdict)) :
    Reports (s.checkCode attempt) s outcome
      (settle s.now.universal row s.db.otpSessions verdict) := by
  unfold Reports Service.checkCode verify
  rw [named]
  dsimp only
  rw [found]
  dsimp only
  rw [judged]
  exact ⟨answers, rfl⟩

/-- How a code compares with the one that was sent, as a verdict. -/
theorem judge_eq_of_compareCode (code : String) {limit now : Int} {row : OtpSession}
    (running : now < row.expiresAt.micros) (left : row.attempts < limit) :
    judge Secret.alike (.ok limit) now code row =
      match compareCode code row.code with
      | .error _ => .tooLong
      | .ok true => .accepted
      | .ok false => .wrong := by
  rw [judge_of_left running left, compareCode]
  by_cases blank : code.isEmpty = true
  · simp [blank]
  · by_cases long : Secret.maxLength < code.length
    · simp [blank, long]
    · cases same : Secret.alike code row.code <;> simp [blank, long]

theorem tokenAnswer_eq_error {s : Service} {key : OtpKey} {fault : Token.IssueFault}
    (unissued : Token.issue s.settings key.email key.purpose s.now = .error fault) :
    s.tokenAnswer key = .error (.token fault) := by
  rw [Service.tokenAnswer, unissued]

/-- Step by step, a check that nothing breaks off does what `Service.checkCode` does. -/
theorem checkSteps_neverBroken (s : Service) (attempt : CodeCheck) :
    Leads (checkSteps neverBroken s.settings s.now attempt.purpose attempt.email attempt.code)
      ⟨s.db.otpSessions, s.db.otpSessions⟩ (Reports (s.checkCode attempt) s) := by
  have never {p : Prop} {step : CheckStep} (breaks : neverBroken step = true) : p := by
    cases breaks
  have unwritten : ∀ step, step = .write ∨ step = .commit → neverBroken step = true →
      Reports (s.checkCode attempt) s (.error (.broken step)) s.db.otpSessions :=
    fun _ _ => never
  unfold checkSteps
  refine leads_reach never (leads_take_mapError ?_ fun key named => ?_)
  · intro fault refused
    unfold Reports Service.checkCode
    rw [refused]
    exact ⟨rfl, rfl⟩
  refine leads_reach never (leads_get ?_)
  dsimp only
  split
  · rename_i absent
    refine leads_throw ?_
    unfold Reports Service.checkCode verify
    rw [named]
    dsimp only
    rw [absent]
    exact ⟨rfl, rfl⟩
  rename_i row found
  refine leads_reach never ?_
  split
  · rename_i late
    refine leads_record unwritten (leads_throw ?_)
    exact reports_judged named found .expired (if_pos late) rfl
  rename_i running
  refine leads_reach never (leads_take_mapError ?_ fun limit configured => ?_)
  · intro fault configured
    refine reports_judged named found (.unlimited fault) ?_ rfl
    unfold judge
    rw [if_neg running, configured]
  split
  · rename_i spent
    refine leads_throw (reports_judged named found .locked ?_ rfl)
    rw [configured, judge_locked (Int.not_le.mp running) spent]
  rename_i left
  have decided := judge_eq_of_compareCode (Text.strip attempt.code)
    (Int.not_le.mp running) (Int.not_le.mp left)
  rw [← configured] at decided
  refine leads_reach never (leads_take ?_ fun same compared => ?_)
  · intro stop failed
    obtain rfl := compareCode_eq_error failed
    exact reports_judged named found .tooLong (by rw [decided, failed]) rfl
  cases same with
  | true =>
    have accepted : judge Secret.alike (s.settings.get .otpMaxAttempts).toInt s.now.universal
        (Text.strip attempt.code) row = .accepted := by
      rw [decided, compared]
    refine leads_record unwritten (leads_reach never ?_)
    refine leads_take_mapError ?_ fun token issued => ?_
    · intro fault unissued
      refine reports_judged named found .accepted accepted ?_
      rw [Service.judged, tokenAnswer_eq_error unissued]
      rfl
    · refine leads_pure (reports_judged named found .accepted accepted ?_)
      rw [Service.judged, Service.tokenAnswer, issued]
      rfl
  | false =>
    refine leads_record unwritten (leads_throw ?_)
    exact reports_judged named found .wrong (by rw [decided, compared]) rfl

/-! ## What a request leaves -/

/-- The newest session of a key is ended, and nothing else has changed. -/
def Erased (key : OtpKey) (db later : Database) (row : OtpSession) : Prop :=
  ∃ before after, Newest key db.otpSessions row before after ∧
    later = { db with otpSessions := before ++ after }

/-- A wrong code is counted for the newest session of a key, and nothing else has changed. -/
def Counted (key : OtpKey) (now : Int) (db later : Database) (row : OtpSession) : Prop :=
  ∃ before after, Newest key db.otpSessions row before after ∧
    later = { db with otpSessions := before ++ withWrong now row :: after }

/-- The answer to a check goes with the tables that the check leaves. -/
structure Accounts (key : OtpKey) (now : Int) (db later : Database) (answer : Answer) : Prop where
  verified : statusOf? answer = some 200 → ∃ row, Erased key db later row
  wrong : refusalOf? answer = some (400, "Invalid OTP code") →
    ∃ row, Counted key now db later row
  absent : refusalOf? answer = some (400, "OTP not found or expired") →
    later = db ∨ ∃ row, row.expiresAt.micros ≤ now ∧ Erased key db later row
  refused : ∀ fault : OtpKey.Fault, refusalOf? answer = some (400, fault.message) → later = db
  locked : statusOf? answer = some 429 → later = db
  failed : ∀ crash, answer = .error crash → (∀ fault, crash ≠ .token fault) → later = db
  /-- The code was right, but there is no token for it. -/
  untokened : ∀ fault, answer = .error (.token fault) → ∃ row, Erased key db later row

section

variable {outcome : Except CheckStop Grant} {answer : Answer} {key : OtpKey} {now : Int}
  {db later : Database} {stored : List OtpSession}

theorem answerTo?_grant (grant : Grant) :
    answerTo? (.ok grant) = some (.ok (Http.ok grant.value)) := by
  rfl

theorem Accounts.of_granted {grant : Grant} {row : OtpSession} (erased : Erased key db later row) :
    Accounts key now db later (.ok (Http.ok grant.value)) :=
  ⟨fun _ => ⟨row, erased⟩, nofun, nofun, nofun, nofun, nofun, nofun⟩

theorem Accounts.of_wrong {row : OtpSession} (counted : Counted key now db later row) :
    Accounts key now db later (.ok (detail 400 "Invalid OTP code")) := by
  refine ⟨nofun, fun _ => ⟨row, counted⟩, ?_, fun fault => ?_, nofun, nofun, nofun⟩
  · simp [refusalOf?_detail]
  · cases fault <;> simp [refusalOf?_detail, OtpKey.Fault.message]

theorem Accounts.of_absent (late : later = db ∨
      ∃ row, row.expiresAt.micros ≤ now ∧ Erased key db later row) :
    Accounts key now db later (.ok (detail 400 "OTP not found or expired")) := by
  refine ⟨nofun, ?_, fun _ => late, fun fault => ?_, nofun, nofun, nofun⟩
  · simp [refusalOf?_detail]
  · cases fault <;> simp [refusalOf?_detail, OtpKey.Fault.message]

theorem Accounts.of_untokened {fault : Token.IssueFault} {row : OtpSession}
    (erased : Erased key db later row) : Accounts key now db later (.error (.token fault)) := by
  refine ⟨nofun, nofun, nofun, nofun, nofun, ?_, fun _ _ => ⟨row, erased⟩⟩
  rintro _ ⟨⟩ other
  exact absurd rfl (other fault)

/-- An answer that says nothing of a change goes with tables as they were. -/
theorem Accounts.of_kept (unverified : statusOf? answer ≠ some 200)
    (right : refusalOf? answer ≠ some (400, "Invalid OTP code"))
    (tokened : ∀ fault, answer ≠ .error (.token fault)) : Accounts key now db db answer :=
  ⟨fun ok => absurd ok unverified, fun wrong => absurd wrong right, fun _ => .inl rfl,
    fun _ _ => rfl, fun _ => rfl, fun _ _ _ => rfl, fun fault fails => absurd fails (tokened fault)⟩

theorem Accounts.dressed (accounts : Accounts key now db later answer) (origins : List String)
    (draw : Draw) (r : Request) :
    Accounts key now db later (answer.map (dressed origins draw r)) := by
  have crashed {crash : Crash} (fails : answer.map (Otp.dressed origins draw r) = .error crash) :
      answer = .error crash := by
    cases answer with
    | ok response => cases fails
    | error other => exact congrArg Except.error (Except.error.inj fails)
  obtain ⟨verified, wrong, absent, refused, locked, failed, untokened⟩ := accounts
  refine ⟨?_, ?_, ?_, fun fault => ?_, ?_, fun crash fails => failed crash (crashed fails),
    fun fault fails => untokened fault (crashed fails)⟩
  · rwa [statusOf?_dressed]
  · rwa [refusalOf?_dressed]
  · rwa [refusalOf?_dressed]
  · rw [refusalOf?_dressed]
    exact refused fault
  · rwa [statusOf?_dressed]

/-- A check that has written nothing is answered as one that says nothing of a change. -/
theorem Accounts.of_writesNothing {stop : CheckStop} (nothing : stop.writesNothing = true)
    (answered : answerTo? (.error stop) = some answer) : Accounts key now db db answer := by
  cases stop with
  | key fault =>
    cases answered
    refine .of_kept (by simp [statusOf?, detail]) ?_ (by simp)
    cases fault <;> simp [refusalOf?_detail, OtpKey.Fault.message]
  | absent | locked =>
    cases answered
    exact .of_kept (by simp [statusOf?, detail]) (by simp [refusalOf?_detail]) (by simp)
  | unlimited fault | tooLong =>
    cases answered
    exact .of_kept (by simp [statusOf?]) (by simp [refusalOf?]) (by simp)
  | broken step => cases answered
  | wrong | expired | token fault => cases nothing

theorem Leaves.accounts (leaves : Leaves key now db.otpSessions outcome stored)
    (answered : answerTo? outcome = some answer) :
    Accounts key now db { db with otpSessions := stored } answer := by
  cases leaves with
  | granted newest =>
    rw [answerTo?_grant] at answered
    cases answered
    exact .of_granted ⟨_, _, newest, rfl⟩
  | lacking lacks newest =>
    rename_i stop _ _ _
    cases stop with
    | token fault =>
      cases answered
      exact .of_untokened ⟨_, _, newest, rfl⟩
    | broken step => cases answered
    | _ => cases lacks
  | counted newest =>
    cases answered
    exact .of_wrong ⟨_, _, newest, rfl⟩
  | expired newest late =>
    cases answered
    exact .of_absent (.inr ⟨_, late, _, _, newest, rfl⟩)
  | kept nothing => exact .of_writesNothing nothing answered

end

/-- A request that checks a code is answered as it leaves the newest session of its key. -/
theorem accounts_of_check {a : Arrival} {db : Database} {attempt : CodeCheck}
    (asks : a.task? = some (.check attempt)) (ids : (db.otpSessions.map (·.id)).Nodup) :
    Accounts (Task.check attempt).key a.time db (a.tables db) (a.answer db) := by
  have leaves := checkSteps_leaves ids neverBroken a.settings a.now attempt.purpose attempt.email
    attempt.code
  rw [now_universal] at leaves
  obtain ⟨outcome, stored, leaves, answered, left⟩ :=
    leaves.both (checkSteps_neverBroken (a.service db) attempt)
  obtain ⟨answers, tables⟩ := answer_of_check asks db
  rw [answers, tables, left]
  exact (leaves.accounts answered).dressed a.origins a.draw a.request

/-- Where no token can be issued, a right code ends its session all the same. -/
theorem check_untokened {a : Arrival} {db : Database} {attempt : CodeCheck} {row : OtpSession}
    {before after : List OtpSession} (asks : a.task? = some (.check attempt))
    (admitted : Admitted (Task.check attempt).key) (ids : (db.otpSessions.map (·.id)).Nodup)
    (newest : Newest (Task.check attempt).key db.otpSessions row before after)
    (accepted : verdictOn a attempt.code row = .accepted) {fault : Token.IssueFault}
    (unissued : Token.issue a.settings (Task.check attempt).key.email
      (Task.check attempt).key.purpose a.now = .error fault) :
    a.answer db = .error (.token fault) ∧
      a.tables db = { db with otpSessions := before ++ after } := by
  obtain ⟨answered, tables⟩ := check_newest asks admitted newest
  rw [answered, tables, accepted, Service.judged, tokenAnswer_eq_error unissued, settle,
    newest.remove_eq ids]
  exact ⟨rfl, rfl⟩

/-! ## All checks -/

/-- Whatever the settings, the sessions and the request: a check leaves what goes with its outcome,
    wherever it is broken off; the service does what its steps do; and its answer goes with what it
    leaves. A check that fails otherwise than for want of a token changes nothing. -/
theorem changes_accounted (a : Arrival) {db : Database}
    (ids : (db.otpSessions.map (·.id)).Nodup) :
    (a.task? = none → a.tables db = db) ∧
    ∀ attempt, a.task? = some (.check attempt) →
      (∀ broken, Leads
        (checkSteps broken a.settings a.now attempt.purpose attempt.email attempt.code)
        ⟨db.otpSessions, db.otpSessions⟩
        (Leaves (Task.check attempt).key a.time db.otpSessions)) ∧
      Leads (checkSteps neverBroken a.settings a.now attempt.purpose attempt.email attempt.code)
        ⟨db.otpSessions, db.otpSessions⟩
        (Reports ((a.service db).checkCode attempt) (a.service db)) ∧
      Accounts (Task.check attempt).key a.time db (a.tables db) (a.answer db) := by
  refine ⟨fun asks => ?_, fun attempt asks => ⟨fun broken => ?_, ?_, ?_⟩⟩
  · exact Arrival.tables_of_no_task asks db
  · rw [← now_universal]
    exact checkSteps_leaves ids broken _ _ _ _ _
  · exact checkSteps_neverBroken (a.service db) attempt
  · exact accounts_of_check asks ids

theorem counts_for_newest :
    (sampleTable.otpSessions.map (·.id)).Nodup ∧
    (asking "222222").task? = some (.check (sampleAttempt "222222")) ∧
    refusalOf? ((asking "222222").answer sampleTable) = some (400, "Invalid OTP code") ∧
    ∃ row, Counted (Task.check (sampleAttempt "222222")).key (asking "222222").time sampleTable
      ((asking "222222").tables sampleTable) row := by
  have asks := task?_asking "222222"
  have wrong : IsWrong (Text.strip (sampleAttempt "222222").code) sampleSession.code :=
    .inr ⟨by decide +kernel, by decide +kernel⟩
  obtain ⟨refused, -⟩ := (countedFor_iff_isWrong asks (admitted_sampleAttempt "222222")
    nodup_sampleTable (guessable_sampleSession "222222")).mpr wrong
  exact ⟨nodup_sampleTable, asks, refused,
    ((changes_accounted (asking "222222") nodup_sampleTable).2 _ asks).2.2.wrong refused⟩

/-- A check of the right code under settings whose tokens outlast the calendar. -/
def askingForever : Arrival :=
  { asking "123456" with
    settings := sampleSettings.set .tokenTtlMinutes (.int 10000000000) }

/-- A check that fails can use up a code without issuing a token for it. -/
theorem code_lost_without_token :
    askingForever.task? = some (.check (sampleAttempt "123456")) ∧
    askingForever.answer sampleTable = .error (.token .calendar) ∧
    askingForever.tables sampleTable =
      { otpSessions := [earlierSession, foreignSession] } := by
  have asks : askingForever.task? = some (.check (sampleAttempt "123456")) :=
    task?_asking "123456"
  have newest := (guessable_sampleSession "123456").toNewest
  have accepted : verdictOn askingForever "123456" sampleSession = .accepted := by
    decide +kernel
  have unissued : Token.issue askingForever.settings (Task.check (sampleAttempt "123456")).key.email
      (Task.check (sampleAttempt "123456")).key.purpose askingForever.now = .error .calendar := by
    rw [key_sampleAttempt]
    decide +kernel
  exact ⟨asks, check_untokened asks (admitted_sampleAttempt "123456") nodup_sampleTable newest
    accepted unissued⟩

end QueryDesk.Otp
