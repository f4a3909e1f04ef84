import QueryDesk.Proofs.Otp.Run
import QueryDesk.Proofs.Steps

/-!
# What one request does to the sessions of a key

`turn_of` is the step lemma of every run: over a sound table, a request takes exactly one of the
turns of `Turn` for each key, and the table stays sound.
-/

namespace QueryDesk.Otp

open Http

/-! ## Sending -/

/-- Codes are sent for the purpose of a key, and its address has an at sign. -/
structure Admitted (key : OtpKey) : Prop where
  purpose : OtpKey.purposes.contains key.purpose = true
  email : key.email.toList.contains '@' = true

/-- Texts are accepted just if their normal form is admitted, and this is then their key. -/
theorem ofTexts_ok_iff {purpose email : String} {key : OtpKey} :
    OtpKey.ofTexts purpose email = .ok key ↔
      key = ⟨OtpKey.normalizePurpose purpose, normalizeEmail email⟩ ∧ Admitted key := by
  unfold OtpKey.ofTexts
  generalize OtpKey.normalizePurpose purpose = purpose'
  generalize normalizeEmail email = email'
  dsimp only
  constructor
  · intro accepted
    split at accepted
    · cases accepted
    · rename_i offered
      split at accepted
      · cases accepted
      · rename_i addressed
        obtain rfl := (Except.ok.inj accepted).symm
        exact ⟨rfl, by simpa using offered, by simpa using addressed⟩
  · rintro ⟨rfl, offered, addressed⟩
    dsimp only at offered addressed
    simp only [offered, addressed, Bool.not_true, Bool.false_eq_true, if_false]

/-- The session stems from a request that sent a code for a key. -/
structure Stems (a : Arrival) (key : OtpKey) (s : OtpSession) : Prop where
  admitted : Admitted key
  own : hasKey key s = true
  id : s.id = a.draw.sessionId
  code : s.code = a.draw.code
  lasts : ∃ minutes, lifetimeMinutes (a.settings.get .otpTtlMinutes) = .ok minutes ∧
    s.expiresAt.micros = a.time + minutes * 60000000

/-- The session that a request opens for a key. -/
structure Opens (a : Arrival) (key : OtpKey) (s : OtpSession) : Prop extends Stems a key s where
  attempts : s.attempts = 0

theorem Stems.withWrong {a : Arrival} {key : OtpKey} {s : OtpSession} (stems : Stems a key s)
    (now : Int) : Stems a key (withWrong now s) :=
  ⟨stems.admitted, stems.own, stems.id, stems.code, stems.lasts⟩

theorem openSession_eq_ok {id : Uuid} {key : OtpKey} {code : String} {now : Moment} {minutes : Int}
    {s : OtpSession} (opened : openSession id key code now minutes = .ok s) :
    ∃ expiresAt, expiresAt.micros = now.micros + minutes * 60000000 ∧
      s = { id, purpose := key.purpose, email := key.email, code, createdAt := now.unzoned,
            updatedAt := now.unzoned, expiresAt } := by
  simp only [openSession] at opened
  split at opened
  · cases opened
  · split at opened
    · cases opened
    · rename_i expiresAt expires
      cases opened
      simp only [expiry?, Moment.add?] at expires
      split at expires
      · cases expires
        exact ⟨_, rfl, rfl⟩
      · cases expires

theorem openSession_own {id : Uuid} {key : OtpKey} {code : String} {now : Moment} {minutes : Int}
    {s : OtpSession} (opened : openSession id key code now minutes = .ok s) :
    hasKey key s = true := by
  obtain ⟨expiresAt, -, rfl⟩ := openSession_eq_ok opened
  simp [hasKey]

theorem openSession_ok {a : Arrival} {key : OtpKey} (admitted : Admitted key) {minutes : Int}
    {s : OtpSession} (lifetime : lifetimeMinutes (a.settings.get .otpTtlMinutes) = .ok minutes)
    (opened : openSession a.draw.sessionId key a.draw.code a.now minutes = .ok s) :
    Opens a key s := by
  have own := openSession_own opened
  obtain ⟨expiresAt, lasts, rfl⟩ := openSession_eq_ok opened
  exact ⟨⟨admitted, own, rfl, rfl, minutes, lifetime, lasts⟩, rfl⟩

theorem settleSend_eq_ok {settings : Settings} {now : Moment} {id : Uuid} {code : String}
    {key : OtpKey} {delivery : Value} {receipt : Receipt} {sessions after : List OtpSession}
    (settled : settleSend settings now id code key delivery sessions = .ok (receipt, after)) :
    ∃ minutes s, lifetimeMinutes (settings.get .otpTtlMinutes) = .ok minutes ∧
      openSession id key code now minutes = .ok s ∧ isTaken key id sessions = false ∧
      receipt = ⟨key, minutes, delivery⟩ ∧ after = replace key s sessions := by
  simp only [settleSend, bind_eq_ok_iff, mapError_eq_ok_iff] at settled
  obtain ⟨minutes, lifetime, s, opened, given⟩ := settled
  cases taken : isTaken key id sessions with
  | true => simp [taken, throw, throwThe, MonadExceptOf.throw] at given
  | false =>
    simp only [taken, Bool.false_eq_true, if_false] at given
    cases given
    exact ⟨minutes, s, lifetime, opened, rfl, rfl, rfl⟩

theorem settleSend_ok {a : Arrival} {key : OtpKey} (admitted : Admitted key) {delivery : Value}
    {receipt : Receipt} {sessions after : List OtpSession}
    (settled : settleSend a.settings a.now a.draw.sessionId a.draw.code key delivery sessions =
      .ok (receipt, after)) :
    ∃ s, Opens a key s ∧ isTaken key s.id sessions = false ∧ after = replace key s sessions := by
  obtain ⟨minutes, s, lifetime, opened, free, -, rfl⟩ := settleSend_eq_ok settled
  have opens := openSession_ok admitted lifetime opened
  exact ⟨s, opens, opens.id ▸ free, rfl⟩

theorem unsent_answer (fault : SendFault) :
    statusOf? (Service.unsent fault) ≠ some 200 ∧ isUnwritten (Service.unsent fault) = false := by
  cases fault with
  | mail fault => cases fault <;> simp [Service.unsent, statusOf?, detail, isUnwritten]
  | _ => simp [Service.unsent, statusOf?, detail, isUnwritten]

/-- A code that was sent for the key of its texts has opened a session for that key. -/
theorem send_ok {a : Arrival} {purpose email : String} {sessions after : List OtpSession}
    {o o' : Outbox} {receipt : Receipt}
    (sent : send a.settings a.now a.draw.sessionId a.draw.code purpose email sessions o =
      (.ok (receipt, after), o')) :
    ∃ s, Opens a ⟨OtpKey.normalizePurpose purpose, normalizeEmail email⟩ s ∧
      isTaken ⟨OtpKey.normalizePurpose purpose, normalizeEmail email⟩ s.id sessions = false ∧
      after = replace ⟨OtpKey.normalizePurpose purpose, normalizeEmail email⟩ s sessions := by
  unfold send at sent
  cases key : OtpKey.ofTexts purpose email with
  | error fault => simp [key] at sent
  | ok key' =>
    obtain ⟨named, admitted⟩ := ofTexts_ok_iff.mp key
    rw [← named]
    simp only [key] at sent
    split at sent
    · cases sent
    · exact settleSend_ok admitted (Prod.mk.inj sent).1

/-- Sending either opens a session for the key of its request, or it changes nothing and its answer
    is neither of status 200 nor unwritten. -/
theorem sendCode_cases (a : Arrival) (db : Database) (request : CodeRequest) :
    (((a.service db).sendCode a.draw request).2.db = db ∧
      statusOf? ((a.service db).sendCode a.draw request).1 ≠ some 200 ∧
      isUnwritten ((a.service db).sendCode a.draw request).1 = false) ∨
    ∃ s, Opens a (Task.send request).key s ∧
      isTaken (Task.send request).key s.id db.otpSessions = false ∧
      ((a.service db).sendCode a.draw request).2.db =
        { db with otpSessions := replace (Task.send request).key s db.otpSessions } ∧
      (statusOf? ((a.service db).sendCode a.draw request).1 = some 200 ∨
        isUnwritten ((a.service db).sendCode a.draw request).1 = true) := by
  unfold Service.sendCode
  cases sent : send (a.service db).settings (a.service db).now a.draw.sessionId a.draw.code
      request.purpose request.email (a.service db).db.otpSessions (a.service db).outbox with
  | mk result outbox =>
    cases result with
    | error fault => exact .inl ⟨rfl, unsent_answer fault⟩
    | ok outcome =>
      obtain ⟨receipt, after⟩ := outcome
      obtain ⟨s, opens, free, rfl⟩ := send_ok (a := a) sent
      dsimp only
      exact .inr ⟨s, opens, free, rfl, json_answered _⟩

/-! ## Checking -/

/-- A token for a key can be issued when the request comes. -/
def Arrival.Issues (a : Arrival) (key : OtpKey) : Prop :=
  (Token.issue a.settings key.email key.purpose a.now).isOk = true

instance (a : Arrival) (key : OtpKey) : Decidable (a.Issues key) :=
  inferInstanceAs (Decidable (_ = true))

/-- The verdict about a code that comes with a request when a session is there. -/
def verdictOn (a : Arrival) (code : String) (s : OtpSession) : Verdict :=
  judge Secret.alike (a.settings.get .otpMaxAttempts).toInt a.time (Text.strip code) s

theorem now_universal (a : Arrival) : a.now.universal = a.time := by
  simp [Arrival.now, Moment.universal]

theorem answer_of_check {a : Arrival} {attempt : CodeCheck}
    (asks : a.task? = some (.check attempt)) (db : Database) :
    a.answer db = ((a.service db).checkCode attempt).1.map (dressed a.origins a.draw a.request) ∧
      a.tables db = ((a.service db).checkCode attempt).2.db := by
  simpa only [perform] using Arrival.answer_of_task asks db

theorem checkCode_of_not_admitted {attempt : CodeCheck}
    (refused : ¬ Admitted (Task.check attempt).key) (s : Service) :
    ∃ fault : OtpKey.Fault, s.checkCode attempt = (.ok (detail 400 fault.message), s) := by
  unfold Service.checkCode
  cases key : OtpKey.ofTexts attempt.purpose attempt.email with
  | error fault => exact ⟨fault, rfl⟩
  | ok key' =>
    obtain ⟨rfl, admitted⟩ := ofTexts_ok_iff.mp key
    exact absurd admitted refused

theorem checkCode_of_none {attempt : CodeCheck} (admitted : Admitted (Task.check attempt).key)
    {s : Service} (absent : current? (Task.check attempt).key s.db.otpSessions = none) :
    s.checkCode attempt = (.ok (detail 400 "OTP not found or expired"), s) := by
  have key : OtpKey.ofTexts attempt.purpose attempt.email = .ok (Task.check attempt).key :=
    ofTexts_ok_iff.mpr ⟨rfl, admitted⟩
  simp only [Service.checkCode, key, verify, absent]
  rfl

theorem checkCode_of_current {attempt : CodeCheck} (admitted : Admitted (Task.check attempt).key)
    {a : Arrival} {db : Database} {row : OtpSession}
    (found : current? (Task.check attempt).key db.otpSessions = some row) :
    (a.service db).checkCode attempt =
      ((a.service db).judged (Task.check attempt).key (verdictOn a attempt.code row),
        (a.service db).withSessions
          (settle a.time row db.otpSessions (verdictOn a attempt.code row))) := by
  have key : OtpKey.ofTexts attempt.purpose attempt.email = .ok (Task.check attempt).key :=
    ofTexts_ok_iff.mpr ⟨rfl, admitted⟩
  simp only [Service.checkCode, key, verify, Arrival.service, found, now_universal, verdictOn]

/-- The answer with a token has status 200 if a token can be issued, and there is none otherwise. -/
theorem tokenAnswer_status (a : Arrival) (db : Database) (key : OtpKey) :
    statusOf? ((a.service db).tokenAnswer key) = some 200 ↔ a.Issues key := by
  unfold Service.tokenAnswer Arrival.Issues Arrival.service
  dsimp only
  cases issued : Token.issue a.settings key.email key.purpose a.now with
  | error fault => simp [statusOf?, Except.isOk, Except.toBool]
  | ok token => exact iff_of_true rfl rfl

theorem tokenAnswer_refusal (s : Service) (key : OtpKey) :
    refusalOf? (s.tokenAnswer key) = none := by
  unfold Service.tokenAnswer
  split
  · unfold Answer.json
    split <;> rfl
  · rfl

/-- Only an accepted code is answered with status 200, if a token can be issued. -/
theorem judged_status (a : Arrival) (db : Database) (key : OtpKey) (verdict : Verdict) :
    statusOf? ((a.service db).judged key verdict) = some 200 ↔
      verdict = .accepted ∧ a.Issues key := by
  cases verdict with
  | accepted => simpa [Service.judged] using tokenAnswer_status a db key
  | _ => simp [Service.judged, statusOf?, detail]

/-- Only a wrong code is answered as one. -/
theorem judged_refusal (s : Service) (key : OtpKey) (verdict : Verdict) :
    refusalOf? (s.judged key verdict) = some (400, "Invalid OTP code") ↔ verdict = .wrong := by
  cases verdict with
  | accepted => simp [Service.judged, tokenAnswer_refusal]
  | unlimited fault => simp [Service.judged, refusalOf?]
  | tooLong => simp [Service.judged, refusalOf?]
  | _ => simp [Service.judged, refusalOf?_detail]

/-- What checking a code did: without a session it was refused, and otherwise the verdict about the
    session decided. -/
theorem check_cases {a : Arrival} {db : Database} (sound : Sound db.otpSessions)
    {attempt : CodeCheck} (asks : a.task? = some (.check attempt)) :
    ((Admitted (Task.check attempt).key → rowsOf (Task.check attempt).key db.otpSessions = []) ∧
      statusOf? (a.answer db) ≠ some 200 ∧
      refusalOf? (a.answer db) ≠ some (400, "Invalid OTP code") ∧ a.tables db = db) ∨
    ∃ row, rowsOf (Task.check attempt).key db.otpSessions = [row] ∧
      (statusOf? (a.answer db) = some 200 ↔
        verdictOn a attempt.code row = .accepted ∧ a.Issues (Task.check attempt).key) ∧
      (refusalOf? (a.answer db) = some (400, "Invalid OTP code") ↔
        verdictOn a attempt.code row = .wrong) ∧
      (verdictOn a attempt.code row = .locked →
        refusalOf? (a.answer db) = some (429, "Too many attempts")) ∧
      a.tables db =
        { db with
          otpSessions := settle a.time row db.otpSessions (verdictOn a attempt.code row) } := by
  obtain ⟨answered, tables⟩ := answer_of_check asks db
  rw [answered, tables, statusOf?_dressed, refusalOf?_dressed]
  by_cases admitted : Admitted (Task.check attempt).key
  · have current := current?_eq (Task.check attempt).key db.otpSessions
    rcases sound.rows_cases (Task.check attempt).key with none | ⟨row, only⟩
    · rw [none, latest?_nil] at current
      rw [checkCode_of_none (s := a.service db) admitted current]
      exact .inl ⟨fun _ => none, by simp [statusOf?, detail], by simp [refusalOf?_detail], rfl⟩
    · rw [only, latest?_singleton] at current
      rw [checkCode_of_current admitted current]
      refine .inr ⟨row, only, judged_status a db _ _, judged_refusal _ _ _, ?_, rfl⟩
      intro locked
      rw [locked]
      rfl
  · obtain ⟨fault, answered⟩ := checkCode_of_not_admitted admitted (a.service db)
    rw [answered]
    refine .inl ⟨fun other => absurd other admitted, by simp [statusOf?, detail], ?_, rfl⟩
    cases fault <;> simp [refusalOf?_detail, OtpKey.Fault.message]

/-! ## Verdicts -/

/-- A code that is not too long is accepted just before the session is over, while wrong codes are
    left, and if it is the code that was sent. -/
theorem judge_accepted_iff {accepts : String → String → Bool} {limit now : Int} {code : String}
    {s : OtpSession} (short : code.length ≤ Secret.maxLength) :
    judge accepts (.ok limit) now code s = .accepted ↔
      now < s.expiresAt.micros ∧ s.attempts < limit ∧ code ≠ "" ∧ accepts code s.code = true := by
  simp only [judge]
  by_cases late : s.expiresAt.micros ≤ now
  · simp [late, Int.not_lt.mpr late]
  · by_cases spent : limit ≤ s.attempts
    · simp [late, spent, Int.not_lt.mpr spent]
    · by_cases blank : code = ""
      · simp [late, spent, blank]
      · by_cases same : accepts code s.code = true
        · simp [late, spent, blank, same, Nat.not_lt.mpr short]
          omega
        · simp [late, spent, blank, same, Nat.not_lt.mpr short]

theorem attempts_lt_of_judged {accepts : String → String → Bool} {limit now : Int} {code : String}
    {s : OtpSession} (verdict : judge accepts (.ok limit) now code s = .accepted ∨
      judge accepts (.ok limit) now code s = .wrong) : s.attempts < limit := by
  simp only [judge] at verdict
  by_cases late : s.expiresAt.micros ≤ now
  · simp [late] at verdict
  · by_cases spent : limit ≤ s.attempts
    · simp [late, spent] at verdict
    · omega

theorem expired_of_judge {accepts : String → String → Bool} {limit : Except ConvertFault Int}
    {now : Int} {code : String} {s : OtpSession}
    (verdict : judge accepts limit now code s = .expired) : s.expiresAt.micros ≤ now := by
  by_contra running
  simp only [judge, running, if_false] at verdict
  split at verdict
  · cases verdict
  · repeat' split at verdict
    all_goals cases verdict

theorem judge_locked {accepts : String → String → Bool} {limit now : Int} {code : String}
    {s : OtpSession} (running : now < s.expiresAt.micros) (spent : limit ≤ s.attempts) :
    judge accepts (.ok limit) now code s = .locked := by
  simp [judge, Int.not_le.mpr running, spent]

/-- While a session lasts and wrong codes are left for it, the code alone decides. -/
theorem judge_of_left {accepts : String → String → Bool} {limit now : Int} {code : String}
    {s : OtpSession} (running : now < s.expiresAt.micros) (left : s.attempts < limit) :
    judge accepts (.ok limit) now code s =
      if code.isEmpty then .wrong
      else if Secret.maxLength < code.length then .tooLong
      else if accepts code s.code then .accepted
      else .wrong := by
  unfold judge
  rw [if_neg (Int.not_le.mpr running)]
  exact if_neg (Int.not_le.mpr left)

/-! ## Turns -/

/-- What an exchange can do to the sessions of a key. -/
inductive Turn (key : OtpKey) (x : Exchange) : List OtpSession → List OtpSession → Prop
  /-- Nothing is stored or judged. -/
  | idle {rows} (quiet : x.Quiet key) : Turn key x rows rows
  /-- A code is sent and its session replaces the earlier ones. -/
  | opened {rows s} (stored : x.stored key = true) (opens : Opens x.arrival key s) :
      Turn key x rows [s]
  /-- A wrong code is counted. -/
  | counted {s code} (wrong : x.wrong key = true)
      (verdict : verdictOn x.arrival code s = .wrong) : Turn key x [s] [withWrong x.arrival.time s]
  /-- A code is accepted and its session ends; only a token may still be missing. -/
  | consumed {s code} (stored : x.stored key = false) (wrong : x.wrong key = false)
      (verdict : verdictOn x.arrival code s = .accepted)
      (accepted : x.accepted key = true ↔ x.arrival.Issues key) : Turn key x [s] []
  /-- A session is found to be over. -/
  | expired {s} (quiet : x.Quiet key) (late : s.expiresAt.micros ≤ x.arrival.time) :
      Turn key x [s] []

/-- An exchange that asks nothing about a key is quiet for it. -/
theorem Exchange.quiet_of_other {key : OtpKey} {x : Exchange}
    (asks : ∀ task, x.arrival.task? = some task → task.key ≠ key) : x.Quiet key := by
  have sends : x.sends key = false := by
    unfold sends
    split
    · rename_i request asked
      simpa using asks _ asked
    · rfl
  have checks : x.checks key = false := by
    unfold checks
    split
    · rename_i attempt asked
      simpa using asks _ asked
    · rfl
  exact ⟨by simp [stored, sends], by simp [accepted, checks], by simp [wrong, checks]⟩

theorem Exchange.quiet_of_task {key : OtpKey} {x : Exchange} {task : Task}
    (asks : x.arrival.task? = some task) (ne : key ≠ task.key) : x.Quiet key := by
  apply quiet_of_other
  intro task' asked
  rw [asks] at asked
  cases asked
  exact Ne.symm ne

theorem Exchange.sends_of_task {x : Exchange} {request : CodeRequest}
    (asks : x.arrival.task? = some (.send request)) :
    x.sends (Task.send request).key = true ∧ ∀ key, x.checks key = false := by
  simp [sends, checks, asks]

theorem Exchange.checks_of_task {x : Exchange} {attempt : CodeCheck}
    (asks : x.arrival.task? = some (.check attempt)) :
    x.checks (Task.check attempt).key = true ∧ ∀ key, x.sends key = false := by
  simp [sends, checks, asks]

theorem send_turn {a : Arrival} {db : Database} (sound : Sound db.otpSessions)
    {request : CodeRequest} (asks : a.task? = some (.send request)) :
    Sound (a.tables db).otpSessions ∧
      ∀ key, Turn key ⟨a, a.answer db⟩ (rowsOf key db.otpSessions)
        (rowsOf key (a.tables db).otpSessions) := by
  have ⟨sends, unchecked⟩ := Exchange.sends_of_task (x := ⟨a, a.answer db⟩) asks
  obtain ⟨answered, tables⟩ := Arrival.answer_of_task asks db
  rw [perform] at answered tables
  rcases sendCode_cases a db request with ⟨same, refused, written⟩ | ⟨s, opens, free, after, sent⟩
  · rw [tables, same]
    refine ⟨sound, fun key => .idle ?_⟩
    by_cases own : key = (Task.send request).key
    · subst own
      refine ⟨?_, by simp [Exchange.accepted, unchecked], by simp [Exchange.wrong, unchecked]⟩
      simp [Exchange.stored, answered, statusOf?_dressed, isUnwritten_dressed, refused, written]
    · exact Exchange.quiet_of_task asks own
  · rw [tables, after]
    refine ⟨sound.replace opens.own free, fun key => ?_⟩
    by_cases own : key = (Task.send request).key
    · subst own
      rw [rowsOf_replace_self opens.own]
      refine .opened ?_ opens
      rw [Exchange.stored, sends, answered, statusOf?_dressed, isUnwritten_dressed]
      simpa using sent
    · rw [rowsOf_replace_other own opens.own]
      exact .idle (Exchange.quiet_of_task asks own)

theorem check_turn {a : Arrival} {db : Database} (sound : Sound db.otpSessions)
    {attempt : CodeCheck} (asks : a.task? = some (.check attempt)) :
    Sound (a.tables db).otpSessions ∧
      ∀ key, Turn key ⟨a, a.answer db⟩ (rowsOf key db.otpSessions)
        (rowsOf key (a.tables db).otpSessions) := by
  have ⟨checks, unsent⟩ := Exchange.checks_of_task (x := ⟨a, a.answer db⟩) asks
  have unstored : ∀ key, (⟨a, a.answer db⟩ : Exchange).stored key = false := by
    intro key
    simp [Exchange.stored, unsent]
  rcases check_cases sound asks with ⟨-, refused, unjudged, same⟩ |
    ⟨row, only, accepted, wrong, -, after⟩
  · rw [same]
    refine ⟨sound, fun key => .idle ?_⟩
    exact ⟨unstored key, by simp [Exchange.accepted, refused], by simp [Exchange.wrong, unjudged]⟩
  · have here : row ∈ rowsOf (Task.check attempt).key db.otpSessions := by simp [only]
    rw [after]
    dsimp only
    have quiet_of (unjudged : verdictOn a attempt.code row ≠ .accepted ∧
        verdictOn a attempt.code row ≠ .wrong) (key : OtpKey) :
        (⟨a, a.answer db⟩ : Exchange).Quiet key := by
      refine ⟨unstored key, ?_, ?_⟩
      · simp [Exchange.accepted, accepted, unjudged.1]
      · simp [Exchange.wrong, wrong, unjudged.2]
    cases verdict : verdictOn a attempt.code row with
    | accepted =>
      simp only [settle]
      refine ⟨sound.remove row, fun key => ?_⟩
      by_cases own : key = (Task.check attempt).key
      · subst own
        rw [only, rowsOf_remove_self only]
        refine .consumed (unstored _) ?_ verdict ?_
        · simp [Exchange.wrong, wrong, verdict]
        · simp [Exchange.accepted, checks, accepted, verdict]
      · rw [rowsOf_remove_other sound.ids own here]
        exact .idle (Exchange.quiet_of_task asks own)
    | wrong =>
      simp only [settle]
      refine ⟨sound.countWrong a.time row, fun key => ?_⟩
      by_cases own : key = (Task.check attempt).key
      · subst own
        rw [only, rowsOf_countWrong_self only]
        refine .counted ?_ verdict
        simp [Exchange.wrong, checks, wrong, verdict]
      · rw [rowsOf_countWrong_other sound.ids own here]
        exact .idle (Exchange.quiet_of_task asks own)
    | expired =>
      simp only [settle]
      refine ⟨sound.remove row, fun key => ?_⟩
      by_cases own : key = (Task.check attempt).key
      · subst own
        rw [only, rowsOf_remove_self only]
        exact .expired (quiet_of (by simp [verdict]) _) (expired_of_judge verdict)
      · rw [rowsOf_remove_other sound.ids own here]
        exact .idle (Exchange.quiet_of_task asks own)
    | absent | locked | unlimited | tooLong =>
      exact ⟨sound, fun key => .idle (quiet_of (by simp [verdict]) key)⟩

/-- At every request each key takes a turn, and the table stays sound. -/
theorem turn_of {a : Arrival} {db : Database} (sound : Sound db.otpSessions) :
    Sound (a.tables db).otpSessions ∧
      ∀ key, Turn key ⟨a, a.answer db⟩ (rowsOf key db.otpSessions)
        (rowsOf key (a.tables db).otpSessions) := by
  cases asks : a.task? with
  | none =>
    rw [Arrival.tables_of_no_task asks]
    refine ⟨sound, fun key => .idle (Exchange.quiet_of_other ?_)⟩
    simp [asks]
  | some task =>
    cases task with
    | send request => exact send_turn sound asks
    | check attempt => exact check_turn sound asks

end QueryDesk.Otp
