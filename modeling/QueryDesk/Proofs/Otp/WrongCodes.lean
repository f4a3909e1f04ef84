import QueryDesk.Proofs.Json.RoundTrip
import QueryDesk.Proofs.Otp.Newest
import QueryDesk.Proofs.Otp.Turn
import QueryDesk.Proofs.Text.Trim

/-!
# Which wrong codes are counted

A wrong code costs a guess, whatever else it is, unless it is longer than any secret, or differs
from the right one only in ways that the hash of secrets does not see: among codes of at most one
block these are NUL characters at the end.
-/

namespace QueryDesk

/-! ## Secrets that are alike -/

theorem Text.Utf8.encode_append (cs ds : List Char) :
    encode (cs ++ ds) = encode cs ++ encode ds :=
  List.flatMap_append ..

theorem Text.Utf8.encode_injective : Function.Injective encode := by
  intro cs ds same
  have whole : cs.utf8Encode = ds.utf8Encode := congrArg List.toByteArray same
  rwa [← String.toByteArray_ofList, ← String.toByteArray_ofList, String.toByteArray_inj,
    String.ofList_inj] at whole

theorem Text.Utf8.encode_replicate_nul (n : Nat) :
    encode (List.replicate n '\x00') = List.replicate n 0 := by
  induction n with
  | zero => rfl
  | succ n ih =>
    rw [List.replicate_succ, List.replicate_succ, ← ih]
    rfl

theorem Text.Utf8.length_le_encode (cs : List Char) : cs.length ≤ (encode cs).length := by
  induction cs with
  | nil => exact Nat.le_refl 0
  | cons c rest ih =>
    have filled : 0 < (String.utf8EncodeChar c).length :=
      String.length_utf8EncodeChar c ▸ c.utf8Size_pos
    rw [encode, List.flatMap_cons, List.length_append, List.length_cons]
    exact Nat.add_comm rest.length 1 ▸ Nat.add_le_add filled ih

/-- The texts are the same but for NUL characters at their ends. -/
def SameUpToNuls (a b : String) : Prop :=
  ∃ m n, a.toList ++ List.replicate m '\x00' = b.toList ++ List.replicate n '\x00'

/-- Zero bytes at the end of a key of at most one block do not show in its block. -/
theorem Hmac.blockKey_eq_take {key : List UInt8} (short : key.length ≤ 64) (n : Nat) :
    blockKey key = (key ++ List.replicate n 0 ++ List.replicate 64 0).take 64 := by
  rw [blockKey, if_neg (Nat.not_lt.mpr short), List.append_assoc, List.replicate_append_replicate,
    List.take_append, List.take_of_length_le short, List.take_replicate]
  congr 2
  omega

/-- Secrets of at most one block are alike just if they are the same but for NUL characters at their
    ends. -/
theorem Secret.alike_iff {a b : String} (shortA : (bytes a).length ≤ 64)
    (shortB : (bytes b).length ≤ 64) : alike a b = true ↔ SameUpToNuls a b := by
  have padded (s : String) (n : Nat) :
      bytes s ++ List.replicate n 0 = Text.Utf8.encode (s.toList ++ List.replicate n '\x00') := by
    rw [Text.Utf8.encode_append, Text.Utf8.encode_replicate_nul, bytes]
  rw [alike, beq_iff_eq]
  constructor
  · intro same
    simp only [Hmac.blockKey, Nat.not_lt.mpr shortA, Nat.not_lt.mpr shortB, if_false] at same
    rw [padded, padded] at same
    exact ⟨_, _, Text.Utf8.encode_injective same⟩
  · rintro ⟨m, n, same⟩
    rw [Hmac.blockKey_eq_take shortA m, Hmac.blockKey_eq_take shortB n, padded, padded, same]

namespace Otp

/-! ## Codes that are counted -/

/-- The code is empty, or it is compared with the one that was sent and is another one for the hash
    of secrets. -/
def IsWrong (code sent : String) : Prop :=
  code = "" ∨ code.length ≤ Secret.maxLength ∧ Secret.alike code sent = false

/-- When a request comes, the newest session of a key can be guessed at: it is not over, wrong codes
    are left for it, and the table has room for one more in its column of 64 bits. -/
structure Guessable (a : Arrival) (key : OtpKey) (sessions : List OtpSession) (row : OtpSession)
    (before after : List OtpSession) : Prop extends Newest key sessions row before after where
  running : a.time < row.expiresAt.micros
  left : ∃ limit, (a.settings.get .otpMaxAttempts).toInt = .ok limit ∧ row.attempts < limit
  room : Cell.fits (row.attempts + 1) = true

/-- The request is answered as one with a wrong code, which is counted for the session, and no other
    session is touched. -/
def CountedFor (a : Arrival) (db : Database) (row : OtpSession)
    (before after : List OtpSession) : Prop :=
  refusalOf? (a.answer db) = some (400, "Invalid OTP code") ∧
    a.tables db = { db with otpSessions := before ++ withWrong a.time row :: after }

variable {a : Arrival} {db : Database} {attempt : CodeCheck} {row : OtpSession}
  {before after : List OtpSession}

theorem verdictOn_of_guessable {key : OtpKey} {sessions : List OtpSession}
    (guessable : Guessable a key sessions row before after) (code : String) :
    verdictOn a code row =
      if (Text.strip code).isEmpty then .wrong
      else if Secret.maxLength < (Text.strip code).length then .tooLong
      else if Secret.alike (Text.strip code) row.code then .accepted
      else .wrong := by
  obtain ⟨limit, configured, left⟩ := guessable.left
  rw [verdictOn, configured, judge_of_left guessable.running left]

theorem verdictOn_eq_wrong_iff {key : OtpKey} {sessions : List OtpSession}
    (guessable : Guessable a key sessions row before after) (code : String) :
    verdictOn a code row = .wrong ↔ IsWrong (Text.strip code) row.code := by
  rw [verdictOn_of_guessable guessable, IsWrong, ← String.isEmpty_iff]
  by_cases blank : (Text.strip code).isEmpty = true
  · simp [blank]
  · by_cases long : Secret.maxLength < (Text.strip code).length
    · simp [blank, long, Nat.not_le.mpr long]
    · simp [blank, long, Nat.not_lt.mp long]

/-- A request that checks a code for an admitted key is answered by the verdict about its newest
    session. -/
theorem check_newest (asks : a.task? = some (.check attempt))
    (admitted : Admitted (Task.check attempt).key)
    (newest : Newest (Task.check attempt).key db.otpSessions row before after) :
    a.answer db = ((a.service db).judged (Task.check attempt).key
        (verdictOn a attempt.code row)).map (dressed a.origins a.draw a.request) ∧
      a.tables db =
        { db with
          otpSessions := settle a.time row db.otpSessions (verdictOn a attempt.code row) } := by
  obtain ⟨answered, tables⟩ := answer_of_check asks db
  rw [answered, tables, checkCode_of_current admitted newest.current?_eq]
  exact ⟨rfl, rfl⟩

theorem check_refused (asks : a.task? = some (.check attempt))
    (refused : ¬ Admitted (Task.check attempt).key) (db : Database) :
    (∃ fault : OtpKey.Fault, refusalOf? (a.answer db) = some (400, fault.message)) ∧
      a.tables db = db := by
  obtain ⟨fault, checked⟩ := checkCode_of_not_admitted refused (a.service db)
  obtain ⟨answered, tables⟩ := answer_of_check asks db
  rw [answered, tables, checked, refusalOf?_dressed]
  exact ⟨⟨fault, refusalOf?_detail ..⟩, rfl⟩

theorem countedFor_iff_isWrong (asks : a.task? = some (.check attempt))
    (admitted : Admitted (Task.check attempt).key) (ids : (db.otpSessions.map (·.id)).Nodup)
    (guessable : Guessable a (Task.check attempt).key db.otpSessions row before after) :
    CountedFor a db row before after ↔ IsWrong (Text.strip attempt.code) row.code := by
  obtain ⟨answered, tables⟩ := check_newest asks admitted guessable.toNewest
  rw [← verdictOn_eq_wrong_iff guessable, CountedFor, answered, refusalOf?_dressed, judged_refusal,
    tables]
  refine and_iff_left_of_imp fun wrong => ?_
  rw [wrong, settle, guessable.countWrong_eq ids]

theorem not_countedFor (asks : a.task? = some (.check attempt))
    (refused : ¬ Admitted (Task.check attempt).key) : ¬ CountedFor a db row before after := by
  rintro ⟨answered, -⟩
  obtain ⟨⟨fault, other⟩, -⟩ := check_refused asks refused db
  rw [other] at answered
  cases fault <;> simp [OtpKey.Fault.message] at answered

/-- A code that is longer than any secret makes the request fail, and is not counted. -/
theorem check_too_long (asks : a.task? = some (.check attempt))
    (admitted : Admitted (Task.check attempt).key)
    (guessable : Guessable a (Task.check attempt).key db.otpSessions row before after)
    (long : Secret.maxLength < (Text.strip attempt.code).length) :
    a.answer db = .error .codeTooLong ∧ a.tables db = db := by
  obtain ⟨answered, tables⟩ := check_newest asks admitted guessable.toNewest
  have filled : ¬ (Text.strip attempt.code).isEmpty = true := by
    rw [String.isEmpty_iff]
    intro blank
    simp [blank] at long
  have verdict : verdictOn a attempt.code row = .tooLong := by
    rw [verdictOn_of_guessable guessable, if_neg filled, if_pos long]
  rw [answered, tables, verdict]
  exact ⟨rfl, rfl⟩

/-- A code that is alike to the one that was sent ends the session, be it the same or not. -/
theorem check_alike (asks : a.task? = some (.check attempt))
    (admitted : Admitted (Task.check attempt).key) (ids : (db.otpSessions.map (·.id)).Nodup)
    (guessable : Guessable a (Task.check attempt).key db.otpSessions row before after)
    (filled : Text.strip attempt.code ≠ "")
    (short : (Text.strip attempt.code).length ≤ Secret.maxLength)
    (same : Secret.alike (Text.strip attempt.code) row.code = true) :
    (statusOf? (a.answer db) = some 200 ↔ a.Issues (Task.check attempt).key) ∧
      a.tables db = { db with otpSessions := before ++ after } := by
  obtain ⟨answered, tables⟩ := check_newest asks admitted guessable.toNewest
  have verdict : verdictOn a attempt.code row = .accepted := by
    rw [verdictOn_of_guessable guessable, if_neg (by rwa [String.isEmpty_iff]),
      if_neg (Nat.not_lt.mpr short), if_pos same]
  rw [answered, tables, verdict, statusOf?_dressed, judged_status, settle, guessable.remove_eq ids]
  exact ⟨and_iff_right rfl, rfl⟩

theorem isWrong_of_short {code sent : String} (shortCode : (Secret.bytes code).length ≤ 64)
    (shortSent : (Secret.bytes sent).length ≤ 64) (other : ¬ SameUpToNuls code sent) :
    IsWrong code sent := by
  refine .inr ⟨?_, ?_⟩
  · rw [← String.length_toList]
    exact Nat.le_trans (Text.Utf8.length_le_encode _) (Nat.le_trans shortCode (by decide))
  · rwa [← Bool.not_eq_true, Secret.alike_iff shortCode shortSent]

/-! ## Asking for a check -/

/-- The request that asks for a check. -/
def checkRequest (attempt : CodeCheck) : Http.Request where
  method := "POST"
  path := "/api/otp/verify"
  body := Json.compact (.object [("email", .text attempt.email),
    ("purpose", .text attempt.purpose), ("code", .text attempt.code)])

/-- Every check can be asked for, whatever its texts are. -/
theorem task?_checkRequest (settings : Settings) (attempt : CodeCheck) :
    task? settings.payloadDepth (checkRequest attempt) = some (.check attempt) := by
  obtain ⟨depth, deep⟩ := settings.platform.nesting.exists_limit .payload
  have leads : Http.destination publicRoutes (checkRequest attempt) = .target .checkCode := by
    unfold Http.destination
    dsimp only [checkRequest]
    rfl
  have payload : Http.Payload.value? (depth + 2) (checkRequest attempt) = .ok (some _) :=
    Http.Payload.value?_compact rfl rfl
      (by simp [Json.isPlain, Json.membersArePlain, Members.keys])
  have read : Http.Payload.read (depth + 2) (checkRequest attempt) CodeCheck.read =
      .ok attempt := by
    unfold Http.Payload.read Http.Payload.members
    rw [payload]
    rfl
  unfold task? Settings.payloadDepth
  rw [leads, deep, read]
  rfl

/-! ## All codes -/

/-- A code is answered as a wrong one and counted for the newest session of its key, just if codes
    are sent for the key, and the code is empty, or not too long and not alike to the one that was
    sent. A code that is too long fails without being counted, and one that is alike ends the
    session. Among codes of at most one block, every code is counted but the right one with more or
    fewer NUL characters at its end. -/
theorem wrong_code_counted_iff (asks : a.task? = some (.check attempt))
    (ids : (db.otpSessions.map (·.id)).Nodup)
    (guessable : Guessable a (Task.check attempt).key db.otpSessions row before after) :
    (CountedFor a db row before after ↔
      Admitted (Task.check attempt).key ∧ IsWrong (Text.strip attempt.code) row.code) ∧
    (¬ Admitted (Task.check attempt).key → a.tables db = db ∧
      ∃ fault : OtpKey.Fault, refusalOf? (a.answer db) = some (400, fault.message)) ∧
    (Admitted (Task.check attempt).key →
      (Secret.maxLength < (Text.strip attempt.code).length →
        a.answer db = .error .codeTooLong ∧ a.tables db = db) ∧
      (Text.strip attempt.code ≠ "" → (Text.strip attempt.code).length ≤ Secret.maxLength →
        Secret.alike (Text.strip attempt.code) row.code = true →
        (statusOf? (a.answer db) = some 200 ↔ a.Issues (Task.check attempt).key) ∧
        a.tables db = { db with otpSessions := before ++ after }) ∧
      ((Secret.bytes (Text.strip attempt.code)).length ≤ 64 →
        (Secret.bytes row.code).length ≤ 64 →
        ¬ SameUpToNuls (Text.strip attempt.code) row.code →
        CountedFor a db row before after)) := by
  by_cases admitted : Admitted (Task.check attempt).key
  · have counted := countedFor_iff_isWrong asks admitted ids guessable
    refine ⟨by rw [counted, and_iff_right admitted], (absurd admitted ·), fun _ => ⟨?_, ?_, ?_⟩⟩
    · exact check_too_long asks admitted guessable
    · exact check_alike asks admitted ids guessable
    · exact fun code sent other => counted.mpr (isWrong_of_short code sent other)
  · have refused := check_refused asks admitted db
    refine ⟨?_, fun _ => refused.symm, (absurd · admitted)⟩
    exact iff_of_false (not_countedFor asks admitted) fun counted => admitted counted.1

/-- A session of the sample key that is ten minutes old at most. -/
def sampleSession : OtpSession where
  id := ⟨1⟩
  purpose := sampleKey.purpose
  email := sampleKey.email
  code := "123456"
  createdAt := ⟨63902908800000000, none⟩
  updatedAt := ⟨63902908800000000, none⟩
  expiresAt := ⟨63902909400000000, none⟩

/-- A session of the sample key that is a minute older. -/
def earlierSession : OtpSession :=
  { sampleSession with
    id := ⟨4⟩, code := "222222", createdAt := ⟨63902908740000000, none⟩,
    updatedAt := ⟨63902908740000000, none⟩ }

/-- A session of another key that is half a minute newer. -/
def foreignSession : OtpSession :=
  { sampleSession with
    id := ⟨5⟩, email := "x@y.z", createdAt := ⟨63902908830000000, none⟩,
    updatedAt := ⟨63902908830000000, none⟩ }

/-- A table with these sessions. -/
def sampleTable : Database where
  otpSessions := [earlierSession, sampleSession, foreignSession]

theorem nodup_sampleTable : (sampleTable.otpSessions.map (·.id)).Nodup := by
  decide

/-- A check that comes when the session is a minute old. -/
def asking (code : String) : Arrival where
  settings := sampleSettings
  time := 63902908860000000
  draw := ⟨⟨2⟩, ⟨3⟩, ""⟩
  request := checkRequest (sampleAttempt code)

theorem task?_asking (code : String) :
    (asking code).task? = some (.check (sampleAttempt code)) :=
  task?_checkRequest sampleSettings _

theorem key_sampleAttempt (code : String) : (Task.check (sampleAttempt code)).key = sampleKey := by
  have purpose : OtpKey.normalizePurpose OtpKey.defaultPurpose = OtpKey.defaultPurpose := by
    decide +kernel
  have email : normalizeEmail "a@b.c" = "a@b.c" := by decide +kernel
  simp only [Task.key, sampleAttempt, sampleKey, purpose, email]

theorem admitted_sampleAttempt (code : String) :
    Admitted (Task.check (sampleAttempt code)).key := by
  rw [key_sampleAttempt]
  exact ⟨by decide +kernel, by decide +kernel⟩

theorem guessable_sampleSession (code : String) :
    Guessable (asking code) (Task.check (sampleAttempt code)).key sampleTable.otpSessions
      sampleSession [earlierSession] [foreignSession] where
  own := by
    rw [key_sampleAttempt]
    decide +kernel
  place := rfl
  newer := by
    simp only [List.forall_mem_singleton]
    exact fun _ => by decide
  newest := by
    simp only [List.forall_mem_singleton, key_sampleAttempt]
    decide +kernel
  running := by
    change (63902908860000000 : Int) < 63902909400000000
    decide
  left := ⟨1, rfl, by decide⟩
  room := by decide

theorem counts_other_code :
    (asking "222222").task? = some (.check (sampleAttempt "222222")) ∧
    (sampleTable.otpSessions.map (·.id)).Nodup ∧
    Guessable (asking "222222") (Task.check (sampleAttempt "222222")).key sampleTable.otpSessions
      sampleSession [earlierSession] [foreignSession] ∧
    CountedFor (asking "222222") sampleTable sampleSession [earlierSession]
      [foreignSession] := by
  have asks := task?_asking "222222"
  have guessable := guessable_sampleSession "222222"
  refine ⟨asks, nodup_sampleTable, guessable,
    (wrong_code_counted_iff asks nodup_sampleTable guessable).1.mpr
      ⟨admitted_sampleAttempt "222222", ?_⟩⟩
  exact .inr ⟨by decide +kernel, by decide +kernel⟩

theorem uncounted_of_long {code : String} (long : Secret.maxLength < (Text.strip code).length) :
    Guessable (asking code) (Task.check (sampleAttempt code)).key sampleTable.otpSessions
      sampleSession [earlierSession] [foreignSession] ∧
    Text.strip code ≠ sampleSession.code ∧
    (asking code).answer sampleTable = .error .codeTooLong ∧
    (asking code).tables sampleTable = sampleTable := by
  have guessable := guessable_sampleSession code
  have failed := check_too_long (task?_asking code) (admitted_sampleAttempt code) guessable long
  refine ⟨guessable, fun same => ?_, failed⟩
  rw [same] at long
  exact absurd long (by decide)

theorem strip_replicate (n : Nat) :
    Text.strip (String.ofList (List.replicate n '1')) = String.ofList (List.replicate n '1') := by
  have solid : Text.IsBare Text.isBlank (List.replicate n '1') :=
    Text.isBare_of_forall fun c mem => List.eq_of_mem_replicate mem ▸ by decide
  rw [Text.strip, String.toList_ofList, Text.trim_eq_self solid]

/-- A code that is longer than any secret is not answered as a wrong one, nor is it counted. -/
theorem long_code_is_not_counted :
    Guessable (asking (String.ofList (List.replicate 4097 '1')))
      (Task.check (sampleAttempt (String.ofList (List.replicate 4097 '1')))).key
      sampleTable.otpSessions sampleSession [earlierSession] [foreignSession] ∧
    Text.strip (String.ofList (List.replicate 4097 '1')) ≠ sampleSession.code ∧
    (asking (String.ofList (List.replicate 4097 '1'))).answer sampleTable = .error .codeTooLong ∧
    (asking (String.ofList (List.replicate 4097 '1'))).tables sampleTable = sampleTable := by
  refine uncounted_of_long ?_
  rw [strip_replicate, String.length_ofList, List.length_replicate]
  decide

end Otp

end QueryDesk
