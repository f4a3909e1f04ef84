import Mathlib.Data.List.Perm.Subperm
import QueryDesk.Proofs.Otp.Newest
import QueryDesk.Proofs.Otp.Turn

/-!
# Keys do not interfere

What a request answers, and what it leaves of the sessions of its key, depends on the sessions of
that key only. So the requests about other keys can be left out of a run without a trace. All that
the sessions of different keys share are their ids: these are drawn at random, and a run in which
one is drawn twice is left aside.
-/

namespace QueryDesk.Otp

open Http

/-! ## What is left of the sessions of a key -/

theorem rowsOf_settle (key : OtpKey) (now : Int) (s : OtpSession) (sessions : List OtpSession)
    (verdict : Verdict) :
    rowsOf key (settle now s sessions verdict) = settle now s (rowsOf key sessions) verdict := by
  cases verdict with
  | expired | accepted => exact rowsOf_remove key s sessions
  | wrong => exact rowsOf_countWrong key now s sessions
  | absent | locked | unlimited | tooLong => rfl

theorem rowsOf_settle_other {sessions : List OtpSession} (ids : (sessions.map (·.id)).Nodup)
    {key other : OtpKey} (ne : other ≠ key) {s : OtpSession} (here : s ∈ rowsOf key sessions)
    (now : Int) (verdict : Verdict) :
    rowsOf other (settle now s sessions verdict) = rowsOf other sessions := by
  cases verdict with
  | expired | accepted => exact rowsOf_remove_other ids ne here
  | wrong => exact rowsOf_countWrong_other ids ne here now
  | absent | locked | unlimited | tooLong => rfl

theorem ids_settle (now : Int) (s : OtpSession) (sessions : List OtpSession)
    (verdict : Verdict) :
    ((settle now s sessions verdict).map (·.id)).Sublist (sessions.map (·.id)) := by
  cases verdict with
  | expired | accepted => exact List.filter_sublist.map _
  | wrong => rw [settle, ids_countWrong]
  | absent | locked | unlimited | tooLong => exact List.Sublist.refl _

theorem ids_replace (key : OtpKey) (s : OtpSession) (sessions : List OtpSession) :
    ((replace key s sessions).map (·.id)).Subperm (s.id :: sessions.map (·.id)) := by
  have kept : ((sessions.filter (!hasKey key ·)).map (·.id)).Sublist (sessions.map (·.id)) :=
    List.filter_sublist.map _
  simp only [replace, List.map_append, List.map_cons, List.map_nil]
  exact (List.perm_append_singleton _ _).subperm.trans (kept.cons_cons s.id).subperm

/-! ## One request -/

namespace Arrival

/-- The request is about a code for a key. -/
def concerns (key : OtpKey) (a : Arrival) : Bool :=
  a.task?.any (·.key == key)

/-- The id that a request draws for a session, if it sends a code. -/
def newId? (a : Arrival) : Option Uuid :=
  match a.task? with
  | some (.send _) => some a.draw.sessionId
  | _ => none

end Arrival

/-- What an outcome of sending shows of a key: the receipt, and the sessions of the key. -/
def shownOf (key : OtpKey) (outcome : Except SendFault (Receipt × List OtpSession)) :
    Except SendFault (Receipt × List OtpSession) :=
  outcome.map fun (receipt, sessions) => (receipt, rowsOf key sessions)

/-- While no session of another key has the id, sending shows the same of its key whatever sessions
    there are. -/
theorem settleSend_congr (settings : Settings) (now : Moment) {id : Uuid} (code : String)
    {key : OtpKey} (delivery : Value) {sessions others : List OtpSession}
    (free : isTaken key id sessions = false) (free' : isTaken key id others = false) :
    shownOf key (settleSend settings now id code key delivery sessions) =
      shownOf key (settleSend settings now id code key delivery others) := by
  unfold settleSend
  cases lifetimeMinutes (settings.get .otpTtlMinutes) with
  | error fault => rfl
  | ok minutes =>
    cases opened : openSession id key code now minutes with
    | error fault => simp [opened, Except.mapError, bind, Except.bind, shownOf, Except.map]
    | ok s =>
      have own := openSession_own opened
      simp [opened, free, free', Except.mapError, bind, Except.bind, pure, Except.pure, shownOf,
        Except.map, rowsOf_replace_self own]

theorem sendCode_congr {a : Arrival} {request : CodeRequest} {db other : Database}
    (free : isTaken (Task.send request).key a.draw.sessionId db.otpSessions = false)
    (free' : isTaken (Task.send request).key a.draw.sessionId other.otpSessions = false)
    (rows : rowsOf (Task.send request).key db.otpSessions =
      rowsOf (Task.send request).key other.otpSessions) :
    ((a.service db).sendCode a.draw request).1 = ((a.service other).sendCode a.draw request).1 ∧
      rowsOf (Task.send request).key ((a.service db).sendCode a.draw request).2.db.otpSessions =
        rowsOf (Task.send request).key
          ((a.service other).sendCode a.draw request).2.db.otpSessions := by
  unfold Service.sendCode send
  dsimp only [Arrival.service]
  cases named : OtpKey.ofTexts request.purpose request.email with
  | error fault => exact ⟨rfl, rows⟩
  | ok key =>
    obtain ⟨rfl, -⟩ := ofTexts_ok_iff.mp named
    dsimp only
    cases mailed : Mail.sendCode a.settings (normalizeEmail request.email) a.draw.code
        (OtpKey.normalizePurpose request.purpose) a.outbox with
    | mk result outbox =>
      cases result with
      | error fault => exact ⟨rfl, rows⟩
      | ok delivery =>
        have same := settleSend_congr a.settings a.now a.draw.code delivery free free'
        dsimp only [Task.key] at same rows ⊢
        generalize settleSend a.settings a.now a.draw.sessionId a.draw.code _ delivery
          db.otpSessions = one at same ⊢
        generalize settleSend a.settings a.now a.draw.sessionId a.draw.code _ delivery
          other.otpSessions = two at same ⊢
        cases one <;> cases two <;> simp_all [shownOf, Except.map, Service.withSessions]

theorem checkCode_congr {a : Arrival} {attempt : CodeCheck} {db other : Database}
    (rows : rowsOf (Task.check attempt).key db.otpSessions =
      rowsOf (Task.check attempt).key other.otpSessions) :
    ((a.service db).checkCode attempt).1 = ((a.service other).checkCode attempt).1 ∧
      rowsOf (Task.check attempt).key ((a.service db).checkCode attempt).2.db.otpSessions =
        rowsOf (Task.check attempt).key
          ((a.service other).checkCode attempt).2.db.otpSessions := by
  unfold Service.checkCode
  cases named : OtpKey.ofTexts attempt.purpose attempt.email with
  | error fault => exact ⟨rfl, rows⟩
  | ok key =>
    obtain ⟨rfl, -⟩ := ofTexts_ok_iff.mp named
    dsimp only [Task.key] at rows ⊢
    simp only [verify, current?_eq, Arrival.service, rows]
    cases latest? (rowsOf _ other.otpSessions) with
    | none => exact ⟨rfl, rows⟩
    | some s => exact ⟨rfl, by simp only [Service.withSessions, rowsOf_settle, rows]⟩

/-- Checking a code leaves the sessions as they were, or settles one of its key. -/
theorem checkCode_cases (a : Arrival) (db : Database) (attempt : CodeCheck) :
    ((a.service db).checkCode attempt).2.db = db ∨
    ∃ s ∈ rowsOf (Task.check attempt).key db.otpSessions,
      ((a.service db).checkCode attempt).2.db =
        { db with
          otpSessions := settle a.time s db.otpSessions (verdictOn a attempt.code s) } := by
  unfold Service.checkCode
  cases named : OtpKey.ofTexts attempt.purpose attempt.email with
  | error fault => exact .inl rfl
  | ok key =>
    obtain ⟨rfl, -⟩ := ofTexts_ok_iff.mp named
    simp only [verify, Arrival.service, now_universal]
    cases found : current? _ db.otpSessions with
    | none => exact .inl rfl
    | some s =>
      obtain ⟨before, after, newest⟩ := current?_eq_some_iff.mp found
      exact .inr ⟨s, mem_rowsOf.mpr ⟨newest.mem, newest.own⟩, rfl⟩

/-- A request answers the same, and leaves the same of its key, wherever the sessions of its key are
    the same and no other key has the id that it draws. -/
theorem Arrival.congr {a : Arrival} {key : OtpKey} (own : a.concerns key = true)
    {db other : Database}
    (free : ∀ id, a.newId? = some id → isTaken key id db.otpSessions = false)
    (free' : ∀ id, a.newId? = some id → isTaken key id other.otpSessions = false)
    (rows : rowsOf key db.otpSessions = rowsOf key other.otpSessions) :
    a.answer db = a.answer other ∧
      rowsOf key (a.tables db).otpSessions = rowsOf key (a.tables other).otpSessions := by
  cases asks : a.task? with
  | none => simp [concerns, asks] at own
  | some task =>
    obtain rfl : task.key = key := by simpa [concerns, asks] using own
    have same : (perform (a.service db) a.draw task).1 = (perform (a.service other) a.draw task).1 ∧
        rowsOf task.key (perform (a.service db) a.draw task).2.db.otpSessions =
          rowsOf task.key (perform (a.service other) a.draw task).2.db.otpSessions := by
      cases task with
      | send request =>
        have drawn : a.newId? = some a.draw.sessionId := by simp [newId?, asks]
        dsimp only [perform]
        exact sendCode_congr (free _ drawn) (free' _ drawn) rows
      | check attempt =>
        dsimp only [perform]
        exact checkCode_congr rows
    obtain ⟨answered, tables⟩ := answer_of_task asks db
    obtain ⟨answered', tables'⟩ := answer_of_task asks other
    rw [answered, tables, answered', tables', same.1]
    exact ⟨rfl, same.2⟩

/-- A request leaves the sessions of the keys that it is not about as they were. -/
theorem Arrival.rowsOf_tables {a : Arrival} {other : OtpKey} (foreign : a.concerns other = false)
    {db : Database} (ids : (db.otpSessions.map (·.id)).Nodup) :
    rowsOf other (a.tables db).otpSessions = rowsOf other db.otpSessions := by
  cases asks : a.task? with
  | none => rw [tables_of_no_task asks]
  | some task =>
    have ne : other ≠ task.key := by
      rintro rfl
      simp [concerns, asks] at foreign
    rw [(answer_of_task asks db).2]
    cases task with
    | send request =>
      rcases sendCode_cases a db request with ⟨same, -⟩ | ⟨s, opens, -, after, -⟩
      · rw [perform, same]
      · rw [perform, after]
        exact rowsOf_replace_other ne opens.own _
    | check attempt =>
      rcases checkCode_cases a db attempt with same | ⟨s, here, after⟩
      · rw [perform, same]
      · rw [perform, after]
        exact rowsOf_settle_other ids ne here _ _

/-- The ids after a request are among those before it and the one that it draws. -/
theorem Arrival.ids_tables (a : Arrival) (db : Database) :
    ((a.tables db).otpSessions.map (·.id)).Subperm
      (a.newId?.toList ++ db.otpSessions.map (·.id)) := by
  cases asks : a.task? with
  | none =>
    rw [tables_of_no_task asks]
    exact (List.sublist_append_right _ _).subperm
  | some task =>
    rw [(answer_of_task asks db).2]
    cases task with
    | send request =>
      have drawn : a.newId? = some a.draw.sessionId := by simp [newId?, asks]
      rw [drawn]
      rcases sendCode_cases a db request with ⟨same, -⟩ | ⟨s, opens, -, after, -⟩
      · rw [perform, same]
        exact (List.sublist_append_right _ _).subperm
      · rw [perform, after, ← opens.id]
        exact ids_replace _ s _
    | check attempt =>
      have kept : (((a.service db).checkCode attempt).2.db.otpSessions.map (·.id)).Sublist
          (db.otpSessions.map (·.id)) := by
        rcases checkCode_cases a db attempt with same | ⟨s, -, after⟩
        · rw [same]
        · rw [after]
          exact ids_settle _ s _ _
      rw [perform]
      exact (kept.trans (List.sublist_append_right _ _)).subperm

/-! ## A run -/

/-- No id is drawn twice in a run, nor is an id of the sessions at its start, whose ids differ. -/
def DrawnAnew (db : Database) (run : List Arrival) : Prop :=
  (run.filterMap Arrival.newId? ++ db.otpSessions.map (·.id)).Nodup

theorem ids_tablesAfter (db : Database) (run : List Arrival) :
    ((tablesAfter db run).otpSessions.map (·.id)).Subperm
      (run.filterMap Arrival.newId? ++ db.otpSessions.map (·.id)) := by
  induction run with
  | nil => exact List.Subperm.refl _
  | cons a earlier ih =>
    have more := (a.ids_tables (tablesAfter db earlier)).trans
      ((List.subperm_append_left a.newId?.toList).mpr ih)
    rw [tablesAfter, List.filterMap_cons]
    cases drawn : a.newId? with
    | none => simpa [drawn] using more
    | some id => simpa [drawn] using more

theorem DrawnAnew.earlier {db : Database} {a : Arrival} {earlier : List Arrival}
    (anew : DrawnAnew db (a :: earlier)) : DrawnAnew db earlier := by
  refine List.Nodup.sublist ?_ anew
  exact ((List.sublist_cons_self a earlier).filterMap _).append_right _

theorem DrawnAnew.nodup {db : Database} {run : List Arrival} (anew : DrawnAnew db run) :
    ((tablesAfter db run).otpSessions.map (·.id)).Nodup := by
  obtain ⟨ids, perm, sub⟩ := ids_tablesAfter db run
  exact perm.nodup_iff.mp (anew.sublist sub)

/-- A session that is there when a request draws an id has another id, also when some of the
    requests before were left out. -/
theorem DrawnAnew.free {db : Database} {a : Arrival} {earlier : List Arrival}
    (anew : DrawnAnew db (a :: earlier)) {some_earlier : List Arrival}
    (left : some_earlier.Sublist earlier) (key : OtpKey) {id : Uuid} (drawn : a.newId? = some id) :
    isTaken key id (tablesAfter db some_earlier).otpSessions = false := by
  by_contra taken
  obtain ⟨s, here, same⟩ := List.any_eq_true.mp (Bool.not_eq_false _ ▸ taken)
  obtain ⟨-, rfl⟩ : hasKey key s = false ∧ s.id = id := by simpa using same
  have known := (ids_tablesAfter db some_earlier).subset (List.mem_map_of_mem here)
  have among : s.id ∈ earlier.filterMap Arrival.newId? ++ db.otpSessions.map (·.id) :=
    ((left.filterMap _).append_right _).subset known
  rw [DrawnAnew, List.filterMap_cons, drawn] at anew
  exact (List.nodup_cons.mp anew).1 among

/-- The requests about other keys can be left out of a run: those that are about a key get the same
    answers, and the sessions of the key are the same at the end. No request touches the sessions of
    a key that it is not about. -/
theorem keys_separate (db : Database) (run : List Arrival) (anew : DrawnAnew db run)
    (key : OtpKey) :
    history db (run.filter (·.concerns key)) =
      (history db run).filter (·.arrival.concerns key) ∧
    rowsOf key (tablesAfter db (run.filter (·.concerns key))).otpSessions =
      rowsOf key (tablesAfter db run).otpSessions ∧
    ∀ a earlier, a :: earlier <:+ run → a.concerns key = false →
      rowsOf key (tablesAfter db (a :: earlier)).otpSessions =
        rowsOf key (tablesAfter db earlier).otpSessions := by
  induction run with
  | nil => exact ⟨rfl, rfl, fun a earlier suffix => by simp at suffix⟩
  | cons a earlier ih =>
    obtain ⟨answers, rows, untouched⟩ := ih anew.earlier
    have here : a.concerns key = false →
        rowsOf key (tablesAfter db (a :: earlier)).otpSessions =
          rowsOf key (tablesAfter db earlier).otpSessions :=
      fun foreign => Arrival.rowsOf_tables foreign anew.earlier.nodup
    have alike := fun own : a.concerns key = true =>
      Arrival.congr own (fun _ => anew.free List.filter_sublist key)
        (fun _ => anew.free (List.Sublist.refl _) key) rows
    refine ⟨?_, ?_, ?_⟩
    · cases own : a.concerns key with
      | false => simpa [history, own] using answers
      | true => simp [history, own, answers, (alike own).1]
    · cases own : a.concerns key with
      | false => simpa [own, here own] using rows
      | true => simpa [own, tablesAfter] using (alike own).2
    · intro b before suffix foreign
      rcases List.suffix_cons_iff.mp suffix with same | inside
      · obtain ⟨rfl, rfl⟩ := List.cons.inj same
        exact here foreign
      · exact untouched b before inside foreign

/-- A code that is sent to another address meanwhile. -/
def otherSend : Arrival :=
  { sampleSend 1 "222222" "" with request :=
      { method := "POST", path := "/api/otp/send", body := "\x7b\"email\":\"d@e.f\"\x7d" } }

/-- A code that was sent to another address leaves no trace in what a check answers. -/
theorem checks_beside_other :
    DrawnAnew {} [sampleCheck 2 "111111", otherSend, sampleSend 0 "111111" ""] ∧
    history {} [sampleCheck 2 "111111", sampleSend 0 "111111" ""] =
      (history {} [sampleCheck 2 "111111", otherSend, sampleSend 0 "111111" ""]).filter
        (·.arrival.concerns sampleKey) := by
  have anew : DrawnAnew {} [sampleCheck 2 "111111", otherSend, sampleSend 0 "111111" ""] := by
    unfold DrawnAnew
    decide +kernel
  have check : (sampleCheck 2 "111111").concerns sampleKey = true := by decide +kernel
  have sent : (sampleSend 0 "111111" "").concerns sampleKey = true := by decide +kernel
  have other : otherSend.concerns sampleKey = false := by decide +kernel
  have separate := keys_separate {} _ anew sampleKey
  simp only [List.filter_cons, List.filter_nil, check, sent, other, if_true, Bool.false_eq_true,
    if_false] at separate
  exact ⟨anew, separate.1⟩

end QueryDesk.Otp
