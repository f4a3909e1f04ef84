import QueryDesk.Proofs.Otp.Table
import QueryDesk.Service.Api

/-!
# Runs of the service

A run is a list of requests to the service, the latest first. Each brings the settings, the time,
the mail services and the random draws that it meets, so that only the tables go from one request to
the next. `Turn` says everything that one request can do to the sessions of one key, and `turn_of`
that it does nothing else.
-/

namespace QueryDesk.Otp

open Http

/-! ## Requests about codes -/

/-- A request about a code that has reached its endpoint. -/
inductive Task where
  | send (request : CodeRequest)
  | check (attempt : CodeCheck)
  deriving DecidableEq

/-- The key that a request is about, whether or not sessions of that key can be. -/
def Task.key : Task → OtpKey
  | send request => ⟨OtpKey.normalizePurpose request.purpose, normalizeEmail request.email⟩
  | check attempt => ⟨OtpKey.normalizePurpose attempt.purpose, normalizeEmail attempt.email⟩

/-- What a request to the service asks about a code, if it asks anything. Its payload may be nested
    as deeply as `depth` says. -/
def task? (depth : Nat) (r : Request) : Option Task :=
  match Cors.asked? r, destination publicRoutes r with
  | none, .target .sendCode => (Payload.read depth r CodeRequest.read).toOption.map .send
  | none, .target .checkCode => (Payload.read depth r CodeCheck.read).toOption.map .check
  | _, _ => none

/-- Carries out a request about a code. -/
def perform (s : Service) (draw : Draw) : Task → Handled
  | .send request => s.sendCode draw request
  | .check attempt => s.checkCode attempt

/-- A response with the headers that every answer gets. -/
def dressed (origins : List String) (draw : Draw) (r : Request) (response : Response) : Response :=
  RequestId.trace (RequestId.ofRequest r draw.requestId) (Cors.allow origins r response)

theorem dressed_status (origins : List String) (draw : Draw) (r : Request) (response : Response) :
    (dressed origins draw r response).status = response.status := by
  simp only [dressed, RequestId.trace, Cors.allow, Response.with]
  split <;> rfl

theorem dressed_body (origins : List String) (draw : Draw) (r : Request) (response : Response) :
    (dressed origins draw r response).body = response.body := by
  simp only [dressed, RequestId.trace, Cors.allow, Response.with]
  split <;> rfl

theorem map_map_answer {f g : Response → Response} (answer : Answer) :
    (answer.map f).map g = answer.map (fun response => g (f response)) := by
  cases answer <;> rfl

/-- A request about a code is answered as its endpoint does. -/
theorem handle_of_task {s : Service} {r : Request} {task : Task}
    (asks : task? s.settings.payloadDepth r = some task) (draw : Draw) :
    s.handle draw r =
      ((perform s draw task).1.map (dressed s.origins draw r), (perform s draw task).2) := by
  unfold task? at asks
  split at asks
  · rename_i unasked leads
    obtain ⟨request, read, rfl⟩ := Option.map_eq_some_iff.mp asks
    cases payload : Payload.read s.settings.payloadDepth r CodeRequest.read with
    | error fault => simp [payload, Except.toOption] at read
    | ok found =>
      simp only [payload, Except.toOption, Option.some.injEq] at read
      subst read
      simp only [Service.handle, Service.receive, unasked, Service.direct, leads, Service.answer,
        Service.withPayload, payload, map_map_answer, perform]
      rfl
  · rename_i unasked leads
    obtain ⟨check, read, rfl⟩ := Option.map_eq_some_iff.mp asks
    cases payload : Payload.read s.settings.payloadDepth r CodeCheck.read with
    | error fault => simp [payload, Except.toOption] at read
    | ok found =>
      simp only [payload, Except.toOption, Option.some.injEq] at read
      subst read
      simp only [Service.handle, Service.receive, unasked, Service.direct, leads, Service.answer,
        Service.withPayload, payload, map_map_answer, perform]
      rfl
  · cases asks

/-- A request that asks nothing about a code leaves the service as it was. -/
theorem handle_of_no_task {s : Service} {r : Request}
    (asks : task? s.settings.payloadDepth r = none) (draw : Draw) : (s.handle draw r).2 = s := by
  simp only [Service.handle, Service.receive]
  cases asked : Cors.asked? r with
  | some permission => rfl
  | none =>
    simp only [Service.direct]
    cases leads : destination publicRoutes r with
    | target endpoint =>
      cases endpoint with
      | sendCode =>
        simp only [task?, asked, leads, Option.map_eq_none_iff] at asks
        cases payload : Payload.read s.settings.payloadDepth r CodeRequest.read with
        | ok found => simp [payload, Except.toOption] at asks
        | error fault => simp [Service.answer, Service.withPayload, payload]
      | checkCode =>
        simp only [task?, asked, leads, Option.map_eq_none_iff] at asks
        cases payload : Payload.read s.settings.payloadDepth r CodeCheck.read with
        | ok found => simp [payload, Except.toOption] at asks
        | error fault => simp [Service.answer, Service.withPayload, payload]
      | users => rfl
      | posts => rfl
      | landing => rfl
      | health => rfl
      | manual page => rfl
    | otherMethod allowed => rfl
    | elsewhere path => rfl
    | nowhere => rfl

/-! ## Reading answers -/

/-- The status of an answer; a request that failed has none. -/
def statusOf? : Answer → Option Nat
  | .ok response => some response.status
  | .error _ => none

/-- The status and the detail of an answer that carries a detail. -/
def refusalOf? : Answer → Option (Nat × String)
  | .ok ⟨status, .json (.object [("detail", .text s)]), _⟩ => some (status, s)
  | _ => none

/-- The work was done, but its answer could not be written. -/
def isUnwritten : Answer → Bool
  | .error (.write _) => true
  | _ => false

theorem statusOf?_dressed (origins : List String) (draw : Draw) (r : Request) (answer : Answer) :
    statusOf? (answer.map (dressed origins draw r)) = statusOf? answer := by
  cases answer with
  | ok response => exact congrArg some (dressed_status origins draw r response)
  | error crash => rfl

theorem refusalOf?_dressed (origins : List String) (draw : Draw) (r : Request) (answer : Answer) :
    refusalOf? (answer.map (dressed origins draw r)) = refusalOf? answer := by
  have reads : ∀ a b : Response, a.status = b.status → a.body = b.body →
      refusalOf? (.ok a) = refusalOf? (.ok b) := by
    rintro ⟨status, body, headers⟩ ⟨_, _, others⟩ rfl rfl
    unfold refusalOf?
    split <;> split <;> simp_all
  cases answer with
  | ok response =>
    exact reads _ _ (dressed_status origins draw r response) (dressed_body origins draw r response)
  | error crash => rfl

theorem isUnwritten_dressed (origins : List String) (draw : Draw) (r : Request) (answer : Answer) :
    isUnwritten (answer.map (dressed origins draw r)) = isUnwritten answer := by
  cases answer <;> rfl

theorem refusalOf?_detail (status : Nat) (text : String) :
    refusalOf? (.ok (detail status text)) = some (status, text) := rfl

/-- A value is answered with status 200, unless it cannot be written. -/
theorem json_answered (v : Value) :
    statusOf? (Answer.json v) = some 200 ∨ isUnwritten (Answer.json v) = true := by
  unfold Answer.json
  split
  · exact .inl rfl
  · exact .inr rfl

/-! ## Runs -/

/-- A request with all that it meets but the tables: the settings in force, the origins that are
    allowed, the time in microseconds of universal time, the mail services, and what is drawn at
    random. -/
structure Arrival where
  settings : Settings
  origins : List String := []
  time : Int
  outbox : Outbox := {}
  draw : Draw
  request : Request

namespace Arrival

/-- The time of a request as a moment. -/
def now (a : Arrival) : Moment :=
  ⟨a.time, some 0⟩

/-- The service that a request meets. -/
def service (a : Arrival) (db : Database) : Service :=
  { settings := a.settings, origins := a.origins, db, now := a.now, outbox := a.outbox }

/-- What a request asks about a code, if it asks anything. -/
def task? (a : Arrival) : Option Task :=
  Otp.task? a.settings.payloadDepth a.request

/-- The answer to a request. -/
def answer (a : Arrival) (db : Database) : Answer :=
  ((a.service db).handle a.draw a.request).1

/-- The tables after a request. -/
def tables (a : Arrival) (db : Database) : Database :=
  ((a.service db).handle a.draw a.request).2.db

variable {a : Arrival} {task : Task}

theorem handle_of_task (asks : a.task? = some task) (db : Database) :
    (a.service db).handle a.draw a.request =
      ((perform (a.service db) a.draw task).1.map (dressed a.origins a.draw a.request),
        (perform (a.service db) a.draw task).2) :=
  Otp.handle_of_task (s := a.service db) asks a.draw

/-- What a request about a code answers and leaves is what its endpoint does. -/
theorem answer_of_task (asks : a.task? = some task) (db : Database) :
    a.answer db =
        (perform (a.service db) a.draw task).1.map (dressed a.origins a.draw a.request) ∧
      a.tables db = (perform (a.service db) a.draw task).2.db := by
  rw [answer, tables, handle_of_task asks db]
  exact ⟨rfl, rfl⟩

theorem tables_of_no_task (asks : a.task? = none) (db : Database) : a.tables db = db :=
  congrArg Service.db (Otp.handle_of_no_task (s := a.service db) asks a.draw)

end Arrival

/-- A request and the answer that it got. -/
structure Exchange where
  arrival : Arrival
  answer : Answer

/-- The tables after the requests of a run. -/
def tablesAfter (db : Database) : List Arrival → Database
  | [] => db
  | a :: earlier => a.tables (tablesAfter db earlier)

/-- The requests of a run with their answers. -/
def history (db : Database) : List Arrival → List Exchange
  | [] => []
  | a :: earlier => ⟨a, a.answer (tablesAfter db earlier)⟩ :: history db earlier

namespace Exchange

/-- The request sends a code for a key. -/
def sends (key : OtpKey) (x : Exchange) : Bool :=
  match x.arrival.task? with
  | some (.send request) => (Task.send request).key == key
  | _ => false

/-- The request checks a code for a key. -/
def checks (key : OtpKey) (x : Exchange) : Bool :=
  match x.arrival.task? with
  | some (.check attempt) => (Task.check attempt).key == key
  | _ => false

/-- A code was sent for a key and stored: the request was answered with status 200, or all that
    failed was to write its answer. -/
def stored (key : OtpKey) (x : Exchange) : Bool :=
  x.sends key && (statusOf? x.answer == some 200 || isUnwritten x.answer)

/-- A code was checked for a key and answered with status 200. -/
def accepted (key : OtpKey) (x : Exchange) : Bool :=
  x.checks key && statusOf? x.answer == some 200

/-- A code was checked for a key and answered as a wrong one. -/
def wrong (key : OtpKey) (x : Exchange) : Bool :=
  x.checks key && refusalOf? x.answer == some (400, "Invalid OTP code")

/-- A code was checked for a key and judged. -/
def judged (key : OtpKey) (x : Exchange) : Bool :=
  x.accepted key || x.wrong key

/-- The exchange neither stored nor judged a code for a key. -/
structure Quiet (key : OtpKey) (x : Exchange) : Prop where
  stored : x.stored key = false
  accepted : x.accepted key = false
  wrong : x.wrong key = false

end Exchange

/-! ## Sample requests -/

/-- Settings that hand mail to a remote service and allow one wrong code. -/
def sampleSettings : Settings :=
  ((Settings.defaults "sqlite://").set .emailProvider (.text "service")).set .otpMaxAttempts (.int 1)

/-- The key of the sample requests. -/
def sampleKey : OtpKey :=
  ⟨OtpKey.defaultPurpose, "a@b.c"⟩

/-- What the sample requests check. -/
def sampleAttempt (code : String) : CodeCheck :=
  ⟨"a@b.c", OtpKey.defaultPurpose, code⟩

/-- A request for a code that comes some seconds after a fixed time, with what the mail service
    answers. -/
def sampleSend (seconds : Nat) (code reply : String) : Arrival where
  settings := sampleSettings
  time := 63902908800000000 + seconds * 1000000
  outbox := { transport := { replies := [.answer 200 reply] } }
  draw := ⟨⟨2 * seconds⟩, ⟨2 * seconds + 1⟩, code⟩
  request := { method := "POST", path := "/api/otp/send", body := "\x7b\"email\":\"a@b.c\"\x7d" }

/-- A request that checks a code. -/
def sampleCheck (seconds : Nat) (code : String) : Arrival where
  settings := sampleSettings
  time := 63902908800000000 + seconds * 1000000
  draw := ⟨⟨2 * seconds⟩, ⟨2 * seconds + 1⟩, ""⟩
  request := { method := "POST", path := "/api/otp/verify", body :=
    "\x7b\"email\":\"a@b.c\",\"code\":\"" ++ code ++ "\"\x7d" }

end QueryDesk.Otp
