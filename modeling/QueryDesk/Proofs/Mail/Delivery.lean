import QueryDesk.Proofs.Json.Shown
import QueryDesk.Proofs.Mail.TypedSettings
import QueryDesk.Proofs.Number.Spelling
import QueryDesk.Proofs.Otp.Turn

/-!
# Which deliveries fail unforeseen

Callers of mail foresee that a message is not delivered, and nothing else. Whatever mail servers and
remote services do, a delivery ends so, with one exception: a remote service that answers an error
status with JSON that is no object.
-/

namespace QueryDesk

/-! ## Foreseen results -/

/-- A result that callers of mail foresee: whatever failed, it is reported as a failed delivery. -/
def Foreseen {α : Type} (result : Except MailFault α) : Prop :=
  ∀ fault, result = .error fault → ∃ e, fault = .delivery e

theorem foreseen_ok {α : Type} (a : α) : Foreseen (.ok a : Except MailFault α) := by
  rintro fault ⟨⟩

theorem foreseen_delivery {α : Type} (e : DeliveryError) :
    Foreseen (.error (.delivery e) : Except MailFault α) := by
  rintro fault ⟨⟩
  exact ⟨e, rfl⟩

theorem foreseen_map_iff {α β : Type} {result : Except MailFault α} {f : α → β} :
    Foreseen (result.map f) ↔ Foreseen result := by
  cases result with
  | ok a => exact iff_of_true (foreseen_ok _) (foreseen_ok _)
  | error fault => simp [Foreseen, Except.map]

theorem Foreseen.bind {α β : Type} {first : Except MailFault α} {next : α → Except MailFault β}
    (foreseen : Foreseen first) (after : ∀ a, Foreseen (next a)) : Foreseen (first >>= next) := by
  cases first with
  | ok a => exact after a
  | error fault =>
    rintro _ ⟨⟩
    exact foreseen fault rfl

theorem Foreseen.cases {α : Type} {result : Except MailFault α} (foreseen : Foreseen result) :
    (∃ a, result = .ok a) ∨ ∃ e, result = .error (.delivery e) := by
  cases result with
  | ok a => exact .inl ⟨a, rfl⟩
  | error fault =>
    obtain ⟨e, rfl⟩ := foreseen fault rfl
    exact .inr ⟨e, rfl⟩

/-! ## Answers of remote services -/

/-- The status of an answer is a number that can be written out. -/
def HttpReply.IsNumbered : HttpReply → Prop
  | .answer status _ => (Value.int status).IsShown
  | .failure _ => True

/-- The value is an object. -/
def Value.isObject : Value → Bool
  | .object _ => true
  | _ => false

/-- An answer with an error status whose body is JSON of no more than this depth, but no object. -/
def HttpReply.IsOddRefusal (depth : Nat) : HttpReply → Prop
  | .answer status body => 400 ≤ status ∧ (Remote.readBody depth body).isObject = false
  | .failure _ => False

/-- The answer to the next request that is posted. -/
def Outbox.nextReply (o : Outbox) : HttpReply :=
  o.transport.replies.headD (.answer 200 "")

theorem Outbox.post_fst (o : Outbox) (request : HttpPost) : (o.post request).1 = o.nextReply := by
  unfold post nextReply
  dsimp only
  split <;> simp_all

theorem Outbox.post_sent (o : Outbox) (request : HttpPost) :
    (o.post request).2.sent = o.sent ++ [.post request] := by
  unfold post
  dsimp only
  split <;> rfl

namespace Remote

theorem readBody_isShown (depth : Nat) (body : String) : (readBody depth body).IsShown := by
  unfold readBody
  split
  · exact Value.isShown_object_iff.mpr (by simp)
  · split
    · rename_i v read
      exact Json.readChars_isShown read
    · exact Value.isShown_object_iff.mpr (by simp)

theorem refusalDetail_isSome {status : Int} (body : String) {members : Members}
    (numbered : (Value.int status).IsShown) (shown : ∀ m ∈ members, m.2.IsShown) :
    (refusalDetail status body members).isSome = true := by
  have member : ∀ key, ((members.get? key).getD .null).IsShown := by
    intro key
    cases found : members.get? key with
    | none => exact rfl
    | some v => exact shown _ (Members.mem_of_get? found)
  apply Value.IsShown.text?_isSome
  cases found : List.find? Value.isTruthy [(members.get? "detail").getD .null,
      (members.get? "errors").getD .null, .text body] with
  | none => exact numbered
  | some v =>
    have mem := List.mem_of_find?_eq_some found
    simp only [List.mem_cons, List.not_mem_nil, or_false] at mem
    rcases mem with rfl | rfl | rfl
    · exact member _
    · exact member _
    · exact rfl

/-- A remote service that refuses in a way of its own makes a fault that nobody foresees. -/
theorem judge_cases {depth : Nat} {service : String} {status : Int} {body : String}
    (numbered : (Value.int status).IsShown) :
    ((HttpReply.answer status body).IsOddRefusal depth ∧
        judge depth service status body = .error .errorBody) ∨
      (¬ (HttpReply.answer status body).IsOddRefusal depth ∧
        Foreseen (judge depth service status body)) := by
  have shown := readBody_isShown depth body
  unfold judge HttpReply.IsOddRefusal
  by_cases accepted : status < 400
  · simp only [accepted, if_true]
    exact .inr ⟨by omega, foreseen_ok _⟩
  · simp only [accepted, if_false]
    split
    · rename_i members read
      rw [read, Value.isShown_object_iff] at shown
      obtain ⟨detail, found⟩ :=
        Option.isSome_iff_exists.mp (refusalDetail_isSome body numbered shown)
      rw [found]
      exact .inr ⟨by simp [read, Value.isObject], foreseen_delivery _⟩
    · rename_i other
      refine .inl ⟨⟨by omega, ?_⟩, rfl⟩
      cases read : readBody depth body with
      | object members => exact absurd read (other members)
      | _ => rfl

theorem post_cases (depth : Nat) (service : String) (request : HttpPost) {o : Outbox}
    (numbered : o.nextReply.IsNumbered) :
    (o.nextReply.IsOddRefusal depth ∧ (post depth service request o).1 = .error .errorBody) ∨
      (¬ o.nextReply.IsOddRefusal depth ∧ Foreseen (post depth service request o).1) := by
  have met := Outbox.post_fst o request
  unfold post
  split
  · rename_i reason o' posted
    rw [posted] at met
    rw [← met]
    exact .inr ⟨id, foreseen_delivery _⟩
  · rename_i status body o' posted
    rw [posted] at met
    rw [← met] at numbered ⊢
    exact judge_cases numbered

theorem post_sent (depth : Nat) (service : String) (request : HttpPost) (o : Outbox) :
    (post depth service request o).2.sent = o.sent ++ [.post request] := by
  rw [← Outbox.post_sent, post]
  split <;> simp_all

end Remote

/-! ## The courses of a delivery -/

namespace Mail

/-- What was sent with a letter was no request to a remote service. -/
def PostsNothing (o : Outbox) (outcome : Outcome) : Prop :=
  ∀ request, outcome.2.sent ≠ o.sent ++ [.post request]

/-- A delivery ends as foreseen without a request to a remote service, or the answer to its only
    request decides, which is read up to a depth. -/
inductive Course (depth : Nat) (o : Outbox) (outcome : Outcome) : Prop
  | unposted (foreseen : Foreseen outcome.1) (nothing : PostsNothing o outcome)
  | posted (service : String) (request : HttpPost) (receipt : Int × Value → Value)
      (same : outcome =
        ((Remote.post depth service request o).1.map receipt,
          (Remote.post depth service request o).2))

theorem postsNothing_of_same {o : Outbox} {outcome : Outcome} (same : outcome.2.sent = o.sent) :
    PostsNothing o outcome := by
  intro request added
  simp [same] at added

theorem course_failed (depth : Nat) (o : Outbox) (e : DeliveryError) :
    Course depth o (.error (.delivery e), o) :=
  .unposted (foreseen_delivery e) (postsNothing_of_same rfl)

theorem postsNothing_addSteps {o : Outbox} {steps : List SmtpStep}
    (result : Except MailFault Value) :
    PostsNothing o (result, o.addSteps steps) := by
  intro request added
  have last := List.append_cancel_left added
  cases steps with
  | nil => simp at last
  | cons step rest => simp at last

theorem viaSmtp_course {settings : Settings} (typed : settings.Typed) (letter : Letter)
    (recipients : List String) (o : Outbox) :
    Course settings.replyDepth o (viaSmtp settings letter recipients o) := by
  obtain ⟨account, found⟩ := typed.account
  unfold viaSmtp Smtp.deliver
  rw [found]
  dsimp only
  split
  · exact course_failed _ o _
  · split
    · exact course_failed _ o _
    · split
      · exact .unposted (foreseen_delivery _) (postsNothing_addSteps _)
      · exact .unposted (foreseen_ok _) (postsNothing_addSteps _)

/-- What becomes of a request once it is prepared, or is not. -/
def handOver (depth : Nat) (service : String) (receipt : Int × Value → Value) (o : Outbox) :
    Except MailFault HttpPost → Outcome
  | .error e => (.error e, o)
  | .ok request =>
    ((Remote.post depth service request o).1.map receipt,
      (Remote.post depth service request o).2)

theorem handOver_course {prepared : Except MailFault HttpPost} (foreseen : Foreseen prepared)
    (depth : Nat) (service : String) (receipt : Int × Value → Value) (o : Outbox) :
    Course depth o (handOver depth service receipt o prepared) := by
  rcases foreseen.cases with ⟨request, rfl⟩ | ⟨e, rfl⟩
  · exact .posted service request receipt rfl
  · exact course_failed depth o e

theorem settingText_foreseen {settings : Settings} (typed : settings.Typed) {s : Setting}
    (kind : s.kind = .text) : Foreseen (Smtp.settingText settings s) := by
  obtain ⟨text, found⟩ := typed.settingText kind
  exact found ▸ foreseen_ok text

theorem senderOf_foreseen {settings : Settings} (typed : settings.Typed) :
    Foreseen (Smtp.senderOf settings) := by
  obtain ⟨sender, found⟩ := typed.senderOf
  exact found ▸ foreseen_ok sender

theorem viaService_course {settings : Settings} (typed : settings.Typed) (letter : Letter)
    (recipients : List String) (o : Outbox) :
    Course settings.replyDepth o (Remote.viaService settings letter recipients o) := by
  have access : Foreseen (Remote.serviceAccess settings) := by
    refine (settingText_foreseen typed rfl).bind fun url => ?_
    refine (settingText_foreseen typed rfl).bind fun token => ?_
    split
    · exact foreseen_delivery _
    · split
      · exact foreseen_delivery _
      · exact foreseen_ok _
  refine handOver_course (access.bind fun (url, token) => ?_) _ "email-service" _ o
  exact (senderOf_foreseen typed).bind fun sender => foreseen_ok _

theorem viaSendgrid_course {settings : Settings} (typed : settings.Typed) (letter : Letter)
    (recipients : List String) (o : Outbox) :
    Course settings.replyDepth o (Remote.viaSendgrid settings letter recipients o) := by
  have key : Foreseen (Remote.required settings .sendgridKey "SENDGRID_API_KEY") := by
    refine (settingText_foreseen typed rfl).bind fun key => ?_
    split
    · exact foreseen_delivery _
    · exact foreseen_ok _
  refine handOver_course (key.bind fun key => ?_) _ "sendgrid" _ o
  obtain ⟨url, found⟩ := typed.text (s := .sendgridUrl) rfl
  rw [found]
  exact (senderOf_foreseen typed).bind fun sender => foreseen_ok _

theorem via_course {settings : Settings} (typed : settings.Typed) (name : String) (letter : Letter)
    (recipients : List String) (o : Outbox) :
    Course settings.replyDepth o (via name settings letter recipients o) := by
  unfold via
  split
  · exact .unposted (foreseen_ok _) (postsNothing_of_same rfl)
  · split
    · exact viaSmtp_course typed letter recipients o
    · split
      · exact viaService_course typed letter recipients o
      · split
        · exact viaSendgrid_course typed letter recipients o
        · exact course_failed _ o _

end Mail

/-! ## Receivers -/

/-- A text, or nothing in its place. -/
def Value.IsName : Value → Prop
  | .text _ | .null => True
  | _ => False

/-- What mail may be sent to: a text, or a collection of texts. -/
def Recipients.IsNamed : Value → Prop
  | .list items | .tuple items => ∀ v ∈ items, v.IsName
  | v => v.IsName

theorem Value.IsName.isShown {v : Value} (name : v.IsName) : v.IsShown := by
  cases v with
  | text | null => exact rfl
  | _ => exact name.elim

namespace Recipients

theorem IsNamed.isShown {receivers : Value} (named : IsNamed receivers) : receivers.IsShown := by
  cases receivers with
  | list items => exact Value.isShown_list_iff.mpr fun v mem => (named v mem).isShown
  | tuple items => exact Value.isShown_tuple_iff.mpr fun v mem => (named v mem).isShown
  | _ => exact Value.IsName.isShown named

theorem exists_addresses {items : List Value} (named : ∀ v ∈ items, v.IsName) :
    ∃ addresses, items.mapM address = .ok addresses := by
  induction items with
  | nil => exact ⟨[], rfl⟩
  | cons item rest ih =>
    obtain ⟨others, found⟩ := ih fun v mem => named v (List.mem_cons_of_mem item mem)
    have own : ∃ s, address item = .ok s := by
      have name := named item List.mem_cons_self
      unfold address Value.textOr?
      cases item with
      | text s => cases (Value.text s).isTruthy <;> exact ⟨_, rfl⟩
      | null => exact ⟨_, rfl⟩
      | _ => exact name.elim
    obtain ⟨s, first⟩ := own
    exact ⟨s :: others, by rw [List.mapM_cons, first, found]; rfl⟩

theorem IsNamed.normalize {receivers : Value} (named : IsNamed receivers) :
    ∃ recipients, normalize receivers = .ok recipients := by
  have collected : ∃ found, items receivers = .ok found ∧ ∀ v ∈ found, v.IsName := by
    cases receivers with
    | text s => exact ⟨[.text s], rfl, by simp [Value.IsName]⟩
    | list found => exact ⟨found, rfl, named⟩
    | tuple found => exact ⟨found, rfl, named⟩
    | null => exact ⟨[], rfl, by simp⟩
    | _ => exact named.elim
  obtain ⟨found, taken, names⟩ := collected
  obtain ⟨addresses, read⟩ := exists_addresses names
  refine ⟨addresses.filter (!·.isEmpty), ?_⟩
  exact bind_eq_ok_iff.mpr ⟨found, taken, bind_eq_ok_iff.mpr ⟨addresses, read, rfl⟩⟩

end Recipients

/-! ## Deliveries -/

namespace Mail

/-- A letter is posted to a remote service that answers it with an odd refusal. -/
def MeetsOddRefusal (settings : Settings) (receivers : Value) (letter : Letter)
    (o : Outbox) : Prop :=
  (∃ request, (deliver settings receivers letter o).2.sent = o.sent ++ [.post request]) ∧
    o.nextReply.IsOddRefusal settings.replyDepth

theorem deliver_course {settings : Settings} (typed : settings.Typed) {receivers : Value}
    (named : Recipients.IsNamed receivers) (letter : Letter) (o : Outbox) :
    Course settings.replyDepth o (deliver settings receivers letter o) := by
  obtain ⟨recipients, normal⟩ := named.normalize
  obtain ⟨name, configured⟩ := typed.provider
  unfold deliver someRecipients
  rw [normal, configured]
  cases recipients with
  | nil => exact course_failed _ o .noRecipient
  | cons first rest => exact via_course typed name letter (first :: rest) o

theorem deliver_cases {settings : Settings} (typed : settings.Typed) {receivers : Value}
    (named : Recipients.IsNamed receivers) (letter : Letter) {o : Outbox}
    (numbered : o.nextReply.IsNumbered) :
    (MeetsOddRefusal settings receivers letter o ∧
        (deliver settings receivers letter o).1 = .error .errorBody) ∨
      (¬ MeetsOddRefusal settings receivers letter o ∧
        Foreseen (deliver settings receivers letter o).1) := by
  unfold MeetsOddRefusal
  cases deliver_course typed named letter o with
  | unposted foreseen nothing =>
    exact .inr ⟨fun ⟨⟨request, added⟩, _⟩ => nothing request added, foreseen⟩
  | posted service request receipt same =>
    rw [same, Remote.post_sent]
    rcases Remote.post_cases settings.replyDepth service request numbered with
      ⟨odd, failed⟩ | ⟨even, foreseen⟩
    · exact .inl ⟨⟨⟨request, rfl⟩, odd⟩, by rw [failed]; rfl⟩
    · exact .inr ⟨fun meets => even meets.2, foreseen_map_iff.mpr foreseen⟩

theorem not_foreseen_errorBody : ¬ Foreseen (.error .errorBody : Except MailFault Value) := by
  intro foreseen
  obtain ⟨e, same⟩ := foreseen _ rfl
  cases same

theorem send_isOk_iff {settings : Settings} (typed : settings.Typed) {receivers : Value}
    (named : Recipients.IsNamed receivers) (letter : Letter) (o : Outbox) :
    (∃ v, (send settings receivers letter o).1 = .ok v) ↔
      settings.isTestEnv? = some true ∨ Foreseen (deliver settings receivers letter o).1 := by
  obtain ⟨isTest, asked⟩ := typed.isTestEnv
  obtain ⟨name, configured⟩ := typed.provider
  obtain ⟨text, shown⟩ := Option.isSome_iff_exists.mp named.isShown.text?_isSome
  unfold send
  rw [asked, configured, shown]
  cases isTest with
  | true => exact iff_of_true ⟨_, rfl⟩ (.inl rfl)
  | false =>
    rcases deliver settings receivers letter o with ⟨result, after⟩
    cases result with
    | ok v => exact iff_of_true ⟨v, rfl⟩ (.inr (foreseen_ok v))
    | error fault =>
      cases fault with
      | delivery e => exact iff_of_true ⟨_, rfl⟩ (.inr (foreseen_delivery e))
      | _ => simp [Foreseen]

end Mail

/-- A request for a code whose letter is not delivered is answered by the fault of the delivery. -/
theorem Otp.answer_of_failed_delivery {s : Service} {r : Http.Request} {request : CodeRequest}
    (asks : task? s.settings.payloadDepth r = some (.send request))
    (admitted : Admitted (Task.send request).key)
    {draw : Draw} {letter : Letter}
    (written : Mail.codeLetter s.settings draw.code (Task.send request).key.purpose = .ok letter)
    {fault : MailFault} (failed : (Mail.deliver s.settings (.text (Task.send request).key.email)
      letter s.outbox).1 = .error fault) :
    (s.handle draw r).1 = (Service.unsent (.mail fault)).map (dressed s.origins draw r) := by
  have key : OtpKey.ofTexts request.purpose request.email = .ok (Task.send request).key :=
    ofTexts_ok_iff.mpr ⟨rfl, admitted⟩
  rw [handle_of_task asks]
  unfold perform Service.sendCode Otp.send Mail.sendCode
  dsimp only
  rw [key]
  dsimp only
  rw [written]
  dsimp only
  rcases delivered : Mail.deliver s.settings (.text (Task.send request).key.email) letter s.outbox
    with ⟨result, after⟩
  rw [delivered] at failed
  subst failed
  rfl

/-- Settings that hand mail to SendGrid. -/
def sendgridSettings : Settings :=
  ((Settings.defaults "sqlite://").set .emailProvider (.text "sendgrid")).set .sendgridKey
    (.text "key")

/-- A service whose mail is refused, for a reason that stands in a list. -/
def refusedService : Service where
  settings := sendgridSettings
  now := ⟨0, some 0⟩
  outbox := { transport := { replies := [.answer 500 "[\"busy\"]"] } }

/-- Every status of three digits is written out. -/
theorem HttpReply.isNumbered_of_lt {status : Int} (small : status.natAbs < 1000) (body : String) :
    (answer status body).IsNumbered := by
  have fits := Numeral.lt_pow_of_lt (k := 3) Numeral.maxDigits small (by decide)
  rw [IsNumbered, Value.IsShown, Value.shown?, intText?, if_pos fits]
  rfl

theorem typed_sendgridSettings : sendgridSettings.Typed :=
  ((Settings.typed_defaults _).set rfl).set rfl

end QueryDesk
