import QueryDesk.Proofs.Json.RoundTrip
import QueryDesk.Proofs.Mail.Delivery
import QueryDesk.Proofs.Text.NormalForm
import QueryDesk.Service.Gateway

/-!
# Mail through the gateway

A letter that is handed to the gateway reaches the mail server as if it had been delivered there
directly. On the way the recipients are put in normal form again, the token is trimmed again, and
the payload is read again; none of these changes anything. Without the token the gateway sends
nothing.
-/

namespace QueryDesk

/-! ## Recipients -/

namespace Recipients

/-- An address that is no longer changed by putting it in normal form, and that is not dropped. -/
def IsNormal (address : String) : Prop :=
  address ≠ "" ∧ normalizeEmail address = address

theorem address_isNormal {item : Value} {s : String} (read : address item = .ok s) (kept : s ≠ "") :
    IsNormal s := by
  unfold address at read
  split at read
  · obtain rfl := Except.ok.inj read
    exact ⟨kept, normalizeEmail_normalizeEmail _⟩
  · cases read

theorem mapM_address_isNormal {items : List Value} {addresses : List String}
    (read : items.mapM address = .ok addresses) :
    ∀ s ∈ addresses.filter (!·.isEmpty), IsNormal s := by
  induction items generalizing addresses with
  | nil =>
    obtain rfl := Except.ok.inj read
    simp
  | cons item rest ih =>
    simp only [List.mapM_cons, bind_eq_ok_iff] at read
    obtain ⟨first, own, others, more, same⟩ := read
    obtain rfl := Except.ok.inj same
    intro s mem
    obtain ⟨mem, kept⟩ := List.mem_filter.mp mem
    have nonempty : s ≠ "" := by
      rintro rfl
      cases kept
    rcases List.mem_cons.mp mem with rfl | later
    · exact address_isNormal own nonempty
    · exact ih more s (List.mem_filter.mpr ⟨later, kept⟩)

theorem normalize_isNormal {receivers : Value} {recipients : List String}
    (read : normalize receivers = .ok recipients) : ∀ s ∈ recipients, IsNormal s := by
  simp only [normalize, bind_eq_ok_iff] at read
  obtain ⟨found, -, addresses, all, same⟩ := read
  obtain rfl := Except.ok.inj same
  exact mapM_address_isNormal all

theorem address_text (s : String) : address (.text s) = .ok (normalizeEmail s) := by
  rw [address, Value.textOr?]
  by_cases empty : s = ""
  · rw [empty]
    rfl
  · have given : (Value.text s).isTruthy = true := by
      simp [Value.isTruthy, empty]
    rw [if_pos given]
    rfl

theorem normalize_texts (texts : List String) : normalize (.list (texts.map .text)) =
    .ok ((texts.map normalizeEmail).filter (!·.isEmpty)) := by
  have addresses : (texts.map Value.text).mapM address = .ok (texts.map normalizeEmail) := by
    have each : address ∘ Value.text = fun s => pure (normalizeEmail s) := funext address_text
    rw [List.mapM_map, each]
    exact List.mapM_pure
  exact bind_eq_ok_iff.mpr ⟨_, rfl, bind_eq_ok_iff.mpr ⟨_, addresses, rfl⟩⟩

/-- Recipients are their own normal form. -/
theorem normalize_normal {recipients : List String} (normal : ∀ s ∈ recipients, IsNormal s) :
    normalize (.list (recipients.map .text)) = .ok recipients := by
  have same : recipients.map normalizeEmail = recipients := by
    conv_rhs => rw [← List.map_id recipients]
    exact List.map_congr_left fun s mem => (normal s mem).2
  have kept : recipients.filter (!·.isEmpty) = recipients := by
    rw [List.filter_eq_self]
    intro s mem
    simp [(normal s mem).1]
  rw [normalize_texts, same, kept]

theorem length_batches_le (separately : Bool) {recipients : List String} (some : recipients ≠ []) :
    (batches separately recipients).length ≤ recipients.length := by
  unfold batches
  split
  · rw [List.length_map]
  · exact List.length_pos_iff.mpr some

end Recipients

namespace Mail

theorem someRecipients_eq_ok {receivers : Value} {recipients : List String}
    (found : someRecipients receivers = .ok recipients) :
    Recipients.normalize receivers = .ok recipients ∧ recipients ≠ [] := by
  unfold someRecipients at found
  split at found
  · cases found
  · cases found
  · rename_i some read
    obtain rfl := Except.ok.inj found
    exact ⟨read, some⟩

/-- Recipients that were found once are found again. -/
theorem someRecipients_texts {receivers : Value} {recipients : List String}
    (found : someRecipients receivers = .ok recipients) :
    someRecipients (.list (recipients.map .text)) = .ok recipients := by
  obtain ⟨read, some⟩ := someRecipients_eq_ok found
  have again := Recipients.normalize_normal (Recipients.normalize_isNormal read)
  unfold someRecipients
  rw [again]
  cases recipients with
  | nil => exact absurd rfl some
  | cons first rest => rfl

/-! ## What is posted -/

/-- The settings hand mail to the gateway. -/
def UsesService (settings : Settings) : Prop :=
  provider settings = .ok "service" ∨ provider settings = .ok "email_service"

theorem deliver_of_provider {settings : Settings} {receivers : Value} {letter : Letter} {o : Outbox}
    {recipients : List String} (found : someRecipients receivers = .ok recipients) {name : String}
    (configured : provider settings = .ok name) :
    deliver settings receivers letter o = via name settings letter recipients o := by
  rw [deliver, found, configured]

theorem handOver_posted {depth : Nat} {service : String} {receipt : Int × Value → Value}
    {o : Outbox} {prepared : Except MailFault HttpPost} {posted : HttpPost}
    (sent : (handOver depth service receipt o prepared).2.sent = o.sent ++ [.post posted]) :
    prepared = .ok posted := by
  cases prepared with
  | error fault => simp [handOver] at sent
  | ok request =>
    rw [handOver, Remote.post_sent] at sent
    simpa using sent

/-- A letter that is posted to the gateway is posted for the recipients of the letter. -/
theorem posted_of_sent {settings : Settings} (uses : UsesService settings) {receivers : Value}
    {letter : Letter} {o : Outbox} {posted : HttpPost}
    (sent : (deliver settings receivers letter o).2.sent = o.sent ++ [.post posted]) :
    ∃ recipients url token sender, someRecipients receivers = .ok recipients ∧
      Remote.serviceAccess settings = .ok (url, token) ∧
      posted = Remote.serviceRequest url token sender letter recipients := by
  cases found : someRecipients receivers with
  | error fault => simp [deliver, found] at sent
  | ok recipients =>
    have handed : deliver settings receivers letter o =
        Remote.viaService settings letter recipients o := by
      rcases uses with configured | configured
      · exact deliver_of_provider found configured
      · exact deliver_of_provider found configured
    rw [handed] at sent
    have prepared := handOver_posted sent
    simp only [bind_eq_ok_iff, Prod.exists] at prepared
    obtain ⟨url, token, access, sender, -, same⟩ := prepared
    exact ⟨recipients, url, token, sender, rfl, access, (Except.ok.inj same).symm⟩

theorem viaSmtp_eq_ok {settings : Settings} {letter : Letter} {recipients : List String}
    {o : Outbox} {v : Value} (delivered : (viaSmtp settings letter recipients o).1 = .ok v) :
    v = Smtp.accepted (Recipients.batches letter.separately recipients).length := by
  unfold viaSmtp at delivered
  split at delivered
  · cases delivered
  · simp only [mapError_eq_ok_iff] at delivered
    unfold Smtp.deliver at delivered
    split at delivered
    · cases delivered
    · split at delivered
      · cases delivered
      · dsimp only at delivered
        split at delivered
        · cases delivered
        · exact (Except.ok.inj delivered).symm

end Mail

/-- The settings with which mail goes to the mail server itself. -/
def Settings.direct (settings : Settings) : Settings :=
  settings.set .emailProvider (.text "smtp")

/-- Direct delivery goes by the same account. -/
theorem Mail.deliver_direct {receivers : Value} {recipients : List String}
    (found : Mail.someRecipients receivers = .ok recipients) (settings : Settings) (letter : Letter)
    (o : Outbox) : Mail.deliver settings.direct receivers letter o =
      Mail.viaSmtp settings letter recipients o := by
  have named : Text.lower (Text.strip "smtp") = "smtp" := by decide +kernel
  have configured : Mail.provider settings.direct = .ok "smtp" := congrArg Except.ok named
  rw [Mail.deliver_of_provider found configured]
  rfl

namespace Remote

theorem serviceAccess_eq_ok {settings : Settings} {url token : String}
    (access : serviceAccess settings = .ok (url, token)) :
    Smtp.settingText settings .serviceToken = .ok token ∧ token ≠ "" := by
  simp only [serviceAccess, bind_eq_ok_iff] at access
  obtain ⟨address, -, secret, found, rest⟩ := access
  split at rest
  · cases rest
  · split at rest
    · cases rest
    · rename_i given
      obtain ⟨-, rfl⟩ := Prod.mk.inj (Except.ok.inj rest)
      exact ⟨found, by simpa using given⟩

end Remote

theorem Smtp.strip_settingText {settings : Settings} {s : Setting} {text : String}
    (found : Smtp.settingText settings s = .ok text) : Text.strip text = text := by
  unfold Smtp.settingText at found
  split at found
  · obtain rfl := Except.ok.inj found
    exact Text.strip_strip _
  · cases found

/-! ## The request -/

namespace Gateway

open Http Validation

/-- A request brings to the gateway what was posted to it: the headers and the payload, which is
    read up to a depth. -/
structure Brings (depth : Nat) (r : Request) (posted : HttpPost) : Prop where
  method : r.method = "POST"
  path : r.path = "/internal/send"
  headers : ∀ header ∈ posted.headers, r.header? header.1 = some header.2
  payload : Payload.value? depth r = .ok (some posted.payload)

theorem destination_of_brings {depth : Nat} {r : Request} {posted : HttpPost}
    (brings : Brings depth r posted) : destination routes r = .target .send := by
  unfold destination
  rw [brings.path, brings.method]
  rfl

theorem strings_texts (location : List String) (recipients : List String) :
    strings location (.list (recipients.map .text)) = .ok recipients := by
  have all : ∀ start, every (((recipients.map Value.text).zipIdx start).map fun item =>
      string (location ++ [toString item.2]) item.1) = .ok recipients := by
    induction recipients with
    | nil => exact fun start => rfl
    | cons first rest ih =>
      intro start
      rw [List.map_cons, List.zipIdx_cons, List.map_cons]
      exact every_cons_eq_ok_iff.mpr ⟨first, rest, rfl, ih (start + 1), rfl⟩
  exact all 0

theorem string?_ofOption (location : List String) (text : Option String) :
    string? location ((text.map .text).getD .null) = .ok text := by
  cases text <;> rfl

theorem read_of_brings {depth : Nat} {r : Request} {url token sender : String} {letter : Letter}
    {recipients : List String}
    (brings : Brings depth r (Remote.serviceRequest url token sender letter recipients)) :
    Payload.read depth r MailRequest.read = .ok ⟨recipients, letter⟩ := by
  have payload := brings.payload
  unfold Payload.read Payload.members
  rw [payload]
  refine bind_eq_ok_iff.mpr ⟨_, rfl, mapError_eq_ok_iff.mpr (map_eq_ok_iff.mpr ?_)⟩
  refine ⟨(recipients, (letter.subject, letter.html), (letter.text, letter.separately)), ?_, rfl⟩
  refine both_eq_ok_iff.mpr ⟨strings_texts _ recipients, both_eq_ok_iff.mpr
    ⟨both_eq_ok_iff.mpr ⟨rfl, rfl⟩, both_eq_ok_iff.mpr ⟨string?_ofOption _ letter.text, rfl⟩⟩⟩

theorem broughtToken_of_brings {depth : Nat} {r : Request} {url token sender : String}
    {letter : Letter} {recipients : List String}
    (brings : Brings depth r (Remote.serviceRequest url token sender letter recipients)) :
    broughtToken r = Text.strip token := by
  rw [broughtToken, brings.headers ("X-Internal-Token", token) (by simp [Remote.serviceRequest])]
  rfl

/-- The request that carries what was posted in compact JSON. -/
def carrier (posted : HttpPost) : Request where
  method := "POST"
  path := "/internal/send"
  headers := posted.headers
  body := Json.compact posted.payload

theorem arePlain_texts (depth : Nat) (items : List String) :
    Json.arePlain depth (items.map .text) = true := by
  induction items with
  | nil => rfl
  | cons first rest ih => simp [Json.arePlain, Json.isPlain, ih]

theorem brings_carrier (settings : Settings) (url token sender : String) (letter : Letter)
    (recipients : List String) : Brings settings.payloadDepth
      (carrier (Remote.serviceRequest url token sender letter recipients))
      (Remote.serviceRequest url token sender letter recipients) := by
  have same : ∀ name, sameName name name = true := by simp [sameName]
  have other : sameName "X-Internal-Token" "Content-Type" = false := by decide +kernel
  have content : (carrier (Remote.serviceRequest url token sender letter recipients)).header?
      "Content-Type" = some "application/json" := by
    simp [Request.header?, carrier, Remote.serviceRequest, Remote.jsonContent, other, same]
  constructor
  · rfl
  · rfl
  · intro header mem
    simp only [Remote.serviceRequest, List.mem_cons, List.not_mem_nil, or_false] at mem
    rcases mem with rfl | rfl
    · simp [Request.header?, carrier, Remote.serviceRequest, same]
    · exact content
  · refine Payload.value?_compact ?_ rfl ?_
    · rw [Payload.declaresJson, content]
      decide +kernel
    · obtain ⟨depth, deep⟩ := settings.platform.nesting.exists_limit .payload
      rw [Settings.payloadDepth, deep]
      cases letter.text <;>
        simp [Json.isPlain, Json.membersArePlain, Remote.texts, Members.keys, arePlain_texts]

/-! ## The answer -/

theorem refusalOf?_mailAnswer (result : Except MailFault Value) (message : String) :
    Otp.refusalOf? (mailAnswer result) = some (502, message) ↔
      ∃ e : DeliveryError, result = .error (.delivery e) ∧ e.message = message := by
  cases result with
  | ok v =>
    simp only [mailAnswer, Answer.json]
    split <;> simp [Otp.refusalOf?, Http.ok]
  | error fault =>
    cases fault with
    | delivery e => simp [mailAnswer, Otp.refusalOf?_detail]
    | _ => simp [mailAnswer, Otp.refusalOf?]

theorem statusOf?_mailAnswer {result : Except MailFault Value}
    (small : ∀ v, result = .ok v → ∃ n < Nat.pow 10 Numeral.maxDigits, v = Smtp.accepted n) :
    Otp.statusOf? (mailAnswer result) = some 200 ↔ ∃ v, result = .ok v := by
  cases result with
  | ok v =>
    obtain ⟨n, fits, rfl⟩ := small v rfl
    have written : Json.writeFault?
        (.object [("status", .text "sent"), ("result", Smtp.accepted n)]) = none := by
      have number : Json.formFault? (.int n) = none := by
        rw [Json.formFault?, Int.natAbs_natCast, if_pos fits]
      have text : ∀ s, Json.formFault? (.text s) = none := fun s => rfl
      have bool : ∀ b, Json.formFault? (.bool b) = none := fun b => rfl
      simp [Json.writeFault?, Smtp.accepted, Json.leaves, Json.leavesOfMembers, number, text, bool,
        Json.isDamaged]
    rw [mailAnswer, Answer.json, written]
    exact iff_of_true rfl ⟨_, rfl⟩
  | error fault =>
    cases fault with
    | delivery e => simp [mailAnswer, Otp.statusOf?, detail]
    | _ => simp [mailAnswer, Otp.statusOf?]

/-! ## The hop -/

theorem handle_of_brings {settings : Settings} {receivers : Value} {letter : Letter}
    {recipients : List String} {r : Request} {url token sender : String}
    (found : Mail.someRecipients receivers = .ok recipients)
    (access : Remote.serviceAccess settings = .ok (url, token))
    (brings : Brings settings.payloadDepth r
      (Remote.serviceRequest url token sender letter recipients)) (o : Outbox) :
    handle settings r o = (mailAnswer (Mail.deliver settings.direct receivers letter o).1,
      (Mail.deliver settings.direct receivers letter o).2) := by
  obtain ⟨expected, known⟩ := Remote.serviceAccess_eq_ok access
  have brought : broughtToken r = token := by
    rw [broughtToken_of_brings brings, Smtp.strip_settingText expected]
  unfold handle
  rw [destination_of_brings brings]
  dsimp only
  rw [read_of_brings brings]
  dsimp only
  unfold sendMail
  rw [expectedToken, expected]
  simp only [String.isEmpty_iff, known, brought, if_false, ne_eq, not_true]
  rw [Mail.sendViaSmtp, Mail.someRecipients_texts found, Mail.deliver_direct found]

/-- Without the token the gateway sends nothing. -/
theorem knows_token_of_sent {settings : Settings} {r : Request} {o : Outbox}
    (sends : (handle settings r o).2 ≠ o) :
    ∃ token, expectedToken settings = .ok token ∧ token ≠ "" ∧ broughtToken r = token := by
  unfold handle at sends
  split at sends
  · exact absurd rfl sends
  · split at sends
    · rename_i request read
      unfold sendMail at sends
      split at sends
      · exact absurd rfl sends
      · rename_i token expected
        split at sends
        · exact absurd rfl sends
        · rename_i known
          split at sends
          · exact absurd rfl sends
          · rename_i brought
            exact ⟨token, expected, by simpa using known, by simpa using brought⟩
    · exact absurd rfl sends
  · exact absurd rfl sends
  · exact absurd rfl sends

/-- What the gateway does with a request, and what it answers, is what direct delivery of a letter
    does and gives. The count of messages in its answer has to be one that can be written out. -/
structure SameAsDirect (settings : Settings) (receivers : Value) (letter : Letter) (r : Request)
    (o : Outbox) : Prop where
  outbox : (handle settings r o).2 = (Mail.deliver settings.direct receivers letter o).2
  refused : ∀ message, Otp.refusalOf? (handle settings r o).1 = some (502, message) ↔
    ∃ e : DeliveryError, (Mail.deliver settings.direct receivers letter o).1 =
      .error (.delivery e) ∧ e.message = message
  accepted : ∀ recipients, Recipients.normalize receivers = .ok recipients →
    recipients.length < Nat.pow 10 Numeral.maxDigits →
    (Otp.statusOf? (handle settings r o).1 = some 200 ↔
      ∃ v, (Mail.deliver settings.direct receivers letter o).1 = .ok v)

/-- A letter that is posted to the gateway can be brought there, and in whatever form it is brought,
    the gateway does with it what direct delivery does. For a request that does not bring its token
    the gateway sends nothing. -/
theorem hop_equals_direct :
    (∀ settings receivers letter o posted, Mail.UsesService settings →
      (Mail.deliver settings receivers letter o).2.sent = o.sent ++ [.post posted] →
      (∃ r, Brings settings.payloadDepth r posted) ∧
        ∀ r, Brings settings.payloadDepth r posted →
          ∀ o', SameAsDirect settings receivers letter r o') ∧
    ∀ settings r o, (handle settings r o).2 ≠ o →
      ∃ token, expectedToken settings = .ok token ∧ token ≠ "" ∧ broughtToken r = token := by
  refine ⟨?_, fun settings r o sends => knows_token_of_sent sends⟩
  intro settings receivers letter o posted uses sent
  obtain ⟨recipients, url, token, sender, found, access, rfl⟩ := Mail.posted_of_sent uses sent
  refine ⟨⟨_, brings_carrier settings url token sender letter recipients⟩, fun r brings o' => ?_⟩
  have same := handle_of_brings found access brings o'
  constructor
  · rw [same]
  · intro message
    rw [same]
    exact refusalOf?_mailAnswer _ message
  · intro recipients' read fits
    rw [same]
    refine statusOf?_mailAnswer fun v delivered => ?_
    obtain rfl : recipients = recipients' := by
      rw [(Mail.someRecipients_eq_ok found).1] at read
      exact Except.ok.inj read
    rw [Mail.deliver_direct found] at delivered
    refine ⟨_, Nat.lt_of_le_of_lt ?_ fits, Mail.viaSmtp_eq_ok delivered⟩
    exact Recipients.length_batches_le _ (Mail.someRecipients_eq_ok found).2

/-- Settings that hand mail to the gateway, which knows a mail server. -/
def sharedSettings : Settings :=
  ((Settings.defaults "sqlite://").set .emailProvider (.text " Service")).set .smtpHost
    (.text "mail")

/-- A letter to everybody alone. -/
def greeting : Letter := ⟨"Hi", "<p>Hi</p>", none, true⟩

theorem greeting_hops : Mail.UsesService sharedSettings ∧ ∃ posted r,
    (Mail.deliver sharedSettings (.list [.text " Ann@B.c", .text "", .text "bob@b.c"]) greeting
      {}).2.sent = [] ++ [.post posted] ∧ Brings sharedSettings.payloadDepth r posted ∧
    SameAsDirect sharedSettings (.list [.text " Ann@B.c", .text "", .text "bob@b.c"]) greeting r
      {} := by
  have named : Text.lower (Text.strip " Service") = "service" := by decide +kernel
  have uses : Mail.UsesService sharedSettings := .inl (congrArg Except.ok named)
  obtain ⟨posted, sent⟩ : ∃ posted, (Mail.deliver sharedSettings
      (.list [.text " Ann@B.c", .text "", .text "bob@b.c"]) greeting {}).2.sent =
        [] ++ [.post posted] := ⟨_, rfl⟩
  obtain ⟨⟨r, brings⟩, same⟩ := hop_equals_direct.1 _ _ _ _ posted uses sent
  exact ⟨uses, posted, r, sent, brings, same r brings {}⟩

end Gateway

end QueryDesk
