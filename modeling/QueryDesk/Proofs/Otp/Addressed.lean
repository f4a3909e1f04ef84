import QueryDesk.Proofs.Mail.FanOut
import QueryDesk.Proofs.Mail.PlainAddress

/-!
# Where a code is sent

A code that is answered as sent has gone to the address of its new session, and to no other, and a
check for that address finds the session. What the header of a message shows is a form of the
address of its own, which differs from the address only if that is no plain one.
-/

namespace QueryDesk

/-! ## Letters to one address -/

namespace Mail

/-- A letter has gone to one address and to no other, as the configured provider sends it. -/
inductive Reaches (settings : Settings) (letter : Letter) (o after : Outbox) (email : String) :
    Prop
  /-- A provider that sends nothing has logged it. -/
  | logged {name : String} (chosen : provider settings = .ok name)
      (mock : mockProviders.contains name = true)
      (line : after = o.addLog (mockLine [email] letter.subject))
  /-- It went out as the only message of a conversation; the message names the address as headers
      show it, and just as it is if it is plain. -/
  | mailed {account : SmtpAccount} {message : MailMessage}
      (chosen : provider settings = .ok "smtp") (configured : Smtp.account settings = .ok account)
      (shown : Smtp.header Address.normalize email = .ok message.recipients)
      (plain : IsPlainAddress email → message.recipients = email)
      (sent : after = o.addSteps (Smtp.course account [message] ++ [.quit]))
  /-- It was posted to our own mail service, with the address as the list of recipients. -/
  | handedOver {request : HttpPost} {members : Members} (chosen : UsesService settings)
      (sent : after.sent = o.sent ++ [.post request]) (payload : request.payload = .object members)
      (receivers : members.get? "to" = some (.list [.text email]))
  /-- It was posted to SendGrid, with the address as the only group of recipients. -/
  | posted {request : HttpPost} (chosen : provider settings = .ok "sendgrid")
      (sent : after.sent = o.sent ++ [.post request])
      (groups : Remote.groups? request.payload = some [[email]])

variable {settings : Settings} {letter : Letter} {o : Outbox} {v : Value}

/-- An address in normal form is the only recipient of a letter to it. -/
theorem someRecipients_normal {email : String} (normal : Recipients.IsNormal email) :
    someRecipients (.text email) = .ok [email] := by
  have given : Text.strip email ≠ "" := fun blank => normal.1 <| by
    rw [← normal.2, normalizeEmail, blank]
    rfl
  rw [someRecipients_text given, normal.2]

theorem posted_of_viaService {recipients : List String}
    (delivered : (Remote.viaService settings letter recipients o).1 = .ok v) :
    ∃ url token sender, (Remote.viaService settings letter recipients o).2.sent =
      o.sent ++ [.post (Remote.serviceRequest url token sender letter recipients)] := by
  obtain ⟨request, prepared, sent⟩ := handOver_eq_ok delivered
  simp only [bind_eq_ok_iff, Prod.exists] at prepared
  obtain ⟨url, token, -, sender, -, same⟩ := prepared
  exact ⟨url, token, sender, Except.ok.inj same ▸ sent⟩

theorem shown_of_message {sender email : String} {message : MailMessage}
    (written : Smtp.message sender letter [email] = .ok message) :
    Smtp.header Address.normalize email = .ok message.recipients := by
  simp only [Smtp.message, bind_eq_ok_iff] at written
  obtain ⟨sender', -, recipients, shown, subject, -, same⟩ := written
  obtain rfl := Except.ok.inj same
  exact shown

/-- In the conversation with a mail server there is just one message. -/
theorem reaches_of_smtp {email : String} (found : someRecipients (.text email) = .ok [email])
    (together : letter.separately = false) (chosen : provider settings = .ok "smtp")
    (delivered : (deliver settings (.text email) letter o).1 = .ok v) :
    Reaches settings letter o (deliver settings (.text email) letter o).2 email := by
  obtain ⟨account, messages, configured, written, sent⟩ :=
    sendsTo_of_deliver chosen found delivered
  rw [together] at written
  obtain ⟨message, rfl⟩ : ∃ message, messages = [message] := by
    have one := congrArg List.length written
    simp only [Recipients.batches, List.length_map] at one
    exact List.length_eq_one_iff.mp one
  have shown := shown_of_message (List.singleton_inj.mp written).symm
  refine .mailed chosen configured shown (fun plain => ?_) sent
  exact Except.ok.inj (shown.symm.trans plain.header_eq)

/-- A letter that is delivered to an address in normal form, all in one message, reaches it. -/
theorem reaches_of_deliver {email : String} (normal : Recipients.IsNormal email)
    (together : letter.separately = false)
    (delivered : (deliver settings (.text email) letter o).1 = .ok v) :
    Reaches settings letter o (deliver settings (.text email) letter o).2 email := by
  have found := someRecipients_normal normal
  cases chosen : provider settings with
  | error fault => simp [deliver, found, chosen] at delivered
  | ok name =>
    have handed : deliver settings (.text email) letter o = via name settings letter [email] o :=
      deliver_of_provider found chosen
    by_cases mock : mockProviders.contains name = true
    · refine .logged chosen mock ?_
      rw [handed, via, if_pos mock]
    by_cases isSmtp : name = "smtp"
    · subst isSmtp
      exact reaches_of_smtp found together chosen delivered
    by_cases isService : (name = "service" || name = "email_service") = true
    · rw [handed, via, if_neg mock, if_neg isSmtp, if_pos isService] at delivered ⊢
      obtain ⟨url, token, sender, sent⟩ := posted_of_viaService delivered
      refine .handedOver ?_ sent rfl rfl
      simpa [UsesService, chosen] using isService
    by_cases isSendgrid : name = "sendgrid"
    · subst isSendgrid
      obtain ⟨request, sent, groups⟩ := postsTo_of_deliver chosen found delivered
      rw [together] at groups
      exact .posted chosen sent groups
    · rw [handed, via, if_neg mock, if_neg isSmtp, if_neg isService, if_neg isSendgrid] at delivered
      cases delivered

theorem codeLetter_separately {code purpose : String}
    (written : codeLetter settings code purpose = .ok letter) : letter.separately = false := by
  simp only [codeLetter, bind_eq_ok_iff, Prod.exists] at written
  obtain ⟨subject, -, body, -, subject', html, -, same⟩ := written
  obtain rfl := Except.ok.inj same
  rfl

/-- A code that is mailed to an address in normal form reaches it. -/
theorem reaches_of_sendCode {email code purpose : String} {after : Outbox}
    (normal : Recipients.IsNormal email)
    (mailed : sendCode settings email code purpose o = (.ok v, after)) :
    ∃ letter, codeLetter settings code purpose = .ok letter ∧
      Reaches settings letter o after email := by
  unfold sendCode at mailed
  split at mailed
  · cases mailed
  · rename_i letter written
    have delivered : (deliver settings (.text email) letter o).1 = .ok v := by rw [mailed]
    have reaches := reaches_of_deliver normal (codeLetter_separately written) delivered
    rw [mailed] at reaches
    exact ⟨letter, written, reaches⟩

end Mail

/-- The recipients that a message for a mail server names. -/
def Dispatch.recipients? : Dispatch → Option String
  | .smtp (.send message) => some message.recipients
  | _ => none

/-! ## Codes -/

namespace Otp

/-- The outbox after a request. -/
def Arrival.outboxAfter (a : Arrival) (db : Database) : Outbox :=
  ((a.service db).handle a.draw a.request).2.outbox

theorem Admitted.isNormal {purpose email : String}
    (admitted : Admitted ⟨purpose, normalizeEmail email⟩) :
    Recipients.IsNormal (normalizeEmail email) := by
  refine ⟨fun empty => ?_, normalizeEmail_normalizeEmail email⟩
  have sign := admitted.email
  rw [empty] at sign
  cases sign

/-- The mail of a code that was sent. -/
theorem mailed_of_send {settings : Settings} {now : Moment} {id : Uuid}
    {code purpose email : String} {sessions after : List OtpSession} {o o' : Outbox}
    {receipt : Receipt}
    (sent : send settings now id code purpose email sessions o = (.ok (receipt, after), o')) :
    ∃ key, OtpKey.ofTexts purpose email = .ok key ∧
      Mail.sendCode settings key.email code key.purpose o = (.ok receipt.delivery, o') := by
  unfold send at sent
  cases named : OtpKey.ofTexts purpose email with
  | error fault => simp [named] at sent
  | ok key =>
    cases mailed : Mail.sendCode settings key.email code key.purpose o with
    | mk answer outbox =>
      cases answer with
      | error fault => simp [named, mailed] at sent
      | ok delivery =>
        simp only [named, mailed] at sent
        obtain ⟨settled, rfl⟩ := Prod.mk.inj sent
        obtain ⟨minutes, s, -, -, -, rfl, -⟩ := settleSend_eq_ok settled
        exact ⟨key, rfl, mailed⟩

/-- A check finds a session: it is judged, and what becomes of the sessions is said by the verdict
    about it. -/
structure Finds (b : Arrival) (attempt : CodeCheck) (row : OtpSession) (db : Database) : Prop where
  answer : b.answer db = ((b.service db).judged (Task.check attempt).key
    (verdictOn b attempt.code row)).map (dressed b.origins b.draw b.request)
  tables : b.tables db =
    { db with otpSessions := settle b.time row db.otpSessions (verdictOn b attempt.code row) }

/-- A request has sent a code to the address of the session that it has opened, and to no other.
    Checks for the purpose and the address of the session find it, however they write them. -/
structure Addressed (a : Arrival) (request : CodeRequest) (db : Database) (row : OtpSession) :
    Prop where
  id : row.id = a.draw.sessionId
  code : row.code = a.draw.code
  purpose : row.purpose = OtpKey.normalizePurpose request.purpose
  email : row.email = normalizeEmail request.email
  only : rowsOf (Task.send request).key (a.tables db).otpSessions = [row]
  mailed : ∃ letter, Mail.codeLetter a.settings row.code row.purpose = .ok letter ∧
    Mail.Reaches a.settings letter a.outbox (a.outboxAfter db) row.email
  found : ∀ b attempt, b.task? = some (.check attempt) →
    OtpKey.normalizePurpose attempt.purpose = row.purpose →
    normalizeEmail attempt.email = row.email → Finds b attempt row (a.tables db)

theorem finds_of_rows {b : Arrival} {attempt : CodeCheck} {row : OtpSession} {db : Database}
    (asks : b.task? = some (.check attempt)) (admitted : Admitted (Task.check attempt).key)
    (only : rowsOf (Task.check attempt).key db.otpSessions = [row]) : Finds b attempt row db := by
  obtain ⟨answered, tables⟩ := answer_of_check asks db
  have current : current? (Task.check attempt).key db.otpSessions = some row := by
    rw [current?_eq, only, latest?_singleton]
  rw [checkCode_of_current admitted current] at answered tables
  exact ⟨answered, tables⟩

theorem answer_of_send {a : Arrival} {request : CodeRequest}
    (asks : a.task? = some (.send request)) (db : Database) :
    a.answer db =
        ((a.service db).sendCode a.draw request).1.map (dressed a.origins a.draw a.request) ∧
      a.tables db = ((a.service db).sendCode a.draw request).2.db ∧
      a.outboxAfter db = ((a.service db).sendCode a.draw request).2.outbox := by
  obtain ⟨answered, tables⟩ := Arrival.answer_of_task asks db
  rw [perform] at answered tables
  refine ⟨answered, tables, ?_⟩
  rw [Arrival.outboxAfter, Arrival.handle_of_task asks, perform]

/-- A request that is answered as sent has come through with its send. -/
theorem send_of_answered {a : Arrival} {db : Database} {request : CodeRequest}
    (asks : a.task? = some (.send request))
    (answered : statusOf? (a.answer db) = some 200) :
    ∃ receipt, send a.settings a.now a.draw.sessionId a.draw.code request.purpose request.email
      db.otpSessions a.outbox =
        (.ok (receipt, (a.tables db).otpSessions), a.outboxAfter db) := by
  obtain ⟨answer, tables, outbox⟩ := answer_of_send asks db
  rw [answer, statusOf?_dressed] at answered
  rw [tables, outbox]
  unfold Service.sendCode at answered ⊢
  simp only [Arrival.service] at answered ⊢
  cases sent : send a.settings a.now a.draw.sessionId a.draw.code request.purpose request.email
      db.otpSessions a.outbox with
  | mk result after =>
    rw [sent] at answered
    cases result with
    | error fault => exact absurd answered (unsent_answer fault).1
    | ok outcome => exact ⟨outcome.1, rfl⟩

theorem addressed_of_send {a : Arrival} {db : Database} {request : CodeRequest}
    (asks : a.task? = some (.send request))
    (answered : statusOf? (a.answer db) = some 200) :
    ∃ row, Addressed a request db row := by
  obtain ⟨receipt, sent⟩ := send_of_answered asks answered
  obtain ⟨row, opens, -, after⟩ := send_ok sent
  obtain ⟨key, named, mailed⟩ := mailed_of_send sent
  obtain ⟨rfl, admitted⟩ := ofTexts_ok_iff.mp named
  obtain ⟨purpose, email⟩ := hasKey_iff.mp opens.own
  have only : rowsOf (Task.send request).key (a.tables db).otpSessions = [row] :=
    after ▸ rowsOf_replace_self opens.own db.otpSessions
  refine ⟨row, opens.id, opens.code, purpose, email, only, ?_, ?_⟩
  · rw [opens.code, purpose, email]
    exact Mail.reaches_of_sendCode admitted.isNormal mailed
  · intro b attempt checks samePurpose sameEmail
    have same : (Task.check attempt).key = (Task.send request).key := by
      rw [Task.key, Task.key, samePurpose, sameEmail, purpose, email]
    refine finds_of_rows checks ?_ ?_
    · rw [same]
      exact admitted
    · rw [same]
      exact only

/-- The normal form of an address is its own normal form. A request that is answered as sent has
    sent its code to the address of its new session, and to no other; a check for any text with
    that normal form finds the session. -/
theorem code_goes_to_session :
    (∀ s, normalizeEmail (normalizeEmail s) = normalizeEmail s) ∧
    ∀ a db request, a.task? = some (.send request) → statusOf? (a.answer db) = some 200 →
      ∃ row, Addressed a request db row :=
  ⟨normalizeEmail_normalizeEmail, fun _ _ _ asks answered => addressed_of_send asks answered⟩

/-- A request for a code that goes by a mail server. -/
def mailedSend (email : String) : Arrival where
  settings := ((Settings.defaults "sqlite://").set .emailProvider (.text "smtp")).set .smtpHost
    (.text "mail")
  time := 63902908800000000
  draw := ⟨⟨0⟩, ⟨1⟩, "123456"⟩
  request := { method := "POST", path := "/api/otp/send", body :=
    "\x7b\"email\":\"" ++ email ++ "\"\x7d" }

theorem plain_address_mailed :
    (mailedSend " Ann@B.c").task? = some (.send ⟨" Ann@B.c", "SIGN_IN"⟩) ∧
    statusOf? ((mailedSend " Ann@B.c").answer {}) = some 200 ∧
    ∃ row, IsPlainAddress row.email ∧
      Addressed (mailedSend " Ann@B.c") ⟨" Ann@B.c", "SIGN_IN"⟩ {} row := by
  have asks : (mailedSend " Ann@B.c").task? = some (.send ⟨" Ann@B.c", "SIGN_IN"⟩) := by
    decide +kernel
  have answered : statusOf? ((mailedSend " Ann@B.c").answer {}) = some 200 := by decide +kernel
  have normal : normalizeEmail " Ann@B.c" = "ann@b.c" := by decide +kernel
  have front : IsAtom ['a', 'n', 'n'] := by decide +kernel
  have back : IsAtom ['b'] ∧ IsAtom ['c'] := by decide +kernel
  have plain : IsPlainAddress "ann@b.c" :=
    ⟨['a', 'n', 'n'], ['b', '.', 'c'], by decide, .atom front, .point back.1 (.atom back.2)⟩
  obtain ⟨row, addressed⟩ := code_goes_to_session.2 _ {} _ asks answered
  have stored : row.email = "ann@b.c" := addressed.email.trans normal
  exact ⟨asks, answered, row, stored ▸ plain, addressed⟩

/-- An address that is not plain: its message names another one. -/
theorem comma_is_dropped :
    (mailedSend "ann@b.c,").task? = some (.send ⟨"ann@b.c,", "SIGN_IN"⟩) ∧
    statusOf? ((mailedSend "ann@b.c,").answer {}) = some 200 ∧
    ((mailedSend "ann@b.c,").tables {}).otpSessions.map (·.email) = ["ann@b.c,"] ∧
    ((mailedSend "ann@b.c,").outboxAfter {}).sent.filterMap Dispatch.recipients? = ["ann@b.c"] := by
  decide +kernel

end Otp

end QueryDesk
