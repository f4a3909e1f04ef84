import QueryDesk.Proofs.Mail.Conversation

/-!
# Who gets which message

A mail server gets one message for each group of recipients, and SendGrid is given one object for
each. Both make the same groups of the same recipients, who are the addresses that a letter is sent
to, in their order: nobody is left out, nobody comes twice unless named twice, and with separate
messages nobody shares one.
-/

namespace QueryDesk

/-! ## Recipients -/

namespace Text

theorem lower_eq_empty_iff {s : String} : lower s = "" ↔ s = "" := by
  rw [lower, ← String.toList_inj, String.toList_ofList, ← String.toList_inj]
  cases s.toList with
  | nil => exact iff_of_true rfl rfl
  | cons c rest => simp [lowerAfter, lowerChar_ne_nil]

end Text

namespace Recipients

/-- What mail is sent to when it is sent to texts. -/
inductive Names : Value → List String → Prop
  | one (s : String) : Names (.text s) [s]
  | list (texts : List String) : Names (.list (texts.map .text)) texts
  | tuple (texts : List String) : Names (.tuple (texts.map .text)) texts

/-- The addresses that texts stand for: those that are not blank, without blanks around them and in
    lower case. -/
def addresses (texts : List String) : List String :=
  (texts.filter fun s => Text.strip s ≠ "").map fun s => Text.lower (Text.strip s)

theorem filter_normalizeEmail (texts : List String) :
    (texts.map normalizeEmail).filter (!·.isEmpty) = addresses texts := by
  rw [List.filter_map]
  refine congrArg (List.map _) (List.filter_congr fun s _ => ?_)
  rw [Function.comp_apply, normalizeEmail, Bool.eq_iff_iff, Bool.not_eq_true', decide_eq_true_iff,
    ← Bool.not_eq_true, String.isEmpty_iff, Text.lower_eq_empty_iff]

/-- The recipients of a letter are the addresses that it is sent to. -/
theorem Names.normalize {receivers : Value} {texts : List String} (names : Names receivers texts) :
    normalize receivers = .ok (addresses texts) := by
  rw [← filter_normalizeEmail]
  cases names with
  | one s => exact normalize_texts [s]
  | list => exact normalize_texts texts
  | tuple => exact normalize_texts texts

theorem flatten_batches (separately : Bool) (recipients : List String) :
    (batches separately recipients).flatten = recipients := by
  cases separately with
  | true => exact List.flatMap_def.symm.trans (List.flatMap_singleton' recipients)
  | false => exact List.flatten_singleton

theorem length_of_mem_batches {recipients group : List String}
    (mem : group ∈ batches true recipients) : group.length = 1 := by
  obtain ⟨s, -, rfl⟩ := List.mem_map.mp mem
  rfl

end Recipients

/-! ## Groups in a payload -/

namespace Remote

/-- The address that an object for SendGrid holds, and nothing else. -/
def email? : Value → Option String
  | .object [("email", .text s)] => some s
  | _ => none

/-- The recipients that an object for SendGrid holds, and nothing else. -/
def group? : Value → Option (List String)
  | .object [("to", .list emails)] => emails.mapM email?
  | _ => none

/-- The groups of recipients of a payload for SendGrid. -/
def groups? : Value → Option (List (List String))
  | .object members => match Members.get? "personalizations" members with
    | some (.list groups) => groups.mapM group?
    | _ => none
  | _ => none

theorem group?_to (batch : List String) :
    group? (.object [("to", .list (batch.map address))]) = some batch := by
  have each : email? ∘ address = pure := rfl
  rw [group?, List.mapM_map, each]
  exact List.mapM_pure.trans (congrArg some (List.map_id' batch))

theorem groups?_sendgridRequest (url key sender : String) (letter : Letter)
    (recipients : List String) :
    groups? (sendgridRequest url key sender letter recipients).payload =
      some (Recipients.batches letter.separately recipients) := by
  have each : group? ∘ (fun batch => .object [("to", .list (batch.map address))]) = pure :=
    funext group?_to
  change ((Recipients.batches letter.separately recipients).map fun batch =>
    Value.object [("to", .list (batch.map address))]).mapM group? = _
  rw [List.mapM_map, each]
  exact List.mapM_pure.trans (congrArg some (List.map_id' _))

end Remote

/-! ## Deliveries -/

namespace Smtp

/-- A conversation that nothing breaks off has done all of its actions, and its connection is
    closed. -/
theorem passed_of_session {server : SmtpServer} {connection : SmtpStep} {todo : List Action}
    {steps : List SmtpStep} (passed : session server connection todo = (steps, none)) :
    (converse server [] (.ok connection :: todo)).2 = none ∧
      steps = (converse server [] (.ok connection :: todo)).1 ++ [.quit] := by
  unfold session at passed
  simp only [converse, List.nil_append] at passed ⊢
  cases asked : server [] connection with
  | some reason => simp [asked] at passed
  | none =>
    simp only [asked] at passed ⊢
    cases closed : server (connection :: (converse server [connection] todo).1) .quit with
    | some reason => simp [closed] at passed
    | none =>
      simp only [closed] at passed
      obtain ⟨rfl, whole⟩ := Prod.mk.inj passed
      exact ⟨whole, rfl⟩

/-- A delivery that succeeds has taken its whole course. -/
theorem course_of_deliver {account : SmtpAccount} {letter : Letter} {recipients : List String}
    {o : Outbox} {v : Value} (delivered : (deliver account letter recipients o).1 = .ok v) :
    ∃ messages : List MailMessage,
      messages.map .ok = (Recipients.batches letter.separately recipients).map
        (message account.sender letter) ∧
      (deliver account letter recipients o).2 =
        o.addSteps (course account messages ++ [.quit]) := by
  unfold deliver at delivered ⊢
  split at delivered
  · cases delivered
  split at delivered
  · cases delivered
  rename_i ready modes
  rw [if_neg ready, if_neg modes]
  dsimp only at delivered ⊢
  rcases talk : session o.transport.smtp
      (.connect account.useSsl account.host account.portNumber)
      (script account letter (Recipients.batches letter.separately recipients)) with
    ⟨steps, _ | reason⟩
  · obtain ⟨whole, rfl⟩ := passed_of_session talk
    rw [script_eq] at whole ⊢
    have ends := converse_ends o.transport.smtp
      (actions account letter (Recipients.batches letter.separately recipients)) []
    obtain ⟨messages, written, all, -⟩ := (keeps_of_ends ends).whole.mp whole
    exact ⟨messages, written, by rw [all]⟩
  · rw [talk] at delivered
    cases delivered

end Smtp

namespace Mail

variable {settings : Settings} {receivers : Value} {letter : Letter} {o : Outbox} {v : Value}

/-- A letter goes to a mail server as one message for each of these groups. -/
def SendsTo (settings : Settings) (receivers : Value) (letter : Letter) (o : Outbox)
    (groups : List (List String)) : Prop :=
  ∃ (account : SmtpAccount) (messages : List MailMessage),
    Smtp.account settings = .ok account ∧
    messages.map .ok = groups.map (Smtp.message account.sender letter) ∧
    (deliver settings receivers letter o).2 =
      o.addSteps (Smtp.course account messages ++ [.quit])

/-- A letter is posted to SendGrid in one request, for these groups. -/
def PostsTo (settings : Settings) (receivers : Value) (letter : Letter) (o : Outbox)
    (groups : List (List String)) : Prop :=
  ∃ request, (deliver settings receivers letter o).2.sent = o.sent ++ [.post request] ∧
    Remote.groups? request.payload = some groups

theorem handOver_eq_ok {depth : Nat} {service : String} {receipt : Int × Value → Value}
    {prepared : Except MailFault HttpPost}
    (delivered : (handOver depth service receipt o prepared).1 = .ok v) :
    ∃ request, prepared = .ok request ∧
      (handOver depth service receipt o prepared).2.sent = o.sent ++ [.post request] := by
  cases prepared with
  | error fault => cases delivered
  | ok request => exact ⟨request, rfl, Remote.post_sent ..⟩

theorem posted_of_viaSendgrid {recipients : List String}
    (delivered : (Remote.viaSendgrid settings letter recipients o).1 = .ok v) :
    ∃ url key sender, (Remote.viaSendgrid settings letter recipients o).2.sent =
      o.sent ++ [.post (Remote.sendgridRequest url key sender letter recipients)] := by
  obtain ⟨request, prepared, sent⟩ := handOver_eq_ok delivered
  simp only [bind_eq_ok_iff] at prepared
  obtain ⟨key, -, address⟩ := prepared
  split at address
  · cases address
  · rename_i url _
    obtain ⟨sender, -, same⟩ := bind_eq_ok_iff.mp address
    exact ⟨url, key, sender, Except.ok.inj same ▸ sent⟩

/-- A letter to one text that is not blank has one recipient. -/
theorem someRecipients_text {email : String} (given : Text.strip email ≠ "") :
    someRecipients (.text email) = .ok [normalizeEmail email] := by
  have only : Recipients.addresses [email] = [normalizeEmail email] := by
    simp [Recipients.addresses, given, normalizeEmail]
  rw [someRecipients, (Recipients.Names.one email).normalize, only]

/-- The recipients of a letter whose delivery succeeds. -/
theorem recipients_of_deliver (delivered : (deliver settings receivers letter o).1 = .ok v) :
    ∃ recipients, someRecipients receivers = .ok recipients := by
  cases found : someRecipients receivers with
  | error fault => simp [deliver, found] at delivered
  | ok recipients => exact ⟨recipients, rfl⟩

theorem sendsTo_of_deliver (chosen : provider settings = .ok "smtp") {recipients : List String}
    (found : someRecipients receivers = .ok recipients)
    (delivered : (deliver settings receivers letter o).1 = .ok v) :
    SendsTo settings receivers letter o (Recipients.batches letter.separately recipients) := by
  unfold SendsTo
  rw [deliver_of_provider found chosen, via_smtp, viaSmtp] at delivered ⊢
  cases read : Smtp.account settings with
  | error fault => simp [read] at delivered
  | ok account =>
    rw [read] at delivered
    obtain ⟨messages, written, sent⟩ :=
      Smtp.course_of_deliver (mapError_eq_ok_iff.mp delivered)
    exact ⟨account, messages, rfl, written, sent⟩

theorem postsTo_of_deliver (chosen : provider settings = .ok "sendgrid")
    {recipients : List String} (found : someRecipients receivers = .ok recipients)
    (delivered : (deliver settings receivers letter o).1 = .ok v) :
    PostsTo settings receivers letter o (Recipients.batches letter.separately recipients) := by
  have handed : deliver settings receivers letter o =
      Remote.viaSendgrid settings letter recipients o := deliver_of_provider found chosen
  unfold PostsTo
  rw [handed] at delivered ⊢
  obtain ⟨url, key, sender, sent⟩ := posted_of_viaSendgrid delivered
  exact ⟨_, sent, Remote.groups?_sendgridRequest ..⟩

/-- A letter to some texts has its groups of recipients, whatever the settings: they make up the
    addresses that the texts stand for, each alone in a group if messages are separate and all in
    one otherwise. Whenever a delivery through a mail server or through SendGrid succeeds, it goes
    to these groups. Without an address, nothing is ever sent. -/
theorem recipients_fan_out {texts : List String} (names : Recipients.Names receivers texts)
    (letter : Letter) :
    (Recipients.addresses texts = [] → ∀ settings o,
      deliver settings receivers letter o = (.error (.delivery .noRecipient), o)) ∧
    ∃ groups : List (List String), groups.flatten = Recipients.addresses texts ∧
      (letter.separately = true → ∀ group ∈ groups, group.length = 1) ∧
      (letter.separately = false → groups.length = 1) ∧
      ∀ settings o v, (deliver settings receivers letter o).1 = .ok v →
        (provider settings = .ok "smtp" → SendsTo settings receivers letter o groups) ∧
        (provider settings = .ok "sendgrid" → PostsTo settings receivers letter o groups) := by
  have normal := names.normalize
  refine ⟨fun none settings o => ?_,
    Recipients.batches letter.separately (Recipients.addresses texts),
    Recipients.flatten_batches _ _, fun apart group mem => ?_, fun together => ?_,
    fun settings o v delivered => ?_⟩
  · rw [none] at normal
    rw [deliver, someRecipients, normal]
  · rw [apart] at mem
    exact Recipients.length_of_mem_batches mem
  · rw [together]
    rfl
  · obtain ⟨recipients, found⟩ := recipients_of_deliver delivered
    obtain ⟨read, -⟩ := someRecipients_eq_ok found
    rw [normal] at read
    obtain rfl := Except.ok.inj read
    exact ⟨fun chosen => sendsTo_of_deliver chosen found delivered,
      fun chosen => postsTo_of_deliver chosen found delivered⟩

theorem greeting_fans_out : Recipients.Names greeted [" Ann@B.c", "", "bob@b.c"] ∧
    ∃ groups : List (List String), groups.flatten = ["ann@b.c", "bob@b.c"] ∧
      (∀ group ∈ groups, group.length = 1) ∧
      SendsTo Gateway.sharedSettings.direct greeted Gateway.greeting {} groups ∧
      PostsTo sendgridSettings greeted Gateway.greeting {} groups := by
  have names : Recipients.Names greeted [" Ann@B.c", "", "bob@b.c"] :=
    .list [" Ann@B.c", "", "bob@b.c"]
  have wanted : Recipients.addresses [" Ann@B.c", "", "bob@b.c"] = ["ann@b.c", "bob@b.c"] := by
    decide +kernel
  have smtp : Text.lower (Text.strip "smtp") = "smtp" := by decide +kernel
  have sendgrid : Text.lower (Text.strip "sendgrid") = "sendgrid" := by decide +kernel
  obtain ⟨v, sent⟩ : ∃ v, (deliver Gateway.sharedSettings.direct greeted Gateway.greeting {}).1 =
    .ok v := ⟨_, rfl⟩
  obtain ⟨w, posted⟩ : ∃ w, (deliver sendgridSettings greeted Gateway.greeting {}).1 = .ok w :=
    ⟨_, rfl⟩
  obtain ⟨groups, all, alone, -, goes⟩ := (recipients_fan_out names Gateway.greeting).2
  rw [wanted] at all
  exact ⟨names, groups, all, alone rfl, (goes _ _ v sent).1 (congrArg Except.ok smtp),
    (goes _ _ w posted).2 (congrArg Except.ok sendgrid)⟩

end Mail

end QueryDesk
