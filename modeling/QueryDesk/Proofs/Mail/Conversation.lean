import QueryDesk.Proofs.Mail.Gateway

/-!
# Conversations with a mail server

A delivery takes the steps of one fixed course, in their order, up to the first that fails: the
server breaks off, or the next message cannot be written. It succeeds just if it has come to the end
of the course.
-/

namespace QueryDesk

namespace Smtp

/-! ## Actions -/

/-- After earlier steps, the server goes on at each of these steps. -/
def Passes (server : SmtpServer) : (earlier steps : List SmtpStep) → Prop
  | _, [] => True
  | earlier, step :: rest => server earlier step = none ∧ Passes server (earlier ++ [step]) rest

/-- How a conversation about some actions ends: all of them are done, or the server breaks off at a
    step, or an action cannot be taken. -/
inductive Ends (server : SmtpServer) (earlier : List SmtpStep) (actions : List Action) :
    List SmtpStep → Option String → Prop
  | complete {steps} (all : steps.map .ok = actions) (passed : Passes server earlier steps) :
      Ends server earlier actions steps none
  | refused {steps step reason} (begun : (steps ++ [step]).map .ok <+: actions)
      (passed : Passes server earlier steps)
      (refuses : server (earlier ++ steps) step = some reason) :
      Ends server earlier actions (steps ++ [step]) (some reason)
  | unwritable {steps} {fault : HeaderFault} (begun : steps.map .ok ++ [.error fault] <+: actions)
      (passed : Passes server earlier steps) :
      Ends server earlier actions steps (some fault.reason)

variable {server : SmtpServer} {earlier : List SmtpStep}

theorem passes_append {steps later : List SmtpStep} :
    Passes server earlier (steps ++ later) ↔
      Passes server earlier steps ∧ Passes server (earlier ++ steps) later := by
  induction steps generalizing earlier with
  | nil => simp [Passes]
  | cons step rest ih => simp [Passes, ih, and_assoc]

theorem Passes.dropLast {steps : List SmtpStep} (passed : Passes server earlier steps) :
    Passes server earlier steps.dropLast := by
  obtain ⟨last, same⟩ := List.dropLast_prefix steps
  rw [← same] at passed
  exact (passes_append.mp passed).1

theorem Ends.cons {step : SmtpStep} {rest : List Action} {steps : List SmtpStep}
    {failure? : Option String} (passes : server earlier step = none)
    (ends : Ends server (earlier ++ [step]) rest steps failure?) :
    Ends server earlier (.ok step :: rest) (step :: steps) failure? := by
  cases ends with
  | complete all passed => exact .complete (congrArg (_ :: ·) all) ⟨passes, passed⟩
  | refused begun passed refuses =>
    rename_i steps last reason
    rw [← List.cons_append]
    refine .refused ?_ ⟨passes, passed⟩ ?_
    · rw [List.cons_append, List.map_cons, List.cons_prefix_cons]
      exact ⟨rfl, begun⟩
    · rwa [List.append_cons]
  | unwritable begun passed =>
    refine .unwritable ?_ ⟨passes, passed⟩
    rw [List.map_cons, List.cons_append, List.cons_prefix_cons]
    exact ⟨rfl, begun⟩

/-- A conversation ends in one of these ways. -/
theorem converse_ends (server : SmtpServer) (actions : List Action) (earlier : List SmtpStep) :
    Ends server earlier actions (converse server earlier actions).1
      (converse server earlier actions).2 := by
  induction actions generalizing earlier with
  | nil => exact .complete rfl trivial
  | cons action rest ih =>
    cases action with
    | error fault =>
      refine .unwritable ?_ trivial
      exact List.prefix_append [.error fault] rest
    | ok step =>
      rw [converse]
      cases asked : server earlier step with
      | some reason =>
        have begun : ([] ++ [step]).map .ok <+: Except.ok step :: rest := ⟨rest, rfl⟩
        exact .refused begun trivial (by rwa [List.append_nil])
      | none => exact (ih (earlier ++ [step])).cons asked

/-- The end of a connection that was made. -/
def closing (server : SmtpServer) (connection : SmtpStep) : List SmtpStep :=
  if server [] connection = none then [.quit] else []

/-- Where closing never fails, a whole conversation is one about its connection and the actions,
    with the end of the connection after it. -/
theorem session_eq (closes : ∀ steps, server steps .quit = none) (connection : SmtpStep)
    (actions : List Action) : session server connection actions =
      ((converse server [] (.ok connection :: actions)).1 ++ closing server connection,
        (converse server [] (.ok connection :: actions)).2) := by
  unfold session closing
  simp only [converse, List.nil_append]
  cases asked : server [] connection with
  | some reason => simp
  | none => simp [closes]

/-! ## The course of a delivery -/

/-- What comes before the messages. -/
def opening (account : SmtpAccount) : List SmtpStep :=
  [.connect account.useSsl account.host account.portNumber, .ehlo] ++
    (if account.useTls then [.starttls, .ehlo] else []) ++
    (if account.user = "" then [] else [.login account.user account.password])

/-- The course of a delivery with its messages. -/
def course (account : SmtpAccount) (messages : List MailMessage) : List SmtpStep :=
  opening account ++ messages.map .send

variable {account : SmtpAccount} {letter : Letter} {batches : List (List String)}

/-- The actions of a delivery, its connection first. -/
def actions (account : SmtpAccount) (letter : Letter) (batches : List (List String)) :
    List Action :=
  (opening account).map .ok ++
    batches.map fun batch => (message account.sender letter batch).map .send

theorem script_eq (account : SmtpAccount) (letter : Letter) (batches : List (List String)) :
    .ok (.connect account.useSsl account.host account.portNumber) :: script account letter batches =
      actions account letter batches := by
  unfold script actions opening
  cases account.useTls <;> by_cases unnamed : account.user = "" <;> simp [unnamed]

/-- Messages that were written are those for the batches. -/
theorem messages_of_sends {steps : List SmtpStep}
    (all : batches.map (fun batch => (message account.sender letter batch).map .send) =
      steps.map .ok) :
    ∃ messages : List MailMessage,
      messages.map .ok = batches.map (message account.sender letter) ∧
      steps = messages.map .send := by
  induction batches generalizing steps with
  | nil =>
    cases steps with
    | nil => exact ⟨[], rfl, rfl⟩
    | cons step rest => cases all
  | cons batch others ih =>
    cases steps with
    | nil => cases all
    | cons step rest =>
      obtain ⟨first, later⟩ := List.cons.inj all
      obtain ⟨m, written, rfl⟩ := map_eq_ok_iff.mp first
      obtain ⟨messages, same, rfl⟩ := ih later
      exact ⟨m :: messages, by rw [List.map_cons, List.map_cons, written, same], rfl⟩

/-- Steps that begin a delivery stop short of its messages, or the messages among them are those for
    the first batches. -/
theorem begun_cases {steps : List SmtpStep} {rest : List Action}
    (begun : steps.map .ok ++ rest = actions account letter batches) :
    (∃ step later, opening account = steps ++ step :: later ∧ ∃ more, rest = .ok step :: more) ∨
    ∃ (messages : List MailMessage) (first others : List (List String)),
      batches = first ++ others ∧ steps = course account messages ∧
      messages.map .ok = first.map (message account.sender letter) ∧
      rest = others.map fun batch => (message account.sender letter batch).map .send := by
  have injective : Function.Injective (List.map (Except.ok : SmtpStep → Action)) :=
    List.map_injective_iff.mpr fun _ _ same => Except.ok.inj same
  -- The steps end within the opening, or the whole opening is among them.
  rcases List.append_eq_append_iff.mp begun with ⟨missing, short, same⟩ | ⟨sent, long, same⟩
  · obtain ⟨done, ahead, whole, first, rfl⟩ := List.map_eq_append_iff.mp short
    obtain rfl := injective first
    cases ahead with
    | nil =>
      rw [List.append_nil] at whole
      refine .inr ⟨[], [], batches, rfl, ?_, rfl, same⟩
      rw [course, whole, List.map_nil, List.append_nil]
    | cons step later => exact .inl ⟨step, later, whole, _, same⟩
  · obtain ⟨done, sends, rfl, first, rfl⟩ := List.map_eq_append_iff.mp long
    obtain rfl := injective first
    obtain ⟨first, others, rfl, written, rfl⟩ := List.map_eq_append_iff.mp same
    obtain ⟨messages, all, rfl⟩ := messages_of_sends written
    exact .inr ⟨messages, first, others, rfl, rfl, all, rfl⟩

/-! ## The law of a delivery -/

/-- The step shows the server something that others must not read. -/
def isPrivate : SmtpStep → Bool
  | .login _ _ | .send _ => true
  | _ => false

theorem starttls_mem_of_course (secure : account.useTls = true) {messages : List MailMessage}
    {earlier later : List SmtpStep} {step : SmtpStep} (shows : isPrivate step = true)
    (place : earlier ++ step :: later <+: course account messages) : .starttls ∈ earlier := by
  rw [course, opening, if_pos secure] at place
  -- The first three steps show nothing, and the third of them secures the conversation.
  rcases earlier with _ | ⟨first, _ | ⟨second, _ | ⟨third, earlier⟩⟩⟩
  all_goals simp only [List.cons_append, List.nil_append, List.cons_prefix_cons] at place
  · obtain ⟨rfl, -⟩ := place
    cases shows
  · obtain ⟨-, rfl, -⟩ := place
    cases shows
  · obtain ⟨-, -, rfl, -⟩ := place
    cases shows
  · obtain ⟨-, -, rfl, -⟩ := place
    simp

/-- The calls of a delivery keep to its course, up to the first that fails. -/
structure Keeps (server : SmtpServer) (account : SmtpAccount) (letter : Letter)
    (batches : List (List String)) (calls : List SmtpStep) (failure? : Option String) : Prop where
  /-- The messages are those for the first batches. -/
  ordered : ∃ messages : List MailMessage,
    messages.map .ok <+: batches.map (message account.sender letter) ∧
    calls <+: course account messages
  secured : account.useTls = true → ∀ earlier step later, calls = earlier ++ step :: later →
    isPrivate step = true → .starttls ∈ earlier
  /-- Only the last call can have failed. -/
  passed : Passes server [] calls.dropLast
  whole : failure? = none ↔ ∃ messages : List MailMessage,
    messages.map .ok = batches.map (message account.sender letter) ∧
    calls = course account messages ∧ Passes server [] calls
  /-- The last call has failed, or the message after it cannot be written. -/
  broken : ∀ reason, failure? = some reason →
    (∃ earlier step, calls = earlier ++ [step] ∧ server earlier step = some reason) ∨
    ∃ (messages : List MailMessage) (fault : HeaderFault),
      messages.map .ok ++ [.error fault] <+: batches.map (message account.sender letter) ∧
      calls = course account messages ∧ Passes server [] calls ∧ reason = fault.reason

theorem ordered_of_begun {steps : List SmtpStep}
    (begun : steps.map .ok <+: actions account letter batches) :
    ∃ messages : List MailMessage,
      messages.map .ok <+: batches.map (message account.sender letter) ∧
      steps <+: course account messages := by
  obtain ⟨rest, begun⟩ := begun
  rcases begun_cases begun with
    ⟨step, later, whole, -⟩ | ⟨messages, first, others, rfl, rfl, all, -⟩
  · refine ⟨[], List.nil_prefix, ?_⟩
    rw [course, whole, List.append_assoc]
    exact List.prefix_append ..
  · refine ⟨messages, ?_, List.prefix_rfl⟩
    rw [all, List.map_append]
    exact List.prefix_append ..

theorem whole_of_all {steps : List SmtpStep}
    (all : steps.map .ok = actions account letter batches) :
    ∃ messages : List MailMessage,
      messages.map .ok = batches.map (message account.sender letter) ∧
      steps = course account messages := by
  rcases begun_cases ((List.append_nil _).trans all) with
    ⟨_, _, _, _, none⟩ | ⟨messages, first, others, rfl, rfl, written, none⟩
  · cases none
  · obtain rfl := List.map_eq_nil_iff.mp none.symm
    exact ⟨messages, by rw [List.append_nil, written], rfl⟩

theorem unwritable_of_begun {steps : List SmtpStep} {fault : HeaderFault}
    (begun : steps.map .ok ++ [.error fault] <+: actions account letter batches) :
    ∃ messages : List MailMessage,
      messages.map .ok ++ [.error fault] <+: batches.map (message account.sender letter) ∧
      steps = course account messages := by
  obtain ⟨rest, begun⟩ := begun
  rw [List.append_assoc] at begun
  rcases begun_cases begun with
    ⟨_, _, _, _, next⟩ | ⟨messages, first, others, rfl, rfl, all, next⟩
  · cases next
  · cases others with
    | nil => cases next
    | cons batch others =>
      obtain ⟨failed, -⟩ := List.cons.inj next
      have unwritten : message account.sender letter batch = .error fault := by
        cases written : message account.sender letter batch with
        | ok m => simp [written, Except.map] at failed
        | error other => simpa [written, Except.map] using failed.symm
      refine ⟨messages, ?_, rfl⟩
      rw [all, List.map_append, List.map_cons, unwritten]
      exact ⟨others.map (message account.sender letter), by simp⟩

/-- What a conversation about the script of a delivery comes to. -/
theorem keeps_of_ends {calls : List SmtpStep} {failure? : Option String}
    (ends : Ends server [] (actions account letter batches) calls failure?) :
    Keeps server account letter batches calls failure? := by
  have ordered : ∃ messages : List MailMessage,
      messages.map .ok <+: batches.map (message account.sender letter) ∧
      calls <+: course account messages := by
    cases ends with
    | complete all _ => exact ordered_of_begun (all ▸ List.prefix_rfl)
    | refused begun _ _ => exact ordered_of_begun begun
    | unwritable begun _ => exact ordered_of_begun ((List.prefix_append ..).trans begun)
  have secured : account.useTls = true → ∀ earlier step later,
      calls = earlier ++ step :: later → isPrivate step = true → .starttls ∈ earlier := by
    rintro secure earlier step later rfl shows
    obtain ⟨messages, -, place⟩ := ordered
    exact starttls_mem_of_course secure shows place
  cases ends with
  | complete all passed =>
    obtain ⟨messages, written, whole⟩ := whole_of_all all
    exact ⟨ordered, secured, passed.dropLast,
      iff_of_true rfl ⟨messages, written, whole, passed⟩, nofun⟩
  | refused begun passed refuses =>
    refine ⟨ordered, secured, by rwa [List.dropLast_concat], iff_of_false nofun ?_, ?_⟩
    · rintro ⟨messages, -, -, all⟩
      obtain ⟨-, goes, -⟩ := passes_append.mp all
      rw [refuses] at goes
      cases goes
    · rintro _ ⟨⟩
      exact .inl ⟨_, _, rfl, refuses⟩
  | unwritable begun passed =>
    rename_i fault
    obtain ⟨messages, written, whole⟩ := unwritable_of_begun begun
    refine ⟨ordered, secured, passed.dropLast, iff_of_false nofun ?_, ?_⟩
    · rintro ⟨others, all, -, -⟩
      have failed : Except.error fault ∈ others.map .ok := by
        rw [all]
        exact written.subset (by simp)
      simp at failed
    · rintro _ ⟨⟩
      exact .inr ⟨messages, fault, written, whole, passed, rfl⟩

/-! ## Deliveries -/

/-- A delivery through the account is tried. -/
structure IsUsable (account : SmtpAccount) : Prop where
  host : account.host ≠ ""
  portNumber : account.portNumber ≠ 0
  modes : ¬ (account.useTls = true ∧ account.useSsl = true)

/-- What a delivery of so many messages answers. -/
def answerOf (messages : Nat) : Option String → Except DeliveryError Value
  | none => .ok (accepted messages)
  | some reason => .error (.smtpFailed reason)

theorem deliver_of_usable (usable : IsUsable account) (letter : Letter) (recipients : List String)
    {o : Outbox} (closes : ∀ steps, o.transport.smtp steps .quit = none) :
    ∃ calls failure?, Keeps o.transport.smtp account letter
        (Recipients.batches letter.separately recipients) calls failure? ∧
      deliver account letter recipients o =
        (answerOf (Recipients.batches letter.separately recipients).length failure?,
          o.addSteps (calls ++ closing o.transport.smtp
            (.connect account.useSsl account.host account.portNumber))) := by
  have unready : ¬ (account.host.isEmpty || account.portNumber = 0) = true := by
    simp [usable.host, usable.portNumber]
  have modes : ¬ (account.useTls && account.useSsl) = true := by
    simpa using usable.modes
  have ends := converse_ends o.transport.smtp
    (actions account letter (Recipients.batches letter.separately recipients)) []
  refine ⟨_, _, keeps_of_ends ends, ?_⟩
  rw [deliver, if_neg unready, if_neg modes]
  dsimp only
  rw [session_eq closes, script_eq]
  generalize converse o.transport.smtp []
    (actions account letter (Recipients.batches letter.separately recipients)) = talk
  rcases talk with ⟨calls, _ | reason⟩
  · rfl
  · rfl

theorem deliver_of_not_usable (unusable : ¬ IsUsable account) (letter : Letter)
    (recipients : List String) (o : Outbox) :
    ∃ e, deliver account letter recipients o = (.error e, o) := by
  unfold deliver
  split
  · exact ⟨_, rfl⟩
  · rename_i ready
    split
    · exact ⟨_, rfl⟩
    · rename_i modes
      simp only [Bool.or_eq_true, not_or, String.isEmpty_iff, decide_eq_true_eq] at ready
      simp only [Bool.and_eq_true] at modes
      exact absurd ⟨ready.1, ready.2, modes⟩ unusable

end Smtp

namespace Mail

variable {settings : Settings}

theorem via_smtp (settings : Settings) (letter : Letter) (recipients : List String) (o : Outbox) :
    via "smtp" settings letter recipients o = viaSmtp settings letter recipients o :=
  rfl

/-- Some recipients are named, and the settings describe an account that can be tried. -/
def CanStart (settings : Settings) (receivers : Value) : Prop :=
  ∃ account recipients, Smtp.account settings = .ok account ∧
    someRecipients receivers = .ok recipients ∧ Smtp.IsUsable account

theorem deliver_of_cannot_start (chosen : provider settings = .ok "smtp") {receivers : Value}
    (stuck : ¬ CanStart settings receivers) (letter : Letter) (o : Outbox) :
    ∃ fault, deliver settings receivers letter o = (.error fault, o) := by
  cases found : someRecipients receivers with
  | error fault => exact ⟨fault, by rw [deliver, found]⟩
  | ok recipients =>
    rw [deliver_of_provider found chosen, via_smtp, viaSmtp]
    cases read : Smtp.account settings with
    | error fault => exact ⟨fault, rfl⟩
    | ok account =>
      have unusable : ¬ Smtp.IsUsable account := fun usable =>
        stuck ⟨account, recipients, read, found, usable⟩
      obtain ⟨e, failed⟩ := Smtp.deliver_of_not_usable unusable letter recipients o
      dsimp only
      rw [failed]
      exact ⟨.delivery e, rfl⟩

theorem foreseen_viaSmtp (typed : settings.Typed) (letter : Letter) (recipients : List String)
    (o : Outbox) : Foreseen (viaSmtp settings letter recipients o).1 := by
  obtain ⟨account, read⟩ := typed.account
  rw [viaSmtp, read]
  dsimp only
  cases (Smtp.deliver account letter recipients o).1 with
  | ok v => exact foreseen_ok v
  | error e => exact foreseen_delivery e

theorem foreseen_smtp (chosen : provider settings = .ok "smtp") (typed : settings.Typed)
    {receivers : Value} (named : Recipients.IsNamed receivers) (letter : Letter) (o : Outbox) :
    Foreseen (deliver settings receivers letter o).1 := by
  obtain ⟨recipients, normal⟩ := named.normalize
  unfold deliver someRecipients
  rw [normal, chosen]
  cases recipients with
  | nil => exact foreseen_delivery .noRecipient
  | cons first rest => exact foreseen_viaSmtp typed letter (first :: rest) o

/-- A delivery through a mail server: where it cannot start, it fails and makes no call; otherwise
    its calls keep to its course, and it succeeds just if they come to the end of it. What fails is
    always reported as a failed delivery. -/
theorem smtp_keeps_course (chosen : provider settings = .ok "smtp") {o : Outbox}
    (closes : ∀ steps, o.transport.smtp steps .quit = none) (receivers : Value) (letter : Letter) :
    (settings.Typed → Recipients.IsNamed receivers →
      Foreseen (deliver settings receivers letter o).1) ∧
    (¬ CanStart settings receivers →
      ∃ fault, deliver settings receivers letter o = (.error fault, o)) ∧
    ∀ account recipients, Smtp.account settings = .ok account →
      someRecipients receivers = .ok recipients → Smtp.IsUsable account →
      ∃ calls failure?, Smtp.Keeps o.transport.smtp account letter
          (Recipients.batches letter.separately recipients) calls failure? ∧
        deliver settings receivers letter o =
          ((Smtp.answerOf (Recipients.batches letter.separately recipients).length
              failure?).mapError .delivery,
            o.addSteps (calls ++ Smtp.closing o.transport.smtp
              (.connect account.useSsl account.host account.portNumber))) := by
  refine ⟨fun typed named => ?_, fun stuck => ?_, fun account recipients read found usable => ?_⟩
  · exact foreseen_smtp chosen typed named letter o
  · exact deliver_of_cannot_start chosen stuck letter o
  · obtain ⟨calls, failure?, keeps, same⟩ :=
      Smtp.deliver_of_usable usable letter recipients closes
    refine ⟨calls, failure?, keeps, ?_⟩
    rw [deliver_of_provider found chosen, via_smtp, viaSmtp, read]
    dsimp only
    rw [same]

/-- An outbox whose mail server takes one message only. -/
def busyOutbox : Outbox where
  transport := { smtp := SmtpFailure.server ⟨"send2", "busy"⟩ }

theorem busyOutbox_closes (steps : List SmtpStep) :
    busyOutbox.transport.smtp steps .quit = none := by
  simp [busyOutbox, SmtpFailure.server, SmtpFailure.meets, SmtpStep.name, SmtpStep.isSend]

/-- What a greeting is sent to. -/
def greeted : Value :=
  .list [.text " Ann@B.c", .text "", .text "bob@b.c"]

theorem greeting_breaks_off : provider Gateway.sharedSettings.direct = .ok "smtp" ∧
    (∀ steps, busyOutbox.transport.smtp steps .quit = none) ∧
    ∃ account calls, Smtp.account Gateway.sharedSettings.direct = .ok account ∧
      someRecipients greeted = .ok ["ann@b.c", "bob@b.c"] ∧ Smtp.IsUsable account ∧
      Smtp.Keeps busyOutbox.transport.smtp account Gateway.greeting [["ann@b.c"], ["bob@b.c"]]
        calls (some "busy") := by
  have named : Text.lower (Text.strip "smtp") = "smtp" := by decide +kernel
  have chosen : provider Gateway.sharedSettings.direct = .ok "smtp" := congrArg Except.ok named
  have found : someRecipients greeted = .ok ["ann@b.c", "bob@b.c"] := by decide +kernel
  obtain ⟨account, read, usable⟩ : ∃ account,
      Smtp.account Gateway.sharedSettings.direct = .ok account ∧ Smtp.IsUsable account :=
    ⟨_, rfl, by decide +kernel, by decide +kernel, by decide +kernel⟩
  have broken : (deliver Gateway.sharedSettings.direct greeted Gateway.greeting
      busyOutbox).1 = .error (.delivery (.smtpFailed "busy")) := rfl
  obtain ⟨calls, failure?, keeps, same⟩ := (smtp_keeps_course chosen busyOutbox_closes
    greeted Gateway.greeting).2.2 account _ read found usable
  rw [same] at broken
  cases failure? with
  | none => cases broken
  | some reason =>
    obtain rfl : reason = "busy" := by
      injection broken with failed
      injection failed with failed
      injection failed
    exact ⟨chosen, busyOutbox_closes, account, calls, read, found, usable, keeps⟩

end Mail

end QueryDesk
