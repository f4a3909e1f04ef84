import QueryDesk.Otp.Transaction
import QueryDesk.Proofs.Otp.Turn

/-!
# Sending is all or nothing

A send that stops leaves the sessions as they were, wherever it stops and whatever it has written by
then. One that comes through leaves one session for its key.
-/

namespace QueryDesk.Otp

variable {α β : Type}

/-! ## Running steps -/

/-- Runs steps: their outcome, and the desk after them. -/
def Sending.from (steps : Sending α) (desk : Desk) : Except Stop α × Desk :=
  steps.run.run desk

theorem from_pure (a : α) (desk : Desk) : (pure a : Sending α).from desk = (.ok a, desk) := rfl

theorem from_bind (steps : Sending α) (next : α → Sending β) (desk : Desk) :
    (steps >>= next).from desk =
      match steps.from desk with
      | (.ok a, after) => (next a).from after
      | (.error stop, after) => (.error stop, after) := by
  unfold Sending.from
  rw [ExceptT.run_bind, StateT.run_bind]
  rcases steps.run.run desk with ⟨outcome, after⟩
  cases outcome <;> rfl

theorem from_reach (broken : SendStep → Bool) (step : SendStep) (desk : Desk) :
    (Sending.reach broken step).from desk =
      (if broken step then .error (.broken step) else .ok (), desk) := by
  unfold Sending.reach
  split <;> rfl

theorem from_take (outcome : Except SendFault α) (desk : Desk) :
    (Sending.take outcome).from desk = (outcome.mapError .fault, desk) := by
  cases outcome <;> rfl

theorem from_mail (settings : Settings) (key : OtpKey) (code : String) (desk : Desk) :
    (Sending.mail settings key code).from desk =
      let (answer, outbox) := Mail.sendCode settings key.email code key.purpose desk.outbox
      ((answer.mapError .mail).mapError .fault, { desk with outbox }) :=
  from_take _ _

theorem from_erase (key : OtpKey) (desk : Desk) :
    (Sending.erase key).from desk =
      (.ok (), desk.write (desk.table.pending.filter (!hasKey key ·))) := rfl

theorem from_insert (s : OtpSession) (desk : Desk) :
    (Sending.insert s).from desk =
      if desk.table.pending.any (·.id == s.id) then (.error (.fault .idTaken), desk)
      else (.ok (), desk.write (desk.table.pending ++ [s])) := by
  change (if desk.table.pending.any (·.id == s.id) then throw (.fault .idTaken)
    else set (desk.write (desk.table.pending ++ [s])) : Sending Unit).from desk = _
  split <;> rfl

theorem from_commit (desk : Desk) : Sending.commit.from desk = (.ok (), desk.commit) := rfl

/-! ## Steps that store nothing -/

/-- The steps store nothing, whether they stop or not. -/
def Keeps (steps : Sending α) : Prop :=
  ∀ desk, (steps.from desk).2.close = desk.close

/-- The steps store nothing if they stop. -/
def Restores (steps : Sending α) : Prop :=
  ∀ desk stop, (steps.from desk).1 = .error stop → (steps.from desk).2.close = desk.close

theorem Restores.bind {steps : Sending α} {next : α → Sending β} (keeps : Keeps steps)
    (onward : ∀ a, Restores (next a)) : Restores (steps >>= next) := by
  intro desk stop
  have before := keeps desk
  rw [from_bind]
  cases ran : steps.from desk with
  | mk outcome after =>
    rw [ran] at before
    cases outcome with
    | error stop => exact fun _ => before
    | ok a => exact fun stopped => (onward a after stop stopped).trans before

theorem reach_keeps (broken : SendStep → Bool) (step : SendStep) :
    Keeps (Sending.reach broken step) := by
  intro desk
  rw [from_reach]

theorem take_keeps (outcome : Except SendFault α) : Keeps (Sending.take outcome) := by
  intro desk
  rw [from_take]

theorem mail_keeps (settings : Settings) (key : OtpKey) (code : String) :
    Keeps (Sending.mail settings key code) := by
  intro desk
  rw [from_mail]
  rfl

theorem erase_keeps (key : OtpKey) : Keeps (Sending.erase key) :=
  fun _ => rfl

theorem insert_keeps (s : OtpSession) : Keeps (Sending.insert s) := by
  intro desk
  rw [from_insert]
  split <;> rfl

/-- Nothing can stop a send that comes to its commit. -/
theorem commit_restores (receipt : Receipt) :
    Restores (do Sending.commit; return receipt) := by
  intro desk stop stopped
  rw [from_bind, from_commit] at stopped
  cases stopped

theorem sendSteps_restores (broken : SendStep → Bool) (settings : Settings) (now : Moment)
    (id : Uuid) (code purpose email : String) :
    Restores (sendSteps broken settings now id code purpose email) := by
  unfold sendSteps
  refine .bind (reach_keeps _ _) fun _ => .bind (take_keeps _) fun key => ?_
  refine .bind (reach_keeps _ _) fun _ => .bind (mail_keeps _ _ _) fun delivery => ?_
  refine .bind (reach_keeps _ _) fun _ => .bind (take_keeps _) fun minutes => ?_
  refine .bind (reach_keeps _ _) fun _ => .bind (erase_keeps key) fun _ => ?_
  refine .bind (reach_keeps _ _) fun _ => .bind (take_keeps _) fun session => ?_
  refine .bind (reach_keeps _ _) fun _ => .bind (insert_keeps session) fun _ => ?_
  exact .bind (reach_keeps _ _) fun _ => commit_restores _

/-! ## Sends that come through -/

/-- Where steps come through, others do the same. -/
def Follows (steps others : Sending α) : Prop :=
  ∀ desk a after, steps.from desk = (.ok a, after) → others.from desk = (.ok a, after)

theorem Follows.refl (steps : Sending α) : Follows steps steps :=
  fun _ _ _ ran => ran

theorem Follows.bind {steps others : Sending α} {next onward : α → Sending β}
    (follows : Follows steps others) (later : ∀ a, Follows (next a) (onward a)) :
    Follows (steps >>= next) (others >>= onward) := by
  intro desk b after ran
  rw [from_bind] at ran
  cases first : steps.from desk with
  | mk outcome between =>
    rw [first] at ran
    cases outcome with
    | error stop => cases ran
    | ok a =>
      rw [from_bind, follows desk a between first]
      exact later a between b after ran

/-- Nothing breaks off a send. -/
def unbroken : SendStep → Bool :=
  fun _ => false

theorem reach_follows (broken : SendStep → Bool) (step : SendStep) :
    Follows (Sending.reach broken step) (Sending.reach unbroken step) := by
  intro desk a after ran
  rw [from_reach] at ran ⊢
  split at ran
  · cases ran
  · exact ran

/-- A send that comes through has not been broken off. -/
theorem sendSteps_follows (broken : SendStep → Bool) (settings : Settings) (now : Moment)
    (id : Uuid) (code purpose email : String) :
    Follows (sendSteps broken settings now id code purpose email)
      (sendSteps unbroken settings now id code purpose email) := by
  unfold sendSteps
  refine .bind (reach_follows _ _) fun _ => .bind (.refl _) fun key => ?_
  refine .bind (reach_follows _ _) fun _ => .bind (.refl _) fun delivery => ?_
  refine .bind (reach_follows _ _) fun _ => .bind (.refl _) fun minutes => ?_
  refine .bind (reach_follows _ _) fun _ => .bind (.refl _) fun _ => ?_
  refine .bind (reach_follows _ _) fun _ => .bind (.refl _) fun session => ?_
  refine .bind (reach_follows _ _) fun _ => .bind (.refl _) fun _ => ?_
  exact .bind (reach_follows _ _) fun _ => .refl _

theorem any_erased (key : OtpKey) (id : Uuid) (sessions : List OtpSession) :
    (sessions.filter (!hasKey key ·)).any (·.id == id) = isTaken key id sessions := by
  rw [List.any_filter]
  rfl

/-- What is left of a send that was made step by step: its outcome with the sessions, and the
    outbox. -/
def left (run : Except Stop Receipt × Desk) :
    Except Stop (Receipt × List OtpSession) × Outbox :=
  (run.1.map fun receipt => (receipt, run.2.close), run.2.outbox)

/-- What is left of a send, any fault being a reason to stop. -/
def leftOf (sent : Except SendFault (Receipt × List OtpSession) × Outbox) :
    Except Stop (Receipt × List OtpSession) × Outbox :=
  (sent.1.mapError .fault, sent.2)

/-- Step by step, a send that nothing breaks off does what `send` does. -/
theorem sendSteps_unbroken (settings : Settings) (now : Moment) (id : Uuid)
    (code purpose email : String) (sessions : List OtpSession) (o : Outbox) :
    left ((sendSteps unbroken settings now id code purpose email).from (.start sessions o)) =
      leftOf (send settings now id code purpose email sessions o) := by
  have reached (step : SendStep) (desk : Desk) :
      (Sending.reach unbroken step).from desk = (.ok (), desk) := by
    rw [from_reach]
    rfl
  unfold sendSteps send
  simp only [from_bind, reached, from_take, from_mail, from_erase, from_insert, from_commit,
    from_pure]
  cases named : OtpKey.ofTexts purpose email with
  | error fault => rfl
  | ok key =>
    simp only [Except.mapError, Desk.start]
    cases mailed : Mail.sendCode settings key.email code key.purpose o with
    | mk answer outbox =>
      cases answer with
      | error fault => rfl
      | ok delivery =>
        dsimp only
        unfold settleSend
        cases lifetime : lifetimeMinutes (settings.get .otpTtlMinutes) with
        | error fault => rfl
        | ok minutes =>
          cases opened : openSession id key code now minutes with
          | error fault =>
            simp only [Except.mapError, bind, Except.bind, opened]
            rfl
          | ok s =>
            have id_eq : s.id = id := by
              obtain ⟨expiresAt, -, rfl⟩ := openSession_eq_ok opened
              rfl
            cases taken : isTaken key id sessions with
            | true =>
              simp only [Except.mapError, bind, Except.bind, opened, Desk.write, any_erased, id_eq,
                taken, if_true]
              rfl
            | false =>
              simp only [Except.mapError, bind, Except.bind, opened, Desk.write, any_erased, id_eq,
                taken, Bool.false_eq_true, if_false]
              rfl

/-! ## All or nothing -/

/-- Sends a code for a request step by step. -/
def Arrival.attempt (a : Arrival) (broken : SendStep → Bool) (request : CodeRequest)
    (sessions : List OtpSession) : Except Stop Receipt × Desk :=
  (sendSteps broken a.settings a.now a.draw.sessionId a.draw.code request.purpose
    request.email).from (.start sessions a.outbox)

/-- What sessions become of others when a receipt is given for a code: the sessions of its key give
    way to one, for the code that was mailed. -/
structure Receipted (a : Arrival) (receipt : Receipt) (before after : List OtpSession)
    (s : OtpSession) : Prop where
  only : rowsOf receipt.key after = [s]
  others : after.filter (!hasKey receipt.key ·) = before.filter (!hasKey receipt.key ·)
  attempts : s.attempts = 0
  code : s.code = a.draw.code
  mailed : (Mail.sendCode a.settings receipt.key.email s.code receipt.key.purpose a.outbox).1 =
    .ok receipt.delivery
  lifetime : lifetimeMinutes (a.settings.get .otpTtlMinutes) = .ok receipt.minutes
  minutes : ∀ ttl, a.settings.get .otpTtlMinutes = .int ttl → receipt.minutes = max ttl 1
  expires : s.expiresAt.micros = a.time + receipt.minutes * 60000000

theorem others_replace {key : OtpKey} {s : OtpSession} (own : hasKey key s = true)
    (sessions : List OtpSession) :
    (replace key s sessions).filter (!hasKey key ·) = sessions.filter (!hasKey key ·) := by
  simp [replace, List.filter_append, List.filter_filter, own]

theorem receipted_of_send {a : Arrival} {request : CodeRequest} {sessions after : List OtpSession}
    {receipt : Receipt} {o : Outbox}
    (sent : send a.settings a.now a.draw.sessionId a.draw.code request.purpose request.email
      sessions a.outbox = (.ok (receipt, after), o)) :
    receipt.key = (Task.send request).key ∧ ∃ s, Receipted a receipt sessions after s := by
  unfold send at sent
  cases named : OtpKey.ofTexts request.purpose request.email with
  | error fault => simp [named] at sent
  | ok key =>
    cases mailed : Mail.sendCode a.settings key.email a.draw.code key.purpose a.outbox with
    | mk answer outbox =>
      cases answer with
      | error fault => simp [named, mailed] at sent
      | ok delivery =>
        simp only [named, mailed] at sent
        have settled := (Prod.mk.inj sent).1
        obtain ⟨minutes, s, lifetime, opened, -, rfl, rfl⟩ := settleSend_eq_ok settled
        have own := openSession_own opened
        have only := rowsOf_replace_self own sessions
        have others := others_replace own sessions
        obtain ⟨expiresAt, expires, rfl⟩ := openSession_eq_ok opened
        obtain ⟨rfl, -⟩ := ofTexts_ok_iff.mp named
        refine ⟨rfl, _, only, others, rfl, rfl, by rw [mailed], lifetime, ?_, expires⟩
        intro ttl configured
        rw [configured] at lifetime
        exact (Except.ok.inj lifetime).symm

/-- A send that stops, of itself or broken off at any step, leaves the sessions as they were. One
    that comes through leaves one session for its key, as its receipt says, and all the others.
    When nothing breaks it off, it does what `send` does. -/
theorem send_all_or_nothing (a : Arrival) (request : CodeRequest) (sessions : List OtpSession)
    (broken : SendStep → Bool) :
    (∀ stop, (a.attempt broken request sessions).1 = .error stop →
      (a.attempt broken request sessions).2.close = sessions) ∧
    (∀ receipt, (a.attempt broken request sessions).1 = .ok receipt →
      receipt.key = (Task.send request).key ∧
      ∃ s, Receipted a receipt sessions (a.attempt broken request sessions).2.close s) ∧
    left (a.attempt unbroken request sessions) =
      leftOf (send a.settings a.now a.draw.sessionId a.draw.code request.purpose request.email
        sessions a.outbox) := by
  have same := sendSteps_unbroken a.settings a.now a.draw.sessionId a.draw.code request.purpose
    request.email sessions a.outbox
  refine ⟨sendSteps_restores _ _ _ _ _ _ _ (.start sessions a.outbox), ?_, same⟩
  intro receipt given
  cases ran : a.attempt broken request sessions with
  | mk outcome desk =>
    rw [ran] at given
    obtain rfl : outcome = .ok receipt := given
    have whole := sendSteps_follows broken a.settings a.now a.draw.sessionId a.draw.code
      request.purpose request.email (.start sessions a.outbox) receipt desk ran
    rw [whole] at same
    cases sent : send a.settings a.now a.draw.sessionId a.draw.code request.purpose request.email
        sessions a.outbox with
    | mk result outbox =>
      rw [sent] at same
      obtain ⟨outcomes, -⟩ := Prod.mk.inj same
      obtain rfl : result = .ok (receipt, desk.close) := mapError_eq_ok_iff.mp outcomes.symm
      exact receipted_of_send sent

end QueryDesk.Otp
