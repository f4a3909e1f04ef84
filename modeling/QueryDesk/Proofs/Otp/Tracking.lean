import QueryDesk.Proofs.Otp.Turn

/-!
# Sessions as a record of the past

The session of a key says what happened since its code was sent: which code it was, until when it
holds, and how many wrong codes came. `Tracks` states this, and `tracks_history` proves it for every
run that starts without sessions.
-/

namespace QueryDesk.Otp

/-! ## Looking back -/

/-- The latest exchange that sent a code for a key and stored it. -/
def latestSend? (key : OtpKey) (past : List Exchange) : Option Exchange :=
  past.find? (·.stored key)

/-- The exchanges since a code for a key was stored. -/
def recent (key : OtpKey) (past : List Exchange) : List Exchange :=
  past.takeWhile (!·.stored key)

theorem latestSend?_of_stored {key : OtpKey} {x : Exchange} (stored : x.stored key = true)
    (past : List Exchange) : latestSend? key (x :: past) = some x := by
  simp [latestSend?, stored]

theorem latestSend?_of_not_stored {key : OtpKey} {x : Exchange} (stored : x.stored key = false)
    (past : List Exchange) : latestSend? key (x :: past) = latestSend? key past := by
  simp [latestSend?, stored]

theorem recent_of_stored {key : OtpKey} {x : Exchange} (stored : x.stored key = true)
    (past : List Exchange) : recent key (x :: past) = [] := by
  simp [recent, stored]

theorem recent_of_not_stored {key : OtpKey} {x : Exchange} (stored : x.stored key = false)
    (past : List Exchange) : recent key (x :: past) = x :: recent key past := by
  simp [recent, stored]

theorem mem_of_mem_recent {key : OtpKey} {x : Exchange} {past : List Exchange}
    (mem : x ∈ recent key past) : x ∈ past :=
  (List.takeWhile_sublist _).mem mem

/-- A stretch without stored code is recent when it ends. -/
theorem recent_append {key : OtpKey} {stretch : List Exchange}
    (unstored : ∀ x ∈ stretch, x.stored key = false) (older : List Exchange) :
    recent key (stretch ++ older) = stretch ++ recent key older :=
  List.takeWhile_append_of_pos (by simpa using unstored)

theorem arrival_mem_of_mem_history {db : Database} {run : List Arrival} {x : Exchange}
    (mem : x ∈ history db run) : x.arrival ∈ run := by
  induction run with
  | nil => cases mem
  | cons a earlier ih =>
    rcases List.mem_cons.mp mem with rfl | older
    · exact List.mem_cons_self
    · exact List.mem_cons_of_mem _ (ih older)

theorem history_suffix {db : Database} {run : List Arrival} {newer older : List Exchange}
    (splits : history db run = newer ++ older) : ∃ earlier, older = history db earlier ∧
      earlier <:+ run := by
  induction newer generalizing run with
  | nil => exact ⟨run, splits.symm, List.suffix_refl run⟩
  | cons x newer ih =>
    cases run with
    | nil => cases splits
    | cons a rest =>
      obtain ⟨earlier, same, within⟩ := ih (List.cons.inj splits).2
      exact ⟨earlier, same, within.trans (List.suffix_cons a rest)⟩

/-! ## Exclusive outcomes -/

theorem statusOf?_of_refusalOf? {answer : Answer} {status : Nat} {text : String}
    (refused : refusalOf? answer = some (status, text)) : statusOf? answer = some status := by
  unfold refusalOf? at refused
  split at refused
  · cases refused
    rfl
  · cases refused

theorem Exchange.stored_of_checks {key : OtpKey} {x : Exchange} (checks : x.checks key = true) :
    x.stored key = false := by
  unfold Exchange.checks at checks
  split at checks
  · rename_i attempt asked
    simp [Exchange.stored, Exchange.sends, asked]
  · cases checks

theorem Exchange.stored_of_wrong {key : OtpKey} {x : Exchange} (wrong : x.wrong key = true) :
    x.stored key = false := by
  simp only [Exchange.wrong, Bool.and_eq_true] at wrong
  exact Exchange.stored_of_checks wrong.1

theorem Exchange.accepted_of_wrong {key : OtpKey} {x : Exchange} (wrong : x.wrong key = true) :
    x.accepted key = false := by
  simp only [Exchange.wrong, Bool.and_eq_true, beq_iff_eq] at wrong
  simp [Exchange.accepted, statusOf?_of_refusalOf? wrong.2]

/-! ## The invariant -/

/-- Since a code was sent, it was used up or its session was over: some exchange accepted it, or
    could not issue a token for it, or came too late for it. -/
def Ended (key : OtpKey) (sent : Exchange) (since : List Exchange) : Prop :=
  ∃ x ∈ since, x.accepted key = true ∨ ¬ x.arrival.Issues key ∨
    ∃ minutes, lifetimeMinutes (sent.arrival.settings.get .otpTtlMinutes) = .ok minutes ∧
      sent.arrival.time + minutes * 60000000 ≤ x.arrival.time

/-- What the sessions of a key say about the past. -/
inductive Tracks (key : OtpKey) (past : List Exchange) : List OtpSession → Prop
  /-- No code was sent, or the latest one has ended. -/
  | absent (ended : ∀ e, latestSend? key past = some e → Ended key e (recent key past)) :
      Tracks key past []
  /-- The session is that of the latest code, and counts the wrong codes since then. -/
  | running {s e} (sent : latestSend? key past = some e) (stems : Stems e.arrival key s)
      (attempts : s.attempts = (recent key past).countP (·.wrong key))
      (unused : ∀ x ∈ recent key past, x.accepted key = false) : Tracks key past [s]

theorem Ended.cons {key : OtpKey} {sent x : Exchange} {since : List Exchange}
    (ended : Ended key sent since) : Ended key sent (x :: since) := by
  obtain ⟨y, mem, how⟩ := ended
  exact ⟨y, List.mem_cons_of_mem x mem, how⟩

/-- Every turn keeps the record. -/
theorem Tracks.turn {key : OtpKey} {past : List Exchange} {x : Exchange}
    {rows after : List OtpSession} (tracks : Tracks key past rows)
    (turn : Turn key x rows after) : Tracks key (x :: past) after := by
  cases turn with
  | idle quiet =>
    cases tracks with
    | absent ended =>
      refine .absent fun e sent => ?_
      rw [latestSend?_of_not_stored quiet.stored] at sent
      rw [recent_of_not_stored quiet.stored]
      exact (ended e sent).cons
    | running sent stems attempts unused =>
      rw [← latestSend?_of_not_stored quiet.stored] at sent
      refine .running sent stems ?_ ?_
      · simpa [recent_of_not_stored quiet.stored, quiet.wrong] using attempts
      · simpa [recent_of_not_stored quiet.stored, quiet.accepted] using unused
  | opened stored opens =>
    refine .running (latestSend?_of_stored stored past) opens.toStems ?_ ?_
    · simpa [recent_of_stored stored] using opens.attempts
    · simp [recent_of_stored stored]
  | counted wrong verdict =>
    cases tracks with
    | running sent stems attempts unused =>
      have unstored := Exchange.stored_of_wrong wrong
      rw [← latestSend?_of_not_stored unstored] at sent
      refine .running sent (stems.withWrong _) ?_ ?_
      · simpa [recent_of_not_stored unstored, wrong, withWrong] using attempts
      · simpa [recent_of_not_stored unstored, Exchange.accepted_of_wrong wrong] using unused
  | consumed unstored wrong verdict accepted =>
    -- The session is gone even if no token could be issued for the right code.
    refine .absent fun e sent => ?_
    rw [recent_of_not_stored unstored]
    refine ⟨x, List.mem_cons_self, ?_⟩
    by_cases issues : x.arrival.Issues key
    · exact .inl (accepted.mpr issues)
    · exact .inr (.inl issues)
  | expired quiet late =>
    -- The clock of this check is past the end of the session on record.
    cases tracks with
    | running sent stems attempts unused =>
      refine .absent fun e sent' => ?_
      rw [latestSend?_of_not_stored quiet.stored, sent] at sent'
      cases sent'
      obtain ⟨minutes, lifetime, lasts⟩ := stems.lasts
      rw [recent_of_not_stored quiet.stored]
      exact ⟨x, List.mem_cons_self, .inr (.inr ⟨minutes, lifetime, lasts ▸ late⟩)⟩

/-- A run that starts without sessions keeps its table sound, and the sessions of each key are a
    record of its history. -/
theorem tracks_history {db : Database} (start : db.otpSessions = []) (run : List Arrival) :
    Sound (tablesAfter db run).otpSessions ∧ ∀ key, Tracks key (history db run)
      (rowsOf key (tablesAfter db run).otpSessions) := by
  induction run with
  | nil =>
    simp only [tablesAfter, start]
    refine ⟨sound_nil, fun key => .absent fun e sent => ?_⟩
    cases sent
  | cons a earlier ih =>
    obtain ⟨sound, tracks⟩ := ih
    obtain ⟨sound', turns⟩ := turn_of (a := a) sound
    exact ⟨sound', fun key => (tracks key).turn (turns key)⟩

end QueryDesk.Otp
