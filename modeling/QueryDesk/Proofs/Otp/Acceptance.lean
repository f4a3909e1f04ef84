import QueryDesk.Proofs.Otp.Tracking

/-!
# Which codes are accepted

A code is accepted just if it is the latest one that was sent for its key, still holds, was not
accepted before, and not too many wrong codes came since. The law holds for every run of the
service, whatever else is asked in between and for whatever other keys.
-/

namespace QueryDesk.Otp

theorem length_strip_le (s : String) : (Text.strip s).length ≤ s.length := by
  have drop : ∀ cs : List Char, (cs.dropWhile Text.isBlank).length ≤ cs.length :=
    fun cs => (List.dropWhile_suffix _).length_le
  have trimmed : (Text.trim s.toList).length ≤ s.toList.length := by
    simp only [Text.trim, Text.dropWhileEnd, List.length_reverse]
    refine Nat.le_trans (drop _) ?_
    rw [List.length_reverse]
    exact drop _
  simpa [← String.length_toList] using trimmed

/-- The verdict about a session of the latest code, in terms of what was sent. -/
theorem accepted_iff_of_stems {a : Arrival} {key : OtpKey} {sent : Exchange} {s : OtpSession}
    (stems : Stems sent.arrival key s) {ttl limit : Int}
    (lifetime : sent.arrival.settings.get .otpTtlMinutes = .int ttl)
    (configured : a.settings.get .otpMaxAttempts = .int limit) {code : String}
    (short : code.length ≤ Secret.maxLength)
    (faithful : Secret.alike (Text.strip code) sent.arrival.draw.code = true ↔
      Text.strip code = sent.arrival.draw.code) :
    verdictOn a code s = .accepted ↔
      a.time < sent.arrival.time + max ttl 1 * 60000000 ∧ s.attempts < limit ∧
        Text.strip code ≠ "" ∧ Text.strip code = sent.arrival.draw.code := by
  obtain ⟨minutes, lifetime', lasts⟩ := stems.lasts
  rw [lifetime] at lifetime'
  obtain rfl : max ttl 1 = minutes := Except.ok.inj lifetime'
  rw [verdictOn, configured]
  change judge _ (.ok limit) _ _ _ = _ ↔ _
  rw [judge_accepted_iff (Nat.le_trans (length_strip_le code) short), lasts, stems.code, faithful]

/-- A code that has ended by one that was accepted or came too late is no more. -/
theorem not_ended {key : OtpKey} {sent : Exchange} {since : List Exchange} {ttl : Int} {now : Int}
    (lifetime : sent.arrival.settings.get .otpTtlMinutes = .int ttl)
    (issues : ∀ x ∈ since, x.arrival.Issues key) (clock : ∀ x ∈ since, x.arrival.time ≤ now)
    (unused : ∀ x ∈ since, x.accepted key = false)
    (running : now < sent.arrival.time + max ttl 1 * 60000000) : ¬ Ended key sent since := by
  rintro ⟨x, mem, accepted | unissued | ⟨minutes, lifetime', late⟩⟩
  · rw [unused x mem] at accepted
    cases accepted
  · exact unissued (issues x mem)
  · rw [lifetime] at lifetime'
    obtain rfl : max ttl 1 = minutes := Except.ok.inj lifetime'
    have := clock x mem
    omega

/-- In a run that starts without sessions, under fixed settings, while the clock never goes back and
    tokens can be issued, a code is accepted just if some code was sent for its key and stored, and
    for the latest one: its lifetime is not over, no code was accepted since, fewer wrong codes came
    since than the settings allow, and it is the code. -/
theorem accepted_iff_latest {db : Database} (start : db.otpSessions = []) {settings : Settings}
    {ttl limit : Int} (lifetime : settings.get .otpTtlMinutes = .int ttl)
    (attempts : settings.get .otpMaxAttempts = .int limit) {a : Arrival} {run : List Arrival}
    (fixed : ∀ b ∈ a :: run, b.settings = settings)
    (clock : (a :: run).Pairwise fun later earlier => earlier.time ≤ later.time)
    {attempt : CodeCheck} (asks : a.task? = some (.check attempt)) {key : OtpKey}
    (own : (Task.check attempt).key = key) (issues : ∀ b ∈ a :: run, b.Issues key)
    (short : attempt.code.length ≤ Secret.maxLength)
    (faithful : ∀ x ∈ history db run, x.stored key = true →
      (Secret.alike (Text.strip attempt.code) x.arrival.draw.code = true ↔
        Text.strip attempt.code = x.arrival.draw.code)) :
    statusOf? (a.answer (tablesAfter db run)) = some 200 ↔
      ∃ sent, latestSend? key (history db run) = some sent ∧
        a.time < sent.arrival.time + max ttl 1 * 60000000 ∧
        (∀ x ∈ recent key (history db run), x.accepted key = false) ∧
        (recent key (history db run)).countP (·.wrong key) < limit ∧
        Text.strip attempt.code ≠ "" ∧ Text.strip attempt.code = sent.arrival.draw.code := by
  subst own
  obtain ⟨sound, tracks⟩ := tracks_history start run
  have tracks := tracks (Task.check attempt).key
  have of_run {x : Exchange} (mem : x ∈ history db run) : x.arrival ∈ a :: run :=
    List.mem_cons_of_mem a (arrival_mem_of_mem_history mem)
  have of_latest {sent : Exchange}
      (latest : latestSend? (Task.check attempt).key (history db run) = some sent) :
      sent ∈ history db run := List.mem_of_find?_eq_some latest
  have configured : a.settings.get .otpMaxAttempts = .int limit := by
    rw [fixed a List.mem_cons_self, attempts]
  have lifetimes {x : Exchange} (mem : x ∈ history db run) :
      x.arrival.settings.get .otpTtlMinutes = .int ttl := by
    rw [fixed _ (of_run mem), lifetime]
  have accepts {s : OtpSession} {sent : Exchange}
      (latest : latestSend? (Task.check attempt).key (history db run) = some sent)
      (stems : Stems sent.arrival (Task.check attempt).key s) :=
    accepted_iff_of_stems stems (lifetimes (of_latest latest)) configured short
      (faithful sent (of_latest latest) (List.find?_some latest))
  have before {x : Exchange} (mem : x ∈ recent (Task.check attempt).key (history db run)) :
      x.arrival.time ≤ a.time :=
    (List.pairwise_cons.mp clock).1 _ (arrival_mem_of_mem_history (mem_of_mem_recent mem))
  constructor
  · intro answered
    rcases check_cases sound asks with ⟨-, refused, -⟩ | ⟨row, only, accepted, -⟩
    · exact absurd answered refused
    · rw [only] at tracks
      cases tracks with
      | running latest stems counted unused =>
        obtain ⟨running, left, given, same⟩ :=
          (accepts latest stems).mp (accepted.mp answered).1
        exact ⟨_, latest, running, unused, counted ▸ left, given, same⟩
  · rintro ⟨sent, latest, running, unused, left, given, same⟩
    have lasting := not_ended (lifetimes (of_latest latest))
      (fun x mem => issues _ (of_run (mem_of_mem_recent mem))) (fun x mem => before mem) unused
      running
    rcases check_cases sound asks with ⟨absent, -⟩ | ⟨row, only, accepted, -⟩
    · cases rows : rowsOf (Task.check attempt).key (tablesAfter db run).otpSessions with
      | nil =>
        rw [rows] at tracks
        cases tracks with
        | absent ended => exact absurd (ended sent latest) lasting
      | cons row others =>
        rw [rows] at tracks
        cases tracks with
        | running latest' stems => simp [absent stems.admitted] at rows
    · rw [only] at tracks
      cases tracks with
      | running latest' stems counted =>
        obtain rfl := Option.some.inj (latest'.symm.trans latest)
        refine accepted.mpr ⟨(accepts latest stems).mpr ?_, issues a List.mem_cons_self⟩
        exact ⟨running, counted ▸ left, given, same⟩

/-- The second of two codes is accepted, with a blank before it. -/
theorem accepts_second_code :
    statusOf? ((sampleCheck 2 " 222222").answer
      (tablesAfter {} [sampleSend 1 "222222" "", sampleSend 0 "111111" ""])) = some 200 := by
  have lifetime : sampleSettings.get .otpTtlMinutes = .int 10 := rfl
  have attempts : sampleSettings.get .otpMaxAttempts = .int 1 := rfl
  have asks : (sampleCheck 2 " 222222").task? =
      some (.check (sampleAttempt " 222222")) := by decide +kernel
  have own : (Task.check (sampleAttempt " 222222")).key = sampleKey := by decide +kernel
  have sent : (⟨sampleSend 1 "222222" "", (sampleSend 1 "222222" "").answer
      (tablesAfter {} [sampleSend 0 "111111" ""])⟩ : Exchange).stored sampleKey = true := by
    decide +kernel
  refine (accepted_iff_latest rfl lifetime attempts ?_ ?_ asks own ?_ ?_ ?_).mpr
    ⟨_, latestSend?_of_stored sent _, ?_⟩
  · simp [sampleCheck, sampleSend]
  · decide +kernel
  · decide +kernel
  · decide +kernel
  · decide +kernel
  · decide +kernel

/-- A code is accepted although no request that sent it was answered with status 200: the mail
    service answered a number that is none, so that the answer to the request could not be
    written. -/
theorem accepts_code_of_unwritten_send :
    (∀ b ∈ [sampleCheck 1 "111111", sampleSend 0 "111111" "[NaN]"], b.Issues sampleKey) ∧
    Secret.alike "111111" "111111" = true ∧
    statusOf? ((sampleCheck 1 "111111").answer
      (tablesAfter {} [sampleSend 0 "111111" "[NaN]"])) = some 200 ∧
    ∀ x ∈ history {} [sampleSend 0 "111111" "[NaN]"],
      ¬ (x.sends sampleKey = true ∧ statusOf? x.answer = some 200) := by
  refine ⟨?_, ?_, ?_, ?_⟩
  · decide +kernel
  · decide +kernel
  · decide +kernel
  · decide +kernel

end QueryDesk.Otp
