import QueryDesk.Proofs.Otp.Table

/-!
# The newest session of a key

A key may have several sessions. A check looks at the newest of them, and all that it writes is said
by the place where this one stands in the table.
-/

namespace QueryDesk.Otp

/-- The session of a key that was made last, of those made at the same time the first. It stands
    between the sessions before and after it. -/
structure Newest (key : OtpKey) (sessions : List OtpSession) (row : OtpSession)
    (before after : List OtpSession) : Prop where
  own : hasKey key row = true
  place : sessions = before ++ row :: after
  newer : ∀ s ∈ before, hasKey key s = true → s.createdAt.micros < row.createdAt.micros
  newest : ∀ s ∈ after, hasKey key s = true → s.createdAt.micros ≤ row.createdAt.micros

variable {key : OtpKey} {sessions before after : List OtpSession} {row : OtpSession}

theorem Newest.mem (newest : Newest key sessions row before after) : row ∈ sessions := by
  rw [newest.place]
  simp

theorem Newest.le (newest : Newest key sessions row before after) {s : OtpSession}
    (mem : s ∈ sessions) (own : hasKey key s = true) :
    s.createdAt.micros ≤ row.createdAt.micros := by
  rw [newest.place, List.mem_append, List.mem_cons] at mem
  rcases mem with earlier | rfl | later
  · exact Int.le_of_lt (newest.newer s earlier own)
  · exact Int.le_refl _
  · exact newest.newest s later own

/-! ## Finding it -/

theorem current?_cons_own {s : OtpSession} (own : hasKey key s = true)
    (rest : List OtpSession) : current? key (s :: rest) =
      match current? key rest with
      | some t => if s.createdAt.micros < t.createdAt.micros then some t else some s
      | none => some s := by
  rw [current?, List.filter_cons_of_pos own]
  rfl

theorem current?_cons_other {s : OtpSession} (other : ¬ hasKey key s = true)
    (rest : List OtpSession) : current? key (s :: rest) = current? key rest := by
  rw [current?, List.filter_cons_of_neg other]
  rfl

theorem current?_eq_none_iff :
    current? key sessions = none ↔ ∀ s ∈ sessions, ¬ hasKey key s = true := by
  induction sessions with
  | nil => exact iff_of_true rfl (by simp)
  | cons s rest ih =>
    rw [List.forall_mem_cons]
    by_cases own : hasKey key s = true
    · rw [current?_cons_own own]
      split
      · split <;> simp [own]
      · simp [own]
    · rw [current?_cons_other own, ih]
      simp [own]

theorem exists_newest (found : current? key sessions = some row) :
    ∃ before after, Newest key sessions row before after := by
  induction sessions generalizing row with
  | nil => cases found
  | cons s rest ih =>
    by_cases own : hasKey key s = true
    · rw [current?_cons_own own] at found
      split at found
      · rename_i t among
        obtain ⟨before, after, newest⟩ := ih among
        split at found
        · rename_i newer
          obtain rfl := Option.some.inj found
          refine ⟨s :: before, after, newest.own, by rw [newest.place, List.cons_append], ?_,
            newest.newest⟩
          exact List.forall_mem_cons.mpr ⟨fun _ => newer, newest.newer⟩
        · rename_i older
          obtain rfl := Option.some.inj found
          refine ⟨[], rest, own, rfl, by simp, fun u mem ownU => ?_⟩
          exact Int.le_trans (newest.le mem ownU) (Int.not_lt.mp older)
      · rename_i alone
        obtain rfl := Option.some.inj found
        refine ⟨[], rest, own, rfl, by simp, fun u mem ownU => ?_⟩
        exact absurd ownU (current?_eq_none_iff.mp alone u mem)
    · rw [current?_cons_other own] at found
      obtain ⟨before, after, newest⟩ := ih found
      refine ⟨s :: before, after, newest.own, by rw [newest.place, List.cons_append], ?_,
        newest.newest⟩
      exact List.forall_mem_cons.mpr ⟨fun ownS => absurd ownS own, newest.newer⟩

theorem Newest.current?_eq (newest : Newest key sessions row before after) :
    current? key sessions = some row := by
  obtain ⟨own, rfl, newer, older⟩ := newest
  induction before with
  | nil =>
    rw [List.nil_append, current?_cons_own own]
    split
    · rename_i t found
      obtain ⟨_, _, next⟩ := exists_newest found
      rw [if_neg (Int.not_lt.mpr (older t next.mem next.own))]
    · rfl
  | cons s before ih =>
    rw [List.forall_mem_cons] at newer
    rw [List.cons_append]
    by_cases ownS : hasKey key s = true
    · rw [current?_cons_own ownS, ih newer.2]
      exact if_pos (newer.1 ownS)
    · rw [current?_cons_other ownS, ih newer.2]

/-- A check finds a session just if it is the newest of its key. -/
theorem current?_eq_some_iff :
    current? key sessions = some row ↔ ∃ before after, Newest key sessions row before after :=
  ⟨exists_newest, fun ⟨_, _, newest⟩ => newest.current?_eq⟩

/-! ## Writing to it -/

theorem Newest.ids_ne (newest : Newest key sessions row before after)
    (ids : (sessions.map (·.id)).Nodup) :
    (∀ s ∈ before, s.id ≠ row.id) ∧ ∀ s ∈ after, s.id ≠ row.id := by
  rw [newest.place, List.map_append, List.map_cons, List.nodup_middle, List.nodup_cons] at ids
  simp only [List.mem_append, List.mem_map, not_or, not_exists, not_and] at ids
  exact ids.1

/-- Where ids differ, removing the session leaves all the others. -/
theorem Newest.remove_eq (newest : Newest key sessions row before after)
    (ids : (sessions.map (·.id)).Nodup) : remove row sessions = before ++ after := by
  obtain ⟨first, last⟩ := newest.ids_ne ids
  have kept : ∀ others : List OtpSession, (∀ s ∈ others, s.id ≠ row.id) →
      others.filter (·.id != row.id) = others := by
    intro others apart
    exact List.filter_eq_self.mpr fun s mem => by simpa using apart s mem
  rw [newest.place, remove, List.filter_append, List.filter_cons_of_neg (by simp),
    kept before first, kept after last]

/-- Where ids differ, a wrong code is counted for the session alone. -/
theorem Newest.countWrong_eq (newest : Newest key sessions row before after)
    (ids : (sessions.map (·.id)).Nodup) (now : Int) :
    countWrong now row sessions = before ++ withWrong now row :: after := by
  obtain ⟨first, last⟩ := newest.ids_ne ids
  have kept : ∀ others : List OtpSession, (∀ s ∈ others, s.id ≠ row.id) →
      others.map (fun t => if t.id = row.id then withWrong now t else t) = others := by
    intro others apart
    conv_rhs => rw [← List.map_id others]
    exact List.map_congr_left fun s mem => if_neg (apart s mem)
  rw [Otp.countWrong, newest.place, List.map_append, List.map_cons, kept before first,
    kept after last, if_pos rfl]

end QueryDesk.Otp
