import Mathlib.Data.List.Nodup
import QueryDesk.Otp.Send

/-!
# The table of sessions, key by key

Sending and checking codes write to the table in three ways: `replace`, `remove` and `countWrong`.
In a sound table, where ids differ and no key has two sessions, each of these touches the session of
one key and leaves the sessions of every other key alone.
-/

namespace QueryDesk.Otp

/-- The sessions of a key. -/
def rowsOf (key : OtpKey) (sessions : List OtpSession) : List OtpSession :=
  sessions.filter (hasKey key)

/-- No two sessions share an id, and none share a key. -/
structure Sound (sessions : List OtpSession) : Prop where
  ids : (sessions.map (·.id)).Nodup
  keys : ∀ key, (rowsOf key sessions).length ≤ 1

theorem sound_nil : Sound [] :=
  ⟨List.nodup_nil, fun _ => Nat.zero_le 1⟩

theorem hasKey_iff {key : OtpKey} {s : OtpSession} :
    hasKey key s = true ↔ s.purpose = key.purpose ∧ s.email = key.email := by
  simp [hasKey]

theorem hasKey_unique {key other : OtpKey} {s : OtpSession} (one : hasKey key s = true)
    (two : hasKey other s = true) : key = other := by
  obtain ⟨purpose, email⟩ := hasKey_iff.mp one
  obtain ⟨purpose', email'⟩ := hasKey_iff.mp two
  cases key
  cases other
  simp_all

theorem mem_rowsOf {key : OtpKey} {s : OtpSession} {sessions : List OtpSession} :
    s ∈ rowsOf key sessions ↔ s ∈ sessions ∧ hasKey key s = true :=
  List.mem_filter

/-- In a sound table the sessions of a key are none or one. -/
theorem Sound.rows_cases {sessions : List OtpSession} (sound : Sound sessions) (key : OtpKey) :
    rowsOf key sessions = [] ∨ ∃ s, rowsOf key sessions = [s] := by
  have few := sound.keys key
  match rows : rowsOf key sessions with
  | [] => exact .inl rfl
  | [s] => exact .inr ⟨s, rfl⟩
  | _ :: _ :: _ => simp [rows] at few

/-- Where ids differ, sessions of different keys have different ids. -/
theorem id_ne {sessions : List OtpSession} (ids : (sessions.map (·.id)).Nodup) {key other : OtpKey}
    (ne : other ≠ key) {s t : OtpSession} (here : s ∈ rowsOf key sessions)
    (there : t ∈ rowsOf other sessions) : t.id ≠ s.id := by
  obtain ⟨memS, keyS⟩ := mem_rowsOf.mp here
  obtain ⟨memT, keyT⟩ := mem_rowsOf.mp there
  intro same
  have equal : t = s := List.inj_on_of_nodup_map ids memT memS same
  subst equal
  exact ne (hasKey_unique keyT keyS)

theorem current?_eq (key : OtpKey) (sessions : List OtpSession) :
    current? key sessions = latest? (rowsOf key sessions) := rfl

theorem latest?_nil : latest? [] = none := rfl

theorem latest?_singleton (s : OtpSession) : latest? [s] = some s := rfl

/-! ## Replacing -/

theorem rowsOf_replace_self {key : OtpKey} {s : OtpSession} (own : hasKey key s = true)
    (sessions : List OtpSession) : rowsOf key (replace key s sessions) = [s] := by
  have none_left : (sessions.filter (!hasKey key ·)).filter (hasKey key) = [] := by
    simp [List.filter_filter]
  simp [rowsOf, replace, List.filter_append, none_left, own]

theorem rowsOf_replace_other {key other : OtpKey} (ne : other ≠ key) {s : OtpSession}
    (own : hasKey key s = true) (sessions : List OtpSession) :
    rowsOf other (replace key s sessions) = rowsOf other sessions := by
  have foreign : hasKey other s = false := by
    by_contra h
    exact ne (hasKey_unique (by simpa using h) own)
  have kept : (sessions.filter (!hasKey key ·)).filter (hasKey other) =
      sessions.filter (hasKey other) := by
    rw [List.filter_filter]
    apply List.filter_congr
    intro t _
    by_cases h : hasKey other t = true
    · have : hasKey key t = false := by
        by_contra h'
        exact ne (hasKey_unique h (by simpa using h'))
      simp [h, this]
    · simp [h]
  simp [rowsOf, replace, List.filter_append, kept, foreign]

theorem Sound.replace {sessions : List OtpSession} (sound : Sound sessions) {key : OtpKey}
    {s : OtpSession} (own : hasKey key s = true) (free : isTaken key s.id sessions = false) :
    Sound (Otp.replace key s sessions) := by
  constructor
  · have fresh : ∀ t ∈ sessions.filter (!hasKey key ·), t.id ≠ s.id := by
      intro t kept same
      obtain ⟨mem, other⟩ := List.mem_filter.mp kept
      have taken : isTaken key s.id sessions = true :=
        List.any_eq_true.mpr ⟨t, mem, by simpa [same] using other⟩
      simp [free] at taken
    have kept : ((sessions.filter (!hasKey key ·)).map (·.id)).Nodup :=
      sound.ids.sublist (List.filter_sublist.map _)
    simp only [Otp.replace, List.map_append, List.map_cons, List.map_nil]
    refine kept.append (List.nodup_singleton _) ?_
    simpa [List.disjoint_singleton] using fun t mem other => fresh t (by simp [mem, other])
  · intro other
    by_cases same : other = key
    · subst same
      simp [rowsOf_replace_self own]
    · simpa [rowsOf_replace_other same own] using sound.keys other

/-! ## Removing -/

theorem rowsOf_remove (key : OtpKey) (s : OtpSession) (sessions : List OtpSession) :
    rowsOf key (remove s sessions) = (rowsOf key sessions).filter (·.id != s.id) :=
  List.filter_comm ..

theorem rowsOf_remove_self {key : OtpKey} {s : OtpSession} {sessions : List OtpSession}
    (only : rowsOf key sessions = [s]) : rowsOf key (remove s sessions) = [] := by
  simp [rowsOf_remove, only]

theorem rowsOf_remove_other {sessions : List OtpSession} (ids : (sessions.map (·.id)).Nodup)
    {key other : OtpKey} (ne : other ≠ key) {s : OtpSession} (here : s ∈ rowsOf key sessions) :
    rowsOf other (remove s sessions) = rowsOf other sessions := by
  rw [rowsOf_remove, List.filter_eq_self]
  intro t there
  simpa using id_ne ids ne here there

theorem Sound.remove {sessions : List OtpSession} (sound : Sound sessions) (s : OtpSession) :
    Sound (Otp.remove s sessions) := by
  constructor
  · exact sound.ids.sublist (List.filter_sublist.map _)
  · intro key
    rw [rowsOf_remove]
    exact Nat.le_trans (List.length_filter_le _ _) (sound.keys key)

/-! ## Counting a wrong code -/

theorem hasKey_bump (key : OtpKey) (now : Int) (s t : OtpSession) :
    hasKey key (if t.id = s.id then withWrong now t else t) = hasKey key t := by
  split <;> rfl

theorem rowsOf_countWrong (key : OtpKey) (now : Int) (s : OtpSession)
    (sessions : List OtpSession) :
    rowsOf key (countWrong now s sessions) =
      (rowsOf key sessions).map fun t => if t.id = s.id then withWrong now t else t := by
  rw [countWrong, rowsOf, rowsOf, List.filter_map]
  congr 1
  exact List.filter_congr fun t _ => hasKey_bump key now s t

theorem rowsOf_countWrong_self {key : OtpKey} {s : OtpSession} {sessions : List OtpSession}
    (only : rowsOf key sessions = [s]) (now : Int) :
    rowsOf key (countWrong now s sessions) = [withWrong now s] := by
  simp [rowsOf_countWrong, only]

theorem rowsOf_countWrong_other {sessions : List OtpSession} (ids : (sessions.map (·.id)).Nodup)
    {key other : OtpKey} (ne : other ≠ key) {s : OtpSession} (here : s ∈ rowsOf key sessions)
    (now : Int) : rowsOf other (countWrong now s sessions) = rowsOf other sessions := by
  rw [rowsOf_countWrong]
  conv_rhs => rw [← List.map_id (rowsOf other sessions)]
  apply List.map_congr_left
  intro t there
  simp [id_ne ids ne here there]

theorem ids_countWrong (now : Int) (s : OtpSession) (sessions : List OtpSession) :
    (countWrong now s sessions).map (·.id) = sessions.map (·.id) := by
  rw [countWrong, List.map_map]
  apply List.map_congr_left
  intro t _
  simp only [Function.comp]
  split <;> rfl

theorem Sound.countWrong {sessions : List OtpSession} (sound : Sound sessions) (now : Int)
    (s : OtpSession) : Sound (Otp.countWrong now s sessions) := by
  constructor
  · rw [ids_countWrong]
    exact sound.ids
  · intro key
    simpa [rowsOf_countWrong] using sound.keys key

end QueryDesk.Otp
