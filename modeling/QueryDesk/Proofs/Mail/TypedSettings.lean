import QueryDesk.Mail.Deliver
import QueryDesk.Proofs.Steps

/-!
# Settings that hold what they declare

A running service may be given any value for any setting. Settings that are read from the
environment, and the defaults, hold values of the declared kinds. With such settings a value that
mail takes from them is always there.
-/

namespace QueryDesk

/-- A setting of this kind holds the value. -/
def SettingKind.holds : SettingKind → Value → Bool
  | .text, .text _ | .whole, .int _ | .double, .float _ | .flag, .bool _ => true
  | _, _ => false

/-- The declaration of a setting. -/
def Setting.entry? (s : Setting) : Option SettingEntry :=
  entries.find? (·.setting == s)

/-- The kind that is declared for a setting. -/
def Setting.kind (s : Setting) : SettingKind :=
  (s.entry?.map (·.kind)).getD .text

namespace Settings

/-- Every setting holds a value of its kind. -/
def Typed (settings : Settings) : Prop :=
  ∀ s : Setting, s.kind.holds (settings.get s) = true

theorem typed_defaults (databaseUrl : String) : (defaults databaseUrl).Typed := by
  intro s
  cases s <;> rfl

theorem Typed.set {settings : Settings} (typed : settings.Typed) {s : Setting} {v : Value}
    (fits : s.kind.holds v = true) : (settings.set s v).Typed := by
  intro t
  by_cases same : t = s
  · simpa [Settings.set, same] using fits
  · simpa [Settings.set, same] using typed t

theorem Typed.text {settings : Settings} (typed : settings.Typed) {s : Setting}
    (kind : s.kind = .text) : ∃ t, settings.get s = .text t := by
  have held := typed s
  rw [kind] at held
  cases found : settings.get s with
  | text t => exact ⟨t, rfl⟩
  | _ => simp [found, SettingKind.holds] at held

theorem Typed.whole {settings : Settings} (typed : settings.Typed) {s : Setting}
    (kind : s.kind = .whole) : ∃ n, settings.get s = .int n := by
  have held := typed s
  rw [kind] at held
  cases found : settings.get s with
  | int n => exact ⟨n, rfl⟩
  | _ => simp [found, SettingKind.holds] at held

/-! ## The environment -/

theorem holds_of_readText {entry : SettingEntry} {s : String} {v : Value}
    (read : readText entry s = .ok v) : entry.kind.holds v = true := by
  unfold readText at read
  cases kind : entry.kind with
  | text =>
    simp only [kind, Except.ok.injEq] at read
    rw [← read]
    rfl
  | whole =>
    simp only [kind, map_eq_ok_iff] at read
    obtain ⟨n, -, rfl⟩ := read
    rfl
  | flag =>
    simp only [kind, map_eq_ok_iff] at read
    obtain ⟨b, -, rfl⟩ := read
    rfl
  | double =>
    simp only [kind] at read
    split at read
    · rw [← Except.ok.inj read]
      rfl
    · simp [Validation.refuse] at read

theorem holds_of_readEntry {environment : List (String × String)} {entry : SettingEntry}
    {v : Value} (fits : ∀ d, entry.default = some d → entry.kind.holds d = true)
    (read : readEntry environment entry = .ok v) : entry.kind.holds v = true := by
  unfold readEntry at read
  split at read
  · exact holds_of_readText read
  · rename_i d _ given
    rw [← Except.ok.inj read]
    exact fits d given
  · cases read

/-- What is read for each of some declarations is looked up by its setting. -/
theorem lookup_of_every {environment : List (String × String)} {entries : List SettingEntry}
    {values : List (Setting × Value)} (read : Validation.every (entries.map fun entry =>
      (readEntry environment entry).map (entry.setting, ·)) = .ok values)
    {s : Setting} {entry : SettingEntry} (found : entries.find? (·.setting == s) = some entry) :
    ∃ v, readEntry environment entry = .ok v ∧ values.lookup s = some v := by
  induction entries generalizing values with
  | nil => cases found
  | cons first rest ih =>
    simp only [List.map_cons, Validation.every_cons_eq_ok_iff, map_eq_ok_iff] at read
    obtain ⟨_, others, ⟨v, own, rfl⟩, more, rfl⟩ := read
    by_cases same : first.setting = s
    · rw [List.find?_cons_of_pos (by simpa using same)] at found
      obtain rfl := Option.some.inj found
      exact ⟨v, own, by simp [same]⟩
    · rw [List.find?_cons_of_neg (by simpa using same)] at found
      obtain ⟨v', read', lookup⟩ := ih more found
      have apart : (s == first.setting) = false := by simpa using Ne.symm same
      exact ⟨v', read', by simpa [List.lookup_cons, apart] using lookup⟩

theorem exists_entry (s : Setting) : ∃ entry, s.entry? = some entry ∧
    ∀ d, entry.default = some d → entry.kind.holds d = true := by
  cases s <;> refine ⟨_, rfl, ?_⟩ <;> rintro d ⟨⟩ <;> rfl

/-- Settings that are read from the environment hold what they declare. -/
theorem typed_ofEnvironment {platform : Platform} {environment : List (String × String)}
    {settings : Settings} (read : ofEnvironment platform environment = .ok settings) :
    settings.Typed := by
  intro s
  obtain ⟨values, all, rfl⟩ := map_eq_ok_iff.mp read
  obtain ⟨entry, declared, fits⟩ := exists_entry s
  obtain ⟨v, own, lookup⟩ := lookup_of_every all declared
  simpa [Setting.kind, declared, lookup] using holds_of_readEntry fits own

/-! ## What mail takes from its settings -/

variable {settings : Settings}

theorem Typed.settingText (typed : settings.Typed) {s : Setting} (kind : s.kind = .text) :
    ∃ t, Smtp.settingText settings s = .ok t := by
  obtain ⟨t, found⟩ := typed.text kind
  unfold Smtp.settingText Value.textOr?
  rw [found]
  cases (Value.text t).isTruthy <;> exact ⟨_, rfl⟩

theorem Typed.provider (typed : settings.Typed) : ∃ name, Mail.provider settings = .ok name := by
  obtain ⟨t, found⟩ := typed.text (s := .emailProvider) rfl
  unfold Mail.provider Value.textOr?
  rw [found]
  cases (Value.text t).isTruthy <;> exact ⟨_, rfl⟩

theorem Typed.senderOf (typed : settings.Typed) :
    ∃ sender, Smtp.senderOf settings = .ok sender := by
  obtain ⟨t, found⟩ := typed.settingText (s := .emailFrom) rfl
  exact ⟨_, by rw [Smtp.senderOf, found]; rfl⟩

theorem Typed.account (typed : settings.Typed) :
    ∃ account, Smtp.account settings = .ok account := by
  obtain ⟨host, named⟩ := typed.settingText (s := .smtpHost) rfl
  obtain ⟨n, whole⟩ := typed.whole (s := .smtpPort) rfl
  obtain ⟨user, known⟩ := typed.settingText (s := .smtpUser) rfl
  obtain ⟨password, secret⟩ := typed.settingText (s := .smtpPassword) rfl
  obtain ⟨sender, sends⟩ := typed.senderOf
  unfold Smtp.account
  rw [named, whole, known, secret, sends]
  by_cases given : (Value.int n).isTruthy = true
  · simp only [given, if_true]
    exact ⟨_, rfl⟩
  · simp only [given]
    exact ⟨_, rfl⟩

theorem Typed.isTestEnv (typed : settings.Typed) : ∃ isTest, settings.isTestEnv? = some isTest := by
  obtain ⟨t, found⟩ := typed.text (s := .appEnv) rfl
  exact ⟨_, by rw [isTestEnv?, found]⟩

end Settings

end QueryDesk
