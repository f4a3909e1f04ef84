import QueryDesk.Proofs.Mail.FanOut
import QueryDesk.Proofs.Mail.Templates

/-!
# Letters with codes

The letter with a code is written from two templates. Both are filled, or neither is used. One thing
breaks this off: a field that asks for an attribute, or selects by something else than a position.
Nothing here depends on which attributes the language has.
-/

namespace QueryDesk.Mail

open Template (Objects Surprise Fills Blocks Accesses IsWord fills_iff blocks_iff)

/-- A template as it is used: without blanks around it, and the plain text for a blank one. -/
def templateInUse (template : String) : String :=
  if Text.strip template = "" then plainCode "\x7bcode\x7d" else Text.strip template

/-- The fields that the templates may name. -/
def codeFields (code purpose : String) : Template.Fields :=
  [("code", code), ("purpose", purpose)]

/-- The first of two templates that cannot be filled gives a fault that is not foreseen. -/
def Escapes (objects : Objects) (fields : Template.Fields) (subject body : String)
    (surprise : Surprise) : Prop :=
  Blocks objects fields subject surprise ∨
    (∃ text, Fills objects fields subject text) ∧ Blocks objects fields body surprise

/-- A letter with a code is written with a subject and a body, and goes out as the providers do it
    that send nothing. -/
structure Mails (settings : Settings) (email code purpose : String) (o : Outbox)
    (subject html : String) : Prop where
  letter : codeLetter settings code purpose =
    .ok { subject, html, text := some (plainCode code) }
  answer : sendCode settings email code purpose o =
    (.ok mocked, o.addLog (mockLine [normalizeEmail email] subject))

/-! ## Filling both templates -/

section

variable {objects : Objects} {fields : Template.Fields} {subject body : String} (code : String)

theorem filled_of_fills {s h : String} (subjectFills : Fills objects fields subject s)
    (bodyFills : Fills objects fields body h) :
    filled objects subject body fields code = .ok (s, h) := by
  rw [filled, fills_iff.mp subjectFills, fills_iff.mp bodyFills]
  rfl

/-- A fault that is not foreseen escapes, in the one template or in the other. -/
theorem filled_of_escapes {surprise : Surprise}
    (escapes : Escapes objects fields subject body surprise) :
    filled objects subject body fields code = .error (.template surprise) := by
  rcases escapes with blocks | ⟨⟨text, fills⟩, blocks⟩
  · rw [filled, blocks_iff.mp blocks]
    rfl
  · rw [filled, fills_iff.mp fills, blocks_iff.mp blocks]
    rfl

/-- A body that begins with a field for an attribute that the code lacks lets the fault of the
    language escape. -/
theorem escapes_of_lacking {attr : List Char} (isAttr : IsWord attr) (asked : attr ≠ [])
    {surprise : Surprise} (lacks : objects.attributeOf (.text code.toList) (String.ofList attr) =
      .error (.unforeseen surprise)) {purpose : String} {rest : List Char}
    (begins : body.toList = "\x7bcode.".toList ++ attr ++ '\x7d' :: rest)
    (subjectFills : ∃ text, Fills objects (codeFields code purpose) subject text) :
    Escapes objects (codeFields code purpose) subject body surprise := by
  have isKey : IsWord "code".toList := by decide
  have named : (codeFields code purpose).lookup (String.ofList "code".toList) = some code := rfl
  have gives := Template.gives_of_lacking isKey isAttr asked named lacks 1 rest
  refine .inr ⟨subjectFills, ?_⟩
  rw [Blocks, begins]
  simpa using gives

/-- Both templates give way to the plain text together. -/
theorem filled_otherwise
    (apart : ¬ ∃ s h, Fills objects fields subject s ∧ Fills objects fields body h)
    (foreseen : ¬ ∃ surprise, Escapes objects fields subject body surprise) :
    filled objects subject body fields code = .ok (plainCode code, plainCode code) := by
  rcases Template.fill_cases objects fields subject with
    ⟨s, fills⟩ | ⟨surprise, blocks⟩ | unfilled
  · rcases Template.fill_cases objects fields body with
      ⟨h, alike⟩ | ⟨surprise, blocks⟩ | unfilled
    · exact absurd ⟨s, h, fills, alike⟩ apart
    · exact absurd ⟨surprise, .inr ⟨⟨s, fills⟩, blocks⟩⟩ foreseen
    · rw [filled, fills_iff.mp fills, unfilled]
      rfl
  · exact absurd ⟨surprise, .inl blocks⟩ foreseen
  · rw [filled, unfilled]
    rfl

end

/-! ## Letters -/

theorem templateOf_text {settings : Settings} {s : Setting} {template : String}
    (given : settings.get s = .text template) :
    templateOf settings s = .ok (templateInUse template) := by
  have read : Smtp.settingText settings s = .ok (Text.strip template) := by
    rw [Smtp.settingText, given]
    by_cases empty : template = ""
    · rw [empty]
      rfl
    · simp [Value.textOr?, Value.isTruthy, empty, Value.text?]
  refine bind_eq_ok_iff.mpr ⟨_, read, ?_⟩
  rw [templateInUse]
  simp only [String.isEmpty_iff]
  rfl

variable {settings : Settings} {subject body : String}

theorem codeLetter_of_texts (subjectGiven : settings.get .otpSubject = .text subject)
    (bodyGiven : settings.get .otpBody = .text body) (code purpose : String) :
    codeLetter settings code purpose =
      (filled settings.platform.objects (templateInUse subject) (templateInUse body)
        (codeFields code purpose) code).map
        fun (subject, html) => { subject, html, text := some (plainCode code) } := by
  rw [codeLetter, templateOf_text subjectGiven, templateOf_text bodyGiven, ok_bind, ok_bind,
    codeFields]
  dsimp only
  cases filled settings.platform.objects (templateInUse subject) (templateInUse body)
    [("code", code), ("purpose", purpose)] code <;> rfl

variable {name : String} {email : String}

theorem mails_of_filled (chosen : provider settings = .ok name)
    (mock : mockProviders.contains name = true) (addressed : Text.strip email ≠ "")
    (subjectGiven : settings.get .otpSubject = .text subject)
    (bodyGiven : settings.get .otpBody = .text body) {code purpose s h : String}
    (texts : filled settings.platform.objects (templateInUse subject) (templateInUse body)
      (codeFields code purpose) code = .ok (s, h)) (o : Outbox) :
    Mails settings email code purpose o s h := by
  have letter := codeLetter_of_texts subjectGiven bodyGiven code purpose
  rw [texts] at letter
  refine ⟨letter, ?_⟩
  rw [sendCode, letter]
  change deliver settings (.text email) _ o = _
  rw [deliver_of_provider (someRecipients_text addressed) chosen, via, if_pos mock]

/-- What becomes of a code that goes to an address by a provider that sends nothing. Both templates
    are filled, or both give way to the plain text, or a fault that is not foreseen breaks the
    message off; this needs a field that asks for an attribute or a selection, and a body that asks
    first for an attribute that the code lacks brings it about. -/
structure CodeMailed (settings : Settings) (email code purpose : String) (o : Outbox)
    (subject body : String) : Prop where
  filled : ∀ s h, Fills settings.platform.objects (codeFields code purpose) subject s →
    Fills settings.platform.objects (codeFields code purpose) body h →
    Mails settings email code purpose o s h
  plain : (¬ ∃ s h, Fills settings.platform.objects (codeFields code purpose) subject s ∧
      Fills settings.platform.objects (codeFields code purpose) body h) →
    (¬ ∃ surprise,
      Escapes settings.platform.objects (codeFields code purpose) subject body surprise) →
    Mails settings email code purpose o (plainCode code) (plainCode code)
  escaped : ∀ surprise,
    Escapes settings.platform.objects (codeFields code purpose) subject body surprise →
    sendCode settings email code purpose o = (.error (.template surprise), o)
  accesses : ∀ surprise,
    Escapes settings.platform.objects (codeFields code purpose) subject body surprise →
    Accesses subject.toList ∨ Accesses body.toList
  lacking : ∀ attr rest surprise, IsWord attr → attr ≠ [] →
    settings.platform.objects.attributeOf (.text code.toList) (String.ofList attr) =
      .error (.unforeseen surprise) →
    body.toList = "\x7bcode.".toList ++ attr ++ '\x7d' :: rest →
    (∃ s, Fills settings.platform.objects (codeFields code purpose) subject s) →
    Escapes settings.platform.objects (codeFields code purpose) subject body surprise

/-- The default settings with two templates of their own. -/
def withTemplates (subject body : String) : Settings :=
  ((Settings.defaults "sqlite://").set .otpSubject (.text subject)).set .otpBody (.text body)

end QueryDesk.Mail
