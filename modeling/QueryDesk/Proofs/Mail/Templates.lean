import Mathlib.Data.List.Infix
import Mathlib.Data.List.TakeWhile
import QueryDesk.Mail.Template
import QueryDesk.Proofs.Steps

/-!
# What templates give

A template is read from the front: a character for itself, a doubled brace for one, a field for what
it shows. What is written there is said by `Field.IsWritten`, and what the whole gives by `Gives`.
Whatever text is used as a template gives one thing, and filling it finds just that. All this is so
whatever attributes the language has.
-/

namespace QueryDesk.Template

/-- A brace. -/
def isBrace (c : Char) : Bool :=
  c == '\x7b' || c == '\x7d'

/-- A mark that ends the name of a field. -/
def isMark (c : Char) : Bool :=
  c == '\x7d' || c == ':' || c == '!'

/-- The name of a field: anything may stand in brackets, and outside of them no opening brace and no
    mark that ends the name. -/
inductive IsName : List Char → Prop
  | nil : IsName []
  | char {c rest} (unmarked : isMark c = false) (noBrace : c ≠ '\x7b') (noBracket : c ≠ '[')
      (more : IsName rest) : IsName (c :: rest)
  | brackets {inner rest} (inside : ']' ∉ inner) (more : IsName rest) :
      IsName ('[' :: inner ++ ']' :: rest)

/-- The text closes all braces that are open, those opened before included, and no others. -/
inductive Closes : (opened : Nat) → List Char → Prop
  | nil : Closes 0 []
  | opening {opened cs} (more : Closes (opened + 1) cs) : Closes opened ('\x7b' :: cs)
  | closing {opened cs} (more : Closes opened cs) : Closes (opened + 1) ('\x7d' :: cs)
  | char {opened c cs} (common : isBrace c = false) (more : Closes opened cs) :
      Closes opened (c :: cs)

/-- How a field is written, after its opening brace and with its closing one. -/
inductive Field.IsWritten : Field → List Char → Prop
  | plain {name} (isName : IsName name) : IsWritten ⟨name, none, []⟩ (name ++ ['\x7d'])
  | laid {name layout} (isName : IsName name) (closes : Closes 0 layout) :
      IsWritten ⟨name, none, layout⟩ (name ++ ':' :: (layout ++ ['\x7d']))
  | converted {name c} (isName : IsName name) :
      IsWritten ⟨name, some c, []⟩ (name ++ ['!', c, '\x7d'])
  | both {name c layout} (isName : IsName name) (closes : Closes 0 layout) :
      IsWritten ⟨name, some c, layout⟩ (name ++ '!' :: c :: ':' :: (layout ++ ['\x7d']))

/-- What a field names, in the form that it asks for. -/
def Field.thing (objects : Objects) (fields : Fields) (f : Field) : Except Fault Thing := do
  convert objects (← lookup objects fields f.name) f.conversion

/-- What a template gives: its text, or the fault that is met first. Layouts may hold fields, down
    to `depth` levels of templates. -/
inductive Gives (objects : Objects) (fields : Fields) :
    (depth : Nat) → List Char → Except Fault (List Char) → Prop
  | tooDeep {cs} : Gives objects fields 0 cs (.error .unfillable)
  | done {depth} : Gives objects fields (depth + 1) [] (.ok [])
  | char {depth c cs given} (common : isBrace c = false)
      (more : Gives objects fields (depth + 1) cs given) :
      Gives objects fields (depth + 1) (c :: cs) (given.map (c :: ·))
  | doubled {depth c cs given} (brace : isBrace c = true)
      (more : Gives objects fields (depth + 1) cs given) :
      Gives objects fields (depth + 1) (c :: c :: cs) (given.map (c :: ·))
  | field {depth f form cs given} (written : Field.IsWritten f form) (flat : '\x7b' ∉ f.layout)
      (more : Gives objects fields (depth + 1) cs given) :
      Gives objects fields (depth + 1) ('\x7b' :: (form ++ cs)) (do
        let shown ← laidOut objects f.layout (← f.thing objects fields)
        return shown ++ (← given))
  | nested {depth f form cs layout given} (written : Field.IsWritten f form)
      (deep : '\x7b' ∈ f.layout) (inside : Gives objects fields depth f.layout layout)
      (more : Gives objects fields (depth + 1) cs given) :
      Gives objects fields (depth + 1) ('\x7b' :: (form ++ cs)) (do
        let thing ← f.thing objects fields
        let shown ← laidOut objects (← layout) thing
        return shown ++ (← given))
  | stray {depth cs} (single : cs.head? ≠ some '\x7d') :
      Gives objects fields (depth + 1) ('\x7d' :: cs) (.error .unfillable)
  | unclosed {depth cs} (single : cs.head? ≠ some '\x7b')
      (noField : ∀ f form rest, Field.IsWritten f form → cs ≠ form ++ rest) :
      Gives objects fields (depth + 1) ('\x7b' :: cs) (.error .unfillable)

/-! ## Faults that callers foresee -/

/-- If there is no result, the fault is the one that callers fall back on. -/
def Tame {α : Type} (result : Except Fault α) : Prop :=
  ∀ fault, result = .error fault → fault = .unfillable

section

variable {α β : Type}

theorem tame_ok (a : α) : Tame (.ok a : Except Fault α) := by
  rintro fault ⟨⟩

theorem tame_unfillable : Tame (.error .unfillable : Except Fault α) := by
  rintro fault ⟨⟩
  rfl

theorem Tame.bind {step : Except Fault α} {next : α → Except Fault β} (first : Tame step)
    (later : ∀ a, Tame (next a)) : Tame (step >>= next) := by
  cases step with
  | ok a => exact later a
  | error fault =>
    obtain rfl := first fault rfl
    exact tame_unfillable

end

/-! ## Braces -/

theorem isBrace_iff {c : Char} : isBrace c = true ↔ c = '\x7b' ∨ c = '\x7d' := by
  rw [isBrace, Bool.or_eq_true, beq_iff_eq, beq_iff_eq]

theorem isBrace_eq_false_iff {c : Char} : isBrace c = false ↔ c ≠ '\x7b' ∧ c ≠ '\x7d' := by
  rw [← Bool.not_eq_true, isBrace_iff, not_or]

/-! ## Names -/

/-- What is left of the name of a field, perhaps from within brackets. -/
def IsNameFrom : (inBrackets : Bool) → List Char → Prop
  | false, name => IsName name
  | true, name => ∃ inner after, name = inner ++ ']' :: after ∧ ']' ∉ inner ∧ IsName after

theorem fieldName_outside (c : Char) (cs : List Char) : fieldName false (c :: cs) =
    if c = '\x7b' then .error .unfillable
    else if isMark c = true then .ok ([], c, cs)
    else do
      let (name, mark, rest) ← fieldName (c == '[') cs
      return (c :: name, mark, rest) :=
  rfl

theorem fieldName_inside (c : Char) (cs : List Char) : fieldName true (c :: cs) = do
    let (name, mark, rest) ← fieldName (c != ']') cs
    return (c :: name, mark, rest) :=
  rfl

theorem IsNameFrom.outside {c : Char} {name : List Char} (noBrace : c ≠ '\x7b')
    (unmarked : isMark c = false) (more : IsNameFrom (c == '[') name) :
    IsNameFrom false (c :: name) := by
  by_cases bracket : c = '['
  · subst bracket
    obtain ⟨inner, after, rfl, inside, isName⟩ := more
    exact .brackets inside isName
  · rw [beq_eq_false_iff_ne.mpr bracket] at more
    exact .char unmarked noBrace bracket more

theorem IsNameFrom.inside {c : Char} {name : List Char} (more : IsNameFrom (c != ']') name) :
    IsNameFrom true (c :: name) := by
  by_cases closing : c = ']'
  · subst closing
    exact ⟨[], name, rfl, List.not_mem_nil, more⟩
  · rw [bne_iff_ne.mpr closing] at more
    obtain ⟨inner, after, rfl, inside, isName⟩ := more
    exact ⟨c :: inner, after, rfl, by simp [Ne.symm closing, inside], isName⟩

/-- A name is read up to its mark. -/
theorem isNameFrom_of_fieldName {inBrackets : Bool} {cs name rest : List Char} {mark : Char}
    (found : fieldName inBrackets cs = .ok (name, mark, rest)) :
    cs = name ++ mark :: rest ∧ isMark mark = true ∧ IsNameFrom inBrackets name := by
  induction cs generalizing inBrackets name with
  | nil => simp [fieldName] at found
  | cons c cs ih =>
    cases inBrackets with
    | false =>
      rw [fieldName_outside] at found
      split at found
      · cases found
      rename_i noBrace
      split at found
      · rename_i marked
        cases found
        exact ⟨rfl, marked, .nil⟩
      rename_i unmarked
      obtain ⟨⟨later, mark', rest'⟩, more, same⟩ := bind_eq_ok_iff.mp found
      cases same
      obtain ⟨rfl, marked, isName⟩ := ih more
      exact ⟨rfl, marked, .outside noBrace (eq_false_of_ne_true unmarked) isName⟩
    | true =>
      rw [fieldName_inside] at found
      obtain ⟨⟨later, mark', rest'⟩, more, same⟩ := bind_eq_ok_iff.mp found
      cases same
      obtain ⟨rfl, marked, isName⟩ := ih more
      exact ⟨rfl, marked, .inside isName⟩

theorem fieldName_brackets {inner : List Char} (inside : ']' ∉ inner) (cs : List Char) :
    fieldName true (inner ++ ']' :: cs) = do
      let (name, mark, rest) ← fieldName false cs
      return (inner ++ ']' :: name, mark, rest) := by
  induction inner with
  | nil => rfl
  | cons c inner ih =>
    rw [List.mem_cons, not_or] at inside
    obtain ⟨other, inside⟩ := inside
    rw [List.cons_append, fieldName_inside, bne_iff_ne.mpr (Ne.symm other), ih inside]
    simp

theorem fieldName_of_isName {name : List Char} (isName : IsName name) (mark : Char)
    (marked : isMark mark = true) (rest : List Char) :
    fieldName false (name ++ mark :: rest) = .ok (name, mark, rest) := by
  induction isName with
  | nil =>
    have noBrace : mark ≠ '\x7b' := by
      rintro rfl
      exact absurd marked (by decide)
    rw [List.nil_append, fieldName_outside, if_neg noBrace, if_pos marked]
  | @char c name unmarked noBrace noBracket more ih =>
    rw [List.cons_append, fieldName_outside, if_neg noBrace, if_neg (by simp [unmarked]),
      beq_eq_false_iff_ne.mpr noBracket, ih]
    rfl
  | @brackets inner name inside more ih =>
    have whole : '[' :: inner ++ ']' :: name ++ mark :: rest =
        '[' :: (inner ++ ']' :: (name ++ mark :: rest)) := by simp
    rw [whole, fieldName_outside, if_neg (by decide), if_neg (by decide)]
    change (do
      let (name, mark, rest) ← fieldName true (inner ++ ']' :: (name ++ mark :: rest))
      return ('[' :: name, mark, rest)) = _
    rw [fieldName_brackets inside, ih]
    rfl

/-! ## Layouts -/

theorem layoutPart_cons (opened : Nat) (c : Char) (cs : List Char) :
    layoutPart (opened + 1) (c :: cs) =
      if c = '\x7d' ∧ opened = 0 then .ok ([], cs)
      else do
        let (layout, rest) ← layoutPart
          (if c = '\x7b' then opened + 2 else if c = '\x7d' then opened else opened + 1) cs
        return (c :: layout, rest) := by
  simp [layoutPart]

/-- The layout part of a field is read up to the brace that closes the field. -/
theorem closes_of_layoutPart {opened : Nat} {cs layout rest : List Char}
    (found : layoutPart (opened + 1) cs = .ok (layout, rest)) :
    cs = layout ++ '\x7d' :: rest ∧ Closes opened layout := by
  induction cs generalizing opened layout with
  | nil => simp [layoutPart] at found
  | cons c cs ih =>
    rw [layoutPart_cons] at found
    split at found
    · rename_i ends
      obtain ⟨rfl, rfl⟩ := ends
      cases found
      exact ⟨rfl, .nil⟩
    rename_i goesOn
    obtain ⟨⟨later, rest'⟩, more, same⟩ := bind_eq_ok_iff.mp found
    cases same
    by_cases opening : c = '\x7b'
    · rw [if_pos opening] at more
      obtain ⟨rfl, closes⟩ := ih more
      exact ⟨rfl, opening ▸ .opening closes⟩
    rw [if_neg opening] at more
    by_cases closing : c = '\x7d'
    · obtain ⟨before, rfl⟩ : ∃ n, opened = n + 1 :=
        Nat.exists_eq_succ_of_ne_zero fun none => goesOn ⟨closing, none⟩
      rw [if_pos closing] at more
      obtain ⟨rfl, closes⟩ := ih more
      exact ⟨rfl, closing ▸ .closing closes⟩
    · rw [if_neg closing] at more
      obtain ⟨rfl, closes⟩ := ih more
      exact ⟨rfl, .char (isBrace_eq_false_iff.mpr ⟨opening, closing⟩) closes⟩

theorem layoutPart_of_closes {opened : Nat} {layout : List Char} (closes : Closes opened layout)
    (rest : List Char) :
    layoutPart (opened + 1) (layout ++ '\x7d' :: rest) = .ok (layout, rest) := by
  induction closes with
  | nil => rfl
  | opening more ih =>
    rw [List.cons_append, layoutPart_cons, if_neg (by simp), if_pos rfl, ih]
    rfl
  | closing more ih =>
    rw [List.cons_append, layoutPart_cons, if_neg (by simp), if_neg (by decide), if_pos rfl, ih]
    rfl
  | @char opened c cs common more ih =>
    have noBrace := isBrace_eq_false_iff.mp common
    rw [List.cons_append, layoutPart_cons, if_neg (by simp [noBrace.2]), if_neg noBrace.1,
      if_neg noBrace.2, ih]
    rfl

/-! ## Fields -/

theorem isWritten_of_field {cs rest : List Char} {f : Field} (found : field cs = .ok (f, rest)) :
    ∃ form, f.IsWritten form ∧ cs = form ++ rest := by
  rw [field] at found
  obtain ⟨⟨name, mark, after⟩, named, outcome⟩ := bind_eq_ok_iff.mp found
  clear found
  obtain ⟨rfl, marked, isName⟩ := isNameFrom_of_fieldName named
  dsimp only at outcome
  split at outcome
  · rename_i closing
    cases outcome
    exact ⟨_, .plain isName, by simp [closing]⟩
  split at outcome
  · rename_i colon
    obtain ⟨⟨layout, rest'⟩, laid, same⟩ := bind_eq_ok_iff.mp outcome
    cases same
    obtain ⟨rfl, closes⟩ := closes_of_layoutPart laid
    exact ⟨_, .laid isName closes, by simp [colon]⟩
  rename_i noClosing noColon
  obtain rfl : mark = '!' := by simpa [isMark, noClosing, noColon] using marked
  split at outcome
  · cases outcome
    exact ⟨_, .converted isName, by simp⟩
  · obtain ⟨⟨layout, rest'⟩, laid, same⟩ := bind_eq_ok_iff.mp outcome
    cases same
    obtain ⟨rfl, closes⟩ := closes_of_layoutPart laid
    exact ⟨_, .both isName closes, by simp⟩
  · cases outcome

theorem field_of_isWritten {form : List Char} {f : Field} (written : f.IsWritten form)
    (rest : List Char) : field (form ++ rest) = .ok (f, rest) := by
  cases written with
  | @plain name isName =>
    have named := fieldName_of_isName isName '\x7d' (by decide) rest
    rw [List.append_assoc]
    exact bind_eq_ok_iff.mpr ⟨_, named, rfl⟩
  | @laid name layout isName closes =>
    have named := fieldName_of_isName isName ':' (by decide) (layout ++ '\x7d' :: rest)
    have laid := layoutPart_of_closes closes rest
    rw [List.append_assoc, List.cons_append, List.append_assoc]
    exact bind_eq_ok_iff.mpr ⟨_, named, bind_eq_ok_iff.mpr ⟨_, laid, rfl⟩⟩
  | @converted name c isName =>
    have named := fieldName_of_isName isName '!' (by decide) (c :: '\x7d' :: rest)
    rw [List.append_assoc]
    exact bind_eq_ok_iff.mpr ⟨_, named, rfl⟩
  | @both name c layout isName closes =>
    have named := fieldName_of_isName isName '!' (by decide)
      (c :: ':' :: (layout ++ '\x7d' :: rest))
    have laid := layoutPart_of_closes closes rest
    rw [List.append_assoc, List.cons_append, List.cons_append, List.cons_append, List.append_assoc]
    exact bind_eq_ok_iff.mpr ⟨_, named, bind_eq_ok_iff.mpr ⟨_, laid, rfl⟩⟩

theorem tame_fieldName (inBrackets : Bool) (cs : List Char) : Tame (fieldName inBrackets cs) := by
  induction cs generalizing inBrackets with
  | nil => exact tame_unfillable
  | cons c cs ih =>
    cases inBrackets with
    | false =>
      rw [fieldName_outside]
      split
      · exact tame_unfillable
      split
      · exact tame_ok _
      · exact (ih _).bind fun _ => tame_ok _
    | true =>
      rw [fieldName_inside]
      exact (ih _).bind fun _ => tame_ok _

theorem tame_layoutPart (depth : Nat) (cs : List Char) : Tame (layoutPart depth cs) := by
  induction cs generalizing depth with
  | nil => exact tame_unfillable
  | cons c cs ih =>
    rw [layoutPart]
    split
    · exact tame_ok _
    · exact (ih _).bind fun _ => tame_ok _

theorem tame_field (cs : List Char) : Tame (field cs) := by
  refine (tame_fieldName false cs).bind fun (name, mark, rest) => ?_
  dsimp only
  split
  · exact tame_ok _
  split
  · exact (tame_layoutPart 1 rest).bind fun _ => tame_ok _
  split
  · exact tame_ok _
  · exact (tame_layoutPart 1 _).bind fun _ => tame_ok _
  · exact tame_unfillable

theorem field_of_unwritten {cs : List Char}
    (noField : ∀ f form rest, Field.IsWritten f form → cs ≠ form ++ rest) :
    field cs = .error .unfillable := by
  cases read : field cs with
  | ok found =>
    obtain ⟨form, written, whole⟩ := isWritten_of_field read
    exact absurd whole (noField _ _ _ written)
  | error fault => rw [tame_field cs fault read]

/-! ## Templates -/

variable {objects : Objects} {fields : Fields}

theorem plainText_char {c : Char} (common : isBrace c = false) (cs : List Char) :
    plainText (c :: cs) = (c :: (plainText cs).1, (plainText cs).2) := by
  have noBrace := isBrace_eq_false_iff.mp common
  cases cs <;> simp [plainText, noBrace]

theorem plainText_doubled {c : Char} (brace : isBrace c = true) (cs : List Char) :
    plainText (c :: c :: cs) = (c :: (plainText cs).1, (plainText cs).2) := by
  simp [plainText, isBrace_iff.mp brace]

theorem fillWith_cons {c : Char} {cs rest : List Char}
    (plain : plainText cs = (c :: (plainText rest).1, (plainText rest).2)) (fuel depth : Nat) :
    fillWith objects fields (fuel + 1) (depth + 1) cs =
      (fillWith objects fields (fuel + 1) (depth + 1) rest).map (c :: ·) := by
  rw [fillWith, fillWith, plain]
  cases plainText rest with
  | mk text stop =>
    cases stop with
    | finished => rfl
    | stray => rfl
    | field after =>
      change _ = (c :: ·) <$> _
      simp only [map_bind, apply_ite (Functor.map (c :: ·)), map_pure]
      rfl

theorem plainText_field {cs : List Char} (nonempty : cs ≠ [])
    (single : cs.head? ≠ some '\x7b') : plainText ('\x7b' :: cs) = ([], .field cs) := by
  obtain ⟨d, rest, rfl⟩ := List.exists_cons_of_ne_nil nonempty
  have other : '\x7b' ≠ d := by simpa using Ne.symm single
  simp [plainText, other]

theorem plainText_stray {cs : List Char} (single : cs.head? ≠ some '\x7d') :
    plainText ('\x7d' :: cs) = ([], .stray) := by
  cases cs with
  | nil => rfl
  | cons d rest =>
    have other : '\x7d' ≠ d := by simpa using Ne.symm single
    simp [plainText, other]

theorem Field.IsWritten.length_lt {f : Field} {form : List Char} (written : f.IsWritten form) :
    f.layout.length < form.length := by
  cases written <;> simp <;> omega

theorem Field.IsWritten.layout_infix {f : Field} {form : List Char} (written : f.IsWritten form) :
    f.layout <:+: form := by
  cases written with
  | plain => exact List.nil_infix
  | @laid name layout => exact ⟨name ++ [':'], ['\x7d'], by simp⟩
  | converted => exact List.nil_infix
  | @both name c layout => exact ⟨name ++ ['!', c, ':'], ['\x7d'], by simp⟩

theorem IsName.head?_ne {name : List Char} (isName : IsName name) {mark : Char}
    (marked : isMark mark = true) (rest : List Char) :
    (name ++ mark :: rest).head? ≠ some '\x7b' := by
  intro first
  cases isName with
  | nil =>
    obtain rfl := Option.some.inj first
    exact absurd marked (by decide)
  | char unmarked noBrace => exact noBrace (Option.some.inj first)
  | brackets => exact absurd (Option.some.inj first) (by decide)

theorem Field.IsWritten.head?_ne {f : Field} {form : List Char} (written : f.IsWritten form)
    (rest : List Char) : (form ++ rest).head? ≠ some '\x7b' := by
  cases written with
  | plain isName | laid isName | converted isName | both isName =>
    rw [List.append_assoc]
    exact isName.head?_ne (by decide) _

theorem fillWith_field {f : Field} {form : List Char} (written : f.IsWritten form)
    (fuel depth : Nat) (cs : List Char) :
    fillWith objects fields (fuel + 1) (depth + 1) ('\x7b' :: (form ++ cs)) =
      f.thing objects fields >>= fun thing =>
        (if f.layout.contains '\x7b' then fillWith objects fields fuel depth f.layout
          else .ok f.layout) >>= fun spec =>
        laidOut objects spec thing >>= fun shown =>
        fillWith objects fields fuel (depth + 1) cs >>= fun later => pure (shown ++ later) := by
  have nonempty : form ++ cs ≠ [] := by
    have := written.length_lt
    rintro none
    simp [(List.append_eq_nil_iff.mp none).1] at this
  rw [fillWith, plainText_field nonempty (written.head?_ne cs)]
  dsimp only
  rw [field_of_isWritten written, ok_bind, Field.thing, bind_assoc]
  dsimp only
  cases f.layout.contains '\x7b' <;> rfl

/-- Each field takes one unit of fuel, and its layout and what follows have fewer characters. -/
theorem fillWith_of_gives {depth : Nat} {cs : List Char} {given : Except Fault (List Char)}
    (gives : Gives objects fields depth cs given) (fuel : Nat) (enough : cs.length ≤ fuel) :
    fillWith objects fields (fuel + 1) depth cs = given := by
  induction gives generalizing fuel with
  | tooDeep => rfl
  | done => rfl
  | @char depth c cs given common more ih =>
    rw [List.length_cons] at enough
    rw [fillWith_cons (plainText_char common cs), ih _ (by omega)]
  | @doubled depth c cs given brace more ih =>
    rw [List.length_cons, List.length_cons] at enough
    rw [fillWith_cons (plainText_doubled brace cs), ih _ (by omega)]
  | @field depth f form cs given written flat more ih =>
    rw [List.length_cons, List.length_append] at enough
    obtain ⟨fuel, rfl⟩ : ∃ n, fuel = n + 1 := ⟨fuel - 1, by omega⟩
    rw [fillWith_field written, ih _ (by omega), if_neg (by simpa using flat)]
    rfl
  | @nested depth f form cs layout given written deep inside more ihInside ih =>
    rw [List.length_cons, List.length_append] at enough
    obtain ⟨fuel, rfl⟩ : ∃ n, fuel = n + 1 := ⟨fuel - 1, by omega⟩
    have shorter := written.length_lt
    rw [fillWith_field written, ih _ (by omega), if_pos (by simpa using deep),
      ihInside _ (by omega)]
  | @stray depth cs single => rw [fillWith, plainText_stray single]
  | @unclosed depth cs single noField =>
    by_cases none : cs = []
    · rw [none]
      rfl
    · rw [fillWith, plainText_field none single]
      dsimp only
      rw [field_of_unwritten noField]
      rfl

/-- A template gives something if layouts and shorter templates do. -/
theorem exists_gives_cons {depth : Nat} {rest : List Char} (c : Char)
    (layouts : ∀ cs, ∃ given, Gives objects fields depth cs given)
    (shorter : ∀ cs : List Char, cs.length ≤ rest.length →
      ∃ given, Gives objects fields (depth + 1) cs given) :
    ∃ given, Gives objects fields (depth + 1) (c :: rest) given := by
  by_cases common : isBrace c = false
  · obtain ⟨given, more⟩ := shorter rest le_rfl
    exact ⟨_, .char common more⟩
  have brace := eq_true_of_ne_false common
  by_cases doubled : rest.head? = some c
  · obtain ⟨others, rfl⟩ := List.head?_eq_some_iff.mp doubled
    obtain ⟨given, more⟩ := shorter others (List.sublist_cons_self c others).length_le
    exact ⟨_, .doubled brace more⟩
  rcases isBrace_iff.mp brace with rfl | rfl
  · by_cases written : ∃ f form others, Field.IsWritten f form ∧ rest = form ++ others
    · obtain ⟨f, form, others, written, rfl⟩ := written
      obtain ⟨given, more⟩ := shorter others (List.suffix_append form others).length_le
      by_cases deep : '\x7b' ∈ f.layout
      · obtain ⟨layout, inside⟩ := layouts f.layout
        exact ⟨_, .nested written deep inside more⟩
      · exact ⟨_, .field written deep more⟩
    · refine ⟨_, .unclosed doubled fun f form others found whole => ?_⟩
      exact written ⟨f, form, others, found, whole⟩
  · exact ⟨_, .stray doubled⟩

/-- Whatever is used as a template gives something. -/
theorem exists_gives (objects : Objects) (fields : Fields) (depth : Nat) (cs : List Char) :
    ∃ given, Gives objects fields depth cs given := by
  induction depth generalizing cs with
  | zero => exact ⟨_, .tooDeep⟩
  | succ depth layouts =>
    induction size : cs.length using Nat.strong_induction_on generalizing cs with
    | _ n shorter =>
      subst size
      cases cs with
      | nil => exact ⟨_, .done⟩
      | cons c rest =>
        exact exists_gives_cons c layouts fun cs less =>
          shorter cs.length (Nat.lt_succ_of_le less) cs rfl

/-- It gives one thing only. -/
theorem Gives.unique {depth : Nat} {cs : List Char} {one other : Except Fault (List Char)}
    (gives : Gives objects fields depth cs one) (again : Gives objects fields depth cs other) :
    one = other := by
  have found := fillWith_of_gives gives cs.length le_rfl
  exact found.symm.trans (fillWith_of_gives again cs.length le_rfl)

/-- Filling a template finds what it gives. -/
theorem fill_of_gives {template : String} {given : Except Fault (List Char)}
    (gives : Gives objects fields 2 template.toList given) :
    fill objects fields template = given.map String.ofList := by
  rw [fill, fillWith_of_gives gives _ le_rfl]
  rfl

/-- A text is what a template gives. -/
def Fills (objects : Objects) (fields : Fields) (template text : String) : Prop :=
  Gives objects fields 2 template.toList (.ok text.toList)

/-- A template gives a fault for a reason that callers do not foresee. -/
def Blocks (objects : Objects) (fields : Fields) (template : String) (surprise : Surprise) : Prop :=
  Gives objects fields 2 template.toList (.error (.unforeseen surprise))

theorem fills_iff {template text : String} :
    Fills objects fields template text ↔ fill objects fields template = .ok text := by
  constructor
  · intro fills
    rw [fill_of_gives fills, Except.map, String.ofList_toList]
  · intro filled
    obtain ⟨given, gives⟩ := exists_gives objects fields 2 template.toList
    rw [fill_of_gives gives] at filled
    obtain ⟨cs, rfl, rfl⟩ := map_eq_ok_iff.mp filled
    rwa [Fills, String.toList_ofList]

theorem blocks_iff {template : String} {surprise : Surprise} :
    Blocks objects fields template surprise ↔
      fill objects fields template = .error (.unforeseen surprise) := by
  refine ⟨fun gives => by rw [fill_of_gives gives, Except.map], fun refused => ?_⟩
  obtain ⟨given, gives⟩ := exists_gives objects fields 2 template.toList
  rw [fill_of_gives gives] at refused
  cases given with
  | ok cs => cases refused
  | error other =>
    obtain rfl := Except.error.inj refused
    exact gives

/-- A template that neither is filled nor blocks leaves callers with what they fall back on. -/
theorem fill_cases (objects : Objects) (fields : Fields) (template : String) :
    (∃ text, Fills objects fields template text) ∨
      (∃ surprise, Blocks objects fields template surprise) ∨
      fill objects fields template = .error .unfillable := by
  cases filled : fill objects fields template with
  | ok text => exact .inl ⟨text, fills_iff.mpr filled⟩
  | error fault =>
    cases fault with
    | unfillable => exact .inr (.inr rfl)
    | unforeseen surprise => exact .inr (.inl ⟨surprise, blocks_iff.mpr filled⟩)

/-! ## Attributes -/

/-- Characters that mean nothing of their own in the name of a field. -/
def IsWord (cs : List Char) : Prop :=
  ∀ c ∈ cs, isBrace c = false ∧ isMark c = false ∧ isAccessMark c = false

instance (cs : List Char) : Decidable (IsWord cs) :=
  List.decidableBAll _ cs

theorem IsWord.takeWhile {word : List Char} (isWord : IsWord word) (after : List Char)
    (stops : ∀ c ∈ after.head?, isAccessMark c = true) :
    (word ++ after).takeWhile (!isAccessMark ·) = word := by
  have all : ∀ c ∈ word, (!isAccessMark c) = true := fun c mem => by simp [(isWord c mem).2.2]
  rw [List.takeWhile_append_of_pos all]
  cases after with
  | nil => exact List.append_nil word
  | cons c rest => simp [stops c rfl]

theorem IsName.word {word name : List Char} (isWord : IsWord word) (isName : IsName name) :
    IsName (word ++ name) := by
  induction word with
  | nil => exact isName
  | cons c word ih =>
    obtain ⟨⟨common, unmarked, unasked⟩, others⟩ := List.forall_mem_cons.mp isWord
    have noBracket : c ≠ '[' := by
      rintro rfl
      cases unasked
    exact .char unmarked (isBrace_eq_false_iff.mp common).1 noBracket (ih others)

/-- An attribute of a text is what the language has for it. -/
theorem lookup_attribute {key attr : List Char} (isKey : IsWord key) (isAttr : IsWord attr)
    (asked : attr ≠ []) {s : String} (named : fields.lookup (String.ofList key) = some s) :
    lookup objects fields (key ++ '.' :: attr) =
      objects.attributeOf (.text s.toList) (String.ofList attr) := by
  have first := isKey.takeWhile ('.' :: attr) (by simp [isAccessMark])
  have second := isAttr.takeWhile [] (by simp)
  rw [List.append_nil] at second
  obtain ⟨fuel, enough⟩ : ∃ n, (key ++ '.' :: attr).length = n + 1 :=
    ⟨key.length + attr.length, by rw [List.length_append, List.length_cons, Nat.add_assoc]⟩
  rw [lookup, first, named]
  dsimp only
  rw [List.drop_left, enough, access, if_pos rfl, second]
  simp only [List.isEmpty_iff, asked, if_false, List.drop_length]
  cases objects.attributeOf (.text s.toList) (String.ofList attr) with
  | error fault => rfl
  | ok thing => cases fuel <;> rfl

/-- A field for an attribute that a text lacks gives the fault of the language, whatever follows. -/
theorem gives_of_lacking {key attr : List Char} (isKey : IsWord key) (isAttr : IsWord attr)
    (asked : attr ≠ []) {s : String} (named : fields.lookup (String.ofList key) = some s)
    {fault : Fault}
    (lacks : objects.attributeOf (.text s.toList) (String.ofList attr) = .error fault)
    (depth : Nat) (rest : List Char) :
    Gives objects fields (depth + 1) ('\x7b' :: (key ++ '.' :: attr ++ ['\x7d'] ++ rest))
      (.error fault) := by
  have attrName : IsName attr := List.append_nil attr ▸ .word isAttr .nil
  have isName : IsName (key ++ '.' :: attr) :=
    .word isKey (.char (by decide) (by decide) (by decide) attrName)
  have fails : Field.thing objects fields ⟨key ++ '.' :: attr, none, []⟩ = .error fault := by
    rw [Field.thing, lookup_attribute isKey isAttr asked named, lacks]
    rfl
  obtain ⟨given, more⟩ := exists_gives objects fields (depth + 1) rest
  have gives := Gives.field (.plain isName) List.not_mem_nil more
  rw [fails] at gives
  exact gives

/-! ## Where other faults come from -/

/-- A field is written in the text that asks for an attribute or a selection. -/
def Accesses (cs : List Char) : Prop :=
  ∃ f form, Field.IsWritten f form ∧ ('\x7b' :: form) <:+: cs ∧ ∃ c ∈ f.name, isAccessMark c = true

theorem Accesses.mono {cs whole : List Char} (accesses : Accesses cs) (part : cs <:+: whole) :
    Accesses whole := by
  obtain ⟨f, form, written, here, asks⟩ := accesses
  exact ⟨f, form, written, here.trans part, asks⟩

theorem lookup_of_plain (objects : Objects) (fields : Fields) {name : List Char}
    (plain : ∀ c ∈ name, isAccessMark c = false) :
    lookup objects fields name = .error .unfillable ∨
      ∃ s : String, lookup objects fields name = .ok (.text s.toList) := by
  have whole : name.takeWhile (!isAccessMark ·) = name :=
    List.takeWhile_eq_self_iff.mpr fun c mem => by simp [plain c mem]
  rw [lookup, whole, List.drop_length]
  split
  · exact .inl rfl
  · rename_i s _
    exact .inr ⟨s, by cases name <;> rfl⟩

theorem convert_text (objects : Objects) (cs : List Char) (conversion : Option Char) :
    convert objects (.text cs) conversion = .error .unfillable ∨
      ∃ ds, convert objects (.text cs) conversion = .ok (.text ds) := by
  unfold convert
  split
  · exact .inr ⟨_, rfl⟩
  · split
    · exact .inl rfl
    · exact .inr ⟨_, rfl⟩

/-- A field that asks for neither stands for a text. -/
theorem tame_of_plain {f : Field} (plain : ∀ c ∈ f.name, isAccessMark c = false) {α : Type}
    {next : Thing → Except Fault α} (texts : ∀ cs, Tame (next (.text cs))) :
    Tame (f.thing objects fields >>= next) := by
  rw [Field.thing, bind_assoc]
  rcases lookup_of_plain objects fields plain with refused | ⟨s, found⟩
  · rw [refused]
    exact tame_unfillable
  · rw [found]
    change Tame (convert objects (.text s.toList) f.conversion >>= next)
    rcases convert_text objects s.toList f.conversion with refused | ⟨cs, converted⟩
    · rw [refused]
      exact tame_unfillable
    · rw [converted]
      exact texts cs

theorem tame_number (cs : List Char) : Tame (number cs) := by
  unfold number
  dsimp only
  split
  · exact tame_ok _
  split
  · exact tame_ok _
  · exact tame_unfillable

theorem tame_limitPart (cs : List Char) : Tame (limitPart cs) := by
  unfold limitPart
  split
  · refine (tame_number _).bind fun found => ?_
    split
    · exact tame_unfillable
    · exact tame_ok _
  · exact tame_ok _

theorem tame_layout (cs : List Char) : Tame (layout cs) := by
  unfold layout
  dsimp only
  refine (tame_number _).bind fun (width?, rest) => (tame_limitPart _).bind fun (limit, rest) => ?_
  dsimp only
  split
  · exact tame_unfillable
  split
  · exact tame_ok _
  · exact tame_ok _
  · exact tame_unfillable

theorem tame_laidOut (spec cs : List Char) : Tame (laidOut objects spec (.text cs)) :=
  (tame_layout spec).bind fun _ => tame_ok _

/-- Where no field asks for an attribute or a selection, callers fall back on the only fault that
    there can be. -/
theorem tame_or_accesses {depth : Nat} {cs : List Char} {given : Except Fault (List Char)}
    (gives : Gives objects fields depth cs given) : Tame given ∨ Accesses cs := by
  induction gives with
  | tooDeep => exact .inl tame_unfillable
  | done => exact .inl (tame_ok _)
  | char common more ih =>
    exact ih.imp (Tame.bind · fun _ => tame_ok _) (·.mono (List.suffix_cons _ _).isInfix)
  | doubled brace more ih =>
    refine ih.imp (Tame.bind · fun _ => tame_ok _) (·.mono ?_)
    exact ((List.suffix_cons _ _).trans (List.suffix_cons _ _)).isInfix
  | @field depth f form cs given written flat more ih =>
    by_cases asks : ∃ c ∈ f.name, isAccessMark c = true
    · exact .inr ⟨f, form, written, (List.prefix_append ('\x7b' :: form) cs).isInfix, asks⟩
    have plain : ∀ c ∈ f.name, isAccessMark c = false := by simpa using asks
    refine ih.imp (fun later => ?_) (·.mono (List.suffix_append ('\x7b' :: form) cs).isInfix)
    exact tame_of_plain plain fun text =>
      (tame_laidOut _ text).bind fun _ => later.bind fun _ => tame_ok _
  | @nested depth f form cs layout given written deep inside more ihInside ih =>
    by_cases asks : ∃ c ∈ f.name, isAccessMark c = true
    · exact .inr ⟨f, form, written, (List.prefix_append ('\x7b' :: form) cs).isInfix, asks⟩
    have plain : ∀ c ∈ f.name, isAccessMark c = false := by simpa using asks
    rcases ihInside with spec | accesses
    · refine ih.imp (fun later => ?_) (·.mono (List.suffix_append ('\x7b' :: form) cs).isInfix)
      exact tame_of_plain plain fun text =>
        spec.bind fun _ => (tame_laidOut _ text).bind fun _ => later.bind fun _ => tame_ok _
    · have here : form <:+: '\x7b' :: (form ++ cs) := ⟨['\x7b'], cs, rfl⟩
      exact .inr (accesses.mono (written.layout_infix.trans here))
  | stray => exact .inl tame_unfillable
  | unclosed => exact .inl tame_unfillable

theorem Blocks.accesses {template : String} {surprise : Surprise}
    (blocks : Blocks objects fields template surprise) : Accesses template.toList := by
  refine (tame_or_accesses blocks).resolve_left fun tame => ?_
  cases tame _ rfl

end QueryDesk.Template
