import Mathlib.Data.List.Basic
import Mathlib.Data.List.TakeWhile
import QueryDesk.Mail.Smtp
import QueryDesk.Proofs.Text.Utf8

/-!
# Plain addresses in headers

The header of a message shows an address in a form of its own. A plain address, atoms with points
between them on both sides of the at sign, is shown as it is.
-/

namespace QueryDesk

open Text (Glyph)

/-- A character of an atom: one that is neither blank nor has a meaning of its own. -/
structure IsAtomChar (c : Char) : Prop where
  solid : Text.isBlank c = false
  common : HeaderWord.isSpecialChar c = false

/-- A word of such characters that does not begin as encoded words do. -/
structure IsAtom (cs : List Char) : Prop where
  nonempty : cs ≠ []
  every : ∀ c ∈ cs, IsAtomChar c
  unmarked : ¬ ['=', '?'] <+: cs

instance (c : Char) : Decidable (IsAtomChar c) :=
  decidable_of_iff (Text.isBlank c = false ∧ HeaderWord.isSpecialChar c = false)
    ⟨fun ⟨solid, common⟩ => ⟨solid, common⟩, fun ⟨solid, common⟩ => ⟨solid, common⟩⟩

instance (cs : List Char) : Decidable (IsAtom cs) :=
  decidable_of_iff (cs ≠ [] ∧ cs.all (fun c => decide (IsAtomChar c)) = true ∧ ¬ ['=', '?'] <+: cs)
    ⟨fun ⟨nonempty, every, unmarked⟩ =>
        ⟨nonempty, fun c mem => of_decide_eq_true (List.all_eq_true.mp every c mem), unmarked⟩,
      fun ⟨nonempty, every, unmarked⟩ =>
        ⟨nonempty, List.all_eq_true.mpr fun c mem => decide_eq_true (every c mem), unmarked⟩⟩

/-- Atoms with single points between them. -/
inductive IsDotAtom : List Char → Prop
  | atom {cs} (isAtom : IsAtom cs) : IsDotAtom cs
  | point {cs rest} (isAtom : IsAtom cs) (more : IsDotAtom rest) : IsDotAtom (cs ++ '.' :: rest)

/-- Atoms on both sides of an at sign. -/
def IsPlainAddress (s : String) : Prop :=
  ∃ front back, s.toList = front ++ '@' :: back ∧ IsDotAtom front ∧ IsDotAtom back

theorem Text.Glyph.ofChars_point (cs rest : List Char) (gs : List Glyph) :
    Glyph.ofChars (cs ++ '.' :: rest) ++ gs =
      Glyph.ofChars cs ++ .char '.' :: (Glyph.ofChars rest ++ gs) := by
  simp [Glyph.ofChars]

/-! ## Characters of atoms -/

namespace IsAtomChar

open HeaderText (isSpace)
open HeaderWord (isSpecial endsAtom endsWords)

variable {c : Char}

theorem isSpace_eq (isAtom : IsAtomChar c) : isSpace (.char c) = false := by
  have solid := isAtom.solid
  simp only [isSpace, Glyph.isIn, Bool.or_eq_false_iff, beq_eq_false_iff_ne]
  constructor <;> (rintro rfl; exact absurd solid (by decide))

theorem endsAtom_eq (isAtom : IsAtomChar c) : endsAtom (.char c) = false := by
  rw [endsAtom, isAtom.isSpace_eq, isSpecial, Glyph.isIn, isAtom.common]
  rfl

theorem endsWords_eq (isAtom : IsAtomChar c) : endsWords (.char c) = false := by
  simp [endsWords, Glyph.isIn, isAtom.common]

theorem ne_of_special (isAtom : IsAtomChar c) {d : Char}
    (special : HeaderWord.isSpecialChar d = true) : c ≠ d := by
  rintro rfl
  exact absurd (isAtom.common.symm.trans special) (by decide)

end IsAtomChar

theorem IsAtom.eq_cons {cs : List Char} (isAtom : IsAtom cs) :
    ∃ c rest, cs = c :: rest ∧ IsAtomChar c := by
  obtain ⟨c, rest, rfl⟩ := List.exists_cons_of_ne_nil isAtom.nonempty
  exact ⟨c, rest, rfl, isAtom.every c List.mem_cons_self⟩

/-! ## Reading atoms -/

namespace HeaderWord

variable {cs : List Char} {gs : List Glyph}

/-- The text ends here, or goes on with a special character that begins no comment. -/
def Stops (gs : List Glyph) : Prop :=
  ∀ g, gs.head? = some g → isSpecial g = true ∧ HeaderText.isSpace g = false ∧ g ≠ .char '('

theorem gap_eq_nil (plain : ∀ g, gs.head? = some g →
    HeaderText.isSpace g = false ∧ g ≠ .char '(') : gap gs = ([], gs) := by
  cases gs with
  | nil => rfl
  | cons g rest =>
    obtain ⟨noSpace, noComment⟩ := plain g rfl
    simp [gap, gapFrom, noSpace, noComment]

theorem Stops.gap_eq (stops : Stops gs) : gap gs = ([], gs) :=
  gap_eq_nil fun g first => (stops g first).2

theorem gap_of_char {c : Char} (isChar : IsAtomChar c) (rest : List Glyph) :
    gap (.char c :: rest) = ([], .char c :: rest) := by
  refine gap_eq_nil fun g first => ?_
  obtain rfl := Option.some.inj first
  exact ⟨isChar.isSpace_eq, fun same => isChar.ne_of_special (by decide) (Glyph.char.inj same)⟩

theorem stops_nil : Stops [] := by
  rintro g ⟨⟩

theorem stops_char {c : Char} {rest : List Glyph} (special : isSpecialChar c = true)
    (noComment : c ≠ '(') : Stops (.char c :: rest) := by
  rintro _ ⟨⟩
  refine ⟨special, ?_, fun same => noComment (Glyph.char.inj same)⟩
  simp only [HeaderText.isSpace, Glyph.isIn, Bool.or_eq_false_iff, beq_eq_false_iff_ne]
  constructor <;> (rintro rfl; exact absurd special (by decide))

theorem encoded?_of_atom (isAtom : IsAtom cs) (stops : Stops gs) :
    encoded? (Glyph.ofChars cs ++ gs) = none := by
  have absent : EncodedWord.opening.isPrefixOf? (Glyph.ofChars cs ++ gs) = none := by
    rw [Option.eq_none_iff_forall_ne_some]
    intro rest begins
    rw [List.isPrefixOf?_eq_some_iff_append_eq] at begins
    obtain ⟨c, more, rfl, -⟩ := isAtom.eq_cons
    cases more with
    | nil =>
      obtain ⟨-, rfl⟩ := List.cons.inj begins
      exact absurd (stops _ rfl).1 (by decide)
    | cons d others =>
      obtain ⟨first, later⟩ := List.cons.inj begins
      obtain rfl := Glyph.char.inj first
      obtain rfl := Glyph.char.inj (List.cons.inj later).1
      exact isAtom.unmarked ⟨others, rfl⟩
  simp [encoded?, EncodedWord.read?, EncodedWord.inside?, absent]

theorem takeWhile_of_atom (isAtom : IsAtom cs) (stops : Stops gs) :
    (Glyph.ofChars cs ++ gs).takeWhile (!endsAtom ·) = Glyph.ofChars cs := by
  have inAtom : ∀ g ∈ Glyph.ofChars cs, (!endsAtom g) = true := by
    intro g mem
    obtain ⟨c, isChar, rfl⟩ := List.mem_map.mp mem
    rw [(isAtom.every c isChar).endsAtom_eq]
    rfl
  have ended : gs.takeWhile (!endsAtom ·) = [] := by
    cases gs with
    | nil => rfl
    | cons g rest =>
      have special := (stops g rfl).1
      rw [List.takeWhile_cons_of_neg]
      simp [endsAtom, special]
  rw [List.takeWhile_append_of_pos inAtom, ended, List.append_nil]

/-- The atom at the front is read as itself. -/
theorem atom?_of_atom (isAtom : IsAtom cs) (stops : Stops gs) :
    atom? (Glyph.ofChars cs ++ gs) =
      some (⟨false, Glyph.ofChars cs, Glyph.ofChars cs, false, []⟩, gs) := by
  have taken := takeWhile_of_atom isAtom stops
  have unencoded := encoded?_of_atom isAtom stops
  obtain ⟨c, more, rfl, -⟩ := isAtom.eq_cons
  rw [atom?, unencoded, taken]
  simp [Glyph.ofChars, withGap, stops.gap_eq]

theorem read?_of_atom (isAtom : IsAtom cs) (stops : Stops gs) :
    read? (Glyph.ofChars cs ++ gs) =
      some (⟨false, Glyph.ofChars cs, Glyph.ofChars cs, false, []⟩, gs) := by
  have atom := atom?_of_atom isAtom stops
  obtain ⟨c, more, rfl, isChar⟩ := isAtom.eq_cons
  have noQuote : Glyph.char c ≠ .char '"' :=
    fun same => isChar.ne_of_special (by decide) (Glyph.char.inj same)
  have noSpecial : isSpecial (.char c) = false := isChar.common
  simp only [Glyph.ofChars, List.map_cons, List.cons_append] at atom ⊢
  rw [read?, gap_of_char isChar]
  simp [bare?, noQuote, noSpecial, atom]

/-- Atoms between points are read up to where they stop. -/
theorem dottedText_of_atom (nonempty : cs ≠ []) (every : ∀ c ∈ cs, IsAtomChar c)
    (afterPoint : Bool) (gs : List Glyph) : dottedText afterPoint (Glyph.ofChars cs ++ gs) =
      (dottedText false gs).map fun (text, rest) => (Glyph.ofChars cs ++ text, rest) := by
  induction cs generalizing afterPoint with
  | nil => exact absurd rfl nonempty
  | cons c more ih =>
    rw [List.forall_mem_cons] at every
    have inAtom := every.1.endsAtom_eq
    have step : dottedText afterPoint (Glyph.ofChars (c :: more) ++ gs) =
        (dottedText false (Glyph.ofChars more ++ gs)).map fun (text, rest) =>
          (.char c :: text, rest) := by
      simp [Glyph.ofChars, dottedText, inAtom]
    rw [step]
    cases more with
    | nil => rfl
    | cons d others =>
      rw [ih (List.cons_ne_nil _ _) every.2, Option.map_map]
      rfl

theorem dottedText_of_stops (stops : Stops gs) (noPoint : gs.head? ≠ some (.char '.')) :
    dottedText false gs = some ([], gs) := by
  cases gs with
  | nil => rfl
  | cons g rest =>
    have ends : endsAtom g = true := by simp [endsAtom, (stops g rfl).1]
    have ne : g ≠ .char '.' := fun same => noPoint (congrArg some same)
    simp [dottedText, ends, ne]

theorem dottedText_of_dotAtom (isDotAtom : IsDotAtom cs) (stops : Stops gs)
    (noPoint : gs.head? ≠ some (.char '.')) :
    dottedText true (Glyph.ofChars cs ++ gs) = some (Glyph.ofChars cs, gs) := by
  induction isDotAtom with
  | atom isAtom =>
    rw [dottedText_of_atom isAtom.nonempty isAtom.every, dottedText_of_stops stops noPoint]
    simp
  | @point cs rest isAtom more ih =>
    have point : endsAtom (.char '.') = true := by decide
    rw [Glyph.ofChars_point, dottedText_of_atom isAtom.nonempty isAtom.every, dottedText, ih]
    simp [point, Glyph.ofChars]

/-- The atoms at the front are read as one word. -/
theorem dotted?_of_dotAtom (isDotAtom : IsDotAtom cs) (stops : Stops gs)
    (noPoint : gs.head? ≠ some (.char '.')) : dotted? (Glyph.ofChars cs ++ gs) =
      some (⟨false, Glyph.ofChars cs, Glyph.ofChars cs, false, []⟩, gs) := by
  have unencoded : encoded? (Glyph.ofChars cs ++ gs) = none := by
    cases isDotAtom with
    | atom isAtom => exact encoded?_of_atom isAtom stops
    | @point cs rest isAtom more =>
      rw [Glyph.ofChars_point]
      exact encoded?_of_atom isAtom (stops_char (by decide) (by decide))
  rw [dotted?, unencoded, dottedText_of_dotAtom isDotAtom stops noPoint]
  simp [withGap, stops.gap_eq]

end HeaderWord

/-! ## Reading plain addresses -/

namespace IsDotAtom

variable {cs : List Char}

theorem eq_cons (isDotAtom : IsDotAtom cs) : ∃ c rest, cs = c :: rest ∧ IsAtomChar c := by
  cases isDotAtom with
  | atom isAtom => exact isAtom.eq_cons
  | point isAtom more =>
    obtain ⟨c, rest, rfl, isChar⟩ := isAtom.eq_cons
    exact ⟨c, _, rfl, isChar⟩

theorem mem_cases (isDotAtom : IsDotAtom cs) : ∀ c ∈ cs, c = '.' ∨ IsAtomChar c := by
  induction isDotAtom with
  | atom isAtom => exact fun c mem => .inr (isAtom.every c mem)
  | point isAtom more ih =>
    intro c mem
    rcases List.mem_append.mp mem with inside | rest
    · exact .inr (isAtom.every c inside)
    · exact (List.mem_cons.mp rest).elim .inl (ih c)

theorem solid (isDotAtom : IsDotAtom cs) : ∀ c ∈ cs, Text.isBlank c = false := by
  intro c mem
  rcases isDotAtom.mem_cases c mem with rfl | isChar
  · decide
  · exact isChar.solid

end IsDotAtom

namespace WordPart

variable {cs : List Char} {gs : List Glyph}

theorem sequence_of_atom (isAtom : IsAtom cs) (stops : HeaderWord.Stops gs) (fuel : Nat) :
    (sequence false (fuel + 1) (Glyph.ofChars cs ++ gs)).2 = (sequence false fuel gs).2 := by
  have found := HeaderWord.read?_of_atom isAtom stops
  obtain ⟨c, rest, rfl, isChar⟩ := isAtom.eq_cons
  have goesOn : HeaderWord.endsWords (.char c) = false := isChar.endsWords_eq
  have noPoint : c ≠ '.' := isChar.ne_of_special (by decide)
  simp only [Glyph.ofChars, List.map_cons, List.cons_append] at found ⊢
  simp [sequence, goesOn, noPoint, found]

/-- The words before an at sign are passed over. -/
theorem sequence_of_dotAtom (isDotAtom : IsDotAtom cs) (rest : List Glyph) (fuel : Nat)
    (enough : cs.length ≤ fuel) :
    (sequence false fuel (Glyph.ofChars cs ++ .char '@' :: rest)).2 = .char '@' :: rest := by
  -- An atom is one part and takes one unit of fuel, and so is a point.
  induction isDotAtom generalizing fuel with
  | @atom cs isAtom =>
    have positive := List.length_pos_iff.mpr isAtom.nonempty
    obtain ⟨fuel, rfl⟩ : ∃ n, fuel = n + 1 := ⟨fuel - 1, by omega⟩
    rw [sequence_of_atom isAtom (HeaderWord.stops_char (by decide) (by decide))]
    cases fuel with
    | zero => rfl
    | succ fuel => rfl
  | @point cs others isAtom more ih =>
    have positive := List.length_pos_iff.mpr isAtom.nonempty
    simp only [List.length_append, List.length_cons] at enough
    obtain ⟨fuel, rfl⟩ : ∃ n, fuel = n + 2 := ⟨fuel - 2, by omega⟩
    rw [Glyph.ofChars_point, sequence_of_atom isAtom (HeaderWord.stops_char (by decide) (by decide))]
    exact ih fuel (by omega)

theorem phrase_of_dotAtom (isDotAtom : IsDotAtom cs) (rest : List Glyph) :
    (phrase (Glyph.ofChars cs ++ .char '@' :: rest)).2 = .char '@' :: rest :=
  sequence_of_dotAtom isDotAtom rest _ (by simp [Glyph.ofChars])

end WordPart

namespace Mailbox

open HeaderWord (stops_char stops_nil dotted?_of_dotAtom)

/-- The mailbox of a local part and a domain that are read as they are. -/
def plain (front back : List Char) : Mailbox :=
  { localPart := .ok (Glyph.ofChars front), domain := Glyph.ofChars back }

variable {front back : List Char}

theorem gap_of_dotAtom (isDotAtom : IsDotAtom front) (rest : List Glyph) :
    HeaderWord.gap (Glyph.ofChars front ++ rest) = ([], Glyph.ofChars front ++ rest) := by
  obtain ⟨c, more, rfl, isChar⟩ := isDotAtom.eq_cons
  exact HeaderWord.gap_of_char isChar _

theorem readLocalPart_of_dotAtom (isLocal : IsDotAtom front) (rest : List Glyph) :
    readLocalPart (Glyph.ofChars front ++ .char '@' :: rest) =
      pure (.ok (Glyph.ofChars front), .char '@' :: rest) := by
  have gap := gap_of_dotAtom isLocal (.char '@' :: rest)
  have stops : HeaderWord.Stops (.char '@' :: rest) := stops_char (by decide) (by decide)
  have word := dotted?_of_dotAtom isLocal stops (by simp)
  have ends : HeaderWord.endsWords (.char '@') = true := by decide
  obtain ⟨c, more, rfl, -⟩ := isLocal.eq_cons
  simp only [Glyph.ofChars, List.map_cons, List.cons_append] at gap word ⊢
  simp [readLocalPart, gap, word, ends]

theorem readDomain_of_dotAtom (isDomain : IsDotAtom back) :
    readDomain (Glyph.ofChars back) = pure (some (Glyph.ofChars back), []) := by
  have gap : HeaderWord.skipGap (Glyph.ofChars back) = Glyph.ofChars back := by
    simpa [HeaderWord.skipGap] using congrArg Prod.snd (gap_of_dotAtom isDomain [])
  have word : HeaderWord.dotted? (Glyph.ofChars back) =
      some (⟨false, Glyph.ofChars back, Glyph.ofChars back, false, []⟩, []) := by
    simpa using dotted?_of_dotAtom isDomain stops_nil (by simp)
  have kept : compact (Glyph.ofChars back) = Glyph.ofChars back := by
    refine List.filter_eq_self.mpr fun g mem => ?_
    obtain ⟨c, inside, rfl⟩ := List.mem_map.mp mem
    simp [HeaderText.isBlank, Glyph.isIn, isDomain.solid c inside]
  obtain ⟨c, more, rfl, isAtom⟩ := isDomain.eq_cons
  have noBracket : c ≠ '[' := isAtom.ne_of_special (by decide)
  simp only [Glyph.ofChars, List.map_cons] at gap word kept ⊢
  simp [readDomain, gap, word, kept, readLabels, noBracket]

theorem readPlain_of_dotAtoms (isLocal : IsDotAtom front) (isDomain : IsDotAtom back) :
    readPlain (Glyph.ofChars front ++ .char '@' :: Glyph.ofChars back) =
      pure (plain front back, []) := by
  simp [readPlain, readLocalPart_of_dotAtom isLocal, readDomain_of_dotAtom isDomain, plain]

/-- No name stands before the mailbox. -/
theorem readNamed_of_dotAtom (isLocal : IsDotAtom front) (rest : List Glyph) :
    readNamed (Glyph.ofChars front ++ .char '@' :: rest) = failure := by
  have gap := gap_of_dotAtom isLocal (.char '@' :: rest)
  have phrase := WordPart.phrase_of_dotAtom isLocal rest
  have noAngle : readAngled (.char '@' :: rest) = failure := by
    have skipped : HeaderWord.skipGap (.char '@' :: rest) = .char '@' :: rest :=
      congrArg Prod.snd (stops_char (by decide) (by decide)).gap_eq
    simp [readAngled, skipped]
  obtain ⟨c, more, rfl, isAtom⟩ := isLocal.eq_cons
  have goesOn : HeaderWord.endsWords (.char c) = false := isAtom.endsWords_eq
  have noBracket : c ≠ '<' := isAtom.ne_of_special (by decide)
  simp only [Glyph.ofChars, List.map_cons, List.cons_append] at gap phrase ⊢
  simp [readNamed, gap, goesOn, noBracket, phrase, noAngle]

end Mailbox

/-! ## Showing plain addresses -/

/-- Characters are shown as they are. -/
theorem Text.Glyph.shown_ofChars (cs : List Char) :
    Glyph.shown (Glyph.ofChars cs) = String.ofList cs := by
  have bytes : (Glyph.ofChars cs).flatMap Glyph.bytes = Utf8.encode cs := by
    rw [Glyph.ofChars, List.flatMap_map]
    rfl
  rw [Glyph.shown, bytes, Utf8.decodeLossy_encode]

namespace Address

variable {front back : List Char}

theorem readAll_of_dotAtoms (isLocal : IsDotAtom front) (isDomain : IsDotAtom back) (fuel : Nat) :
    readAll (fuel + 1) (Glyph.ofChars front ++ .char '@' :: Glyph.ofChars back) =
      .ok [.mailbox (.plain front back)] := by
  have phrase := WordPart.phrase_of_dotAtom isLocal (Glyph.ofChars back)
  have noGroup : readGroup (Glyph.ofChars front ++ .char '@' :: Glyph.ofChars back) = failure := by
    simp [readGroup, phrase]
  have mailbox : read (Glyph.ofChars front ++ .char '@' :: Glyph.ofChars back) =
      pure (.mailbox (.plain front back), []) := by
    simp [read, noGroup, Mailbox.read, Mailbox.readNamed_of_dotAtom isLocal,
      Mailbox.readPlain_of_dotAtoms isLocal isDomain]
  have noMore : readAll fuel [] = .ok [] := by cases fuel <;> rfl
  obtain ⟨c, more, rfl, -⟩ := isLocal.eq_cons
  simp only [Glyph.ofChars, List.map_cons, List.cons_append] at mailbox ⊢
  rw [readAll, mailbox]
  · simp only [OptionT.run_pure, pure_bind, afterComma, noMore]
    rfl
  · simp

theorem shown_of_dotAtoms (isLocal : IsDotAtom front) (isDomain : IsDotAtom back) :
    (Mailbox.plain front back).shown =
      .ok (Glyph.ofChars front ++ .char '@' :: Glyph.ofChars back) := by
  have noLineEnd :
      (Glyph.ofChars front).any (·.isIn fun c => c == '\r' || c == '\n') = false := by
    refine List.any_eq_false.mpr fun g mem => ?_
    obtain ⟨c, inside, rfl⟩ := List.mem_map.mp mem
    have solid := isLocal.solid c inside
    simp only [Glyph.isIn, Bool.or_eq_true, beq_iff_eq, not_or]
    constructor <;> (rintro rfl; exact absurd solid (by decide))
  have unquoted : (Glyph.ofChars front).any
      (fun g => HeaderWord.endsAtom g && g ≠ .char '.') = false := by
    refine List.any_eq_false.mpr fun g mem => ?_
    obtain ⟨c, inside, rfl⟩ := List.mem_map.mp mem
    rcases isLocal.mem_cases c inside with rfl | isAtom
    · decide
    · simp [isAtom.endsAtom_eq]
  obtain ⟨c, more, rfl, -⟩ := isDomain.eq_cons
  have address : Mailbox.address (Glyph.ofChars front) (Glyph.ofChars (c :: more)) =
      Glyph.ofChars front ++ .char '@' :: Glyph.ofChars (c :: more) := by
    rw [Mailbox.address, Mailbox.quotedIf, unquoted]
    rfl
  simp only [Mailbox.shown, Mailbox.plain, bind, Except.bind, List.nil_append, noLineEnd, address]
  simp only [Mailbox.quotedIf, List.any_nil]
  simp [pure, Except.pure]

end Address

namespace IsPlainAddress

variable {s : String}

theorem solid (plain : IsPlainAddress s) : ∀ c ∈ s.toList, Text.isBlank c = false := by
  obtain ⟨front, back, whole, isLocal, isDomain⟩ := plain
  intro c mem
  rw [whole, List.mem_append, List.mem_cons] at mem
  rcases mem with inside | rfl | inside
  · exact isLocal.solid c inside
  · decide
  · exact isDomain.solid c inside

/-- A header shows a plain address as it is. -/
theorem normalize_eq (plain : IsPlainAddress s) : Address.normalize s = .ok s := by
  have shownText : Glyph.shown (Glyph.ofChars s.toList) = s := by
    rw [Glyph.shown_ofChars, String.ofList_toList]
  obtain ⟨front, back, whole, isLocal, isDomain⟩ := plain
  have glyphs : Glyph.ofChars s.toList =
      Glyph.ofChars front ++ .char '@' :: Glyph.ofChars back := by
    simp [whole, Glyph.ofChars]
  have shownOne : Address.shown (.mailbox (.plain front back)) = .ok (Glyph.ofChars s.toList) :=
    (Address.shown_of_dotAtoms isLocal isDomain).trans (congrArg _ glyphs.symm)
  have enough : (Glyph.ofChars s.toList).length = front.length + back.length + 1 := by
    simp only [Glyph.ofChars, List.length_map, whole, List.length_append, List.length_cons]
    omega
  rw [Address.normalize, enough, glyphs, Address.readAll_of_dotAtoms isLocal isDomain]
  have shownAll : [Address.mailbox (.plain front back)].mapM Address.shown =
      .ok [Glyph.ofChars s.toList] := by
    simp [shownOne, pure, Except.pure, bind, Except.bind]
  simp [shownAll, Address.joined, shownText, bind, Except.bind, pure, Except.pure]

theorem header_eq (plain : IsPlainAddress s) : Smtp.header Address.normalize s = .ok s := by
  have noLineEnd : s.toList.dropWhile (!Smtp.isLineEnd ·) = [] := by
    refine List.dropWhile_eq_nil_iff.mpr fun c mem => ?_
    have solid := plain.solid c mem
    simp only [Text.isBlank, Smtp.isLineEnd, Bool.not_eq_true', Bool.or_eq_false_iff,
      Bool.and_eq_false_iff, decide_eq_false_iff_not, beq_eq_false_iff_ne] at solid ⊢
    omega
  have oneLine : Smtp.hasSecondLine s.toList = false := by rw [Smtp.hasSecondLine, noLineEnd]
  rw [Smtp.header, oneLine, plain.normalize_eq]
  rfl

end IsPlainAddress

end QueryDesk
