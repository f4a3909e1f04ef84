import QueryDesk.Proofs.Listing.Reordered
import QueryDesk.Proofs.Number.Grammar

/-!
# The page that three texts ask for

The limit, the page and the offset are read off the beginnings of their texts. A text begins with a
whole number, or with too long a run of digits, or with no digits at all; `Resolves` says what page
is asked for in each case, and every three texts ask for just one.
-/

namespace QueryDesk

namespace Pagination

open Numeral Text

/-! ## Numbers at the beginning of a text -/

/-- A text begins with a sign and digits: ASCII blanks may stand before them, and what stands after
    them does not begin with a digit. -/
inductive Leads (sign digits : List Char) : List Char → Prop
  | mk {blanks rest} (blank : ∀ c ∈ blanks, isAsciiBlank c = true) (signed : IsSign sign)
      (run : IsDigits digits) (nonempty : digits ≠ [])
      (ends : ∀ c, rest.head? = some c → isAsciiDigit c = false) :
      Leads sign digits (blanks ++ (sign ++ (digits ++ rest)))

/-- A text begins with the spelling of a whole number. -/
def BeginsWith (cs : List Char) (n : Int) : Prop :=
  ∃ sign digits, Leads sign digits cs ∧ Spells (sign ++ digits) n

/-- A text begins with no whole number: there are no digits after its blanks and its sign, or more
    than a number may have. -/
inductive Unled (cs : List Char) : Prop
  | other (noDigits : ∀ sign digits, ¬ Leads sign digits cs)
  | long {sign digits} (leads : Leads sign digits cs) (long : maxDigits < digits.length)

variable {cs sign digits : List Char}

theorem spells_of_isSign (signed : IsSign sign) (run : IsDigits digits) (nonempty : digits ≠ [])
    (short : digits.length ≤ maxDigits) :
    Spells (sign ++ digits) (Numeral.signed (sign == ['-']) (natOfDigits digits)) := by
  have spelled : SpellsNat digits (natOfDigits digits) :=
    ⟨nonempty, run, short, (natOfDigits_eq digits).symm⟩
  rcases signed with rfl | rfl | rfl
  · exact .unsigned spelled
  · exact .plus spelled
  · exact .minus spelled

/-- The digits of a spelling are no more than a number may have, and they are its value. -/
theorem signed_of_spells {n : Int} (signed : IsSign sign) (run : IsDigits digits)
    (spells : Spells (sign ++ digits) n) :
    digits.length ≤ maxDigits ∧ Numeral.signed (sign == ['-']) (natOfDigits digits) = n := by
  obtain ⟨negative, digits', m, taken, spelled, value⟩ := spells.takeSign
  have split : takeSign (sign ++ digits) = (sign == ['-'], digits) := by
    rcases signed with rfl | rfl | rfl
    · exact takeSign_of_digits run
    · rfl
    · rfl
  rw [split] at taken
  obtain ⟨rfl, rfl⟩ := Prod.mk.inj taken
  rw [natOfDigits_eq, spelled.value]
  exact ⟨spelled.short, value⟩

theorem not_isAsciiBlank_of_isSpelling {c : Char} (spelling : isSpelling c = true) :
    isAsciiBlank c = false := by
  cases blank : isAsciiBlank c with
  | false => rfl
  | true =>
    have margin := isBlank_of_isAsciiBlank blank
    rw [isBlank_of_isSpelling spelling] at margin
    cases margin

/-- The sign and the digits that a text begins with are found. -/
theorem Leads.found (leads : Leads sign digits cs) :
    ∃ rest, takeSign (cs.dropWhile isAsciiBlank) = (sign == ['-'], digits ++ rest) ∧
      (digits ++ rest).takeWhile isAsciiDigit = digits := by
  obtain ⟨blank, signed, run, nonempty, ends⟩ := leads
  rename_i blanks rest
  obtain ⟨first, more, rfl⟩ := List.exists_cons_of_ne_nil nonempty
  have digit : isAsciiDigit first = true := run first List.mem_cons_self
  refine ⟨rest, ?_, ?_⟩
  · have bare : (sign ++ (first :: more ++ rest)).dropWhile isAsciiBlank =
        sign ++ (first :: more ++ rest) := by
      have spelling : isSpelling first = true := by simp [isSpelling, digit]
      rcases signed with rfl | rfl | rfl
      · simp [not_isAsciiBlank_of_isSpelling spelling]
      · rfl
      · rfl
    rw [List.dropWhile_append_of_pos blank, bare]
    rcases signed with rfl | rfl | rfl
    · -- A digit is no sign.
      unfold takeSign
      split
      · rename_i same
        obtain rfl := (List.cons.inj same).1
        cases digit
      · rename_i same
        obtain rfl := (List.cons.inj same).1
        cases digit
      · rfl
    · rfl
    · rfl
  · have stops : rest.takeWhile isAsciiDigit = [] := by
      cases rest with
      | nil => rfl
      | cons c _ => simp [ends c rfl]
    rw [List.takeWhile_append_of_pos run, stops, List.append_nil]

theorem Leads.parts (leads : Leads sign digits cs) :
    IsSign sign ∧ IsDigits digits ∧ digits ≠ [] := by
  cases leads with
  | mk _ signed run nonempty _ => exact ⟨signed, run, nonempty⟩

/-- What is read of a text that begins with digits. -/
theorem Leads.leadingInt? (leads : Leads sign digits cs) : leadingInt? cs =
    if maxDigits < digits.length then none
    else some (signed (sign == ['-']) (natOfDigits digits)) := by
  obtain ⟨rest, taken, run⟩ := leads.found
  have nonempty : digits ≠ [] := leads.parts.2.2
  simp [Pagination.leadingInt?, taken, run, nonempty]

/-- A text begins with digits, or nothing is read of it. -/
theorem leads_or_unread (cs : List Char) :
    (∃ sign digits, Leads sign digits cs) ∨ leadingInt? cs = none := by
  obtain ⟨sign, signed, body⟩ := exists_sign (cs.dropWhile isAsciiBlank)
  cases taken : takeSign (cs.dropWhile isAsciiBlank) with | mk negative after =>
  rw [taken] at body
  by_cases none : after.takeWhile isAsciiDigit = []
  · right
    simp [Pagination.leadingInt?, taken, none]
  · left
    have whole : cs = cs.takeWhile isAsciiBlank ++
        (sign ++ (after.takeWhile isAsciiDigit ++ after.dropWhile isAsciiDigit)) := by
      rw [List.takeWhile_append_dropWhile, ← body, List.takeWhile_append_dropWhile]
    rw [whole]
    refine ⟨sign, _, .mk ?_ signed ?_ none ?_⟩
    · intro c mem
      exact List.mem_takeWhile_imp mem
    · intro c mem
      exact List.mem_takeWhile_imp mem
    · intro c first
      have stops := List.head?_dropWhile_not isAsciiDigit after
      rw [first] at stops
      simpa using stops

/-- The number read is the number that the text begins with. -/
theorem leadingInt?_eq_some_iff {n : Int} : leadingInt? cs = some n ↔ BeginsWith cs n := by
  constructor
  · intro read
    rcases leads_or_unread cs with ⟨sign, digits, leads⟩ | unread
    · refine ⟨sign, digits, leads, ?_⟩
      rw [leads.leadingInt?] at read
      split at read
      · cases read
      · rename_i short
        obtain rfl := Option.some.inj read
        obtain ⟨signed, run, nonempty⟩ := leads.parts
        exact spells_of_isSign signed run nonempty (Nat.le_of_not_lt short)
    · rw [unread] at read
      cases read
  · rintro ⟨sign, digits, leads, spells⟩
    obtain ⟨signed, run, -⟩ := leads.parts
    obtain ⟨short, value⟩ := signed_of_spells signed run spells
    rw [leads.leadingInt?, if_neg (Nat.not_lt.mpr short), value]

/-- Nothing is read just of the texts that begin with no whole number. -/
theorem leadingInt?_eq_none_iff : leadingInt? cs = none ↔ Unled cs := by
  constructor
  · intro read
    by_cases found : ∃ sign digits, Leads sign digits cs
    · obtain ⟨sign, digits, leads⟩ := found
      rw [leads.leadingInt?] at read
      split at read
      · rename_i long
        exact .long leads long
      · cases read
    · exact .other fun sign digits leads => found ⟨sign, digits, leads⟩
  · intro unled
    cases unled with
    | other noDigits =>
      rcases leads_or_unread cs with ⟨sign, digits, leads⟩ | unread
      · exact absurd leads (noDigits sign digits)
      · exact unread
    | long leads long => rw [leads.leadingInt?, if_pos long]

/-! ## The page -/

/-- A parameter gives a number: its text begins with the number, or the parameter is absent and the
    number is the default. -/
inductive Gives (default : Int) : Option String → Int → Prop
  | absent : Gives default none default
  | text {s n} (begins : BeginsWith s.toList n) : Gives default (some s) n

/-- A parameter is there and gives no number. -/
inductive GivesNone : Option String → Prop
  | text {s} (unled : Unled s.toList) : GivesNone (some s)

/-- The page of rows that the texts of a page, a limit and an offset ask for. -/
inductive Resolves (page? limit? offset? : Option String) : Pagination → Prop
  /-- The limit `-1` asks for all rows. -/
  | unlimited (asked : limit? = some "-1") : Resolves page? limit? offset? ⟨none, 0⟩
  /-- So does a limit that is no number. -/
  | unread (asked : GivesNone limit?) : Resolves page? limit? offset? ⟨none, 0⟩
  | offset {k o s} (limited : limit? ≠ some "-1") (limit : Gives 25 limit? k)
      (given : offset? = some s) (begins : BeginsWith s.toList o) :
      Resolves page? limit? offset? ⟨some k, o⟩
  | unreadOffset {k s} (limited : limit? ≠ some "-1") (limit : Gives 25 limit? k)
      (given : offset? = some s) (nonempty : s ≠ "") (unled : Unled s.toList) :
      Resolves page? limit? offset? ⟨some k, 0⟩
  | page {k p} (limited : limit? ≠ some "-1") (limit : Gives 25 limit? k)
      (noOffset : offset? = none ∨ offset? = some "") (page : Gives 1 page? p) :
      Resolves page? limit? offset? ⟨some k, (p - 1) * k⟩
  | unreadPage {k} (limited : limit? ≠ some "-1") (limit : Gives 25 limit? k)
      (noOffset : offset? = none ∨ offset? = some "") (page : GivesNone page?) :
      Resolves page? limit? offset? ⟨some k, 0⟩

variable {page? limit? offset? : Option String} {p : Pagination}

theorem paramIntOr_text (default : Int) (s : String) :
    paramIntOr default (ofText? (some s)) = .ok (leadingInt? s.toList) := rfl

theorem paramIntOr_eq_some_iff {default n : Int} {text? : Option String} :
    paramIntOr default (ofText? text?) = .ok (some n) ↔ Gives default text? n := by
  cases text? with
  | none =>
    have read : paramIntOr default (ofText? none) = .ok (some default) := rfl
    rw [read]
    constructor
    · intro same
      cases same
      exact .absent
    · intro gives
      cases gives
      rfl
  | some s =>
    rw [paramIntOr_text, Except.ok.injEq, leadingInt?_eq_some_iff]
    constructor
    · exact .text
    · intro gives
      cases gives with
      | text begins => exact begins

theorem paramIntOr_eq_none_iff {default : Int} {text? : Option String} :
    paramIntOr default (ofText? text?) = .ok none ↔ GivesNone text? := by
  cases text? with
  | none =>
    have read : paramIntOr default (ofText? none) = .ok (some default) := rfl
    rw [read]
    constructor <;> intro absent <;> cases absent
  | some s =>
    rw [paramIntOr_text, Except.ok.injEq, leadingInt?_eq_none_iff]
    constructor
    · exact .text
    · intro gives
      cases gives with
      | text unled => exact unled

theorem limitOf_of_limited (limited : limit? ≠ some "-1") :
    limitOf (ofText? limit?) = paramIntOr 25 (ofText? limit?) := by
  unfold limitOf
  split
  · rename_i same
    cases limit? with
    | none => cases same
    | some s => exact absurd (congrArg some (Value.text.inj same)) limited
  · rfl

/-- Texts with a usable limit, what stands in the offset looked at first. -/
theorem resolve_limited {k : Int} (limited : limit? ≠ some "-1") (limit : Gives 25 limit? k) :
    resolve (ofText? page?) (ofText? limit?) (ofText? offset?) = do
      if ← isGiven (ofText? offset?) then
        return ⟨some k, (← paramInt (ofText? offset?)).getD 0⟩
      else
        match ← paramIntOr 1 (ofText? page?) with
        | none => return ⟨some k, 0⟩
        | some page => return ⟨some k, (page - 1) * k⟩ := by
  have asked : limitOf (ofText? limit?) = .ok (some k) := by
    rw [limitOf_of_limited limited]
    exact paramIntOr_eq_some_iff.mpr limit
  rw [resolve, asked]
  rfl

theorem resolve_unlimited (asked : limit? = some "-1" ∨ GivesNone limit?) :
    resolve (ofText? page?) (ofText? limit?) (ofText? offset?) = .ok ⟨none, 0⟩ := by
  have unlimited : limitOf (ofText? limit?) = .ok none := by
    by_cases limited : limit? = some "-1"
    · rw [limited]
      rfl
    · rw [limitOf_of_limited limited]
      exact paramIntOr_eq_none_iff.mpr (asked.resolve_left limited)
  rw [resolve, unlimited]
  rfl

theorem resolve_offset {k : Int} {s : String} (limited : limit? ≠ some "-1")
    (limit : Gives 25 limit? k) (nonempty : s ≠ "") :
    resolve (ofText? page?) (ofText? limit?) (ofText? (some s)) =
      .ok ⟨some k, (leadingInt? s.toList).getD 0⟩ := by
  have given : isGiven (ofText? (some s)) = .ok true := by
    have read : isGiven (ofText? (some s)) = .ok (s != "") := rfl
    rw [read, bne_iff_ne.mpr nonempty]
  rw [resolve_limited limited limit, given]
  rfl

theorem resolve_noOffset {k : Int} (limited : limit? ≠ some "-1") (limit : Gives 25 limit? k)
    (noOffset : offset? = none ∨ offset? = some "") {n? : Option Int}
    (paged : paramIntOr 1 (ofText? page?) = .ok n?) :
    resolve (ofText? page?) (ofText? limit?) (ofText? offset?) =
      .ok ⟨some k, n?.elim 0 fun n => (n - 1) * k⟩ := by
  have absent : isGiven (ofText? offset?) = .ok false := by
    rcases noOffset with rfl | rfl <;> rfl
  rw [resolve_limited limited limit, absent]
  simp only [bind, Except.bind, paged]
  cases n? <;> rfl

theorem ne_empty_of_beginsWith {s : String} {n : Int} (begins : BeginsWith s.toList n) : s ≠ "" := by
  rintro rfl
  cases leadingInt?_eq_some_iff.mpr begins

/-- What is resolved is what the texts ask for. -/
theorem resolve_of_resolves (resolves : Resolves page? limit? offset? p) :
    resolve (ofText? page?) (ofText? limit?) (ofText? offset?) = .ok p := by
  cases resolves with
  | unlimited asked => exact resolve_unlimited (.inl asked)
  | unread asked => exact resolve_unlimited (.inr asked)
  | offset limited limit given begins =>
    subst given
    rw [resolve_offset limited limit (ne_empty_of_beginsWith begins),
      leadingInt?_eq_some_iff.mpr begins]
    rfl
  | unreadOffset limited limit given nonempty unled =>
    subst given
    rw [resolve_offset limited limit nonempty, leadingInt?_eq_none_iff.mpr unled]
    rfl
  | page limited limit noOffset page =>
    exact resolve_noOffset limited limit noOffset (paramIntOr_eq_some_iff.mpr page)
  | unreadPage limited limit noOffset page =>
    exact resolve_noOffset limited limit noOffset (paramIntOr_eq_none_iff.mpr page)

theorem gives_cases (default : Int) (text? : Option String) :
    (∃ n, Gives default text? n) ∨ GivesNone text? := by
  obtain ⟨n?, read⟩ := paramIntOr_isOk default text?
  cases n? with
  | none => exact .inr (paramIntOr_eq_none_iff.mp read)
  | some n => exact .inl ⟨n, paramIntOr_eq_some_iff.mp read⟩

/-- Any three texts ask for a page. -/
theorem exists_resolves (page? limit? offset? : Option String) :
    ∃ p, Resolves page? limit? offset? p := by
  by_cases limited : limit? = some "-1"
  · exact ⟨_, .unlimited limited⟩
  rcases gives_cases 25 limit? with ⟨k, limit⟩ | unread
  · by_cases noOffset : offset? = none ∨ offset? = some ""
    · rcases gives_cases 1 page? with ⟨n, page⟩ | unread
      · exact ⟨_, .page limited limit noOffset page⟩
      · exact ⟨_, .unreadPage limited limit noOffset unread⟩
    · obtain ⟨absent, nonempty⟩ := not_or.mp noOffset
      obtain ⟨s, rfl⟩ := Option.ne_none_iff_exists'.mp absent
      cases read : leadingInt? s.toList with
      | none =>
        refine ⟨_, .unreadOffset limited limit rfl ?_ (leadingInt?_eq_none_iff.mp read)⟩
        rintro rfl
        exact nonempty rfl
      | some o => exact ⟨_, .offset limited limit rfl (leadingInt?_eq_some_iff.mp read)⟩
  · exact ⟨_, .unread unread⟩

/-- Three texts, each of which may be absent, always resolve to a page, and it is the one page that
    they ask for. Where it has no limit it has no offset either. -/
theorem resolve_texts (page? limit? offset? : Option String) :
    ∃ p, resolve (ofText? page?) (ofText? limit?) (ofText? offset?) = .ok p ∧
      (∀ q, Resolves page? limit? offset? q ↔ q = p) ∧ (p.limit = none → p.offset = 0) := by
  obtain ⟨p, resolves⟩ := exists_resolves page? limit? offset?
  have resolved := resolve_of_resolves resolves
  refine ⟨p, resolved, ?_, ?_⟩
  · intro q
    constructor
    · intro asked
      exact Except.ok.inj ((resolve_of_resolves asked).symm.trans resolved)
    · rintro rfl
      exact resolves
  · intro unlimited
    cases resolves with
    | unlimited _ => rfl
    | unread _ => rfl
    | _ => cases unlimited

example : resolve (.text "-2 of 7") (.text "\t+0010x") (.text "") = .ok ⟨some 10, -30⟩ := by decide

end Pagination

end QueryDesk
