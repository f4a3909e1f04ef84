import QueryDesk.Text.Digit
import QueryDesk.Text.Quoted

/-!
# Templates

A template is text with fields in braces; doubled braces stand for themselves. A field names a
text, may select a character of it by position or ask for an attribute, may ask for a quoted form,
and may lay a text out in a width. Which attributes texts have, and what is done with the objects
that these lead to, the language decides.
-/

namespace QueryDesk.Template

/-- A reason that callers do not foresee. -/
inductive Surprise where
  /-- A field asks for an attribute that is not there. -/
  | attribute
  /-- A field selects by something else than a position, or from what cannot be selected from, or
      lays out what cannot be laid out. -/
  | selector
  /-- An object that an attribute led to raises an exception of this name. -/
  | object (name : String)
  deriving DecidableEq, Repr

/-- Why a template cannot be filled. -/
inductive Fault where
  /-- The template is malformed, names no known text, or selects what is not there. -/
  | unfillable
  | unforeseen (surprise : Surprise)
  deriving DecidableEq, Repr

/-- The texts that fields may name. -/
abbrev Fields := List (String × String)

/-- What ends a stretch of plain text. -/
inductive Stop where
  | finished
  | field (rest : List Char)
  | stray

/-- The plain text at the front of a template, and what ends it. -/
def plainText : List Char → List Char × Stop
  | [] => ([], .finished)
  | [c] => if c = '\x7b' || c = '\x7d' then ([], .stray) else ([c], .finished)
  | c :: d :: rest =>
    if c = '\x7b' || c = '\x7d' then
      if c = d then
        let (text, stop) := plainText rest
        (c :: text, stop)
      else if c = '\x7b' then ([], .field (d :: rest))
      else ([], .stray)
    else
      let (text, stop) := plainText (d :: rest)
      (c :: text, stop)

/-- The name of a field, the mark that ends it and what follows; marks within brackets belong to the
    name, and an opening brace outside of them ends it with an error. -/
def fieldName : (inBrackets : Bool) → List Char → Except Fault (List Char × Char × List Char)
  | _, [] => .error .unfillable
  | inBrackets, c :: rest =>
    if inBrackets then do
      let (name, mark, rest) ← fieldName (c != ']') rest
      return (c :: name, mark, rest)
    else if c = '\x7b' then .error .unfillable
    else if c = '\x7d' || c = ':' || c = '!' then .ok ([], c, rest)
    else do
      let (name, mark, rest) ← fieldName (c == '[') rest
      return (c :: name, mark, rest)

/-- The layout part of a field up to the brace that closes the field, and what follows. Braces nest;
    `depth` of them are open. -/
def layoutPart : (depth : Nat) → List Char → Except Fault (List Char × List Char)
  | _, [] => .error .unfillable
  | depth, c :: rest =>
    if c = '\x7d' && depth ≤ 1 then .ok ([], rest)
    else do
      let depth := if c = '\x7b' then depth + 1 else if c = '\x7d' then depth - 1 else depth
      let (layout, rest) ← layoutPart depth rest
      return (c :: layout, rest)

/-- A field of a template as it is written. -/
structure Field where
  name : List Char
  conversion : Option Char
  layout : List Char
  deriving DecidableEq, Repr

/-- Reads a field whose opening brace has been read. -/
def field (cs : List Char) : Except Fault (Field × List Char) := do
  let (name, mark, rest) ← fieldName false cs
  if mark = '\x7d' then return (⟨name, none, []⟩, rest)
  else if mark = ':' then
    let (layout, rest) ← layoutPart 1 rest
    return (⟨name, none, layout⟩, rest)
  else
    match rest with
    | conversion :: '\x7d' :: rest => return (⟨name, some conversion, []⟩, rest)
    | conversion :: ':' :: rest =>
      let (layout, rest) ← layoutPart 1 rest
      return (⟨name, some conversion, layout⟩, rest)
    | _ => .error .unfillable

/-- The value of a non-empty run of decimal digits of any script. -/
def position? (cs : List Char) : Option Nat :=
  if cs.isEmpty then none
  else cs.foldl (fun n? c => n?.bind fun n => (Text.digitValue? c).map (n * 10 + ·)) (some 0)

/-- A mark that begins an attribute or a selection. -/
def isAccessMark (c : Char) : Bool :=
  c == '.' || c == '['

/-- What a field shows. -/
inductive Thing where
  | text (cs : List Char)
  /-- An object that is no text, known by a number. -/
  | object (handle : Nat)
  deriving DecidableEq, Repr

/-- The form of a thing that a conversion asks for. -/
inductive Form where
  | plain
  | quoted
  | ascii
  deriving DecidableEq, Repr

/-- What the language has besides the characters of texts: their attributes, and the objects that
    these lead to. -/
structure Objects where
  /-- The attribute of a name. -/
  attributeOf : Thing → (name : String) → Except Fault Thing
  /-- What an object holds at a position or under a key, as it stands in brackets. -/
  select : (handle : Nat) → (inner : List Char) → Except Fault Thing
  /-- An object as a text. -/
  shown : (handle : Nat) → Form → Except Fault (List Char)
  /-- An object as a layout asks for it. -/
  laidOut : (handle : Nat) → (spec : List Char) → Except Fault (List Char)

/-- A language in which nothing has an attribute. -/
def Objects.bare : Objects where
  attributeOf _ _ := .error (.unforeseen .attribute)
  select _ _ := .error (.unforeseen .selector)
  shown _ _ := .ok []
  laidOut _ _ := .error (.unforeseen .selector)

/-- The character of a text at a position, or what an object holds. -/
def Thing.select (objects : Objects) (inner : List Char) : Thing → Except Fault Thing
  | text cs =>
    match position? inner with
    | none => .error (.unforeseen .selector)
    | some i => match cs[i]? with
      | none => .error .unfillable
      | some c => .ok (text [c])
  | object handle => objects.select handle inner

/-- Applies the attributes and selections after a name. They are read one by one, so a fault of an
    earlier one wins; `fuel` bounds their number. -/
def access (objects : Objects) (thing : Thing) : (fuel : Nat) → List Char → Except Fault Thing
  | _, [] => .ok thing
  | 0, _ => .error .unfillable
  | fuel + 1, c :: rest =>
    if c = '.' then
      let name := rest.takeWhile (!isAccessMark ·)
      if name.isEmpty then .error .unfillable
      else do
        let found ← objects.attributeOf thing (String.ofList name)
        access objects found fuel (rest.drop name.length)
    else if c = '[' then
      let inner := rest.takeWhile (· ≠ ']')
      match rest.drop inner.length with
      | [] => .error .unfillable
      | _ :: after =>
        if inner.isEmpty then .error .unfillable
        else do access objects (← thing.select objects inner) fuel after
    else .error .unfillable

/-- What a field names, with its selections applied. A name that is empty or a number stands for a
    position in a list that is empty. -/
def lookup (objects : Objects) (fields : Fields) (name : List Char) : Except Fault Thing :=
  let first := name.takeWhile (!isAccessMark ·)
  match fields.lookup (String.ofList first) with
  | none => .error .unfillable
  | some s => access objects (.text s.toList) name.length (name.drop first.length)

/-- A text in a form. -/
def Form.apply (cs : List Char) : Form → List Char
  | plain => cs
  | quoted => Text.Quoted.encodeWith Text.isPrintable cs
  | ascii => Text.Quoted.encodeWith (fun c => Text.isPrintable c && c.toNat < 0x80) cs

/-- A thing in a form, which makes it a text. -/
def Thing.shown (objects : Objects) (form : Form) : Thing → Except Fault (List Char)
  | text cs => .ok (form.apply cs)
  | object handle => objects.shown handle form

/-- The form that a conversion asks for. -/
def form? : Char → Option Form
  | 's' => some .plain
  | 'r' => some .quoted
  | 'a' => some .ascii
  | _ => none

/-- A thing as a conversion asks for it. -/
def convert (objects : Objects) (thing : Thing) : Option Char → Except Fault Thing
  | none => .ok thing
  | some c =>
    match form? c with
    | none => .error .unfillable
    | some form => (thing.shown objects form).map .text

/-- How a text is laid out. -/
structure Layout where
  fill : Char := ' '
  align : Char := '<'
  width : Nat := 0
  /-- The greatest number of characters shown. -/
  limit : Option Nat := none
  deriving DecidableEq, Repr

/-- A mark of alignment. -/
def isAlignment (c : Char) : Bool :=
  c == '<' || c == '>' || c == '^' || c == '='

/-- The fill and the alignment at the front of a layout, and whether a fill is given. -/
def alignment : List Char → Option Char × Option Char × List Char
  | fill :: align :: rest =>
    if isAlignment align then (some fill, some align, rest)
    else if isAlignment fill then (none, some fill, align :: rest)
    else (none, none, fill :: align :: rest)
  | [c] => if isAlignment c then (none, some c, []) else (none, none, [c])
  | [] => (none, none, [])

/-- The largest number that a layout may give. -/
def maxNumber : Nat := 0x7fffffffffffffff

/-- A number at the front of a layout, if there is one. -/
def number (cs : List Char) : Except Fault (Option Nat × List Char) :=
  let digits := cs.takeWhile fun c => (Text.digitValue? c).isSome
  match position? digits with
  | none => .ok (none, cs)
  | some n => if n ≤ maxNumber then .ok (some n, cs.drop digits.length) else .error .unfillable

/-- The limit after a point, if there is one. -/
def limitPart : List Char → Except Fault (Option Nat × List Char)
  | '.' :: rest => do
    match ← number rest with
    | (none, _) => .error .unfillable
    | found => return found
  | cs => .ok (none, cs)

/-- Reads a layout. The marks that are for numbers only are refused. -/
def layout (cs : List Char) : Except Fault Layout := do
  let (fill?, align?, rest) := alignment cs
  let (fill, rest) := match fill?, rest with
    | none, '0' :: rest => ('0', rest)
    | fill?, rest => (fill?.getD ' ', rest)
  let (width?, rest) ← number rest
  let (limit, rest) ← limitPart rest
  let align := align?.getD '<'
  if align = '=' then .error .unfillable
  else match rest with
    | [] | ['s'] => return ⟨fill, align, width?.getD 0, limit⟩
    | _ => .error .unfillable

/-- Lays a text out: cut to the limit, then filled up to the width. -/
def Layout.apply (l : Layout) (text : List Char) : List Char :=
  let text := (l.limit.map text.take).getD text
  let room := l.width - text.length
  let before := if l.align = '>' then room else if l.align = '^' then room / 2 else 0
  List.replicate before l.fill ++ text ++ List.replicate (room - before) l.fill

/-- A thing as a layout asks for it. -/
def laidOut (objects : Objects) (spec : List Char) : Thing → Except Fault (List Char)
  | .text cs => return (← layout spec).apply cs
  | .object handle => objects.laidOut handle spec

/-- Fills a template. A layout may hold fields itself, down to `depth` levels; `fuel` bounds the
    number of fields. -/
def fillWith (objects : Objects) (fields : Fields) :
    (fuel depth : Nat) → List Char → Except Fault (List Char)
  | 0, _, _ => .error .unfillable
  | _, 0, _ => .error .unfillable
  | fuel + 1, depth + 1, cs => do
    let (text, stop) := plainText cs
    match stop with
    | .finished => return text
    | .stray => .error .unfillable
    | .field rest =>
      let (f, rest) ← field rest
      let found ← convert objects (← lookup objects fields f.name) f.conversion
      let spec ←
        if f.layout.contains '\x7b' then fillWith objects fields fuel depth f.layout
        else .ok f.layout
      let shown ← laidOut objects spec found
      return text ++ shown ++ (← fillWith objects fields fuel (depth + 1) rest)

/-- Fills a template with texts. -/
def fill (objects : Objects) (fields : Fields) (template : String) : Except Fault String := do
  let cs := template.toList
  return String.ofList (← fillWith objects fields (cs.length + 1) 2 cs)

end QueryDesk.Template
