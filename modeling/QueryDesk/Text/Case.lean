import QueryDesk.Text.CaseTable

/-!
# Letter case

`lower` and `upper` are the full mappings of all scripts: a letter may become several characters,
and a capital sigma at the end of a word becomes the final sigma.
-/

namespace QueryDesk.Text

/-- The code point that the first run covering this one maps it to; otherwise itself. -/
def mapPoint (runs : List CaseRun) (point : Nat) : Nat :=
  match runs.find? (·.covers point) with
  | some run => (point + run.shift).toNat
  | none => point

/-- A character has case and is not one that case rules pass over. -/
def isCased (c : Char) : Bool :=
  inIntervals casedIntervals c.toNat

/-- Case rules look past this character. -/
def isCaseIgnorable (c : Char) : Bool :=
  inIntervals caseIgnorableIntervals c.toNat

/-- The nearest character that case rules do not look past has case. -/
def nextIsCased (cs : List Char) : Bool :=
  ((cs.dropWhile isCaseIgnorable).head?.map isCased).getD false

/-- The lower case of one character, where only a capital sigma depends on what stands before it
    (given backwards) and after it. -/
def lowerChar (before : List Char) (c : Char) (after : List Char) : List Char :=
  if c = 'Σ' then [if nextIsCased before && !nextIsCased after then 'ς' else 'σ']
  else if c = 'İ' then ['i', Char.ofNat 0x307]
  else [Char.ofNat (mapPoint lowerRuns c.toNat)]

/-- The lower case of a text that follows the characters of `before`, which are given backwards. -/
def lowerAfter (before : List Char) : List Char → List Char
  | [] => []
  | c :: rest => lowerChar before c rest ++ lowerAfter (c :: before) rest

/-- The lower case of a text. -/
def lower (s : String) : String :=
  String.ofList (lowerAfter [] s.toList)

/-- The upper case of one character. -/
def upperChar (c : Char) : List Char :=
  match upperSequences.lookup c.toNat with
  | some points => points.map Char.ofNat
  | none => [Char.ofNat (mapPoint upperRuns c.toNat)]

/-- The upper case of a text. -/
def upper (s : String) : String :=
  String.ofList (s.toList.flatMap upperChar)

/-- The lower case of an ASCII letter; other characters stay. -/
def asciiLowerChar (c : Char) : Char :=
  if 65 ≤ c.toNat && c.toNat ≤ 90 then Char.ofNat (c.toNat + 32) else c

/-- A text with its ASCII letters in lower case. -/
def asciiLower (cs : List Char) : List Char :=
  cs.map asciiLowerChar

end QueryDesk.Text
