import QueryDesk.Text.Hex

/-!
# UTF-8

Reading bytes as UTF-8 splits them into characters and damaged stretches. A damaged stretch is the
longest start of a well-formed sequence that the bytes hold, or the one byte that starts none.
-/

namespace QueryDesk.Text.Utf8

/-- Why a stretch of bytes is no character. -/
inductive Fault where
  /-- No sequence starts with this byte. -/
  | startByte
  /-- The byte after the stretch cannot go on with it. -/
  | continuation
  /-- The bytes end within a sequence. -/
  | truncated
  deriving DecidableEq, Repr

/-- What the bytes hold at one place. -/
inductive Piece where
  | char (c : Char)
  | damaged (length : Nat) (fault : Fault)
  deriving DecidableEq, Repr

/-- A sequence that is still open: the value so far, the bytes read, the bytes missing, and the
    bounds for the next of them. -/
structure Open where
  value : Nat
  seen : Nat
  missing : Nat
  low : Nat
  high : Nat
  deriving DecidableEq, Repr

/-- What a byte begins. -/
def begin (byte : UInt8) : List Piece × Option Open :=
  let b := byte.toNat
  if b < 0x80 then ([.char (Char.ofNat b)], none)
  else if b < 0xC2 then ([.damaged 1 .startByte], none)
  else if b < 0xE0 then ([], some ⟨b - 0xC0, 1, 1, 0x80, 0xBF⟩)
  else if b < 0xF0 then
    ([], some ⟨b - 0xE0, 1, 2, if b = 0xE0 then 0xA0 else 0x80, if b = 0xED then 0x9F else 0xBF⟩)
  else if b < 0xF5 then
    ([], some ⟨b - 0xF0, 1, 3, if b = 0xF0 then 0x90 else 0x80, if b = 0xF4 then 0x8F else 0xBF⟩)
  else ([.damaged 1 .startByte], none)

/-- Reads one more byte. -/
def feed (sequence : Option Open) (byte : UInt8) : List Piece × Option Open :=
  match sequence with
  | none => begin byte
  | some o =>
    let b := byte.toNat
    if o.low ≤ b ∧ b ≤ o.high then
      let value := o.value * 64 + (b - 0x80)
      if o.missing ≤ 1 then ([.char (Char.ofNat value)], none)
      else ([], some ⟨value, o.seen + 1, o.missing - 1, 0x80, 0xBF⟩)
    else
      let (pieces, next) := begin byte
      (.damaged o.seen .continuation :: pieces, next)

/-- The pieces of the bytes that follow an open sequence. -/
def piecesAfter : Option Open → List UInt8 → List Piece
  | none, [] => []
  | some o, [] => [.damaged o.seen .truncated]
  | sequence, byte :: rest =>
    let (pieces, next) := feed sequence byte
    pieces ++ piecesAfter next rest

/-- The characters and damaged stretches of a byte string, in order. -/
def pieces (bytes : List UInt8) : List Piece :=
  piecesAfter none bytes

/-- The bytes of a text. -/
def encode (cs : List Char) : List UInt8 :=
  cs.flatMap String.utf8EncodeChar

/-- Reads bytes with the replacement character for each damaged stretch. -/
def decodeLossy (bytes : List UInt8) : List Char :=
  (pieces bytes).map fun
    | .char c => c
    | .damaged _ _ => Char.ofNat 0xFFFD

/-- The first damaged stretch of a byte string. -/
structure DecodeError where
  position : Nat
  length : Nat
  fault : Fault
  deriving DecidableEq, Repr

/-- The characters before the first damaged stretch, or that stretch, `position` bytes having been
    read already. -/
def charsOf (position : Nat) : List Piece → Except DecodeError (List Char)
  | [] => .ok []
  | .char c :: rest => return c :: (← charsOf (position + c.utf8Size) rest)
  | .damaged length fault :: _ => .error ⟨position, length, fault⟩

/-- Reads bytes that must be well-formed. -/
def decode (bytes : List UInt8) : Except DecodeError (List Char) :=
  charsOf 0 (pieces bytes)

/-- The wording of a fault. -/
def Fault.text : Fault → String
  | .startByte => "invalid start byte"
  | .continuation => "invalid continuation byte"
  | .truncated => "unexpected end of data"

/-- The message about the first damaged stretch of `bytes`. -/
def DecodeError.message (bytes : List UInt8) (e : DecodeError) : String :=
  let place :=
    if e.length = 1 then
      let byte := (bytes[e.position]?.getD 0).toNat
      s!"byte 0x{String.ofList (hexDigits 2 byte)} in position {e.position}"
    else s!"bytes in position {e.position}-{e.position + e.length - 1}"
  s!"'utf-8' codec can't decode {place}: {e.fault.text}"

end QueryDesk.Text.Utf8
