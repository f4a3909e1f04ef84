import QueryDesk.Value.Convert

/-!
# One-time codes

A code is a number of characters, each picked from an alphabet that holds the digits and, if asked
for, the small and the capital letters.
-/

namespace QueryDesk.Otp

/-- Consecutive characters. -/
def charRange (first : Char) (count : Nat) : List Char :=
  (List.range count).map fun i => Char.ofNat (first.toNat + i)

/-- The characters that a code may have. -/
def alphabet (small capital : Bool) : List Char :=
  charRange '0' 10 ++ (if small then charRange 'a' 26 else []) ++
    (if capital then charRange 'A' 26 else [])

/-- The character that a pick stands for. -/
def pick (chars : List Char) (n : Int) : Char :=
  chars[(n % chars.length).toNat]?.getD '0'

/-- The code of the first `length` picks. -/
def code (length : Nat) (chars : List Char) (picks : List Int) : String :=
  String.ofList ((picks.take length).map (pick chars))

/-- The code that is asked for; a negative length counts as zero. -/
def generate (length : Value) (small capital : Bool) (picks : List Int) :
    Except ConvertFault String := do
  let n ← length.toInt
  return code n.toNat (alphabet small capital) picks

end QueryDesk.Otp
