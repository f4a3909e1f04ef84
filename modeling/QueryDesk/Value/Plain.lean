import QueryDesk.Value.Basic

/-!
# JSON-ready values

`Value.plain` turns a value into one of the kinds that JSON has, at every depth: moments, dates and
UUIDs into their texts, decimal numbers into doubles and fixed sequences into lists.
`Value.exposed` leaves out what answers never show.
-/

namespace QueryDesk

/-- A signaling NaN has no double. -/
inductive PlainError where
  | signalingNan
  deriving DecidableEq, Repr

mutual

/-- The JSON-ready form of a value. -/
def Value.plain : Value → Except PlainError Value
  | .object members => return .object (← plainMembers members)
  | .list items | .tuple items => return .list (← plainItems items)
  | .moment m => return .text m.isoText
  | .date days => return .text (String.ofList (Calendar.Date.ofDays days).text)
  | .uuid u => return .text u.text
  | .decimal d =>
    match d.toBinary64? with
    | some x => return .float x
    | none => throw .signalingNan
  | .null => return .null
  | .bool b => return .bool b
  | .int n => return .int n
  | .float x => return .float x
  | .text s => return .text s
  | .damaged s => return .damaged s

/-- The JSON-ready forms of a list of values. -/
def plainItems : List Value → Except PlainError (List Value)
  | [] => return []
  | item :: rest => return (← item.plain) :: (← plainItems rest)

/-- The members of an object with their values JSON-ready. -/
def plainMembers : List (String × Value) → Except PlainError (List (String × Value))
  | [] => return []
  | (key, value) :: rest => return (key, ← value.plain) :: (← plainMembers rest)

end

/-- A key that belongs to the bookkeeping of the store. -/
def isInternalKey (key : String) : Bool :=
  "_sa".toList.isPrefixOf key.toList

mutual

/-- A value without the members, at any depth, whose keys are internal. -/
def Value.exposed : Value → Value
  | .object members => .object (exposedMembers members)
  | .list items => .list (exposedItems items)
  | .tuple items => .tuple (exposedItems items)
  | leaf => leaf

/-- Items without internal members. -/
def exposedItems : List Value → List Value
  | [] => []
  | item :: rest => item.exposed :: exposedItems rest

/-- The members whose keys are not internal. -/
def exposedMembers : List (String × Value) → List (String × Value)
  | [] => []
  | (key, value) :: rest =>
    if isInternalKey key then exposedMembers rest
    else (key, value.exposed) :: exposedMembers rest

end

end QueryDesk
