import QueryDesk.Http.Message
import QueryDesk.Json.Reader

/-!
# Payloads

The payload of a request is a JSON object with declared fields. A request without a payload, with a
payload that is no JSON or no object, or with misfits in fields is refused with its issues.
Null is a payload like any other that is no object.
-/

namespace QueryDesk.Http.Payload

open Validation

/-- Why a payload is not read. -/
inductive Fault where
  | issues (found : List Issue)
  /-- The text holds a whole number of too many digits, or it is nested too deeply. -/
  | unreadable

/-- The kind of content is JSON; without a declared kind it is taken to be. -/
def declaresJson (r : Request) : Bool :=
  match r.header? "Content-Type" with
  | none | some "" => true
  | some kind =>
    let kind := Text.trim (kind.toList.takeWhile (· ≠ ';')) |> Text.asciiLower
    match "application/".toList.isPrefixOf? kind with
    | none => false
    | some subtype =>
      !subtype.contains '/' && (subtype == "json".toList || "+json".toList.isSuffixOf subtype)

/-- The payload as a value, if there is one. A byte order mark may stand before it. -/
def value? (depth : Nat) (r : Request) : Except Fault (Option Value) :=
  let cs := r.body.toList
  if cs.isEmpty then .ok none
  else if !declaresJson r then .ok (some (.text r.body))
  else
    let cs := if cs.head? = some (Char.ofNat 0xFEFF) then cs.drop 1 else cs
    match Json.readChars depth cs with
    | .ok v => .ok (some v)
    | .error ⟨.digits _, _⟩ | .error ⟨.nesting, _⟩ => .error .unreadable
    | .error fault =>
      .error (.issues [⟨.jsonInvalid, ["body", toString (fault.position cs)], .object []⟩])

/-- The members of the payload. -/
def members (depth : Nat) (r : Request) : Except Fault Members :=
  match value? depth r with
  | .error e => .error e
  | .ok none => .error (.issues [⟨.missing, ["body"], .null⟩])
  | .ok (some (.object ms)) => .ok ms
  | .ok (some v) => .error (.issues [⟨.attributesType, ["body"], v⟩])

/-- A field of the payload that has to be there. -/
def required {α : Type} (ms : Members) (key : String)
    (read : List String → Value → Validated α) : Validated α :=
  match ms.get? key with
  | some v => read ["body", key] v
  | none => refuse .missing ["body", key] (.object ms)

/-- A field of the payload that may be absent. -/
def optional {α : Type} (ms : Members) (key : String) (default : α)
    (read : List String → Value → Validated α) : Validated α :=
  withDefault default (read ["body", key]) (ms.get? key)

/-- Reads the payload of a request with a reader of its members. No more than `depth` arrays and
    objects may lie around each other in it. -/
def read {α : Type} (depth : Nat) (r : Request) (fields : Members → Validated α) :
    Except Fault α := do
  let ms ← members depth r
  (fields ms).mapError .issues

end QueryDesk.Http.Payload
