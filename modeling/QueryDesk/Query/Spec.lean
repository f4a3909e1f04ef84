import QueryDesk.Query.Pagination
import QueryDesk.Validation

/-!
# Query specifications

What a list request asks for: a page, an order and a predicate. A predicate maps field tokens to
operands or to operators with operands, and the keys `AND` and `OR` to lists of predicates.
-/

namespace QueryDesk

/-- A direction of sorting. -/
inductive Direction where
  | asc
  | desc
  deriving DecidableEq, Repr

/-- The word for a direction. -/
def Direction.text : Direction → String
  | .asc => "ASC"
  | .desc => "DESC"

/-- A sort key. -/
structure OrderClause where
  field : String
  direction : Direction := .asc
  deriving DecidableEq, Repr

/-- A page, an order and a predicate. -/
structure QuerySpec where
  pagination : Pagination := {}
  order : List OrderClause := []
  predicate : Members := []

namespace QuerySpec

open Validation

/-- Reads a page; an absent limit is none and an absent offset is zero. -/
def readPagination (location : List String) : Value → Validated Pagination
  | .object members =>
    (both (withDefault none (int? (location ++ ["limit"])) (Members.get? "limit" members))
      (withDefault 0 (int (location ++ ["offset"])) (Members.get? "offset" members))).map
    fun (limit, offset) => { limit, offset }
  | v => refuse .modelType location v

/-- Reads a direction. -/
def readDirection (location : List String) : Value → Validated Direction
  | .text "ASC" => .ok .asc
  | .text "DESC" => .ok .desc
  | v => refuse .literalError location v

/-- Reads a sort key: an object with a field and, unless it is ascending, a direction. -/
def readClause (location : List String) : Value → Validated OrderClause
  | .object members =>
    let field := match Members.get? "field" members with
      | some v => string (location ++ ["field"]) v
      | none => refuse .missing (location ++ ["field"]) (.object members)
    (both field (withDefault .asc (readDirection (location ++ ["direction"]))
      (Members.get? "direction" members))).map
    fun (field, direction) => { field, direction }
  | v => refuse .modelType location v

/-- Reads a list of sort keys. -/
def readOrder (location : List String) : Value → Validated (List OrderClause)
  | .list items | .tuple items => sequence location readClause items
  | v => refuse .listType location v

/-- Reads a predicate. -/
def readPredicate (location : List String) : Value → Validated Members
  | .object members => .ok members
  | v => refuse .dictType location v

/-- Reads a specification; absent parts are empty. -/
def read (members : Members) : Validated QuerySpec :=
  (both (withDefault {} (readPagination ["pagination"]) (Members.get? "pagination" members)) <|
    both (withDefault [] (readOrder ["order"]) (Members.get? "order" members)) <|
    withDefault [] (readPredicate ["predicate"]) (Members.get? "predicate" members)).map
  fun (pagination, order, predicate) => { pagination, order, predicate }

end QuerySpec

end QueryDesk
