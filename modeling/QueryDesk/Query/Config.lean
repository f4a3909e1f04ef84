import QueryDesk.Validation

/-!
# Capabilities of a resource

A configuration says which fields of a resource may be searched, sorted by and filtered on. A query
can reach no other field.
-/

namespace QueryDesk

/-- How conditions are joined. -/
inductive Combinator where
  | all
  | any
  deriving DecidableEq, Repr

/-- The key under which a predicate holds conditions joined this way. -/
def Combinator.key : Combinator → String
  | .all => "AND"
  | .any => "OR"

/-- The combinator of a key. -/
def Combinator.ofKey? (key : String) : Option Combinator :=
  if key = "AND" then some .all else if key = "OR" then some .any else none

/-- The query capabilities of one resource. -/
structure ResourceConfig where
  searchFields : List String := []
  sortFields : List String := []
  filterFields : List String := []
  /-- The fields that limit a resource in time; declared only. -/
  dateScope : List String := []
  /-- The associations that may be embedded; declared only. -/
  embed : List String := []
  searchCombinator : Combinator := .all
  deriving DecidableEq, Repr

namespace ResourceConfig

open Validation

/-- A sequence of field names. -/
def fieldNames (location : List String) : Value → Validated (List String)
  | .list items | .tuple items => sequence location string items
  | v => refuse .tupleType location v

/-- The word for a combinator. -/
def combinator (location : List String) : Value → Validated Combinator
  | .text s => match Combinator.ofKey? s with
    | some c => .ok c
    | none => refuse .literalError location (.text s)
  | v => refuse .literalError location v

/-- Reads a configuration; absent fields have their defaults and unknown ones are ignored. -/
def read (members : Members) : Validated ResourceConfig :=
  let names (key : String) := withDefault [] (fieldNames [key]) (members.get? key)
  (both (names "search_fields") <| both (names "sort_fields") <| both (names "filter_fields") <|
    both (names "date_scope") <| both (names "embed") <|
    withDefault .all (combinator ["search_combinator"]) (members.get? "search_combinator")).map
  fun (searchFields, sortFields, filterFields, dateScope, embed, searchCombinator) =>
    { searchFields, sortFields, filterFields, dateScope, embed, searchCombinator }

/-- What may be asked of users. -/
def users : ResourceConfig where
  searchFields := ["full_name", "email"]
  sortFields := ["full_name", "email", "balance", "created_at"]
  filterFields := ["status", "role", "balance", "email"]
  dateScope := ["created_at"]
  embed := ["posts"]

/-- What may be asked of posts. -/
def posts : ResourceConfig where
  searchFields := ["title", "body"]
  sortFields := ["title", "views", "created_at", "user.full_name"]
  filterFields := ["status", "views", "user_id", "user.email", "user.role"]
  dateScope := ["created_at"]
  embed := ["user"]

end ResourceConfig

end QueryDesk
