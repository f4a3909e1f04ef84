import QueryDesk.Query.Config
import QueryDesk.Query.Fault
import QueryDesk.Query.FieldPath
import QueryDesk.Query.Operand

/-!
# Filters

A parameter `f_<field>` filters on an allowed field. Its value is a list of alternatives between
bars, a list of requirements between percent signs, a comparison, or the value to be equal to.
-/

namespace QueryDesk.Filter

open Text

/-- What marks the name of a filter parameter. -/
def mark : String := "f_"

/-- The symbols that separate the members of a group; a percent sign comes before a bar. -/
def groupSymbols : List (Char × Combinator) :=
  [('%', .all), ('|', .any)]

/-- The symbols of the comparisons with their operators; a symbol comes before its own
    beginnings. -/
def comparisonSymbols : List (String × String) :=
  [(">=", "GTE"), ("<=", "LTE"), (">", "GT"), ("<", "LT"), ("!=", "NE")]

/-- What a filter value says. -/
inductive Clause where
  | group (combinator : Combinator) (operands : List Value)
  | comparison (operator : String) (operand : Value)
  | equality (operand : Value)

/-- The group symbol that decides about a value. -/
def groupSymbol? (cs : List Char) : Option (Char × Combinator) :=
  groupSymbols.find? fun symbol => cs.contains symbol.1

/-- The first comparison symbol, in their order, that occurs in a value. -/
def comparison? (cs : List Char) : Option (String × String) :=
  comparisonSymbols.find? fun symbol => occurs symbol.1.toList cs

/-- The text between the first and the second occurrence of a symbol. -/
def segmentAfter (symbol cs : List Char) : List Char :=
  match cut? symbol cs with
  | some (_, after) => ((cut? symbol after).map Prod.fst).getD after
  | none => []

/-- What a value says. -/
def clause (value : String) : Clause :=
  let cs := value.toList
  match groupSymbol? cs with
  | some (symbol, combinator) =>
    .group combinator ((split symbol value).map Operand.ofText)
  | none =>
    match comparison? cs with
    | some (symbol, operator) =>
      .comparison operator (Operand.ofText (String.ofList (segmentAfter symbol.toList cs)))
    | none => .equality (Operand.ofText value)

/-- The allowed field that a parameter filters on. -/
def field? (config : ResourceConfig) (key : String) : Option String :=
  (mark.toList.isPrefixOf? key.toList).bind fun rest =>
    let field := String.ofList rest
    if config.filterFields.contains field then some field else none

/-- Adds leaves to the group of a combinator, which begins empty. -/
def extend (combinator : Combinator) (leaves : List Value) (predicate : Members) :
    Except QueryFault Members :=
  match predicate.get? combinator.key with
  | none => .ok (predicate.set combinator.key (.list leaves))
  | some (.list earlier) => .ok (predicate.set combinator.key (.list (earlier ++ leaves)))
  | some _ => .error .groupTaken

/-- Adds what a clause says about the field of a token. -/
def add (token : String) (predicate : Members) : Clause → Except QueryFault Members
  | .group combinator operands =>
    extend combinator (operands.map fun operand => .object [(token, operand)]) predicate
  | .comparison operator operand => .ok (predicate.set token (.object [(operator, operand)]))
  | .equality operand => .ok (predicate.set token operand)

/-- The parameters of pagination, search and order, which never filter. -/
def reserved : List String :=
  ["search", "sort", "page", "limit", "offset"]

/-- The text of a filter value; null has the empty one. -/
def valueText : Value → Except QueryFault String
  | .null => .ok ""
  | v => match v.text? with
    | some s => .ok s
    | none => .error .tooManyDigits

/-- Adds what one parameter says, if it is a filter on an allowed field. -/
def step (config : ResourceConfig) (format : FieldPath.Format) (predicate : Members)
    (param : String × Value) : Except QueryFault Members :=
  if reserved.contains param.1 then .ok predicate
  else match field? config param.1 with
    | none => .ok predicate
    | some field => do add (format field) predicate (clause (← valueText param.2))

/-- The predicate of the filters among the parameters, in their order. -/
def predicate (params : Members) (config : ResourceConfig)
    (format : FieldPath.Format := FieldPath.token) : Except QueryFault Members :=
  params.foldlM (step config format) []

end QueryDesk.Filter
