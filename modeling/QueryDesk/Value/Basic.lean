import QueryDesk.Time.Moment
import QueryDesk.Uuid

/-!
# Values

The values that requests, predicates and rows carry: the kinds of JSON, and beside them decimal
numbers, UUIDs, moments, dates and fixed sequences. The members of an object keep their order.
-/

namespace QueryDesk

/-- A value of any kind. -/
inductive Value where
  | null
  | bool (b : Bool)
  | int (n : Int)
  | float (x : Binary64)
  | decimal (d : Decimal)
  | text (s : String)
  /-- A text in which half of a character stands alone; it is shown with the replacement character
      in place of the half. -/
  | damaged (s : String)
  | uuid (u : Uuid)
  | moment (m : Moment)
  | date (days : Nat)
  | list (items : List Value)
  | tuple (items : List Value)
  | object (members : List (String × Value))
  deriving Repr, Inhabited

/-- The members of an object, in order. -/
abbrev Members := List (String × Value)

namespace Value

/-- A value that counts as present: neither null nor false, nor a zero, nor empty. -/
def isTruthy : Value → Bool
  | null => false
  | bool b => b
  | int n => n != 0
  | float x => !x.isZero
  | decimal d => !d.isZero
  | text s | damaged s => !s.isEmpty
  | list items | tuple items => !items.isEmpty
  | object members => !members.isEmpty
  | uuid _ | moment _ | date _ => true

/-- The value is a text, be it damaged. -/
def isText : Value → Bool
  | text _ | damaged _ => true
  | _ => false

/-- The value is null. -/
def isNull : Value → Bool
  | null => true
  | _ => false

end Value

namespace Members

/-- The value of a key; the keys of an object are distinct. -/
def get? (key : String) (members : Members) : Option Value :=
  members.lookup key

/-- Gives a key its value: in its place if it has one, and otherwise at the end. -/
def set (key : String) (value : Value) : Members → Members
  | [] => [(key, value)]
  | (k, v) :: rest => if k = key then (k, value) :: rest else (k, v) :: set key value rest

/-- The object that pairs make: a repeated key keeps its first place and takes its last value. -/
def ofPairs (pairs : List (String × Value)) : Members :=
  pairs.foldl (fun members pair => set pair.1 pair.2 members) []

/-- The keys, in order. -/
def keys (members : Members) : List String :=
  members.map Prod.fst

@[simp] theorem get?_set_self (key : String) (value : Value) (members : Members) :
    get? key (set key value members) = some value := by
  induction members with
  | nil => simp [get?, set]
  | cons pair rest ih =>
    obtain ⟨k, v⟩ := pair
    by_cases h : k = key
    · subst h
      simp [get?, set]
    · have h' : (key == k) = false := by simpa using Ne.symm h
      simpa [get?, set, h, List.lookup_cons, h'] using ih

@[simp] theorem get?_set_of_ne {key other : String} (h : other ≠ key) (value : Value)
    (members : Members) : get? other (set key value members) = get? other members := by
  have h' : (other == key) = false := by simpa using h
  induction members with
  | nil => simp [get?, set, h]
  | cons pair rest ih =>
    obtain ⟨k, v⟩ := pair
    by_cases hk : k = key
    · subst hk
      simp [get?, set, List.lookup_cons, h']
    · by_cases ho : (other == k) = true
      · simp [get?, set, hk, List.lookup_cons, ho]
      · simpa [get?, set, hk, List.lookup_cons, ho] using ih

/-- Writing a key keeps the keys and their order, but for a new key at the end. -/
theorem keys_set (key : String) (value : Value) (members : Members) :
    keys (set key value members) =
      if key ∈ keys members then keys members else keys members ++ [key] := by
  induction members with
  | nil => simp [keys, set]
  | cons pair rest ih =>
    obtain ⟨k, v⟩ := pair
    by_cases h : k = key
    · subst h
      simp [keys, set]
    · have h' : key ≠ k := Ne.symm h
      simp only [keys, set, h, if_false, List.map_cons, List.mem_cons, h', false_or] at ih ⊢
      rw [ih]
      by_cases mem : key ∈ List.map Prod.fst rest <;> simp [mem]

end Members

end QueryDesk
