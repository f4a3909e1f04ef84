import QueryDesk.Log
import QueryDesk.Settings
import QueryDesk.Value.Convert

/-!
# Connecting at startup

The service connects to its database before it serves, and tries again until a deadline. The rules
hold for any measure of time; the service measures it in doubles.
-/

namespace QueryDesk

/-- A measure of time in seconds. -/
class Seconds (α : Type) where
  zero : α
  add : α → α → α
  /-- The first is later than the second. -/
  after : α → α → Bool

instance : Seconds Binary64 where
  zero := .finite false 0
  add := Binary64.add
  after x y := Binary64.lt y x

namespace Startup

/-- What an attempt does last. -/
inductive Stage where
  | connecting
  | asking
  /-- Creating the missing tables, which not every policy does. -/
  | creating
  deriving DecidableEq, Repr

/-- How an attempt ends. -/
inductive Attempt where
  | succeeds
  /-- The database does not answer; a later attempt may succeed. -/
  | fails (stage : Stage := .connecting)
  /-- Something else goes wrong, and there is no other attempt. -/
  | breaks (stage : Stage := .connecting)
  deriving DecidableEq, Repr

/-- How an attempt ends where missing tables are created or not: creating them cannot go wrong if
    nothing is created. -/
def Attempt.given (syncSchema : Bool) : Attempt → Attempt
  | fails .creating => if syncSchema then fails .creating else succeeds
  | breaks .creating => if syncSchema then breaks .creating else succeeds
  | attempt => attempt

/-- What is done on the way. -/
inductive Step (α : Type) where
  | connect
  | query
  | createTables
  | sleep (seconds : α)
  deriving DecidableEq, Repr

/-- What an attempt has done once it has come to a stage. -/
def Stage.steps {α : Type} : Stage → List (Step α)
  | connecting => [.connect]
  | asking => [.connect, .query]
  | creating => [.connect, .query, .createTables]

/-- What is logged on the way; attempts count from one. -/
inductive Event (α : Type) where
  | connected (attempt : Nat)
  | retrying (delay : α) (attempt : Nat)
  | gaveUp (attempt : Nat)
  deriving DecidableEq, Repr

/-- How it ends. -/
inductive Ending where
  | connected
  | unavailable
  | broken
  /-- The attempts that were allowed for are used up. -/
  | unfinished
  deriving DecidableEq, Repr

/-- What was done and logged, and how it ended. -/
structure Report (α : Type) where
  steps : List (Step α)
  events : List (Event α)
  ending : Ending
  deriving DecidableEq, Repr

/-- How long to try, how long to wait between attempts, and whether to create missing tables. -/
structure Policy (α : Type) where
  timeout : α
  delay : α
  syncSchema : Bool

variable {α : Type} [Seconds α]

/-- A time, or none at all if it is negative. -/
def atLeastZero (x : α) : α :=
  if Seconds.after Seconds.zero x then Seconds.zero else x

/-- The policy of two times, negative ones counting as zero. -/
def Policy.ofTimes (timeout delay : α) (syncSchema : Bool) : Policy α :=
  ⟨atLeastZero timeout, atLeastZero delay, syncSchema⟩

/-- The last stage of an attempt that succeeds. -/
def Policy.lastStage (policy : Policy α) : Stage :=
  if policy.syncSchema then .creating else .asking

/-- Puts the steps and the events of an attempt before those of the later ones. -/
def Report.after (steps : List (Step α)) (events : List (Event α)) (r : Report α) : Report α :=
  ⟨steps ++ r.steps, events ++ r.events, r.ending⟩

/-- Goes on at the time `now` after `done` attempts, for at most `fuel` more. The clock moves by
    `tick` before it is read, and by the delay while waiting. -/
def attempts (policy : Policy α) (tick deadline : α) (outcome : Nat → Attempt) :
    (fuel done : Nat) → (now : α) → Report α
  | 0, _, _ => ⟨[], [], .unfinished⟩
  | fuel + 1, done, now =>
    match (outcome done).given policy.syncSchema with
    | .succeeds => ⟨policy.lastStage.steps, [.connected (done + 1)], .connected⟩
    | .breaks stage => ⟨stage.steps, [], .broken⟩
    | .fails stage =>
      let next := Seconds.add (Seconds.add now tick) policy.delay
      if Seconds.after next deadline then ⟨stage.steps, [.gaveUp (done + 1)], .unavailable⟩
      else
        Report.after (stage.steps ++ [.sleep policy.delay]) [.retrying policy.delay (done + 1)]
          (attempts policy tick deadline outcome fuel (done + 1) next)

/-- Connects, starting with the clock at some time. -/
def connectAt (clock : α) (policy : Policy α) (tick : α) (outcome : Nat → Attempt) (fuel : Nat) :
    Report α :=
  let start := Seconds.add clock tick
  attempts policy tick (Seconds.add start policy.timeout) outcome fuel 0 start

/-- Connects, starting with the clock at zero. -/
def connect (policy : Policy α) (tick : α) (outcome : Nat → Attempt) (fuel : Nat) : Report α :=
  connectAt Seconds.zero policy tick outcome fuel

/-- The log line of an event. -/
def Event.line : Event Binary64 → LogLine
  | connected n => ⟨.info, s!"DB connected (attempt {n})"⟩
  | retrying delay n =>
    ⟨.warning, s!"DB connection failed, reconnecting in {delay.fixed 1}s (attempt {n})"⟩
  | gaveUp n => ⟨.error, s!"DB connection failed after {n}"⟩

/-- The policy in the settings; negative times count as zero. -/
def policyOf (settings : Settings) : Except ConvertFault (Policy Binary64) := do
  let timeout ← (settings.get .connectTimeout).toBinary64
  let delay ← (settings.get .reconnectDelay).toBinary64
  return .ofTimes timeout delay (settings.get .syncSchema).isTruthy

end Startup

end QueryDesk
