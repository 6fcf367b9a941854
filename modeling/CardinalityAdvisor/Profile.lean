import CardinalityAdvisor.Log.Line

/-!
# Profiling

The profiling table adds up the execution times of each query class. It has a capacity. When a new
class does not fit any more, profiling stops for good.

## Main definitions

* `ProfileTable`: the times with their classes
* `ProfileUpdate`: what became of a time that was reported
* `ProfileTable.update`: the table after a time was reported
* `ProfileBook`: the table in use and the table that a process shares
-/

namespace CardinalityAdvisor

/-- What became of a time that was reported. -/
inductive ProfileUpdate where
  /-- The time was added. -/
  | recorded
  /-- There is no profiling. -/
  | disabled
  /-- The table is full, and profiling has stopped. -/
  | exhausted
  deriving DecidableEq, Repr

/-- The word for what became of a time. -/
def ProfileUpdate.name : ProfileUpdate → String
  | .recorded => "recorded"
  | .disabled => "disabled"
  | .exhausted => "exhausted"

/-- The times of query classes, in the order in which the classes were first reported. -/
structure ProfileTable where
  capacity : Nat
  enabled : Bool
  rows : List (Int × Float)
  /-- Whether every time that is added is logged. -/
  verbose : Bool
  deriving Repr

namespace ProfileTable

/-- An empty table. Without a capacity above zero it is disabled. -/
def new (capacity : Int) (verbose : Bool) : ProfileTable :=
  ⟨capacity.toNat, decide (0 < capacity), [], verbose⟩

/-- The rows with a time added to that of a class. -/
def addTime (queryHash : Int) (elapsed : Float) : List (Int × Float) → List (Int × Float)
  | [] => [(queryHash, 0 + elapsed)]
  | (other, time) :: rest =>
    if other = queryHash then (other, time + elapsed) :: rest
    else (other, time) :: addTime queryHash elapsed rest

/-- The time of a class; zero if it was never reported. -/
def timeOf (t : ProfileTable) (queryHash : Int) : Float := (t.rows.lookup queryHash).getD 0

/-- What became of a time that was reported, and the table after it. -/
def update (t : ProfileTable) (queryHash : Int) (elapsed : Float) : ProfileUpdate × ProfileTable :=
  if !t.enabled then (.disabled, t)
  else if (t.rows.lookup queryHash).isNone && decide (t.capacity ≤ t.rows.length) then
    (.exhausted, { t with enabled := false })
  else (.recorded, { t with rows := addTime queryHash elapsed t.rows })

/-- The component that logs what became of a time. -/
def component : String := "profiling"

/-- The entries that are logged about a time, given the table after it. -/
def report (t : ProfileTable) (queryHash : Int) : ProfileUpdate → Option (List Value)
  | .disabled => none
  | .exhausted =>
    some [.text ("Profiling table is full (" ++ toString t.capacity ++ " entries)."),
      .text "Disabling profiling for this process."]
  | .recorded =>
    if t.verbose then
      some [.text "Query class", .int queryHash, .text "now at", .float (t.timeOf queryHash),
        .text "seconds"]
    else none

/-- The names of the columns of the rows. -/
def columns : List String := ["query_hash", "cumulative_time"]

/-- The table in words. -/
def summary (t : ProfileTable) : String :=
  "ProfileTable(capacity=" ++ toString t.capacity ++ ", enabled=" ++
    (Value.bool t.enabled).literal ++ ")"

end ProfileTable

/-- The table in use, and the one that the whole process shares once somebody has asked for it. -/
structure ProfileBook where
  /-- The table in use, if that is not the shared one. -/
  own : Option ProfileTable := none
  shared : Option ProfileTable := none

namespace ProfileBook

/-- The table in use. -/
def current (b : ProfileBook) : Option ProfileTable := b.own <|> b.shared

/-- A new table is used from now on. -/
def start (b : ProfileBook) (capacity : Int) (verbose : Bool) : ProfileBook :=
  { b with own := some (.new capacity verbose) }

/-- The shared table is used from now on; the capacity counts only for the first one who asks.
Also says whether the shared table was in use already. -/
def share (b : ProfileBook) (capacity : Int) : Bool × ProfileBook :=
  (b.own.isNone && b.shared.isSome,
    { own := none, shared := some (b.shared.getD (.new capacity false)) })

/-- A time is reported to the table in use. Also gives what is logged. -/
def update (b : ProfileBook) (queryHash : Int) (elapsed : Float) :
    ProfileUpdate × Option (List Value) × ProfileBook :=
  match b.own, b.shared with
  | some table, _ =>
    let (result, table) := table.update queryHash elapsed
    (result, table.report queryHash result, { b with own := some table })
  | none, some table =>
    let (result, table) := table.update queryHash elapsed
    (result, table.report queryHash result, { b with shared := some table })
  | none, none => (.disabled, none, b)

end ProfileBook

end CardinalityAdvisor
