import CardinalityAdvisor.Value.Pretty

/-!
# Log lines

A log line begins with the time and the component that writes it, followed by the entries. A
component that is not enabled writes nothing, and one that lays its entries out writes each entry
without the time and the name.

## Main definitions

* `Timestamp`: a moment, to the second
* `Logger`: how a component logs
* `Logger.write`: the text that a call writes
* `taggedLine`: the line of a component without the time
-/

namespace CardinalityAdvisor.Log

/-- A moment, to the second. -/
structure Timestamp where
  year : Nat
  month : Nat
  day : Nat
  hour : Nat
  minute : Nat
  second : Nat
  deriving DecidableEq, Repr

/-- A number below one hundred in two digits. -/
def twoDigits (n : Nat) : String := (if n < 10 then "0" else "") ++ toString n

/-- The date with the last two digits of the year, and the time. -/
def Timestamp.text (t : Timestamp) : String :=
  "-".intercalate [twoDigits (t.year % 100), twoDigits t.month, twoDigits t.day] ++ " " ++
    ":".intercalate [twoDigits t.hour, twoDigits t.minute, twoDigits t.second]

/-- How a component logs. -/
structure Logger where
  enabled : Bool := true
  /-- The name of the component, which may be empty. -/
  component : String := ""
  /-- Whether entries are laid out over several lines. -/
  laidOut : Bool := false
  deriving DecidableEq, Repr

/-- The name of a component in front of its entries. -/
def tag (component : String) : List String :=
  if component.isEmpty then [] else ["[" ++ component ++ "]"]

/-- The line of a component without the time. -/
def taggedLine (component : String) (entries : List Value) : String :=
  " ".intercalate (tag component ++ entries.map Value.display)

/-- The text that a call with the given entries writes. Only one entry at a time can be laid
out. -/
def Logger.write (logger : Logger) (now : Timestamp) (entries : List Value) : Option String :=
  if !logger.enabled then some ""
  else if logger.laidOut then
    match entries with
    | [entry] => some (entry.pretty ++ "\n")
    | _ => none
  else
    some (" ".intercalate (now.text :: tag logger.component ++ entries.map Value.display) ++ "\n")

end CardinalityAdvisor.Log
