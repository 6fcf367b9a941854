import CardinalityAdvisor.Decimal.Reading
import CardinalityAdvisor.Json.Reader
import CardinalityAdvisor.Settings.Basic
import CardinalityAdvisor.Text.Pieces

/-!
# Settings from objects, files and environment variables

A value that is not of the kind of its setting is converted: texts denote truth values and
numbers, truth values count as numbers, and doubles are cut off to integers.

## Main definitions

* `toBool`, `toInteger`, `toDouble`, `toMembers`: the conversions
* `Settings.ofFields`: settings from the fields of an object
* `Settings.ofFile`: settings from the text of a file
* `Settings.ofEnvironment`: settings from environment variables
* `Settings.assign`: one setting replaced by a value as it is given
* `Settings.ofGiven`: settings from values as they are given
-/

namespace CardinalityAdvisor

namespace Settings

/-- The fault of a value that does not fit its setting. -/
def malformed {α : Type} (cause : Conversion) : Except Fault α := .error (.malformedSetting cause)

/-- The words for yes. -/
def yesWords : List String := ["1", "true", "yes", "on"]

/-- The words for no. -/
def noWords : List String := ["0", "false", "no", "off"]

/-- The truth value that a value denotes. -/
def toBool (given : Value) : Except Fault Bool :=
  match given with
  | .bool b => .ok b
  | .text word =>
    let plain := Text.foldCase (Text.strip word)
    if yesWords.contains plain then .ok true
    else if noWords.contains plain then .ok false
    else malformed (.notABoolean given.literal)
  | _ => malformed (.notABoolean given.literal)

/-- The front of a literal, as much of it as is shown in a message. -/
def shortened (shown : String) : String := String.ofList (shown.toList.take 200)

/-- The integer that a value denotes. -/
def toInteger (given : Value) : Except Fault Int :=
  match given with
  | .bool b => .ok (if b then 1 else 0)
  | .int i => .ok i
  | .float x =>
    match Decimal.truncate? x with
    | some i => .ok i
    | none => if x.isNaN then malformed .integerFromNaN else .error .overflow
  | .text s =>
    match Decimal.readInteger s with
    | .ok i => .ok i
    | .error .malformed => malformed (.notAnInteger (shortened given.literal))
    | .error (.tooLong digits) => malformed (.integerTooLong digits)
  | _ => malformed (.integerFromKind given.kindName)

/-- The double nearest to an integer. -/
def doubleOf (i : Int) : Except Fault Float :=
  let x := Decimal.decimal (decide (i < 0)) i.natAbs 0
  if x.isInf then .error .overflow else .ok x

/-- The double that a value denotes. -/
def toDouble (given : Value) : Except Fault Float :=
  match given with
  | .bool b => .ok (if b then 1 else 0)
  | .int i => doubleOf i
  | .float x => .ok x
  | .text s =>
    match Decimal.readDouble s with
    | some x => .ok x
    | none => malformed (.notANumber given.literal)
  | _ => malformed (.numberFromKind given.kindName)

/-- The members of a value. -/
def toMembers (given : Value) : Except Fault (List Value) :=
  match given.members? with
  | some members => .ok members
  | none => malformed (.noMembers given.kindName)

/-- A conversion applied to a field that may be missing. -/
def convert {α : Type} (fields : List (String × Value)) (name : String) (missing : Value)
    (make : α → Value) (conversion : Value → Except Fault α) : Except Fault Value :=
  match fields.lookup name with
  | some given => make <$> conversion given
  | none => .ok missing

/-- The names of fields that are no settings, in order. -/
def unknownNames (fields : List (String × Value)) : List String :=
  sortBy ascending ((fields.map (·.1)).filter fun name => !names.contains name)

/-- The settings that the fields of an object give. Missing ones keep their defaults. -/
def ofFields (fields : List (String × Value)) : Except Fault Settings :=
  match unknownNames fields with
  | [] => do
    let defaults : Settings := {}
    let forceCollectStat ←
      convert fields "force_collect_stat" defaults.forceCollectStat .bool toBool
    let debug ← convert fields "debug" defaults.debug .bool toBool
    let profileCapacity ← convert fields "profile_capacity" defaults.profileCapacity .int toInteger
    let lockTimeout ← convert fields "lock_timeout" defaults.lockTimeout .float toDouble
    let proxyPatterns ←
      convert fields "proxy_application_patterns" defaults.proxyPatterns .list toMembers
    .ok { mode := (fields.lookup "mode").getD defaults.mode
          forceCollectStat, profileCapacity, proxyPatterns, lockTimeout, debug }
  | unknown => .error (.unknownSettings unknown)

/-- The settings that the text of a file gives; without a text the file does not exist. -/
def ofFile (file : String) (text : Option String) : Except Fault Settings :=
  match text with
  | none => .error .noSuchFile
  | some text =>
    match Json.read (Text.written text) with
    | .error .malformed => .error (.settingsNotJson file)
    | .error (.tooLong digits) => .error (.integerTooLong digits)
    | .ok (.object fields) => ofFields (Value.ofFields fields)
    | .ok _ => .error (.settingsNotAnObject file)

/-- The value that an environment variable gives for a setting. -/
def ofVariable (name text : String) : Value :=
  if name == "proxy_application_patterns" then
    .list ((Text.pieces ',' text.toList).map fun piece => .text (String.ofList piece))
  else .text text

/-- The settings that environment variables give: the variable of a setting is its name in capital
letters behind a prefix. -/
def ofEnvironment (start : String) (given : List (String × String)) : Except Fault Settings :=
  ofFields <| names.filterMap fun name =>
    (given.lookup (start ++ name.toUpper)).map fun text => (name, ofVariable name text)

/-- The settings with one replaced by a value as it is given. -/
def assign (s : Settings) (name : String) (value : Value) : Except Fault Settings :=
  match name with
  | "mode" => .ok { s with mode := value }
  | "force_collect_stat" => .ok { s with forceCollectStat := value }
  | "profile_capacity" => .ok { s with profileCapacity := value }
  | "proxy_application_patterns" => .ok { s with proxyPatterns := value }
  | "lock_timeout" => .ok { s with lockTimeout := value }
  | "debug" => .ok { s with debug := value }
  | _ => .error .wrongKind

/-- The settings that fields give as they are. There is no setting with another name. -/
def ofGiven (fields : List (String × Value)) : Except Fault Settings :=
  fields.foldlM (fun s field => s.assign field.1 field.2) {}

end Settings

end CardinalityAdvisor
