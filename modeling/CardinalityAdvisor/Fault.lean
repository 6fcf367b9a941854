import CardinalityAdvisor.ParseTree.Basic

/-!
# What can go wrong

Only a wrong setting is meant to stop a planning call. A resource that is unavailable turns the
machinery off for the query at hand. Everything else is handed on to the host.

## Main definitions

* `Conversion`: why a value does not fit a setting
* `Unavailability`: why a resource cannot be used
* `Fault`: everything that can go wrong
* `Fault.message`: the words for it
* `attempt`, `ofResult`: from failures to values and back
* `ofKind`, `ofTree`: results of values and trees as results of everything
-/

namespace CardinalityAdvisor

/-- Why a value does not fit a setting. -/
inductive Conversion where
  /-- The value is no truth value. -/
  | notABoolean (shown : String)
  /-- A text is no integer. -/
  | notAnInteger (shown : String)
  /-- An integer has more digits than are converted. -/
  | integerTooLong (digits : Nat)
  /-- NaN is no integer. -/
  | integerFromNaN
  /-- No integer can be made from values of a kind. -/
  | integerFromKind (kind : String)
  /-- A text is no number. -/
  | notANumber (shown : String)
  /-- No number can be made from values of a kind. -/
  | numberFromKind (kind : String)
  /-- Values of a kind have no members. -/
  | noMembers (kind : String)
  deriving DecidableEq, Repr

/-- Why a resource cannot be used. -/
inductive Unavailability where
  /-- The knowledge base has not been set up. -/
  | notInstalled
  /-- Somebody else holds the lock of a class. -/
  | lockHeld (queryHash : Int)
  /-- The server did not grant the lock of a class in time. -/
  | lockTimeout (queryHash : Int)
  /-- The server reported a failure. -/
  | server (report : String)
  /-- A knowledge base of the host did not answer a call. -/
  | refused (call : String)
  deriving DecidableEq, Repr

/-- Everything that can go wrong. -/
inductive Fault where
  /-- A value that names no mode. -/
  | unknownMode (shown : String)
  /-- Settings with names that are not known. -/
  | unknownSettings (names : List String)
  /-- A value that does not fit its setting. -/
  | malformedSetting (cause : Conversion)
  /-- A lock timeout below zero. -/
  | negativeLockTimeout (shown : String)
  /-- A settings file that is not JSON. -/
  | settingsNotJson (file : String)
  /-- A settings file that holds something else than an object. -/
  | settingsNotAnObject (file : String)
  /-- A file that does not exist. -/
  | noSuchFile
  /-- An integer in a text has more digits than are converted. -/
  | integerTooLong (digits : Nat)
  /-- A planning call was to end where none is in progress. -/
  | noPlanningCall
  /-- A resource cannot be used. -/
  | unavailable (cause : Unavailability)
  /-- A text that is no statement. -/
  | notParsed (query complaint : String) (location : Option Int)
  /-- A text that holds no or several statements. -/
  | notSingle
  /-- A parse tree that is not built as expected. -/
  | tree (cause : TreeFault)
  /-- Neither a parse tree nor a text was given. -/
  | noQuery
  /-- The range table has no entry at an index. -/
  | noRangeTableEntry (index : Int)
  /-- A lock cannot be waited for less than no time. -/
  | negativeTimeout
  /-- A lock cannot be waited for a time that is no number. -/
  | timeoutNotANumber
  /-- A number is too large for its purpose. -/
  | overflow
  /-- A number that is not finite was to be exported. -/
  | notFinite (shown : Option String)
  /-- A value is of a kind that cannot be used. -/
  | wrongKind
  /-- A row has another number of columns than were asked for. -/
  | rowWidth (asked given : Nat)
  /-- Nothing says how to connect to the server. -/
  | noConnection
  /-- The file that says how to connect does not exist. -/
  | noConnectFile (file : String)
  /-- A part of the name of a file is longer than any file's name. -/
  | nameTooLong
  /-- A text holds half of a surrogate pair, which has no bytes. -/
  | notEncodable
  /-- The server refused a connection or a statement. -/
  | connectionRefused (report : String)
  /-- The host reported an error of its own. -/
  | host (report : String)
  deriving DecidableEq, Repr

/-- The words for a value that does not fit a setting. -/
def Conversion.message : Conversion → String
  | .notABoolean shown => "Not a boolean value: " ++ shown
  | .notAnInteger shown => "invalid literal for int() with base 10: " ++ shown
  | .integerTooLong digits =>
    "Exceeds the limit (" ++ toString (4300 : Nat) ++ " digits) for integer string conversion: " ++
      "value has " ++ toString digits ++
      " digits; use sys.set_int_max_str_digits() to increase the limit"
  | .integerFromNaN => "cannot convert float NaN to integer"
  | .integerFromKind kind =>
    "int() argument must be a string, a bytes-like object or a real number, not '" ++ kind ++ "'"
  | .notANumber shown => "could not convert string to float: " ++ shown
  | .numberFromKind kind =>
    "float() argument must be a string or a real number, not '" ++ kind ++ "'"
  | .noMembers kind => "'" ++ kind ++ "' object is not iterable"

/-- The words for a resource that cannot be used. -/
def Unavailability.message : Unavailability → String
  | .notInstalled => "Knowledge base is not installed"
  | .lockHeld queryHash => "Could not acquire the lock of query class " ++ toString queryHash
  | .lockTimeout queryHash =>
    "Timeout while waiting for the lock of query class " ++ toString queryHash
  | .server report => "Knowledge base is not available: " ++ report
  | .refused call => call ++ " failed"

/-- The words for a parse tree that is not built as expected. -/
def TreeFault.message : TreeFault → String
  | .notANode shown => "Not a parse tree node: " ++ shown
  | .missing name => name
  | .outOfRange | .wrongKind | .noFields | .notText => ""

namespace Fault

/-- The words for what went wrong; empty where there are none. -/
def message : Fault → String
  | .unknownMode shown => "Unrecognized optimization mode: " ++ shown
  | .unknownSettings names => "Unknown settings: " ++ ", ".intercalate names
  | .malformedSetting cause => "Malformed settings: " ++ cause.message
  | .negativeLockTimeout shown => "Lock timeout must not be negative, not " ++ shown
  | .settingsNotJson file => "Settings file '" ++ file ++ "' is not valid JSON"
  | .settingsNotAnObject file => "Settings file '" ++ file ++ "' must contain a JSON object"
  | .integerTooLong digits => (Conversion.integerTooLong digits).message
  | .noPlanningCall => "No planning call is in progress"
  | .unavailable cause => cause.message
  | .notParsed query complaint location =>
    "Cannot parse query '" ++ query ++ "': " ++ complaint ++
      (location.map fun l => ", at index " ++ toString l).getD ""
  | .notSingle => "Parser can only support single-statement queries for now"
  | .tree cause => cause.message
  | .noQuery => "Either the parsed query or the query text are required"
  | .noRangeTableEntry index => "No range table entry at index " ++ toString index
  | .negativeTimeout => "timeout value must be positive"
  | .timeoutNotANumber => "Invalid value NaN (not a number)"
  | .notFinite shown =>
    "Out of range float values are not JSON compliant" ++ (shown.map (": " ++ ·)).getD ""
  | .rowWidth asked given =>
    if given < asked then
      "not enough values to unpack (expected " ++ toString asked ++ ", got " ++
        toString given ++ ")"
    else "too many values to unpack (expected " ++ toString asked ++ ")"
  | .noConnection =>
    "No knowledge base connection configured. Pass a connect string or a config file, create " ++
      ".psycopg_connection in the working directory, or set the PG* environment variables."
  | .noConnectFile file =>
    "Connect file '" ++ file ++ "' does not exist (working directory is <cwd>)"
  | .connectionRefused report | .host report => report
  | .noSuchFile | .overflow | .wrongKind | .nameTooLong | .notEncodable => ""

end Fault

/-- A computation whose failure is a value. -/
def attempt {m : Type → Type} [Monad m] {α : Type} (x : ExceptT Fault m α) :
    ExceptT Fault m (Except Fault α) :=
  ExceptT.mk (Except.ok <$> x.run)

/-- The value of a result, or its failure. -/
def ofResult {m : Type → Type} [Monad m] {α : Type} : Except Fault α → ExceptT Fault m α
  | .ok value => pure value
  | .error fault => throw fault

/-- What was made of a value, or the fault that the value is of a kind it cannot be made of. -/
def ofKind {α : Type} : Option α → Except Fault α
  | some made => .ok made
  | none => .error .wrongKind

/-- A result read from a tree, with a fault of the tree as one of all faults. -/
def ofTree {α : Type} (r : TreeResult α) : Except Fault α := r.mapError .tree

end CardinalityAdvisor
