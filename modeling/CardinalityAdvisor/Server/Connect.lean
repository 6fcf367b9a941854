import CardinalityAdvisor.Server.Knowledge
import CardinalityAdvisor.Text.Blank
import CardinalityAdvisor.Text.Half
import CardinalityAdvisor.Text.Pieces

/-!
# Connecting to a server

The parameters of a connection come from the first source that is there: parameters that are given,
the first line of a file that is named, the first line of the default file, and the environment.

## Main definitions

* `ConnectRequest`: what a connection is asked for with
* `Place`: the files and the environment at hand
* `plainPath`: the name of a file as it is looked up and reported
* `isTooLong`: whether a name is too long to be looked up
* `parametersFor`: the parameters of the connection
* `connect`: the connection to a server
-/

namespace CardinalityAdvisor.Server

/-- What a connection is asked for with. -/
structure ConnectRequest where
  parameters : String := ""
  /-- The file whose first line holds the parameters. -/
  file : String := ""
  applicationName : String := "adaptq"
  /-- Whether the relations of the knowledge base are made. -/
  install : Bool := false
  verbose : Bool := false
  deriving DecidableEq, Repr

/-- The files and the environment at hand, and the server behind them. -/
structure Place where
  environment : List (String × String) := []
  /-- The files by their names. -/
  files : List (String × String) := []
  /-- The report with which the server refuses connections, if it does. -/
  refusal : Option String := none
  deriving DecidableEq, Repr

/-- The file that holds the parameters if nothing else is given. -/
def defaultFile : String := ".psycopg_connection"

/-- The environment variables and the parameters that they give. -/
def environmentParameters : List (String × String) := [
  ("PGDATABASE", "dbname"), ("PGHOST", "host"), ("PGPORT", "port"), ("PGUSER", "user"),
  ("PGPASSWORD", "password"), ("PGPASSFILE", "passfile")]

/-- The first line of a text without blanks around it. -/
def firstLine (text : String) : String :=
  Text.strip (String.ofList (text.toList.takeWhile fun c => c ≠ '\n' && c ≠ '\r'))

/-- The slashes in front of a path that are kept: two stay two, and more are one. -/
def rootOf : List Char → List Char
  | '/' :: '/' :: '/' :: _ => ['/']
  | '/' :: '/' :: _ => ['/', '/']
  | '/' :: _ => ['/']
  | _ => []

/-- The parts of a path that do not stay in the same directory. -/
def pathParts (path : List Char) : List (List Char) :=
  (Text.pieces '/' path).filter fun part => !part.isEmpty && part != ['.']

/-- A path without parts that stay in the same directory. -/
def plainPath (path : String) : String :=
  let plain := rootOf path.toList ++ ['/'].intercalate (pathParts path.toList)
  if plain.isEmpty then "." else String.ofList plain

/-- How many bytes a path has at most. -/
def maxPathBytes : Nat := 4095

/-- How many bytes the name of a file has at most. -/
def maxNameBytes : Nat := 255

/-- Whether a path cannot even be looked up: the path, or the first of its parts that does not lead
upwards, is too long. A path with a null character is not looked up in the first place. -/
def isTooLong (path : String) : Bool :=
  let path := Text.written path
  !path.toList.contains '\x00' &&
    (maxPathBytes < path.utf8ByteSize ||
      match (pathParts path.toList).dropWhile (· == ['.', '.']) with
      | part :: _ => maxNameBytes < (String.ofList part).utf8ByteSize
      | [] => false)

namespace Place

/-- The value of an environment variable that is set and not empty. -/
def valueOf? (p : Place) (name : String) : Option String :=
  (p.environment.lookup name).filter (!·.isEmpty)

/-- The parameters that the environment gives. -/
def environmentText (p : Place) : String :=
  " ".intercalate <| environmentParameters.filterMap fun (name, parameter) =>
    (p.valueOf? name).map fun value => parameter ++ " = '" ++ value ++ "'"

end Place

/-- The parameters of the connection. -/
def parametersFor (place : Place) (request : ConnectRequest) : Action String := do
  if !request.parameters.isEmpty then return Text.strip request.parameters
  else if !request.file.isEmpty then
    let file := plainPath request.file
    match place.files.lookup file with
    | some text => return firstLine text
    | none => throw (if isTooLong file then .nameTooLong else .noConnectFile file)
  else
    match place.files.lookup defaultFile, place.valueOf? "PGDATABASE" with
    | some text, _ => return firstLine text
    | none, some _ =>
      modify fun l => { l with warnings :=
        "No connect string given, falling back to the PG* environment variables" :: l.warnings }
      return place.environmentText
    | none, none => throw .noConnection

/-- The parameters of the connection to a server that was made. -/
def connect (place : Place) (request : ConnectRequest) : Action String := do
  let parameters ← parametersFor place request
  note (.connect parameters request.applicationName)
  match place.refusal with
  | some report => throw (.connectionRefused report)
  | none => pure ()
  modify fun l => { l with verbose := request.verbose }
  if request.install then install
  return parameters

/-- The knowledge base as an object. -/
def describe (request : ConnectRequest) : Value := .object [
  ("name", .text "postgres"), ("application_name", .text request.applicationName)]

end CardinalityAdvisor.Server
