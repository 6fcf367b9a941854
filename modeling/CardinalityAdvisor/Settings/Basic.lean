import CardinalityAdvisor.Fault
import CardinalityAdvisor.Value.Condition

/-!
# Settings

Settings are kept as they were given and only resolved when they are applied, so that a planning
call that tries to use an unknown mode fails, instead of running under some other mode.

## Main definitions

* `Settings`: the settings with their defaults
* `Settings.resolvedMode`: the mode
* `Settings.forcesCollection`, `Settings.profilingEnabled`, `Settings.patterns`: what other settings
  mean
* `Settings.validate`: the check of all settings
* `Settings.describe`: the settings as an object
-/

namespace CardinalityAdvisor

/-- The settings of the machinery. Each is kept as it was given, so that only its use shows whether
it makes sense. -/
structure Settings where
  mode : Value := .mode .controlled
  /-- Whether statistics are collected for all queries. -/
  forceCollectStat : Value := .bool false
  /-- How many classes the profiling table holds; not above zero if there is no profiling. -/
  profileCapacity : Value := .int 0
  /-- The parts of application names that tell connection proxies from other clients. -/
  proxyPatterns : Value := .list [.text "postgres_fdw", .text "pgfdw:"]
  /-- How many seconds to wait for the lock of a class. -/
  lockTimeout : Value := .float 1
  /-- Whether decisions are logged. -/
  debug : Value := .bool false

namespace Settings

/-- The names of the settings. -/
def names : List String := [
  "mode", "force_collect_stat", "profile_capacity", "proxy_application_patterns", "lock_timeout",
  "debug"]

/-- The mode that a value denotes. -/
def modeOf (given : Value) : Except Fault Mode :=
  match given with
  | .mode m => .ok m
  | .text word =>
    match Mode.ofName? word with
    | some m => .ok m
    | none => .error (.unknownMode given.literal)
  | _ => .error (.unknownMode given.literal)

/-- The mode that a value is, without regard to words for modes. -/
def exactMode : Value → Except Fault Mode
  | .mode m => .ok m
  | given => .error (.unknownMode given.literal)

/-- The mode that a value is, where it is looked up in a table. Values that can change, such as
lists, cannot be looked up. -/
def tabledMode (given : Value) : Except Fault Mode :=
  if given.isKey then exactMode given else .error .wrongKind

/-- The mode of the settings. -/
def resolvedMode (s : Settings) : Except Fault Mode := modeOf s.mode

/-- Whether statistics are collected for all queries. -/
def forcesCollection (s : Settings) : Bool := s.forceCollectStat.holds

/-- Whether execution times are profiled. -/
def profilingEnabled (s : Settings) : Except Fault Bool := ofKind s.profileCapacity.isPositive?

/-- The parts of application names that tell connection proxies from other clients. -/
def patterns (s : Settings) : Except Fault (List Value) := ofKind s.proxyPatterns.members?

/-- Fails if a setting cannot be applied. -/
def validate (s : Settings) : Except Fault Unit := do
  let _ ← s.resolvedMode
  if ← ofKind s.lockTimeout.isNegative? then .error (.negativeLockTimeout s.lockTimeout.display)
  else .ok ()

/-- The settings as an object. -/
def describe (s : Settings) : Except Fault Value := do
  .ok <| .object [
    ("mode", .text s.mode.display), ("force_collect_stat", s.forceCollectStat),
    ("profile_capacity", s.profileCapacity),
    ("proxy_application_patterns", .list (← s.patterns)), ("lock_timeout", s.lockTimeout),
    ("debug", s.debug)]

end Settings

end CardinalityAdvisor
