import StepMeters.Configuration.Basic
import StepMeters.Time.Duration.Parser

/-!
# Configuration from properties

A configuration can be read from texts under keys such as `metrics.step`, where `metrics` is the scope. A
property that is missing keeps its default.
-/

namespace StepMeters.Configuration

/-- Reads a truth value. Blanks around it and the case of its letters do not matter. -/
def parseBool? (raw : String) : Option Bool :=
  match (Text.trimmed raw.toList).map Char.toLower with
  | ['t', 'r', 'u', 'e'] => some true
  | ['f', 'a', 'l', 's', 'e'] => some false
  | _ => none

/-- Reads one property of a scope, or takes the default where there is none. A value that cannot be read
is an error. -/
def property {α : Type} (scope name : String) (lookup : String → Option String)
    (parse? : String → Option α) (default : α) : Except ConfigError α :=
  let key := scope ++ "." ++ name
  match lookup key with
  | none => .ok default
  | some value =>
    match parse? value with
    | some a => .ok a
    | none => .error (.invalidProperty key value)

/-- Reads a configuration from the properties of a scope, and refuses it for its own fault. -/
def ofProperties (scope : String) (lookup : String → Option String) :
    Except ConfigError Configuration := do
  let start : Configuration := {}
  let step ← property scope "step" lookup Duration.parse? start.step
  let enabled ← property scope "enabled" lookup parseBool? start.enabled
  let threadName ← property scope "threadName" lookup some start.threadName
  let baseUnit ← property scope "baseTimeUnit" lookup TimeUnit.parse? start.baseUnit
  let config := { start with step, enabled, threadName, baseUnit }
  match config.fault? with
  | none => .ok config
  | some fault => .error fault

end StepMeters.Configuration
