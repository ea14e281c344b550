import IssueFlow.Toml.Reader
import IssueFlow.Wire.Basic

/-!
# Configuration

The service is configured by a document in which every section and every key may be left out. A
configuration that is loaded must also be valid; one that is only read need not be.
-/

namespace IssueFlow

namespace Config

structure Logging where
  filter : String := "info"
  withTarget : Bool := true
  ansi : Bool := true
  deriving DecidableEq, Repr

structure Execution where
  /-- How many milliseconds each post-function may take. -/
  postFunctionTimeout : Nat := 5000
  deriving DecidableEq, Repr

structure Notifications where
  outboxCapacity : Nat := 1024
  deriving DecidableEq, Repr

end Config

structure Config where
  logging : Config.Logging := {}
  executor : Config.Execution := {}
  notifications : Config.Notifications := {}
  deriving DecidableEq, Repr

inductive ConfigError where
  | unreadable
  /-- The text is no document, or a key holds a value of another type. -/
  | malformed
  | invalid (what : String)
  deriving DecidableEq, Repr

namespace ConfigError

/-- What is said of an invalid configuration; the other errors are told by their readers. -/
def message? : ConfigError → Option String
  | invalid what => some s!"invalid config: {what}"
  | unreadable | malformed => none

end ConfigError

open Wire

instance : Wire Config.Logging where
  encode logging := .ofFields [
    ("filter", encode logging.filter),
    ("with_target", encode logging.withTarget),
    ("ansi", encode logging.ansi)]
  decode json := do
    let parts ← parts? 3 json
    return {
      filter := ← parts.withDefault 0 "filter" "info"
      withTarget := ← parts.withDefault 1 "with_target" true
      ansi := ← parts.withDefault 2 "ansi" true }

instance : Wire Config.Execution where
  encode executor := .ofFields [("post_function_timeout_ms", encode executor.postFunctionTimeout)]
  decode json := do
    let parts ← parts? 1 json
    return { postFunctionTimeout := ← parts.withDefault 0 "post_function_timeout_ms" 5000 }

instance : Wire Config.Notifications where
  encode notifications := .ofFields [("outbox_capacity", encode notifications.outboxCapacity)]
  decode json := do
    let parts ← parts? 1 json
    return { outboxCapacity := ← parts.withDefault 0 "outbox_capacity" 1024 }

instance : Wire Config where
  encode config := .ofFields [
    ("logging", encode config.logging),
    ("executor", encode config.executor),
    ("notifications", encode config.notifications)]
  decode json := do
    let parts ← parts? 3 json
    return {
      logging := ← parts.withDefault 0 "logging" {}
      executor := ← parts.withDefault 1 "executor" {}
      notifications := ← parts.withDefault 2 "notifications" {} }

namespace Toml

mutual

/-- The JSON value that is read as a value of a document is. A date has no keys that a record
knows, and no other type takes one. -/
def Value.toJson : Value → Json
  | .string text => .string text
  | .integer value => .number (.whole value)
  | .real => .number (.binary (.zero false))
  | .boolean value => .bool value
  | .date => .object []
  | .array items => .array (toItems items)
  | .table entries => .ofFields (toFields entries)

def toItems : List Value → List Json
  | [] => []
  | item :: items => item.toJson :: toItems items

def toFields : List (String × Value) → List (String × Json)
  | [] => []
  | (key, value) :: entries => (key, value.toJson) :: toFields entries

end

end Toml

namespace Config

/-- A section of a document. The parts may stand in an array, in which more may follow. -/
def section? {α : Type} [Wire α] (size : Nat) (default : α) (json : Option Json) : Option α :=
  match json with
  | none => some default
  | some (.array items) => decode (.array (items.take size))
  | some json => decode json

/-- The configuration that a document describes. -/
def ofDocument (text : String) : Except ConfigError Config :=
  let config? : Option Config := do
    let json := (Toml.Value.table (← Toml.parse? text)).toJson
    return {
      logging := ← section? 3 {} (json.get? "logging")
      executor := ← section? 1 {} (json.get? "executor")
      notifications := ← section? 1 {} (json.get? "notifications") }
  match config? with
  | some config => .ok config
  | none => .error .malformed

/-- Refuses a timeout and a capacity of nothing. -/
def validate (config : Config) : Except ConfigError Unit :=
  if config.executor.postFunctionTimeout = 0 then
    .error (.invalid "executor.post_function_timeout_ms must be greater than zero")
  else if config.notifications.outboxCapacity = 0 then
    .error (.invalid "notifications.outbox_capacity must be greater than zero")
  else .ok ()

/-- Where a configuration is looked for. -/
inductive Source where
  | nowhere
  | unreadableFile
  | file (text : String)
  deriving DecidableEq, Repr

/-- A valid configuration from a source; without a source it is the default one. -/
def load (source : Source) : Except ConfigError Config := do
  let config ← match source with
    | .nowhere => pure {}
    | .unreadableFile => throw .unreadable
    | .file text => ofDocument text
  config.validate
  return config

end Config

end IssueFlow
