import ParamQuery.Json.Printer
import ParamQuery.Settings.Basic
import ParamQuery.Settings.Source

/-!
# Loading settings

Sources are loaded by ascending priority, those of equal priority in the order in which they are
given. A later layer replaces the values of an earlier one key by key. The fields of the settings
are then read from the values that are left, and have to obey the rules for settings.
-/

namespace ParamQuery.Settings

inductive LoadError where
  /-- A source cannot be loaded. -/
  | source (description : String) (cause : SourceError)
  /-- A value does not fit the field it is for. -/
  | mismatch
  /-- The settings break a rule. -/
  | invalid (fault : Fault)
deriving DecidableEq, Repr

/-- The text of an error, where this library has words for it. -/
def SourceError.message? : SourceError → Option String
  | .notFound path => some ("Required configuration file not found: " ++ path)
  | .unreadable => none
  | .malformed => none

def LoadError.message? : LoadError → Option String
  | .source description cause => cause.message?.map fun message => description ++ ": " ++ message
  | .mismatch => none
  | .invalid fault => some ("Invalid settings: " ++ fault.message)

/-! ## Fields -/

/-- A text. Numbers and truth values stand for the text that writes them. -/
def textOf? : Json → Option String
  | .string s => some s
  | .number n => some n.text
  | .bool b => some (Json.bool b).text
  | _ => none

def charOf? (value : Json) : Option Char :=
  match (textOf? value).map String.toList with
  | some [c] => some c
  | _ => none

/-- A count that fits in 64 bits. -/
def countOf? : Json → Option UInt64
  | .number (.integer value) =>
    if 0 ≤ value ∧ value < Int.pow 2 64 then some (UInt64.ofNat value.toNat) else none
  | _ => none

def flagOf? : Json → Option Bool
  | .bool b => some b
  | _ => none

/-- The field of a key, read by `read?`, or the standard one if the key has no value. -/
def field? {α : Type} (read? : Json → Option α) (layer : Layer) (key : String) (standard : α) :
    Option α :=
  match layer.lookup key with
  | none => some standard
  | some value => read? value

/-- The settings with the values of a layer; keys that are not fields do not count. -/
def ofLayer? (layer : Layer) : Option Settings := do
  return {
    parameterPrefix :=
      ← field? textOf? layer "parameter_prefix" standard.parameterPrefix
    parameterStart := ← field? countOf? layer "parameter_start" standard.parameterStart
    marker := ← field? charOf? layer "placeholder_marker" standard.marker
    aliasPrefix := ← field? textOf? layer "alias_prefix" standard.aliasPrefix
    logBindings := ← field? flagOf? layer "log_bindings" standard.logBindings
    reprMaxChars := ← field? countOf? layer "repr_max_chars" standard.reprMaxChars }

/-! ## Sources -/

/-- Sources by ascending priority, those of equal priority in their given order. -/
def inOrder (sources : List Source) : List Source :=
  sources.mergeSort fun a b => a.priority ≤ b.priority

def merge : List Source → Layer → Except LoadError Layer
  | [], layer => .ok layer
  | source :: rest, layer =>
    match source.content with
    | .error cause => .error (.source source.description cause)
    | .ok values => merge rest (layer.extend values)

/-- What sources report, up to the first one that cannot be loaded. -/
def eventsOf : List Source → List Log.Event
  | [] => []
  | source :: rest =>
    source.events ++
      match source.content with
      | .error _ => []
      | .ok values => .sourceLoaded source.description values.length :: eventsOf rest

def ofLayer (layer : Layer) : Except LoadError Settings :=
  match ofLayer? layer with
  | none => .error .mismatch
  | some settings =>
    match settings.check with
    | .error fault => .error (.invalid fault)
    | .ok () => .ok settings

def load (sources : List Source) : Except LoadError Settings × List Log.Event :=
  (merge (inOrder sources) [] >>= ofLayer, eventsOf (inOrder sources))

/-- The same settings, with an event that says that they are ready. -/
def loadForUse (sources : List Source) : Except LoadError Settings × List Log.Event :=
  match load sources with
  | (.ok settings, events) => (.ok settings, events ++ [.settingsReady])
  | (.error e, events) => (.error e, events)

/-- The sources of an application: the environment, and below it a file that must exist. -/
def standardSources (host : Host) (path? : Option String) : List Source :=
  [.fixed [], .environment host Source.standardStem] ++
    path?.toList.map fun path => Source.toml host path true

def loadStandard (host : Host) (path? : Option String) :
    Except LoadError Settings × List Log.Event :=
  let (result, events) := load (standardSources host path?)
  (result, path?.toList.map Log.Event.fileNamed ++ events)

end ParamQuery.Settings
