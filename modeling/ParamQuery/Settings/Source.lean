import ParamQuery.Json.Basic
import ParamQuery.Log
import ParamQuery.Text.Unicode.Lowercase
import ParamQuery.Toml.Document

/-!
# Sources of settings

A source gives values to keys; these values are a layer. What is found in the environment and in
files is described by a host, so a source is plain data: its layer, or the reason why it has none.
-/

namespace ParamQuery.Settings

inductive FileState where
  | missing
  | directory
  | content (bytes : ByteArray)

structure Host where
  environment : List (String × String)
  files : List (String × FileState)

namespace Host

def empty : Host := ⟨[], []⟩

/-- Gives a name a value, in the place of the one that it has, or else at the end. -/
def assign {α : Type} (name : String) (value : α) : List (String × α) → List (String × α)
  | [] => [(name, value)]
  | (n, v) :: rest => if n = name then (name, value) :: rest else (n, v) :: assign name value rest

def setVariable (h : Host) (name value : String) : Host :=
  { h with environment := assign name value h.environment }

def setFile (h : Host) (path : String) (state : FileState) : Host :=
  { h with files := assign path state h.files }

def file (h : Host) (path : String) : FileState := (h.files.lookup path).getD .missing

end Host

/-- The values of keys, by ascending key. -/
abbrev Layer := List (String × Json)

/-- Adds the values of a list to a layer; of equal keys the last one counts. -/
def Layer.extend (layer : Layer) (values : List (String × Json)) : Layer :=
  values.foldl (fun layer (key, value) => Json.put key value layer) layer

inductive SourceError where
  | notFound (path : String)
  | unreadable
  | malformed
deriving DecidableEq, Repr

/--
Something that settings are loaded from.

Values from sources of higher priority replace those from lower ones.
-/
structure Source where
  priority : Nat
  /-- What the source is called in messages. -/
  description : String
  /-- What loading the source gives. -/
  content : Except SourceError Layer
  /-- What loading the source reports. -/
  events : List Log.Event

namespace Source

def fixed (values : List (String × Json)) : Source where
  priority := 0
  description := "Default values"
  content := .ok (Layer.extend [] values)
  events := []

/-! ## Environment variables -/

def standardStem : String := "CRITERIA_"

/-- The value that the text of an environment variable stands for: a number, a truth value, or
the text itself. -/
def guess (text : String) : Json :=
  match Text.readInt64? text.toList with
  | some value => .ofInt value
  | none =>
    if text = "true" then .bool true
    else if text = "false" then .bool false
    else .string text

/-- The key that an environment variable sets: its name behind the stem, in lower case. -/
def keyOf? (stem name : String) : Option String :=
  let (stem, name) := (stem.toList, name.toList)
  if stem.isPrefixOf name && stem.length < name.length then
    some (Text.lowercase (String.ofList (name.drop stem.length)))
  else none

def entryOf? (stem : String) (entry : String × String) : Option (String × Json) :=
  (keyOf? stem entry.1).map (·, guess entry.2)

def environment (host : Host) (stem : String) : Source where
  priority := 100
  description := "Environment variables (prefix: " ++ stem ++ ")"
  content := .ok (Layer.extend [] (host.environment.filterMap (entryOf? stem)))
  events := []

/-! ## TOML files -/

def layerOfToml? (text : String) : Option Layer := do
  Toml.membersToJson? (← Toml.parse? text)

def layerOfBytes (bytes : ByteArray) : Except SourceError Layer :=
  match String.fromUTF8? bytes with
  | none => .error .unreadable
  | some text =>
    match layerOfToml? text with
    | none => .error .malformed
    | some layer => .ok layer

/-- The layer of what is found at a path; a missing file has no values, unless it is required. -/
def layerOfFile (path : String) (required : Bool) : FileState → Except SourceError Layer
  | .missing => if required then .error (.notFound path) else .ok []
  | .directory => .error .unreadable
  | .content bytes => layerOfBytes bytes

/-- What is reported of a file: that it is missing, unless that is an error. -/
def eventsOfFile (path : String) (required : Bool) : FileState → List Log.Event
  | .missing => if required then [] else [.fileMissing path]
  | _ => []

def toml (host : Host) (path : String) (required : Bool) : Source where
  priority := 50
  description := "TOML file: " ++ path
  content := layerOfFile path required (host.file path)
  events := eventsOfFile path required (host.file path)

end Source

end ParamQuery.Settings
