/-!
# Log events

What compiling a query, binding its parameters and loading settings report while they work.

A text that is too long for the log keeps its first and last characters, with a notice between them
that counts the characters beyond the limit. The two cuts are made at character boundaries
(`Text.sliceTo_boundary`, `Text.sliceFrom_boundary`).
-/

namespace ParamQuery.Log

inductive Level where
  | trace
  | debug
  | warn
deriving DecidableEq, Repr

def Level.name : Level → String
  | .trace => "TRACE"
  | .debug => "DEBUG"
  | .warn => "WARN"

/-- What an event says besides its message. -/
inductive Field where
  | text (value : String)
  | count (value : Nat)
deriving DecidableEq, Repr

inductive Event where
  /-- A parameter got a generated name. -/
  | nameGenerated (name : String)
  /-- A literal was bound to a generated name. -/
  | bindingRegistered (name : String)
  /-- A query was compiled, with its bindings as text and the number of its parameters. -/
  | queryCompiled (text bindings : String) (parameters : Nat)
  /-- A parameter that had a value got another one. -/
  | parameterRebound (name : String)
  /-- A source of settings was read, with the number of its keys. -/
  | sourceLoaded (description : String) (keys : Nat)
  /-- A file that need not exist does not. -/
  | fileMissing (path : String)
  /-- A file is about to be read. -/
  | fileNamed (path : String)
  /-- Settings are ready for use. -/
  | settingsReady
deriving DecidableEq, Repr

namespace Event

def level : Event → Level
  | .nameGenerated _ => .trace
  | .bindingRegistered _ => .trace
  | .queryCompiled .. => .debug
  | .parameterRebound _ => .warn
  | .sourceLoaded .. => .trace
  | .fileMissing _ => .debug
  | .fileNamed _ => .debug
  | .settingsReady => .debug

def message : Event → String
  | .nameGenerated _ => "generated parameter name"
  | .bindingRegistered _ => "registered implicit parameter binding"
  | .queryCompiled .. => "compiled criteria query"
  | .parameterRebound _ => "rebinding explicit parameter"
  | .sourceLoaded .. => "loaded settings source"
  | .fileMissing _ => "optional settings file not found"
  | .fileNamed _ => "loading criteria settings file"
  | .settingsReady => "loaded criteria settings"

def fields : Event → List (String × Field)
  | .nameGenerated name => [("parameter", .text name)]
  | .bindingRegistered name => [("parameter", .text name)]
  | .queryCompiled text bindings parameters =>
    [("query", .text text), ("bindings", .text bindings),
      ("explicit_parameters", .count parameters)]
  | .parameterRebound name => [("parameter", .text name)]
  | .sourceLoaded description keys => [("source", .text description), ("keys", .count keys)]
  | .fileMissing path => [("path", .text path)]
  | .fileNamed path => [("path", .text path)]
  | .settingsReady => []

end Event

end ParamQuery.Log

/-! ## Truncated text -/

namespace ParamQuery.Text

/-- The notice that stands for left-out characters. -/
def truncationNotice (count : Nat) : String :=
  "  ... (" ++ toString count ++ " characters truncated) ...  "

/-- The position before the character of the given number, the end if there is none. -/
def boundary (s : String) (n : Nat) : s.Pos := s.startPos.nextn n

/--
Shortens a text of more than `limit` characters.

Half the limit, rounded down, is kept at either end. The notice counts the characters beyond the
limit.
-/
def truncate (limit : Nat) (s : String) : String :=
  if s.length ≤ limit then s
  else
    let half := limit / 2
    (s.sliceTo (boundary s half)).copy ++ truncationNotice (s.length - limit) ++
      (s.sliceFrom (boundary s (s.length - half))).copy

/-- What stands before a boundary are the first characters. -/
theorem sliceTo_boundary (s : String) (n : Nat) :
    (s.sliceTo (boundary s n)).copy = String.ofList (s.toList.take n) :=
  (String.splits_nextn_startPos s n).copy_sliceTo_eq

/-- What stands after a boundary are the characters left. -/
theorem sliceFrom_boundary (s : String) (n : Nat) :
    (s.sliceFrom (boundary s n)).copy = String.ofList (s.toList.drop n) :=
  (String.splits_nextn_startPos s n).copy_sliceFrom_eq

end ParamQuery.Text
