import ParamQuery.Value.ValueType

/-!
# Explicit parameters

A parameter that the author of a query declares and binds after compiling. Its key says which
parameter it is: two occurrences with one key are the same parameter, even if they declare
different types.
-/

namespace ParamQuery

/-- The identity of an explicit parameter. -/
inductive Parameter.Key where
  | named (name : String)
  | positional (position : Nat)
  /-- A parameter without a name of its own; a token tells it from the others. -/
  | unnamed (token : String)
deriving DecidableEq, Repr

/-- The text of a key: a name, a question mark and a position, or a note with the token. -/
def Parameter.Key.text : Parameter.Key → String
  | .named name => name
  | .positional position => "?" ++ toString position
  | .unnamed token => "<unnamed #" ++ token ++ ">"

structure Parameter where
  key : Parameter.Key
  type : ValueType
deriving DecidableEq, Repr

namespace Parameter

def name? (p : Parameter) : Option String :=
  match p.key with
  | .named name => some name
  | _ => none

def position? (p : Parameter) : Option Nat :=
  match p.key with
  | .positional position => some position
  | _ => none

end Parameter

end ParamQuery
