import ParamQuery.Json.Basic
import ParamQuery.Toml.Moment

/-!
# TOML values

The values of a TOML document, and what they are in JSON. JSON has no dates: a date or time becomes
an object with one reserved key. In turn a table inside a document whose first key is the reserved
one stands for the date or time that it spells.
-/

namespace ParamQuery

open Floating (Double)

/-- A value of a TOML document. The members of a table are listed by ascending key. -/
inductive Toml where
  | string (value : String)
  | integer (value : Int)
  | real (value : Double)
  | bool (value : Bool)
  | moment (value : Toml.Moment)
  | array (items : List Toml)
  | table (members : List (String × Toml))

namespace Toml

/-- The key of the object that a date or time becomes. -/
def momentKey : String := "$__toml_private_datetime"

def momentToJson (m : Moment) : Json := .object [(momentKey, .string m.text)]

/-- A real in JSON, which has no infinities and no values that are not numbers. -/
def realToJson (x : Double) : Json := if x.isFinite then .number (.real x) else .null

mutual

/-- A value in JSON, unless it holds a table with the reserved key that spells no date. -/
def toJson? : Toml → Option Json
  | .string s => some (.string s)
  | .integer n => some (.ofInt n)
  | .real x => some (realToJson x)
  | .bool b => some (.bool b)
  | .moment m => some (momentToJson m)
  | .array items => (itemsToJson? items).map .array
  | .table [] => some (.object [])
  | .table ((key, value) :: rest) =>
    if key = momentKey then
      match value with
      | .string s => (Moment.ofChars? s.toList).map momentToJson
      | _ => none
    else (membersToJson? ((key, value) :: rest)).map .object

def itemsToJson? : List Toml → Option (List Json)
  | [] => some []
  | item :: rest => do
    let item ← item.toJson?
    let rest ← itemsToJson? rest
    return item :: rest

def membersToJson? : List (String × Toml) → Option (List (String × Json))
  | [] => some []
  | (key, value) :: rest => do
    let value ← value.toJson?
    let rest ← membersToJson? rest
    return (key, value) :: rest

end

end Toml

end ParamQuery
