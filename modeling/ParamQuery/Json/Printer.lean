import ParamQuery.Decimal
import ParamQuery.Json.Basic

/-!
# Writing JSON text

The text is compact: no blanks, and an escape only where JSON needs one. A real always has a point
or an exponent, so that it reads back as a real.
-/

namespace ParamQuery.Json

open Floating (Double Format)
open Text (hexDigit)

def escape (c : Char) : String :=
  if c == '"' then "\\\""
  else if c == '\\' then "\\\\"
  else if c == '\n' then "\\n"
  else if c == '\r' then "\\r"
  else if c == '\t' then "\\t"
  else if c == '\x08' then "\\b"
  else if c == '\x0c' then "\\f"
  else if c.toNat < 0x20 then
    String.ofList ['\\', 'u', '0', '0', hexDigit (c.toNat / 16), hexDigit c.toNat]
  else String.singleton c

def quoted (s : String) : String := "\"" ++ String.join (s.toList.map escape) ++ "\""

/--
A real in the fewest digits that read back.

It is positional if its leading digit is worth at least `10 ^ -5` and less than `10 ^ 16`. JSON has
no word for infinities and values that are not numbers, so they become `null`.
-/
def realText (x : Double) : String :=
  if x.isFinite then
    let decimal := Decimal.shortest Format.double .even x.magnitude
    let sign := if x.isNegative then "-" else ""
    let leading := decimal.leadingExponent
    if -5 ≤ leading && leading < 16 then
      sign ++ decimal.positional ++ (if 0 ≤ decimal.exponent then ".0" else "")
    else sign ++ decimal.scientific
  else "null"

def Number.text : Number → String
  | .integer value => toString value
  | .real value => realText value

mutual

def text : Json → String
  | .null => "null"
  | .bool true => "true"
  | .bool false => "false"
  | .number n => n.text
  | .string s => quoted s
  | .array items => "[" ++ ",".intercalate (itemTexts items) ++ "]"
  | .object members => "\x7b" ++ ",".intercalate (memberTexts members) ++ "\x7d"

def itemTexts : List Json → List String
  | [] => []
  | item :: rest => item.text :: itemTexts rest

def memberTexts : List (String × Json) → List String
  | [] => []
  | (key, value) :: rest => (quoted key ++ ":" ++ value.text) :: memberTexts rest

end

end ParamQuery.Json
