import ParamQuery.Decimal
import ParamQuery.Json.Printer
import ParamQuery.Value.Basic

/-!
# Values as query text

The text that stands for a value where a query is shown with its values in place. Texts stand
between two single quotes, and a quote inside is written twice. Reading stops at the first quote
that is not doubled, so it finds the end of quoted text whatever stands in the text, as long as no
further quote follows it (`Text.Quoted.read?_encode`).
-/

/-! ## Quoted text -/

namespace ParamQuery.Text.Quoted

/-- The text with every quote doubled. -/
def double : List Char → List Char
  | [] => []
  | c :: rest => if c = '\'' then '\'' :: '\'' :: double rest else c :: double rest

def encode (cs : List Char) : List Char := '\'' :: (double cs ++ ['\''])

/-- The text up to the quote that ends it, and what follows that quote. -/
def readBody? : List Char → Option (List Char × List Char)
  | [] => none
  | '\'' :: '\'' :: rest => (readBody? rest).map fun (cs, rest) => ('\'' :: cs, rest)
  | '\'' :: rest => some ([], rest)
  | c :: rest => (readBody? rest).map fun (cs, rest) => (c :: cs, rest)

def read? : List Char → Option (List Char × List Char)
  | '\'' :: rest => readBody? rest
  | _ => none

def quote (s : String) : String := String.ofList (encode s.toList)

theorem readBody?_double (cs rest : List Char) (h : rest.head? ≠ some '\'') :
    readBody? (double cs ++ '\'' :: rest) = some (cs, rest) := by
  induction cs with
  | nil =>
    cases rest with
    | nil => rfl
    | cons c rest => simp_all [double, readBody?]
  | cons c cs ih =>
    by_cases hc : c = '\''
    · simp [double, hc, readBody?, ih]
    · simp [double, hc, readBody?, ih]

/-- Quoted text reads back, and reading it goes no further. -/
theorem read?_encode (cs rest : List Char) (h : rest.head? ≠ some '\'') :
    read? (encode cs ++ rest) = some (cs, rest) := by
  simpa [encode, read?] using readBody?_double cs rest h

end ParamQuery.Text.Quoted

/-! ## Literals -/

namespace ParamQuery

open Floating (Format Number)
open Text (Quoted.quote)

/--
A floating-point number with all its digits and without an exponent.

The digits are the fewest that read back; half way between two candidates the larger one counts.
-/
def floatText {f : Format} (x : Number f) : String :=
  if x.isNaN then "NaN"
  else
    let sign := if x.isNegative then "-" else ""
    if x.isInfinite then sign ++ "inf"
    else sign ++ (Decimal.shortest f .up x.magnitude).positional

/-- The text of a scalar: numbers stand bare, texts and times in quotes. -/
def Scalar.literalText : Scalar → String
  | .bool true => "TRUE"
  | .bool false => "FALSE"
  | .tinyint v => toString v.toInt
  | .smallint v => toString v.toInt
  | .int v => toString v.toInt
  | .bigint v => toString v.toInt
  | .tinyUnsigned v => toString v.toNat
  | .smallUnsigned v => toString v.toNat
  | .unsigned v => toString v.toNat
  | .bigUnsigned v => toString v.toNat
  | .float v => floatText v
  | .double v => floatText v
  | .char v => Quoted.quote (String.singleton v)
  | .string v => Quoted.quote v
  | .bytes v => String.ofList ('X' :: '\'' :: (Text.Hex.encodeUpper v ++ ['\'']))
  | .date v => Quoted.quote v.text
  | .time v => Quoted.quote v.text
  | .dateTime v => Quoted.quote v.text
  | .dateTimeUtc v => Quoted.quote v.utcText
  | .uuid v => Quoted.quote v.text
  | .json v => Quoted.quote v.text

def Value.literalText : Value → String
  | .null _ => "NULL"
  | .scalar s => s.literalText

end ParamQuery
