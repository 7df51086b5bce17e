import ParamQuery.Text.Digits
import ParamQuery.Toml.Value

/-!
# Words of TOML

The parts of a TOML document below its values: blanks and comments, strings, keys and numbers.
Every reader takes the rest of a text and gives what it has read with the rest behind that.
-/

namespace ParamQuery.Toml

open Floating (Double Format)
open Text (hexValue? natOfDigits)

def isSpace (c : Char) : Bool := c == ' ' || c == '\t'

def skipSpaces (cs : List Char) : List Char := cs.dropWhile isSpace

/-- Characters of comments and literal strings: no control character but the tab. -/
def isPlain (c : Char) : Bool := c == '\t' || (0x20 ≤ c.toNat && c.toNat != 0x7F)

def dropBreak? : List Char → Option (List Char)
  | '\n' :: rest => some rest
  | '\r' :: '\n' :: rest => some rest
  | _ => none

def skipComment (cs : List Char) : List Char :=
  match cs with
  | '#' :: rest => rest.dropWhile isPlain
  | _ => cs

/-- The text behind the end of a line, where nothing but a comment is left on the line. -/
def dropLineEnd? (cs : List Char) : Option (List Char) :=
  match skipComment (skipSpaces cs) with
  | [] => some []
  | rest => dropBreak? rest

/-- The text behind blanks, comments and line breaks, of which at most as many as `fuel`. -/
def skipBlankLines (fuel : Nat) (cs : List Char) : List Char :=
  match fuel with
  | 0 => cs
  | fuel + 1 =>
    let rest := skipComment (skipSpaces cs)
    match dropBreak? rest with
    | some rest => skipBlankLines fuel rest
    | none => rest

def skipBlank (cs : List Char) : List Char := skipBlankLines cs.length cs

/-! ## Strings -/

/-- The character with the number that `count` hexadecimal digits write. -/
def readCodePoint? (count : Nat) (cs : List Char) : Option (Char × List Char) := do
  let digits ← (cs.take count).mapM hexValue?
  let code := natOfDigits 16 digits
  if digits.length = count ∧ code.isValidChar then some (Char.ofNat code, cs.drop count) else none

def readEscape? : List Char → Option (Char × List Char)
  | 'b' :: rest => some ('\x08', rest)
  | 't' :: rest => some ('\t', rest)
  | 'n' :: rest => some ('\n', rest)
  | 'f' :: rest => some ('\x0c', rest)
  | 'r' :: rest => some ('\r', rest)
  | 'e' :: rest => some ('\x1b', rest)
  | '"' :: rest => some ('"', rest)
  | '\\' :: rest => some ('\\', rest)
  | 'x' :: rest => readCodePoint? 2 rest
  | 'u' :: rest => readCodePoint? 4 rest
  | 'U' :: rest => readCodePoint? 8 rest
  | _ => none

/-- The characters of a basic string up to its closing quote, in reverse, put before `done`. -/
def readBasic? : Nat → List Char → List Char → Option (List Char × List Char)
  | 0, _, _ => none
  | fuel + 1, done, cs =>
    match cs with
    | '"' :: rest => some (done, rest)
    | '\\' :: rest => do
      let (c, rest) ← readEscape? rest
      readBasic? fuel (c :: done) rest
    | c :: rest => if isPlain c then readBasic? fuel (c :: done) rest else none
    | [] => none

/-- The text behind a backslash that ends a line: blanks up to the next other character. -/
def skipFolded? (cs : List Char) : Option (List Char) :=
  (dropBreak? (skipSpaces cs)).map (·.dropWhile fun c => isSpace c || c == '\n' || c == '\r')

/-- Whether every carriage return of a text belongs to a line break. -/
def hasWholeBreaks : List Char → Bool
  | [] => true
  | '\r' :: '\n' :: rest => hasWholeBreaks rest
  | '\r' :: _ => false
  | _ :: rest => hasWholeBreaks rest

def leadingQuotes (quote : Char) (cs : List Char) : Nat := (cs.takeWhile (· == quote)).length

/-- As many quotes as can end a string of several lines: up to two of them belong to the string. -/
def closing? (quote : Char) (done cs : List Char) : Option (Option (List Char × List Char)) :=
  let count := leadingQuotes quote cs
  if count < 3 then none
  else if count ≤ 5 then some (some (List.replicate (count - 3) quote ++ done, cs.drop count))
  else some none

def readBasicLines? : Nat → List Char → List Char → Option (List Char × List Char)
  | 0, _, _ => none
  | fuel + 1, done, cs =>
    match closing? '"' done cs with
    | some result => result
    | none =>
      match cs with
      | '\\' :: rest =>
        match skipFolded? rest with
        | some folded =>
          if hasWholeBreaks (rest.take (rest.length - folded.length)) then
            readBasicLines? fuel done folded
          else none
        | none => do
          let (c, rest) ← readEscape? rest
          readBasicLines? fuel (c :: done) rest
      | '\r' :: '\n' :: rest => readBasicLines? fuel ('\n' :: '\r' :: done) rest
      | c :: rest =>
        if isPlain c || c == '\n' then readBasicLines? fuel (c :: done) rest else none
      | [] => none

def readLiteralLines? : Nat → List Char → List Char → Option (List Char × List Char)
  | 0, _, _ => none
  | fuel + 1, done, cs =>
    match closing? '\'' done cs with
    | some result => result
    | none =>
      match cs with
      | '\r' :: '\n' :: rest => readLiteralLines? fuel ('\n' :: '\r' :: done) rest
      | c :: rest =>
        if isPlain c || c == '\n' then readLiteralLines? fuel (c :: done) rest else none
      | [] => none

/-- The text behind the line break that may follow the opening quotes of a string. -/
def skipFirstBreak (cs : List Char) : List Char := (dropBreak? cs).getD cs

def ofReversed (cs : List Char) : String := String.ofList cs.reverse

def readLiteral? (cs : List Char) : Option (String × List Char) :=
  match cs.dropWhile fun c => isPlain c && c != '\'' with
  | '\'' :: rest => some (String.ofList (cs.takeWhile fun c => isPlain c && c != '\''), rest)
  | _ => none

def readLineString? : List Char → Option (String × List Char)
  | '"' :: rest => (readBasic? (rest.length + 1) [] rest).map fun (s, rest) => (ofReversed s, rest)
  | '\'' :: rest => readLiteral? rest
  | _ => none

def readString? : List Char → Option (String × List Char)
  | '"' :: '"' :: '"' :: rest =>
    (readBasicLines? (rest.length + 1) [] (skipFirstBreak rest)).map fun (s, rest) =>
      (ofReversed s, rest)
  | '\'' :: '\'' :: '\'' :: rest =>
    (readLiteralLines? (rest.length + 1) [] (skipFirstBreak rest)).map fun (s, rest) =>
      (ofReversed s, rest)
  | cs => readLineString? cs

/-! ## Keys -/

def isBareKeyChar (c : Char) : Bool := c.isAlphanum || c == '_' || c == '-'

def readKeyPart? (cs : List Char) : Option (String × List Char) :=
  match cs with
  | '"' :: _ => readLineString? cs
  | '\'' :: _ => readLineString? cs
  | _ =>
    let part := cs.takeWhile isBareKeyChar
    if part.isEmpty then none else some (String.ofList part, cs.dropWhile isBareKeyChar)

/-- A key of parts with points between them, at most as many as `fuel`, with what follows blanks. -/
def readKeyParts? : Nat → List Char → Option (List String × List Char)
  | 0, _ => none
  | fuel + 1, cs => do
    let (part, rest) ← readKeyPart? cs
    match skipSpaces rest with
    | '.' :: rest =>
      let (parts, rest) ← readKeyParts? fuel (skipSpaces rest)
      return (part :: parts, rest)
    | rest => return ([part], rest)

def readKey? (cs : List Char) : Option (List String × List Char) :=
  readKeyParts? (cs.length + 1) cs

/-! ## Numbers -/

/-- Digits of a base with single underscores between them, as values. -/
def digitsOf? (base : Nat) : List Char → Option (List Nat)
  | [] => none
  | [c] => do
    let digit ← hexValue? c
    if digit < base then some [digit] else none
  | c :: '_' :: rest => do
    let digit ← hexValue? c
    let digits ← digitsOf? base rest
    if digit < base then some (digit :: digits) else none
  | c :: rest => do
    let digit ← hexValue? c
    let digits ← digitsOf? base rest
    if digit < base then some (digit :: digits) else none

/-- Decimal digits without a leading zero, unless they are but one. -/
def wholeDigits? (cs : List Char) : Option (List Nat) := do
  let digits ← digitsOf? 10 cs
  if 1 < digits.length ∧ digits.head? = some 0 then none else some digits

def splitSign : List Char → Bool × List Char
  | '+' :: rest => (false, rest)
  | '-' :: rest => (true, rest)
  | cs => (false, cs)

/-- An integer, if it fits in 64 bits. -/
def boundedInteger? (value : Int) : Option Toml :=
  if -Int.pow 2 63 ≤ value ∧ value < Int.pow 2 63 then some (.integer value) else none

def integerOf? (cs : List Char) : Option Toml :=
  match cs with
  | '0' :: 'x' :: rest => do boundedInteger? (natOfDigits 16 (← digitsOf? 16 rest))
  | '0' :: 'o' :: rest => do boundedInteger? (natOfDigits 8 (← digitsOf? 8 rest))
  | '0' :: 'b' :: rest => do boundedInteger? (natOfDigits 2 (← digitsOf? 2 rest))
  | _ => do
    let (negative, cs) := splitSign cs
    let value : Int := natOfDigits 10 (← wholeDigits? cs)
    boundedInteger? (if negative then -value else value)

def decimalMagnitude? (significand : Nat) (exponent : Int) : Option Nat :=
  let length : Int := (Nat.toDigits 10 significand).length
  if significand = 0 ∨ length + exponent < -400 then some 0
  else if 400 < length + exponent then none
  else
    let up := Nat.pow 10 exponent.toNat
    let down := Nat.pow 10 (-exponent).toNat
    let magnitude := Format.double.nearest (significand * up) down
    if magnitude < Format.double.infinity then some magnitude else none

def exponentOf? (cs : List Char) : Option Int := do
  let (negative, cs) := splitSign cs
  let value : Int := natOfDigits 10 (← digitsOf? 10 cs)
  return if negative then -value else value

/-- A real that is a number: it has a fraction, an exponent, or both. -/
def decimalOf? (cs : List Char) : Option Toml := do
  let (negative, cs) := splitSign cs
  let isMark := fun c : Char => c == 'e' || c == 'E'
  let mantissa := cs.takeWhile (!isMark ·)
  let exponent ← match cs.dropWhile (!isMark ·) with
    | [] => some 0
    | _ :: rest => exponentOf? rest
  let whole ← wholeDigits? (mantissa.takeWhile (· != '.'))
  let fraction ← match mantissa.dropWhile (· != '.') with
    | [] => some []
    | _ :: rest => digitsOf? 10 rest
  let magnitude ←
    decimalMagnitude? (natOfDigits 10 (whole ++ fraction)) (exponent - (fraction.length : Int))
  return .real (.ofMagnitude negative magnitude)

def specialOf? (cs : List Char) : Option Toml :=
  let (negative, cs) := splitSign cs
  if cs = "inf".toList then some (.real (.ofMagnitude negative Format.double.infinity))
  else if cs = "nan".toList then
    some (.real (.ofMagnitude negative (Format.double.infinity + Nat.pow 2 51)))
  else none

/-- A value that is one word: a truth value, a number, a date or a time. -/
def wordOf? (cs : List Char) : Option Toml :=
  if cs = "true".toList then some (.bool true)
  else if cs = "false".toList then some (.bool false)
  else
    (Moment.ofChars? cs).map .moment <|> integerOf? cs <|> specialOf? cs <|>
      (if cs.any fun c => c == '.' || c == 'e' || c == 'E' then decimalOf? cs else none)

def isWordChar (c : Char) : Bool :=
  c.isAlphanum || c == '_' || c == '-' || c == '+' || c == '.' || c == ':'

/-- A word; a date and a time may have a blank between them. -/
def readWord? (cs : List Char) : Option (Toml × List Char) := do
  let word := cs.takeWhile isWordChar
  let rest := cs.dropWhile isWordChar
  match (readDate? word), rest with
  | some (_, []), ' ' :: digit :: more =>
    if digit.isDigit then
      let clock := (digit :: more).takeWhile isWordChar
      let value ← wordOf? (word ++ ' ' :: clock)
      return (value, (digit :: more).dropWhile isWordChar)
    else
      return (← wordOf? word, rest)
  | _, _ => return (← wordOf? word, rest)

end ParamQuery.Toml
