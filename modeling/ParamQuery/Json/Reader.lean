import ParamQuery.Json.Number
import ParamQuery.Text.Digits

/-!
# Reading JSON text

`Json.parse?` accepts one value between blanks. Arrays and objects may be nested in each other up
to a limit.
-/

namespace ParamQuery.Json

open Text (takeDigits natOfDigits hexValue?)

def isBlank (c : Char) : Bool := c == ' ' || c == '\n' || c == '\t' || c == '\r'

def skipBlanks (cs : List Char) : List Char := cs.dropWhile isBlank

/-- The number written by four hexadecimal digits, and the text after them. -/
def readUnit? : List Char → Option (Nat × List Char)
  | a :: b :: c :: d :: rest => do
    let a ← hexValue? a
    let b ← hexValue? b
    let c ← hexValue? c
    let d ← hexValue? d
    return (((a * 16 + b) * 16 + c) * 16 + d, rest)
  | _ => none

/-- The character of an escape by number, two of which make a pair above U+FFFF. -/
def readEscapedUnit? (cs : List Char) : Option (Char × List Char) := do
  let (unit, rest) ← readUnit? cs
  if 0xD800 ≤ unit && unit < 0xDC00 then
    match rest with
    | '\\' :: 'u' :: rest =>
      let (low, rest) ← readUnit? rest
      if 0xDC00 ≤ low && low < 0xE000 then
        return (Char.ofNat (0x10000 + (unit - 0xD800) * 0x400 + (low - 0xDC00)), rest)
      else none
    | _ => none
  else if 0xDC00 ≤ unit && unit < 0xE000 then none
  else return (Char.ofNat unit, rest)

def readEscape? : List Char → Option (Char × List Char)
  | '"' :: rest => some ('"', rest)
  | '\\' :: rest => some ('\\', rest)
  | '/' :: rest => some ('/', rest)
  | 'b' :: rest => some ('\x08', rest)
  | 'f' :: rest => some ('\x0c', rest)
  | 'n' :: rest => some ('\n', rest)
  | 'r' :: rest => some ('\r', rest)
  | 't' :: rest => some ('\t', rest)
  | 'u' :: rest => readEscapedUnit? rest
  | _ => none

/-- The characters of a string up to its closing quote, in reverse, put before `done`. -/
def readCharacters? : Nat → List Char → List Char → Option (List Char × List Char)
  | 0, _, _ => none
  | fuel + 1, done, cs =>
    match cs with
    | [] => none
    | '"' :: rest => some (done, rest)
    | '\\' :: rest => do
      let (c, rest) ← readEscape? rest
      readCharacters? fuel (c :: done) rest
    | c :: rest => if c.toNat < 0x20 then none else readCharacters? fuel (c :: done) rest

/-- A string, from the text after its opening quote. -/
def readString? (cs : List Char) : Option (String × List Char) :=
  (readCharacters? (cs.length + 1) [] cs).map fun (reversed, rest) =>
    (String.ofList reversed.reverse, rest)

def readFraction? (cs : List Char) : Option (Option (List Nat) × List Char) :=
  match cs with
  | '.' :: rest =>
    let (digits, rest) := takeDigits rest
    if digits.isEmpty then none else some (some digits, rest)
  | _ => some (none, cs)

def readExponent? (cs : List Char) : Option (Option Int × List Char) :=
  match cs with
  | [] => some (none, [])
  | c :: rest =>
    if c == 'e' || c == 'E' then
      let (negative, rest) := match rest with
        | '+' :: rest => (false, rest)
        | '-' :: rest => (true, rest)
        | _ => (false, rest)
      let (digits, rest) := takeDigits rest
      if digits.isEmpty then none
      else
        let value : Int := natOfDigits 10 digits
        some (some (if negative then -value else value), rest)
    else some (none, cs)

/-- A number; its integer part has no leading zero unless it is zero. -/
def readNumber? (cs : List Char) : Option (Number × List Char) := do
  let (negative, cs) := match cs with
    | '-' :: rest => (true, rest)
    | _ => (false, cs)
  let (whole, rest) := takeDigits cs
  if whole.isEmpty || (1 < whole.length && whole.head? == some 0) then none
  else
    let (fraction, rest) ← readFraction? rest
    let (exponent, rest) ← readExponent? rest
    let value ← NumberText.value? ⟨negative, whole, fraction, exponent⟩
    return (value, rest)

def dropWord? (word : String) (cs : List Char) : Option (List Char) :=
  if word.toList.isPrefixOf cs then some (cs.drop word.length) else none

mutual

/-- A value at the start of a text, with at most `depth` levels of arrays and objects in it. -/
def readValue? (depth : Nat) : Nat → List Char → Option (Json × List Char)
  | 0, _ => none
  | fuel + 1, cs =>
    match cs with
    | 'n' :: _ => (dropWord? "null" cs).map (.null, ·)
    | 't' :: _ => (dropWord? "true" cs).map (.bool true, ·)
    | 'f' :: _ => (dropWord? "false" cs).map (.bool false, ·)
    | '"' :: rest => (readString? rest).map fun (s, rest) => (.string s, rest)
    | '[' :: rest =>
      if depth = 0 then none
      else
        match skipBlanks rest with
        | ']' :: rest => some (.array [], rest)
        | rest => (readItems? (depth - 1) fuel rest).map fun (items, rest) => (.array items, rest)
    | '\x7b' :: rest =>
      if depth = 0 then none
      else
        match skipBlanks rest with
        | '\x7d' :: rest => some (.object [], rest)
        | rest =>
          (readMembers? (depth - 1) fuel rest).map fun (members, rest) => (ofMembers members, rest)
    | _ => (readNumber? cs).map fun (n, rest) => (.number n, rest)

/-- The items of an array that is not empty, and its closing bracket. -/
def readItems? (depth : Nat) : Nat → List Char → Option (List Json × List Char)
  | 0, _ => none
  | fuel + 1, cs => do
    let (item, rest) ← readValue? depth fuel cs
    match skipBlanks rest with
    | ',' :: rest =>
      let (items, rest) ← readItems? depth fuel (skipBlanks rest)
      return (item :: items, rest)
    | ']' :: rest => return ([item], rest)
    | _ => none

def readMembers? (depth : Nat) : Nat → List Char → Option (List (String × Json) × List Char)
  | 0, _ => none
  | fuel + 1, cs =>
    match cs with
    | '"' :: rest => do
      let (key, rest) ← readString? rest
      match skipBlanks rest with
      | ':' :: rest =>
        let (value, rest) ← readValue? depth fuel (skipBlanks rest)
        match skipBlanks rest with
        | ',' :: rest =>
          let (members, rest) ← readMembers? depth fuel (skipBlanks rest)
          return ((key, value) :: members, rest)
        | '\x7d' :: rest => return ([(key, value)], rest)
        | _ => none
      | _ => none
    | _ => none

end

/--
The value of a text with at most `depth` levels of nesting.

Two calls at most are made for each character, one for an item and one for its value.
-/
def parseWithin? (depth : Nat) (text : String) : Option Json := do
  let cs := skipBlanks text.toList
  let (value, rest) ← readValue? depth (2 * cs.length + 1) cs
  if (skipBlanks rest).isEmpty then some value else none

def maxDepth : Nat := 127

def parse? (text : String) : Option Json := parseWithin? maxDepth text

end ParamQuery.Json
