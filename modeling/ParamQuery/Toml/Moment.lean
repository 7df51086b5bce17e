import ParamQuery.Calendar

/-!
# Dates and times in TOML

TOML has dates, times of day, and dates with a time, the last with or without an offset from
universal time. The written form has capital letters between its parts, and no trailing zeros in
the fraction of a second.
-/

namespace ParamQuery.Toml

open Text (padded natOfDigits)

/-- A time of day in nanoseconds; second 60 is a leap second. -/
structure Clock where
  hour : Nat
  minute : Nat
  second : Nat
  nanosecond : Nat
deriving DecidableEq, Repr

inductive Offset where
  | zulu
  | minutes (ahead : Int)
deriving DecidableEq, Repr

/-- A date, a time, or both. -/
structure Moment where
  date : Option Date
  clock : Option Clock
  offset : Option Offset
deriving DecidableEq, Repr

def readFixed? (count : Nat) (cs : List Char) : Option (Nat × List Char) :=
  let digits := cs.take count
  if digits.length = count ∧ digits.all Char.isDigit then
    some (natOfDigits 10 (digits.map Text.digitValue), cs.drop count)
  else none

def dropChar? (c : Char) : List Char → Option (List Char)
  | d :: rest => if d = c then some rest else none
  | [] => none

def readDate? (cs : List Char) : Option (Date × List Char) := do
  let (year, cs) ← readFixed? 4 cs
  let cs ← dropChar? '-' cs
  let (month, cs) ← readFixed? 2 cs
  let cs ← dropChar? '-' cs
  let (day, cs) ← readFixed? 2 cs
  let date ← Date.ofFields? year month day
  return (date, cs)

/-- The nanoseconds that the digits of a fraction stand for; digits behind the ninth are dropped. -/
def nanoseconds (digits : List Nat) : Nat :=
  natOfDigits 10 ((digits ++ List.replicate 9 0).take 9)

/-- A second, which may be absent, and its fraction, which may be absent as well. -/
def readSecond? (cs : List Char) : Option (Nat × Nat × List Char) :=
  match cs with
  | ':' :: rest => do
    let (second, rest) ← readFixed? 2 rest
    match rest with
    | '.' :: fraction =>
      let (digits, rest) := Text.takeDigits fraction
      if digits.isEmpty then none else some (second, nanoseconds digits, rest)
    | _ => some (second, 0, rest)
  | _ => some (0, 0, cs)

def readClock? (cs : List Char) : Option (Clock × List Char) := do
  let (hour, cs) ← readFixed? 2 cs
  let cs ← dropChar? ':' cs
  let (minute, cs) ← readFixed? 2 cs
  let (second, nanosecond, cs) ← readSecond? cs
  if hour < 24 ∧ minute < 60 ∧ second ≤ 60 then
    return (⟨hour, minute, second, nanosecond⟩, cs)
  else none

def readOffset? (cs : List Char) : Option (Option Offset) :=
  match cs with
  | [] => some none
  | [c] => if c = 'Z' ∨ c = 'z' then some (some .zulu) else none
  | sign :: rest => do
    let (hours, rest) ← readFixed? 2 rest
    let rest ← dropChar? ':' rest
    let (minutes, rest) ← readFixed? 2 rest
    let ahead : Int := hours * 60 + minutes
    if hours < 24 ∧ minutes < 60 ∧ rest = [] then
      if sign = '+' then some (some (.minutes ahead))
      else if sign = '-' then some (some (.minutes (-ahead)))
      else none
    else none

namespace Moment

/-- The moment that a text spells, which is nothing but that moment. -/
def ofChars? (cs : List Char) : Option Moment :=
  match readDate? cs with
  | some (date, []) => some ⟨some date, none, none⟩
  | some (date, separator :: rest) =>
    if separator = 'T' ∨ separator = 't' ∨ separator = ' ' then do
      let (clock, rest) ← readClock? rest
      let offset ← readOffset? rest
      return ⟨some date, some clock, offset⟩
    else none
  | none =>
    match readClock? cs with
    | some (clock, []) => some ⟨none, some clock, none⟩
    | _ => none

end Moment

/-- A fraction of a second without trailing zeros; nothing for zero. -/
def fractionText (nanosecond : Nat) : String :=
  if nanosecond = 0 then ""
  else
    let digits := (padded 9 nanosecond).toList.reverse.dropWhile (· == '0')
    "." ++ String.ofList digits.reverse

def Clock.text (c : Clock) : String :=
  padded 2 c.hour ++ ":" ++ padded 2 c.minute ++ ":" ++ padded 2 c.second ++
    fractionText c.nanosecond

def Offset.text : Offset → String
  | .zulu => "Z"
  | .minutes ahead =>
    (if ahead < 0 then "-" else "+") ++ padded 2 (ahead.natAbs / 60) ++ ":" ++
      padded 2 (ahead.natAbs % 60)

def Moment.text (m : Moment) : String :=
  let date := (m.date.map Date.text).getD ""
  let clock := (m.clock.map Clock.text).getD ""
  let separator := if m.date.isSome && m.clock.isSome then "T" else ""
  date ++ separator ++ clock ++ (m.offset.map Offset.text).getD ""

end ParamQuery.Toml
