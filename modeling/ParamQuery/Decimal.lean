import ParamQuery.Floating
import ParamQuery.Text.Digits

/-!
# Shortest decimals

The shortest decimal of a floating-point number is the one with the fewest digits among those that
read back as that number, and the nearest to it among those. The numbers that read back are an
interval around it, whose ends are half way to its neighbours. The search goes from coarse decimal
grids to fine ones and stops at the first grid with a point in the interval: if a grid has one,
then one of the two grid points next to the number is in the interval as well.
-/

namespace ParamQuery

/-- The number `digits * 10 ^ exponent`. -/
structure Decimal where
  digits : Nat
  exponent : Int
deriving DecidableEq, Repr

namespace Decimal

open Floating (Format)
open Text (zeros)

/-- What is done with a number half way between two shortest decimals. -/
inductive Tie where
  | up
  | even
deriving DecidableEq, Repr

/-- An interval around a value, all of them fractions of one denominator. -/
structure Neighbourhood where
  low : Nat
  value : Nat
  high : Nat
  denominator : Nat
  closed : Bool

namespace Neighbourhood

/-- The numbers that read back as the given positive magnitude, in halves of the smallest number. -/
def ofMagnitude (f : Format) (magnitude : Nat) : Neighbourhood where
  low := f.units (magnitude - 1) + f.units magnitude
  value := 2 * f.units magnitude
  high := f.units magnitude + f.units (magnitude + 1)
  denominator := Nat.pow 2 (f.scale + 1)
  closed := magnitude % 2 == 0

/-- The same interval in units of `10 ^ exponent`, its denominator made the grid's. -/
def scaleTo (i : Neighbourhood) (exponent : Int) : Neighbourhood :=
  let down := Nat.pow 10 (-exponent).toNat
  let up := Nat.pow 10 exponent.toNat
  ⟨i.low * down, i.value * down, i.high * down, i.denominator * up, i.closed⟩

def contains (i : Neighbourhood) (n : Nat) : Bool :=
  let point := n * i.denominator
  if i.closed then i.low ≤ point && point ≤ i.high else i.low < point && point < i.high

def nearestInteger? (i : Neighbourhood) (tie : Tie) : Option Nat :=
  let below := i.value / i.denominator
  let above := below + 1
  let rest := 2 * (i.value % i.denominator)
  match i.contains below, i.contains above with
  | false, false => none
  | true, false => some below
  | false, true => some above
  | true, true =>
    if rest < i.denominator then some below
    else if i.denominator < rest then some above
    else match tie with
      | .up => some above
      | .even => some (below + below % 2)

/-- A power of ten that is not below the value. -/
def topExponent (i : Neighbourhood) : Int :=
  if i.denominator ≤ i.value then ((Nat.toDigits 10 (i.value / i.denominator)).length : Int)
  else 1 - ((Nat.toDigits 10 (i.denominator / i.value)).length : Int)

/-- Tries grids from `10 ^ exponent` downward, at most as many as the first argument says. -/
def search (i : Neighbourhood) (tie : Tie) : Nat → Int → Decimal
  | 0, exponent => ⟨(i.scaleTo exponent).value / (i.scaleTo exponent).denominator, exponent⟩
  | fuel + 1, exponent =>
    match (i.scaleTo exponent).nearestInteger? tie with
    | some digits => ⟨digits, exponent⟩
    | none => search i tie fuel (exponent - 1)

end Neighbourhood

/--
The shortest decimal of finite magnitude bits.

A format with `n` fraction bits never needs `n` digits, so the search always ends at a hit.
-/
def shortest (f : Format) (tie : Tie) (magnitude : Nat) : Decimal :=
  if magnitude = 0 then ⟨0, 0⟩
  else
    let i := Neighbourhood.ofMagnitude f magnitude
    i.search tie f.fractionBits i.topExponent

/-! ## Written forms -/

/-- Writes a decimal without an exponent, and without a point if it is an integer. -/
def positional (d : Decimal) : String :=
  let digits := Nat.toDigits 10 d.digits
  let places := (-d.exponent).toNat
  if places = 0 then String.ofList digits ++ zeros d.exponent.toNat
  else
    let whole := digits.length - places
    let head := if whole = 0 then "0" else String.ofList (digits.take whole)
    head ++ "." ++ zeros (places - digits.length) ++ String.ofList (digits.drop whole)

def leadingExponent (d : Decimal) : Int := (Nat.toDigits 10 d.digits).length + d.exponent - 1

def scientific (d : Decimal) : String :=
  let (head, tail) := (Nat.toDigits 10 d.digits).splitAt 1
  let fraction := if tail.isEmpty then "" else "." ++ String.ofList tail
  let sign := if d.leadingExponent < 0 then "-" else "+"
  String.ofList head ++ fraction ++ "e" ++ sign ++ toString d.leadingExponent.natAbs

end Decimal

end ParamQuery
