import ParamQuery.Json.Basic

/-!
# Reading JSON numbers

A number without fraction and exponent is an integer if it fits in 64 bits. Any other number is
real and is read in two roundings: as many leading digits as fit in 64 bits become a significand,
which is rounded, and the significand is multiplied or divided by a rounded power of ten.
-/

namespace ParamQuery.Json

open Floating (Format)

/-- The parts of a written number; digits are given by their values. -/
structure NumberText where
  negative : Bool
  whole : List Nat
  fraction : Option (List Nat)
  exponent : Option Int

/-- Appends digits to a significand while it fits in 64 bits. The second part counts them. -/
def appendDigits (significand : Nat) : List Nat → Nat × Nat
  | [] => (significand, 0)
  | digit :: rest =>
    let next := 10 * significand + digit
    if next < Nat.pow 2 64 then
      let (result, count) := appendDigits next rest
      (result, count + 1)
    else (significand, 0)

def powerOfTen (exponent : Nat) : Nat := Format.double.nearest (Nat.pow 10 exponent) 1

def maxPower : Nat := 308

/-- Divides a magnitude by a power of ten, in several steps if the power is not finite. -/
def divideByPower (magnitude exponent : Nat) : Nat :=
  if exponent ≤ maxPower then Format.double.div magnitude (powerOfTen exponent)
  else if magnitude = 0 then 0
  else divideByPower (Format.double.div magnitude (powerOfTen maxPower)) (exponent - maxPower)
termination_by exponent
decreasing_by simp [maxPower] at *; omega

def scaledMagnitude? (significand : Nat) (exponent : Int) : Option Nat :=
  let magnitude := Format.double.nearest significand 1
  if exponent < 0 then some (divideByPower magnitude exponent.natAbs)
  else if exponent.natAbs ≤ maxPower then
    let product := Format.double.mul magnitude (powerOfTen exponent.natAbs)
    if product < Format.double.infinity then some product else none
  else if magnitude = 0 then some 0
  else none

def NumberText.real? (t : NumberText) : Option Number :=
  let (whole, wholeCount) := appendDigits 0 t.whole
  let (significand, fractionCount) := appendDigits whole (t.fraction.getD [])
  let exponent : Int := (t.whole.length - wholeCount : Nat) - (fractionCount : Int)
  (scaledMagnitude? significand (exponent + t.exponent.getD 0)).map fun magnitude =>
    .real (.ofMagnitude t.negative magnitude)

/--
The number that the parts stand for.

There is no negative zero among the integers, so `-0` is real.
-/
def NumberText.value? (t : NumberText) : Option Number :=
  let (value, count) := appendDigits 0 t.whole
  if t.fraction.isNone && t.exponent.isNone && count == t.whole.length then
    if !t.negative then some (.integer value)
    else if 0 < value && value ≤ Nat.pow 2 63 then some (.integer (-value))
    else t.real?
  else t.real?

end ParamQuery.Json
