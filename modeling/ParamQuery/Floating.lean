/-!
# Binary floating-point numbers

A format is a pair of field widths. A non-negative number of a format is given by its magnitude
bits, the bit pattern without the sign, read as a natural number. Magnitude bits are ordered as
the numbers they stand for, and `Format.units` reads them as a multiple of the smallest positive
number, so all arithmetic here is exact arithmetic on natural numbers.

A number is its bit pattern, so two numbers are equal as data exactly when they have the same
bits. `Number.equal` is the comparison of values instead: the two zeros are equal and a value
that is not a number equals nothing.
-/

namespace ParamQuery.Floating

/-! ## Formats -/

structure Format where
  exponentBits : Nat
  fractionBits : Nat
deriving DecidableEq, Repr

namespace Format

def single : Format := ⟨8, 23⟩

def double : Format := ⟨11, 52⟩

def width (f : Format) : Nat := 1 + f.exponentBits + f.fractionBits

/-- The weight of the sign bit, above all magnitude bits. -/
def signWeight (f : Format) : Nat := Nat.pow 2 (f.exponentBits + f.fractionBits)

/-- The magnitude bits of infinity; larger ones stand for values that are not numbers. -/
def infinity (f : Format) : Nat := (Nat.pow 2 f.exponentBits - 1) * Nat.pow 2 f.fractionBits

/-- The smallest positive number is `2 ^ -scale`. -/
def scale (f : Format) : Nat := Nat.pow 2 (f.exponentBits - 1) - 2 + f.fractionBits

/-- The number that finite magnitude bits stand for, as a multiple of `2 ^ -scale`. -/
def units (f : Format) (magnitude : Nat) : Nat :=
  let fraction := magnitude % Nat.pow 2 f.fractionBits
  let exponent := magnitude / Nat.pow 2 f.fractionBits
  if exponent = 0 then fraction
  else (Nat.pow 2 f.fractionBits + fraction) * Nat.pow 2 (exponent - 1)

/-- The integer nearest to a quotient; of two equally near ones, the even one. -/
def roundQuotient (numerator denominator : Nat) : Nat :=
  let quotient := numerator / denominator
  let remainder := numerator % denominator
  if 2 * remainder < denominator then quotient
  else if denominator < 2 * remainder then quotient + 1
  else quotient + quotient % 2

/--
The magnitude bits nearest to a quotient, infinity if it lies beyond the finite numbers.

Dropping `shift` low bits leaves a significand of full width. A carry out of the significand
moves into the exponent field by itself.
-/
def nearest (f : Format) (numerator denominator : Nat) : Nat :=
  let scaled := numerator * Nat.pow 2 f.scale
  let shift := (scaled / denominator).log2 - f.fractionBits
  let significand := roundQuotient scaled (denominator * Nat.pow 2 shift)
  min (shift * Nat.pow 2 f.fractionBits + significand) f.infinity

def mul (f : Format) (left right : Nat) : Nat :=
  f.nearest (f.units left * f.units right) (Nat.pow 2 (2 * f.scale))

def div (f : Format) (left right : Nat) : Nat :=
  f.nearest (f.units left) (f.units right)

end Format

/-! ## Numbers -/

structure Number (f : Format) where
  bits : BitVec f.width
deriving DecidableEq, Repr

abbrev Single := Number Format.single

abbrev Double := Number Format.double

namespace Number

variable {f : Format}

def ofMagnitude (negative : Bool) (magnitude : Nat) : Number f :=
  ⟨BitVec.ofNat f.width (if negative then f.signWeight + magnitude else magnitude)⟩

/-- Whether the sign bit is set, which it also is for `-0`. -/
def isNegative (x : Number f) : Bool := x.bits.msb

def magnitude (x : Number f) : Nat := x.bits.toNat % f.signWeight

def isNaN (x : Number f) : Bool := f.infinity < x.magnitude

def isInfinite (x : Number f) : Bool := x.magnitude == f.infinity

def isFinite (x : Number f) : Bool := x.magnitude < f.infinity

/-- Equality of values: a value that is not a number differs from itself, and `-0` equals `0`. -/
def equal (x y : Number f) : Bool :=
  !x.isNaN && !y.isNaN && (x.bits == y.bits || (x.magnitude == 0 && y.magnitude == 0))

end Number

end ParamQuery.Floating
