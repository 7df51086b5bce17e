/-!
# Digits

Decimal and hexadecimal digits of ASCII, and what is written with them: natural numbers, and bytes
with two digits each, the high one first. Reading bytes takes digits of either case, so it undoes
both ways of writing (`Hex.decode?_encode`, `Hex.decode?_encodeUpper`).
-/

namespace ParamQuery.Text

def digitValue (c : Char) : Nat := c.toNat - '0'.toNat

/-- The leading decimal digits of a text, as values, and what follows them. -/
def takeDigits (cs : List Char) : List Nat × List Char :=
  ((cs.takeWhile Char.isDigit).map digitValue, cs.dropWhile Char.isDigit)

def natOfDigits (base : Nat) (digits : List Nat) : Nat :=
  digits.foldl (fun n digit => base * n + digit) 0

/-- The number that decimal digits write, of which there is at least one. -/
def readNat? (cs : List Char) : Option Nat :=
  if cs.isEmpty || !cs.all Char.isDigit then none
  else some (natOfDigits 10 (cs.map digitValue))

/-- The integer of 64 bits that digits write, with or without a sign in front of them. -/
def readInt64? (cs : List Char) : Option Int :=
  let value? : Option Int := match cs with
    | '-' :: rest => (readNat? rest).map fun n => -(n : Int)
    | '+' :: rest => (readNat? rest).map Int.ofNat
    | _ => (readNat? cs).map Int.ofNat
  value?.filter fun value => -Int.pow 2 63 ≤ value && value < Int.pow 2 63

def zeros (n : Nat) : String := String.ofList (List.replicate n '0')

/-- A natural number in at least `width` decimal digits. -/
def padded (width n : Nat) : String :=
  zeros (width - (toString n).length) ++ toString n

def hexValue? (c : Char) : Option Nat :=
  if '0' ≤ c ∧ c ≤ '9' then some (c.toNat - '0'.toNat)
  else if 'a' ≤ c ∧ c ≤ 'f' then some (c.toNat - 'a'.toNat + 10)
  else if 'A' ≤ c ∧ c ≤ 'F' then some (c.toNat - 'A'.toNat + 10)
  else none

/-- The hexadecimal digit of the number's last four bits, in lower case. -/
def hexDigit (n : Nat) : Char := Nat.digitChar (n % 16)

def upperHexDigit (n : Nat) : Char := (hexDigit n).toUpper

end ParamQuery.Text

/-! ## Bytes -/

namespace ParamQuery.Text.Hex

def encode : List UInt8 → List Char
  | [] => []
  | b :: rest => hexDigit (b.toNat / 16) :: hexDigit b.toNat :: encode rest

def encodeUpper : List UInt8 → List Char
  | [] => []
  | b :: rest => upperHexDigit (b.toNat / 16) :: upperHexDigit b.toNat :: encodeUpper rest

def decode? : List Char → Option (List UInt8)
  | [] => some []
  | [_] => none
  | high :: low :: rest => do
    let h ← hexValue? high
    let l ← hexValue? low
    let bytes ← decode? rest
    return UInt8.ofNat (16 * h + l) :: bytes

theorem hexValue?_hexDigit (n : Nat) : hexValue? (hexDigit n) = some (n % 16) := by
  have all : ∀ d, d < 16 → hexValue? (Nat.digitChar d) = some d := by decide
  exact all _ (Nat.mod_lt n (by decide))

theorem hexValue?_upperHexDigit (n : Nat) : hexValue? (upperHexDigit n) = some (n % 16) := by
  have all : ∀ d, d < 16 → hexValue? (Nat.digitChar d).toUpper = some d := by decide
  exact all _ (Nat.mod_lt n (by decide))

/-- A byte is its two digits put together. -/
theorem ofNat_digits (b : UInt8) : UInt8.ofNat (16 * (b.toNat / 16 % 16) + b.toNat % 16) = b := by
  have h := b.toNat_lt
  rw [show 16 * (b.toNat / 16 % 16) + b.toNat % 16 = b.toNat by omega]
  exact UInt8.ofNat_toNat

theorem decode?_encode (bytes : List UInt8) : decode? (encode bytes) = some bytes := by
  induction bytes with
  | nil => rfl
  | cons b rest ih =>
    simp only [encode, decode?, hexValue?_hexDigit, ih, Option.bind_eq_bind, Option.bind_some,
      ofNat_digits, Option.pure_def]

theorem decode?_encodeUpper (bytes : List UInt8) : decode? (encodeUpper bytes) = some bytes := by
  induction bytes with
  | nil => rfl
  | cons b rest ih =>
    simp only [encodeUpper, decode?, hexValue?_upperHexDigit, ih, Option.bind_eq_bind,
      Option.bind_some, ofNat_digits, Option.pure_def]

end ParamQuery.Text.Hex
