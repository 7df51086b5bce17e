import ParamQuery.Calendar
import ParamQuery.Json.Basic
import ParamQuery.Value.ValueType

/-!
# Values

A value is either null, of some type, or a scalar. The type of a scalar is that of its contents.
A null value has a type of its own but no runtime type: it fits wherever any type is expected.

Two values are equal if they are nulls of one type or equal scalars of one type. Floating-point
numbers are compared as numbers, also inside JSON, so equality is not reflexive: a value that is
not a number differs from itself.
-/

namespace ParamQuery

open Floating (Single Double)

/-! ## UUIDs -/

structure Uuid where
  bits : BitVec 128
deriving DecidableEq, Repr

namespace Uuid

/-- The digits of a UUID, the most significant one first. -/
def digits (u : Uuid) : List Char :=
  (List.range 32).map fun i => Text.hexDigit (u.bits.toNat / Nat.pow 16 (31 - i))

/-- A UUID in lower case: groups of 8, 4, 4, 4 and 12 digits with hyphens between them. -/
def text (u : Uuid) : String :=
  let ds := u.digits
  String.ofList (ds.take 8 ++ '-' :: (ds.drop 8).take 4 ++ '-' :: (ds.drop 12).take 4 ++
    '-' :: (ds.drop 16).take 4 ++ '-' :: ds.drop 20)

/-- The UUID with the given 32 digits. Hyphens may stand anywhere between them. -/
def ofText? (s : String) : Option Uuid := do
  let digits ← (s.toList.filter (· != '-')).mapM Text.hexValue?
  if digits.length = 32 then some ⟨BitVec.ofNat 128 (Text.natOfDigits 16 digits)⟩ else none

end Uuid

/-! ## Values -/

inductive Scalar where
  | bool (value : Bool)
  | tinyint (value : Int8)
  | smallint (value : Int16)
  | int (value : Int32)
  | bigint (value : Int64)
  | tinyUnsigned (value : UInt8)
  | smallUnsigned (value : UInt16)
  | unsigned (value : UInt32)
  | bigUnsigned (value : UInt64)
  | float (value : Single)
  | double (value : Double)
  | char (value : Char)
  | string (value : String)
  | bytes (value : List UInt8)
  | date (value : Date)
  | time (value : Time)
  | dateTime (value : DateTime)
  | dateTimeUtc (value : DateTime)
  | uuid (value : Uuid)
  | json (value : Json)

def Scalar.type : Scalar → ValueType
  | .bool _ => .bool
  | .tinyint _ => .tinyint
  | .smallint _ => .smallint
  | .int _ => .int
  | .bigint _ => .bigint
  | .tinyUnsigned _ => .tinyUnsigned
  | .smallUnsigned _ => .smallUnsigned
  | .unsigned _ => .unsigned
  | .bigUnsigned _ => .bigUnsigned
  | .float _ => .float
  | .double _ => .double
  | .char _ => .char
  | .string _ => .string
  | .bytes _ => .bytes
  | .date _ => .date
  | .time _ => .time
  | .dateTime _ => .dateTime
  | .dateTimeUtc _ => .dateTimeUtc
  | .uuid _ => .uuid
  | .json _ => .json

inductive Value where
  | null (type : ValueType)
  | scalar (value : Scalar)

namespace Value

instance : Inhabited Value := ⟨.null .string⟩

def type : Value → ValueType
  | .null type => type
  | .scalar s => s.type

def isNull : Value → Bool
  | .null _ => true
  | .scalar _ => false

/-- The type that a value shows when it is bound; null shows none. -/
def runtimeType? : Value → Option ValueType
  | .null _ => none
  | .scalar s => some s.type

/-- Whether a value may be bound to a parameter of a type: null always may. -/
def fits (v : Value) (type : ValueType) : Bool :=
  match v.runtimeType? with
  | none => true
  | some actual => actual == type

@[simp] theorem runtimeType?_null (type : ValueType) : (null type).runtimeType? = none := rfl

@[simp] theorem runtimeType?_scalar (s : Scalar) :
    (scalar s).runtimeType? = some s.type := rfl

/-- Null values are those that show no type. -/
theorem runtimeType?_eq_none_iff (v : Value) : v.runtimeType? = none ↔ v.isNull = true := by
  cases v <;> simp [isNull]

/-- Null fits all types, and any other value its own type. -/
theorem fits_iff (v : Value) (type : ValueType) :
    v.fits type = true ↔ v.isNull = true ∨ v.type = type := by
  cases v <;> simp [fits, isNull, Value.type]

end Value

/-! ## Equality -/

def Scalar.equal : Scalar → Scalar → Bool
  | .bool a, .bool b => a == b
  | .tinyint a, .tinyint b => a == b
  | .smallint a, .smallint b => a == b
  | .int a, .int b => a == b
  | .bigint a, .bigint b => a == b
  | .tinyUnsigned a, .tinyUnsigned b => a == b
  | .smallUnsigned a, .smallUnsigned b => a == b
  | .unsigned a, .unsigned b => a == b
  | .bigUnsigned a, .bigUnsigned b => a == b
  | .float a, .float b => a.equal b
  | .double a, .double b => a.equal b
  | .char a, .char b => a == b
  | .string a, .string b => a == b
  | .bytes a, .bytes b => a == b
  | .date a, .date b => a == b
  | .time a, .time b => a == b
  | .dateTime a, .dateTime b => a == b
  | .dateTimeUtc a, .dateTimeUtc b => a == b
  | .uuid a, .uuid b => a == b
  | .json a, .json b => a.equal b
  | _, _ => false

def Value.equal : Value → Value → Bool
  | .null a, .null b => a == b
  | .scalar a, .scalar b => a.equal b
  | _, _ => false

end ParamQuery
