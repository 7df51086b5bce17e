import ParamQuery.Floating

/-!
# JSON values

Integers and reals are different numbers here, so `1` and `1.0` are different values. The members
of an object are listed by ascending key, each key once: `Json.put` is the only way this library
adds one.
-/

namespace ParamQuery

open Floating (Double)

/-- A JSON number, which keeps whether it was written as an integer. -/
inductive Json.Number where
  | integer (value : Int)
  | real (value : Double)
deriving DecidableEq, Repr

inductive Json where
  | null
  | bool (value : Bool)
  | number (value : Json.Number)
  | string (value : String)
  | array (items : List Json)
  | object (members : List (String × Json))
deriving Repr

namespace Json

instance : Inhabited Json := ⟨.null⟩

/-- Sets a member of an object, in the place that the order of keys gives it. -/
def put {α : Type} (key : String) (value : α) : List (String × α) → List (String × α)
  | [] => [(key, value)]
  | (k, v) :: rest =>
    if key = k then (key, value) :: rest
    else if key < k then (key, value) :: (k, v) :: rest
    else (k, v) :: put key value rest

/-- A member that is set is found, and no other member is changed by setting it. -/
theorem lookup_put {α : Type} (key k : String) (value : α) (members : List (String × α)) :
    (put key value members).lookup k = if k = key then some value else members.lookup k := by
  induction members with
  | nil => by_cases h : k = key <;> simp [put, List.lookup_cons, beq_eq_false_iff_ne.2, h]
  | cons member rest ih =>
    obtain ⟨first, old⟩ := member
    rw [put]
    split
    next same =>
      subst same
      by_cases h : k = key <;> simp [List.lookup_cons, beq_eq_false_iff_ne.2, h]
    next other =>
      split
      next => by_cases h : k = key <;> simp [List.lookup_cons, beq_eq_false_iff_ne.2, h]
      next =>
        by_cases h : k = first
        · simp [h, Ne.symm other]
        · simp [List.lookup_cons, beq_eq_false_iff_ne.2, h, ih]

/-- An object from its members in the order they are given; of equal keys the last one counts. -/
def ofMembers (members : List (String × Json)) : Json :=
  .object (members.foldl (fun sorted (key, value) => put key value sorted) [])

def ofInt (value : Int) : Json := .number (.integer value)

/-- Equality of numbers: an integer never equals a real. -/
def Number.equal : Number → Number → Bool
  | .integer a, .integer b => a == b
  | .real a, .real b => a.equal b
  | _, _ => false

mutual

/-- Equality of values, in which reals are compared as values and not as bits. -/
def equal : Json → Json → Bool
  | .null, .null => true
  | .bool a, .bool b => a == b
  | .number a, .number b => a.equal b
  | .string a, .string b => a == b
  | .array a, .array b => equalItems a b
  | .object a, .object b => equalMembers a b
  | _, _ => false

def equalItems : List Json → List Json → Bool
  | [], [] => true
  | a :: as, b :: bs => a.equal b && equalItems as bs
  | _, _ => false

def equalMembers : List (String × Json) → List (String × Json) → Bool
  | [], [] => true
  | (j, a) :: as, (k, b) :: bs => j == k && a.equal b && equalMembers as bs
  | _, _ => false

end

end Json

end ParamQuery
