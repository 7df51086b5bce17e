/-!
# Names

Identifiers consist of ASCII letters, digits and underscores and do not start with a digit.
Generated names are made of a stem and a counter. `Naming.firstFree` is the least counter from a
given one on whose name is not taken. Every taken name rules out one counter at most, so the search
looks at one counter more than there are taken names.
-/

namespace ParamQuery

def isNameChar (c : Char) : Bool := c.isAlphanum || c == '_'

def isNameStart (c : Char) : Bool := c.isAlpha || c == '_'

def numbered (stem : String) (counter : Nat) : String := stem ++ toString counter

/-- Different counters make different names. -/
theorem numbered_inj {stem : String} {m n : Nat} (h : numbered stem m = numbered stem n) :
    m = n := by
  have texts : (toString m).toList = (toString n).toList := by
    simpa [numbered] using congrArg String.toList h
  have digits : Nat.toDigits 10 m = Nat.toDigits 10 n := by
    simpa only [Nat.toString_eq_repr, Nat.toList_repr] using texts
  simpa using congrArg (fun ds => Nat.ofDigitChars 10 ds 0) digits

namespace Naming

/-- The first counter whose name is not taken, looked for as often as the last argument says. -/
def firstFreeWithin (stem : String) (taken : List String) (counter : Nat) : Nat → Nat
  | 0 => counter
  | tries + 1 =>
    if numbered stem counter ∈ taken then firstFreeWithin stem taken (counter + 1) tries
    else counter

/-- The least counter from `start` on whose name is not taken. -/
def firstFree (stem : String) (taken : List String) (start : Nat) : Nat :=
  firstFreeWithin stem taken start taken.length

theorem le_firstFreeWithin (stem : String) (taken : List String) (counter tries : Nat) :
    counter ≤ firstFreeWithin stem taken counter tries := by
  induction tries generalizing counter with
  | zero => exact Nat.le_refl counter
  | succ tries ih =>
    rw [firstFreeWithin]
    split
    · exact Nat.le_of_succ_le (ih (counter + 1))
    · exact Nat.le_refl counter

theorem firstFreeWithin_le (stem : String) (taken : List String) (counter tries : Nat) :
    firstFreeWithin stem taken counter tries ≤ counter + tries := by
  induction tries generalizing counter with
  | zero => exact Nat.le_refl counter
  | succ tries ih =>
    rw [firstFreeWithin]
    split
    · have := ih (counter + 1)
      omega
    · omega

/-- The counters that the search passes over belong to taken names. -/
theorem mem_of_lt_firstFreeWithin (stem : String) (taken : List String) (counter tries : Nat)
    {n : Nat} (le : counter ≤ n) (lt : n < firstFreeWithin stem taken counter tries) :
    numbered stem n ∈ taken := by
  induction tries generalizing counter with
  | zero =>
    rw [firstFreeWithin] at lt
    omega
  | succ tries ih =>
    rw [firstFreeWithin] at lt
    split at lt
    next mem =>
      rcases Nat.eq_or_lt_of_le le with rfl | later
      · exact mem
      · exact ih (counter + 1) later lt
    next => omega

/-- The search ends at a free name if no more taken names lie before it than it has tries. -/
theorem firstFreeWithin_not_mem (stem : String) (taken : List String) (counter tries : Nat)
    (ahead : List String) (few : ahead.length ≤ tries)
    (all : ∀ n, counter ≤ n → numbered stem n ∈ taken → numbered stem n ∈ ahead) :
    numbered stem (firstFreeWithin stem taken counter tries) ∉ taken := by
  induction tries generalizing counter ahead with
  | zero =>
    intro mem
    have := all counter (Nat.le_refl counter) mem
    simp_all
  | succ tries ih =>
    rw [firstFreeWithin]
    split
    next mem =>
      have here := all counter (Nat.le_refl counter) mem
      refine ih (counter + 1) (ahead.erase (numbered stem counter)) ?_ ?_
      · rw [List.length_erase_of_mem here]
        omega
      · intro n later taken_n
        have other : numbered stem n ≠ numbered stem counter := by
          intro same
          have := numbered_inj same
          omega
        exact (List.mem_erase_of_ne other).2 (all n (by omega) taken_n)
    next free => exact free

theorem le_firstFree (stem : String) (taken : List String) (start : Nat) :
    start ≤ firstFree stem taken start :=
  le_firstFreeWithin stem taken start taken.length

/-- The search passes over no more counters than there are taken names. -/
theorem firstFree_le (stem : String) (taken : List String) (start : Nat) :
    firstFree stem taken start ≤ start + taken.length :=
  firstFreeWithin_le stem taken start taken.length

/-- The name that the search ends at is free. -/
theorem firstFree_not_mem (stem : String) (taken : List String) (start : Nat) :
    numbered stem (firstFree stem taken start) ∉ taken :=
  firstFreeWithin_not_mem stem taken start taken.length taken (Nat.le_refl _)
    fun _ _ mem => mem

/-- No earlier name is free. -/
theorem mem_of_lt_firstFree (stem : String) (taken : List String) (start : Nat) {n : Nat}
    (le : start ≤ n) (lt : n < firstFree stem taken start) : numbered stem n ∈ taken :=
  mem_of_lt_firstFreeWithin stem taken start taken.length le lt

end Naming

end ParamQuery
