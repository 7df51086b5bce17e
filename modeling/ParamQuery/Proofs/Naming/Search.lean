import Mathlib.Order.Bounds.Basic
import ParamQuery.Naming

/-!
# The search for a free name

A free name is looked for round by round: a round tries one counter, and ends the search if its name
is not taken. Nothing bounds the number of rounds, so that the search may as well go on for ever. It
does not: it ends after one round more than there are taken names at most, and at the least counter
whose name is free (`search_eq_some_iff`, `isLeast_firstFree`).
-/

namespace ParamQuery.Naming

variable {stem : String} {taken : List String} {counter : Nat}

/-- The counter at which the search ends, if it ends within a number of rounds. -/
def search (stem : String) (taken : List String) : Nat → Nat → Option Nat
  | 0, _ => none
  | rounds + 1, counter =>
    if numbered stem counter ∈ taken then search stem taken rounds (counter + 1) else some counter

/-- The counter that `firstFree` gives is the least one whose name is free. -/
theorem isLeast_firstFree (stem : String) (taken : List String) (start : Nat) :
    IsLeast {n | start ≤ n ∧ numbered stem n ∉ taken} (firstFree stem taken start) := by
  refine ⟨⟨le_firstFree stem taken start, firstFree_not_mem stem taken start⟩, ?_⟩
  rintro n ⟨le, free⟩
  by_contra passed
  exact free (mem_of_lt_firstFree stem taken start le (Nat.lt_of_not_le passed))

theorem firstFree_eq_of_free (free : numbered stem counter ∉ taken) :
    firstFree stem taken counter = counter :=
  (isLeast_firstFree stem taken counter).unique ⟨⟨Nat.le_refl _, free⟩, fun _ other => other.1⟩

theorem firstFree_eq_succ (mem : numbered stem counter ∈ taken) :
    firstFree stem taken counter = firstFree stem taken (counter + 1) := by
  have next := isLeast_firstFree stem taken (counter + 1)
  refine (isLeast_firstFree stem taken counter).unique
    ⟨⟨Nat.le_of_succ_le next.1.1, next.1.2⟩, ?_⟩
  rintro n ⟨le, free⟩
  have other : n ≠ counter := by
    rintro rfl
    exact free mem
  exact next.2 ⟨by omega, free⟩

/-- The search ends at the first free name, as soon as there are enough rounds to get there. -/
theorem search_eq_some_iff {rounds n : Nat} :
    search stem taken rounds counter = some n ↔
      n = firstFree stem taken counter ∧ n < counter + rounds := by
  induction rounds generalizing counter with
  | zero =>
    rw [search]
    have le := le_firstFree stem taken counter
    constructor
    · intro ended
      cases ended
    · omega
  | succ rounds ih =>
    rw [search]
    split
    next mem =>
      rw [ih, firstFree_eq_succ mem]
      omega
    next free =>
      rw [firstFree_eq_of_free free, Option.some.injEq]
      omega

/-- One round more than there are taken names is always enough. -/
theorem search_ends (stem : String) (taken : List String) (counter : Nat) :
    search stem taken (taken.length + 1) counter = some (firstFree stem taken counter) := by
  have le := firstFree_le stem taken counter
  exact search_eq_some_iff.2 ⟨rfl, by omega⟩

end ParamQuery.Naming
