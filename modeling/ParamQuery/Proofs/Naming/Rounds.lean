import Mathlib.Order.Interval.Finset.Nat
import ParamQuery.Proofs.Naming.Requests
import ParamQuery.Proofs.Naming.Search

/-!
# Rounds of the search for a parameter name

A context looks for a parameter name round by round, with one counter for its whole life, which has
128 bits and is incremented in every round. A search ends after one round more than there are names
in use at most, since different counters make different names. The counter starts below `2 ^ 64` and
goes up by one in each round of each search, so that it cannot overflow before there have been
`2 ^ 127` rounds, and until then it is what an unbounded counter would be
(`generateName_least_and_fits`).
-/

namespace ParamQuery

/-! ## Searches with a counter of 128 bits -/

namespace Naming

/-- No more counters are passed over than there are different taken names. -/
theorem firstFree_le_add_card (stem : String) (taken : List String) (start : Nat) :
    firstFree stem taken start ≤ start + taken.toFinset.card := by
  have passed : (Finset.Ico start (firstFree stem taken start)).image (numbered stem) ⊆
      taken.toFinset := by
    intro name mem
    obtain ⟨n, between, rfl⟩ := Finset.mem_image.1 mem
    obtain ⟨le, lt⟩ := Finset.mem_Ico.1 between
    exact List.mem_toFinset.2 (mem_of_lt_firstFree stem taken start le lt)
  have few := Finset.card_le_card passed
  rw [Finset.card_image_of_injective _ fun _ _ same => numbered_inj same, Nat.card_Ico] at few
  omega

/-- How a search stands after some rounds. -/
inductive Progress where
  | running (next : BitVec 128)
  | found (name : String) (next : BitVec 128)
  /-- The counter could not be incremented. -/
  | overflowed
deriving DecidableEq, Repr

/-- One round: the counter is incremented, and the name that it made before is taken or not. -/
def round (stem : String) (taken : List String) (counter : BitVec 128) : Progress :=
  if counter.uaddOverflow 1 then .overflowed
  else if numbered stem counter.toNat ∈ taken then .running (counter + 1)
  else .found (numbered stem counter.toNat) (counter + 1)

def rounds (stem : String) (taken : List String) : Nat → BitVec 128 → Progress
  | 0, counter => .running counter
  | n + 1, counter =>
    match round stem taken counter with
    | .running next => rounds stem taken n next
    | ended => ended

theorem round_eq {stem : String} {taken : List String} {counter : BitVec 128}
    (fits : counter.toNat + 1 < 2 ^ 128) :
    round stem taken counter =
      if numbered stem counter.toNat ∈ taken then .running (counter + 1)
      else .found (numbered stem counter.toNat) (counter + 1) := by
  have small : counter.uaddOverflow 1 = false := by
    rw [BitVec.uaddOverflow]
    exact decide_eq_false (Nat.not_le_of_lt fits)
  rw [round, small]
  rfl

/-- What a search of unbounded counters is after a number of rounds, with words in place of them. -/
def Progress.ofSearch (stem : String) (reached : Nat) : Option Nat → Progress
  | some counter => .found (numbered stem counter) (BitVec.ofNat 128 (counter + 1))
  | none => .running (BitVec.ofNat 128 reached)

/-- As long as the counter has room for the rounds, they are those of an unbounded counter. -/
theorem rounds_eq (stem : String) (taken : List String) {n : Nat} {counter : BitVec 128}
    (room : counter.toNat + n < 2 ^ 128) :
    rounds stem taken n counter =
      .ofSearch stem (counter.toNat + n) (search stem taken n counter.toNat) := by
  induction n generalizing counter with
  | zero => simp [rounds, search, Progress.ofSearch]
  | succ n ih =>
    have fits : counter.toNat + 1 < 2 ^ 128 := by omega
    have next : (counter + 1).toNat = counter.toNat + 1 := BitVec.toNat_add_of_lt fits
    rw [rounds, round_eq fits, search]
    by_cases mem : numbered stem counter.toNat ∈ taken
    · have later : (counter + 1).toNat + n < 2 ^ 128 := by omega
      have same := ih later
      rw [next, Nat.add_assoc, Nat.add_comm 1 n] at same
      rw [if_pos mem, if_pos mem]
      exact same
    · have word : counter + 1 = BitVec.ofNat 128 (counter.toNat + 1) := by
        rw [← next, BitVec.ofNat_toNat, BitVec.setWidth_eq]
      rw [if_neg mem, if_neg mem]
      exact congrArg _ word

end Naming

namespace Context

/-! ## Rounds in the life of a context -/

/-- The number of rounds that the search for a fresh name takes. -/
def searchRounds (c : Context) : Nat := c.freshCounter - c.next + 1

theorem next_add_searchRounds (c : Context) : c.next + c.searchRounds = c.freshCounter + 1 := by
  have le : c.next ≤ c.freshCounter := Naming.le_firstFree ..
  rw [searchRounds]
  omega

instance (c : Context) : (move : Move) → Decidable (move.Generates c)
  | .reserve _ => inferInstanceAs (Decidable False)
  | .generate => inferInstanceAs (Decidable True)
  | .bind _ => inferInstanceAs (Decidable False)
  | .nameLeaf (.literal ..) => inferInstanceAs (Decidable True)
  | .nameLeaf (.parameter p) =>
    inferInstanceAs (Decidable (p.key.isUnnamed = true ∧ p.key ∉ NamedParameter.keys c.parameters))

def Move.rounds (move : Move) (c : Context) : Nat :=
  if move.Generates c then c.searchRounds else 0

def rounds : List Move → Context → Nat
  | [], _ => 0
  | move :: rest, c => move.rounds c + rounds rest (move.make c).2

/-- The counter goes up by one in each round, and never else. -/
theorem next_make (move : Move) (c : Context) :
    (move.make c).2.next = c.next + move.rounds c := by
  have generated {move : Move} (generates : move.Generates c)
      (next : (move.make c).2.next = c.freshCounter + 1) :
      (move.make c).2.next = c.next + move.rounds c := by
    rw [next, Move.rounds, if_pos generates, next_add_searchRounds]
  have quiet {move : Move} (generates : ¬move.Generates c)
      (next : (move.make c).2.next = c.next) :
      (move.make c).2.next = c.next + move.rounds c := by
    rw [next, Move.rounds, if_neg generates, Nat.add_zero]
  cases move with
  | reserve name => exact quiet id rfl
  | generate => exact generated trivial rfl
  | bind binding => exact quiet id rfl
  | nameLeaf leaf =>
    have step := step_name leaf c
    have made := congrArg (fun run => run.2.next) (make_nameLeaf leaf c)
    generalize (leaf.name c).1 = name, (leaf.name c).2 = next at step made
    cases step with
    | literal value type => exact generated trivial made
    | known known =>
      exact quiet (fun new => new.2 (NamedParameter.mem_keys_of_nameIn? known)) made
    | chosen unknown own => exact quiet (fun new => by simp [new.1] at own) made
    | generated unknown unnamed =>
      exact generated ⟨unnamed, NamedParameter.nameIn?_eq_none_iff.1 unknown⟩ made

theorem next_makeAll (moves : List Move) (c : Context) :
    (makeAll moves c).next = c.next + rounds moves c := by
  induction moves generalizing c with
  | nil => rfl
  | cons move rest ih => rw [makeAll, ih, next_make, rounds, Nat.add_assoc]

/-- The search for a name ends, and it gives the least one that is free. -/
structure GeneratesLeast (c : Context) : Prop where
  /-- The search ends in one certain round, and goes on in all rounds before it. -/
  ends : ∀ n, Naming.search c.settings.parameterPrefix c.used n c.next =
    if c.searchRounds ≤ n then some c.freshCounter else none
  few : c.searchRounds ≤ c.used.toFinset.card + 1
  least : IsLeast {n | c.next ≤ n ∧ numbered c.settings.parameterPrefix n ∉ c.used} c.freshCounter
  generated : generateName c =
    let name := numbered c.settings.parameterPrefix c.freshCounter
    (name, { c with
      next := c.freshCounter + 1
      used := name :: c.used
      events := c.events ++ [.nameGenerated name] })

theorem generatesLeast (c : Context) : c.GeneratesLeast where
  ends n := by
    have total := c.next_add_searchRounds
    split
    next enough =>
      have within : c.freshCounter < c.next + n := by omega
      exact Naming.search_eq_some_iff.2 ⟨rfl, within⟩
    next few =>
      rw [Option.eq_none_iff_forall_ne_some]
      intro counter ended
      obtain ⟨rfl, within⟩ := Naming.search_eq_some_iff.1 ended
      rw [freshCounter] at total
      omega
  few := by
    have total := c.next_add_searchRounds
    have le := Naming.firstFree_le_add_card c.settings.parameterPrefix c.used c.next
    rw [freshCounter] at total
    omega
  least := Naming.isLeast_firstFree ..
  generated := rfl

/-- So many more rounds are the same with a counter of 128 bits, which does not overflow. -/
structure FitsRounds (c : Context) (n : Nat) : Prop where
  fits : c.next + n < 2 ^ 128
  rounds : Naming.rounds c.settings.parameterPrefix c.used n (BitVec.ofNat 128 c.next) =
    .ofSearch c.settings.parameterPrefix (c.next + n)
      (Naming.search c.settings.parameterPrefix c.used n c.next)

theorem fitsRounds {c : Context} {n : Nat} (fits : c.next + n < 2 ^ 128) : c.FitsRounds n where
  fits := fits
  rounds := by
    have word : (BitVec.ofNat 128 c.next).toNat = c.next := by
      rw [BitVec.toNat_ofNat]
      exact Nat.mod_eq_of_lt (by omega)
    have room : (BitVec.ofNat 128 c.next).toNat + n < 2 ^ 128 := by
      rw [word]
      exact fits
    rw [Naming.rounds_eq _ _ room, word]

/--
The search for a parameter name always ends, and it skips nothing that is free.

In any context it takes one round more than there are names in use at most, and gives the least
numbered name, from the counter on, that is not in use. The counter goes on behind it, and no other
name is taken. Whatever moves a new context makes to serve requests (`serveAll_eq`), its counter is
the one that it started with plus the number of rounds since. So it does not overflow in fewer than
`2 ^ 127` rounds, also not in the midst of a search.
-/
theorem generateName_least_and_fits :
    (∀ c : Context, c.GeneratesLeast) ∧
      ∀ (settings : Settings) (moves : List Move),
        (makeAll moves (start settings)).next =
            settings.parameterStart.toNat + rounds moves (start settings) ∧
          ∀ n, rounds moves (start settings) + n < 2 ^ 127 →
            (makeAll moves (start settings)).FitsRounds n := by
  refine ⟨generatesLeast, fun settings moves => ?_⟩
  have counted : (makeAll moves (start settings)).next =
      settings.parameterStart.toNat + rounds moves (start settings) := next_makeAll ..
  refine ⟨counted, fun n few => fitsRounds ?_⟩
  have start := settings.parameterStart.toNat_lt
  omega

/-- Without a prefix, from the greatest start on, and with a name reserved twice. -/
theorem generateName_least_and_fits_of_greatest_start :
    let settings : Settings :=
      { Settings.standard with parameterPrefix := "", parameterStart := 18446744073709551615 }
    let moves : List Move :=
      [.reserve "18446744073709551616", .reserve "18446744073709551616", .generate]
    let c := makeAll moves (start settings)
    rounds moves (start settings) + 2 < 2 ^ 127 ∧ c.FitsRounds 2 ∧ c.GeneratesLeast ∧
      c.next = 2 ^ 64 ∧ c.searchRounds = 2 ∧ c.used.toFinset.card = 2 ∧
      (generateName c).1 = "18446744073709551617" ∧
      Naming.rounds "" c.used 2 (BitVec.ofNat 128 c.next) =
        .found "18446744073709551617" 18446744073709551618 := by
  intro settings moves c
  have all := generateName_least_and_fits
  have few : rounds moves (start settings) + 2 < 2 ^ 127 := by decide +kernel
  exact ⟨few, (all.2 settings moves).2 2 few, all.1 c, by decide +kernel, by decide +kernel,
    by decide +kernel, by decide +kernel, by decide +kernel⟩

end Context

end ParamQuery
