import Mathlib.Data.List.DropRight
import Mathlib.Data.List.Induction
import ParamQuery.Query

/-!
# Flattened junctions

Joining extends a junction of the same connective on the left and puts anything else into a new
junction. Both ways mean the same in three-valued logic, whatever is true of the predicates that are
no junctions: `Expr.truth_join` gives the truth value of a joined predicate, `Expr.placed_join` says
where its leaf predicates stand. The restriction of a query is what its calls demand, folded together
(`Query.restriction_restrictAll`), and so means their conjunction (`flattening_keeps_meaning`).
-/

namespace ParamQuery

/-! ## Three-valued logic -/

inductive Truth where
  | false
  | unknown
  | true
deriving DecidableEq, Repr

namespace Truth

/-- False if either side is, else true only if both sides are. -/
def and : Truth → Truth → Truth
  | .false, _ => .false
  | _, .false => .false
  | .true, .true => .true
  | _, _ => .unknown

/-- True if either side is, else false only if both sides are. -/
def or : Truth → Truth → Truth
  | .true, _ => .true
  | _, .true => .true
  | .false, .false => .false
  | _, _ => .unknown

end Truth

namespace Connective

def combine : Connective → Truth → Truth → Truth
  | .and => Truth.and
  | .or => Truth.or

def neutral : Connective → Truth
  | .and => .true
  | .or => .false

theorem combine_assoc (c : Connective) (s t u : Truth) :
    c.combine (c.combine s t) u = c.combine s (c.combine t u) := by
  cases c <;> cases s <;> cases t <;> cases u <;> rfl

@[simp] theorem combine_neutral (c : Connective) (t : Truth) : c.combine t c.neutral = t := by
  cases c <;> cases t <;> rfl

@[simp] theorem neutral_combine (c : Connective) (t : Truth) : c.combine c.neutral t = t := by
  cases c <;> cases t <;> rfl

end Connective

namespace Expr

mutual

/-- The truth value of a predicate, given those of the predicates that are no junctions. -/
def truth (given : Expr → Truth) : Expr → Truth
  | .junction c predicates => truthJoined given c predicates
  | e => given e

def truthJoined (given : Expr → Truth) (c : Connective) : List Expr → Truth
  | [] => c.neutral
  | e :: rest => c.combine (e.truth given) (truthJoined given c rest)

end

theorem truthJoined_append (given : Expr → Truth) (c : Connective) (es fs : List Expr) :
    truthJoined given c (es ++ fs) =
      c.combine (truthJoined given c es) (truthJoined given c fs) := by
  induction es with
  | nil => simp [truthJoined]
  | cons e rest ih => simp [truthJoined, ih, Connective.combine_assoc]

end Expr

/-! ## Leaf predicates -/

/--
A predicate that is no junction, with the connectives of the junctions around it, the outermost one
first. Junctions of one connective directly inside each other count once.
-/
structure Placed where
  around : List Connective
  predicate : Expr

def Placed.under (c : Connective) (p : Placed) : Placed :=
  if p.around.head? = some c then p else ⟨c :: p.around, p.predicate⟩

@[simp] theorem Placed.under_under (c : Connective) (p : Placed) :
    (p.under c).under c = p.under c := by
  unfold under
  by_cases h : p.around.head? = some c <;> simp [h]

@[simp] theorem Placed.under_comp_under (c : Connective) :
    Placed.under c ∘ Placed.under c = Placed.under c :=
  funext fun p => p.under_under c

namespace Expr

mutual

def placed : Expr → List Placed
  | .junction c predicates => placedJoined c predicates
  | e => [⟨[], e⟩]

def placedJoined (c : Connective) : List Expr → List Placed
  | [] => []
  | e :: rest => e.placed.map (Placed.under c) ++ placedJoined c rest

end

theorem placedJoined_eq (c : Connective) (es : List Expr) :
    placedJoined c es = (es.flatMap placed).map (Placed.under c) := by
  induction es with
  | nil => rfl
  | cons e rest ih => simp [placedJoined, ih]

/-! ## Joining -/

/-- The predicates of a junction with the connective; anything else is the only one. -/
def items (c : Connective) : Expr → List Expr
  | .junction d predicates => if d = c then predicates else [.junction d predicates]
  | e => [e]

theorem join_eq (c : Connective) (left right : Expr) :
    left.join c right = .junction c (left.items c ++ [right]) := by
  cases left with
  | junction d predicates => by_cases h : d = c <;> simp [join, items, h]
  | _ => rfl

@[simp] theorem items_junction (c : Connective) (es : List Expr) :
    (junction c es).items c = es := by
  simp [items]

/-- A predicate means the same as a junction of its items. -/
theorem truthJoined_items (given : Expr → Truth) (c : Connective) (e : Expr) :
    truthJoined given c (e.items c) = e.truth given := by
  cases e with
  | junction d predicates => by_cases h : d = c <;> simp [items, h, truthJoined, truth]
  | _ => simp [items, truthJoined, truth]

theorem placedJoined_items (c : Connective) (e : Expr) :
    placedJoined c (e.items c) = e.placed.map (Placed.under c) := by
  cases e with
  | junction d predicates => by_cases h : d = c <;> simp [items, h, placed, placedJoined_eq]
  | _ => simp [items, placedJoined]

theorem truth_join (given : Expr → Truth) (c : Connective) (left right : Expr) :
    (left.join c right).truth given = c.combine (left.truth given) (right.truth given) := by
  rw [join_eq, truth, truthJoined_append, truthJoined_items]
  simp [truthJoined]

/-- The leaf predicates of both sides stay in order, with one more junction around them. -/
theorem placed_join (c : Connective) (left right : Expr) :
    (left.join c right).placed = (left.placed ++ right.placed).map (Placed.under c) := by
  have split := placedJoined_items c left
  rw [placedJoined_eq] at split
  rw [join_eq, placed, placedJoined_eq]
  simp [split]

/-- Joining predicates one after the other collects all of them in one junction. -/
theorem foldl_join (c : Connective) (first second : Expr) (rest : List Expr) :
    (second :: rest).foldl (join c) first = .junction c (first.items c ++ second :: rest) := by
  induction rest generalizing first second with
  | nil => exact join_eq c first second
  | cons third rest ih => rw [List.foldl_cons, ih, join_eq, items_junction, List.append_assoc]; rfl

theorem items_foldl_join (c : Connective) (first : Expr) (rest : List Expr) :
    (rest.foldl (join c) first).items c = first.items c ++ rest := by
  cases rest with
  | nil => simp
  | cons second rest => rw [foldl_join, items_junction]

theorem truth_foldl_join (given : Expr → Truth) (c : Connective) (first : Expr) (rest : List Expr) :
    (rest.foldl (join c) first).truth given = truthJoined given c (first :: rest) := by
  cases rest with
  | nil => simp [truthJoined]
  | cons second rest =>
    rw [foldl_join, truth, truthJoined_append, truthJoined_items]
    rfl

theorem placed_foldl_join (c : Connective) (first : Expr) (rest : List Expr) :
    (rest.foldl (join c) first).placed.map (Placed.under c) = placedJoined c (first :: rest) := by
  cases rest with
  | nil => simp [placedJoined]
  | cons second rest =>
    have split := placedJoined_items c first
    rw [placedJoined_eq] at split
    rw [foldl_join, placed, placedJoined_eq, placedJoined_eq, List.map_map,
      Placed.under_comp_under, List.flatMap_append, List.map_append, split]
    simp

end Expr

/-! ## Restrictions -/

inductive Restricting where
  | restrict (predicate : Expr)
  | restrictAlso (predicate : Expr)

namespace Restricting

def replaced? : Restricting → Option Expr
  | .restrict predicate => some predicate
  | .restrictAlso _ => none

def added? : Restricting → Option Expr
  | .restrict _ => none
  | .restrictAlso predicate => some predicate

/-- What calls demand: the last predicate that replaced the restriction, or else the restriction
that there was, and the predicates that were added since. -/
def demanded (existing : Option Expr) (calls : List Restricting) : List Expr :=
  ((calls.reverse.findSome? replaced?).or existing).toList ++
    (calls.rtakeWhile fun call => call.added?.isSome).filterMap added?

theorem demanded_restrict (existing : Option Expr) (calls : List Restricting) (predicate : Expr) :
    demanded existing (calls ++ [.restrict predicate]) = [predicate] := by
  simp [demanded, List.findSome?_cons, replaced?, added?]

theorem demanded_restrictAlso (existing : Option Expr) (calls : List Restricting)
    (predicate : Expr) :
    demanded existing (calls ++ [.restrictAlso predicate]) =
      demanded existing calls ++ [predicate] := by
  simp [demanded, List.findSome?_cons, replaced?, added?]

def conjoined : List Expr → Option Expr
  | [] => none
  | first :: rest => some (rest.foldl Expr.and first)

theorem conjoined_concat (predicates : List Expr) (predicate : Expr) :
    conjoined (predicates ++ [predicate]) =
      some ((conjoined predicates).elim predicate fun e => e.and predicate) := by
  cases predicates with
  | nil => rfl
  | cons first rest => simp [conjoined]

end Restricting

namespace Query

open Restricting (demanded conjoined)

def performRestricting (q : Query) : Restricting → Query
  | .restrict predicate => q.restrict predicate
  | .restrictAlso predicate => q.restrictAlso predicate

def restrictAll (q : Query) (calls : List Restricting) : Query := calls.foldl performRestricting q

/-- The truth value of a query's restriction, which is true if there is none. -/
def truth (given : Expr → Truth) (q : Query) : Truth := q.restriction.elim .true (Expr.truth given)

theorem restriction_restrictAlso (q : Query) (predicate : Expr) :
    (q.restrictAlso predicate).restriction =
      some (q.restriction.elim predicate fun e => e.and predicate) := by
  unfold restrictAlso
  cases q.restriction <;> rfl

/-- After any calls the restriction is what they demand, folded into one predicate. -/
theorem restriction_restrictAll (q : Query) (calls : List Restricting) :
    (q.restrictAll calls).restriction = conjoined (demanded q.restriction calls) := by
  -- The last call decides whether what was there before stays, so the induction is on the last one.
  induction calls using List.reverseRecOn with
  | nil =>
    show q.restriction = _
    cases h : q.restriction <;> rfl
  | append_singleton calls call ih =>
    have last : q.restrictAll (calls ++ [call]) = (q.restrictAll calls).performRestricting call := by
      simp [restrictAll]
    rw [last]
    cases call with
    | restrict predicate =>
      rw [Restricting.demanded_restrict]
      rfl
    | restrictAlso predicate =>
      rw [Restricting.demanded_restrictAlso, Restricting.conjoined_concat, ← ih]
      exact restriction_restrictAlso _ predicate

/-- How the restriction of a query depends on calls. -/
structure RestrictedBy (q : Query) (calls : List Restricting) : Prop where
  folded : (q.restrictAll calls).restriction = conjoined (demanded q.restriction calls)
  truth : ∀ given, (q.restrictAll calls).truth given =
    Expr.truthJoined given .and (demanded q.restriction calls)
  leaves : ((q.restrictAll calls).restriction.toList.flatMap Expr.placed).map (Placed.under .and) =
    ((demanded q.restriction calls).flatMap Expr.placed).map (Placed.under .and)

theorem restrictedBy (q : Query) (calls : List Restricting) : q.RestrictedBy calls := by
  have folded := q.restriction_restrictAll calls
  refine ⟨folded, fun given => ?_, ?_⟩
  · rw [Query.truth, folded]
    cases demanded q.restriction calls with
    | nil => rfl
    | cons first rest => exact Expr.truth_foldl_join given .and first rest
  · rw [folded]
    cases demanded q.restriction calls with
    | nil => rfl
    | cons first rest =>
      have placed : (rest.foldl Expr.and first).placed.map (Placed.under .and) =
          Expr.placedJoined .and (first :: rest) := Expr.placed_foldl_join .and first rest
      rw [Expr.placedJoined_eq] at placed
      rw [← placed]
      simp [conjoined]

end Query

/-- How a way of joining predicates with a connective relates a predicate to its sides. -/
structure Flattens (c : Connective) (join : Expr → Expr → Expr) (combine : Truth → Truth → Truth) :
    Prop where
  truth : ∀ given left right,
    (join left right).truth given = combine (left.truth given) (right.truth given)
  leaves : ∀ left right,
    (join left right).placed = (left.placed ++ right.placed).map (Placed.under c)
  fold : ∀ first second rest,
    (second :: rest).foldl join first = .junction c (first.items c ++ second :: rest)
  items : ∀ (first : Expr) (rest : List Expr),
    (rest.foldl join first).items c = first.items c ++ rest

theorem Expr.flattens_join (c : Connective) : Flattens c (Expr.join c) c.combine where
  truth given left right := Expr.truth_join given c left right
  leaves left right := Expr.placed_join c left right
  fold first second rest := Expr.foldl_join c first second rest
  items first rest := Expr.items_foldl_join c first rest

/--
Flattening keeps the meaning of predicates.

Joined predicates have the truth value of the conjunction or disjunction of their sides, and their
leaf predicates are those of the left side and then those of the right side, each within the
junctions that were around it and one of the connective. Joining predicates one after the other onto
a first one collects them in a single junction, behind the items of the first one. The restriction of
a query is true, false or unknown as the conjunction of what was demanded, and has the leaf
predicates of what was demanded in order.
-/
theorem flattening_keeps_meaning :
    Flattens .and Expr.and Truth.and ∧ Flattens .or Expr.or Truth.or ∧
      ∀ (q : Query) (calls : List Restricting), q.RestrictedBy calls :=
  ⟨Expr.flattens_join .and, Expr.flattens_join .or, Query.restrictedBy⟩

end ParamQuery
