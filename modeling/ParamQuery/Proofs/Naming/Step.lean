import Mathlib.Tactic.Simps.Basic
import ParamQuery.Proofs.Template

/-!
# Naming leaves step by step

What naming one leaf can do is said once (`Context.Step`): a literal and an unnamed parameter that
is met first get the next fresh name, any other parameter that is met first gets the text of its
key, and a parameter that was met before keeps its name and changes nothing. Properties of contexts
that every step keeps hold after all leaves are named (`nameLeaves_induct`), and rendering a template
is naming its leaves and filling in their tokens (`Template.render_run`).
-/

namespace ParamQuery

def Parameter.Key.isUnnamed : Parameter.Key → Bool
  | .unnamed _ => true
  | _ => false

def NamedParameter.nameIn? (parameters : List NamedParameter) (key : Parameter.Key) :
    Option String :=
  (parameters.find? fun q => q.parameter.key == key).map NamedParameter.name

def Leaf.tokens (marker : Char) (leaves : List Leaf) (names : List String) : List String :=
  List.zipWith (Leaf.token marker) leaves names

namespace Context

def freshCounter (c : Context) : Nat :=
  Naming.firstFree c.settings.parameterPrefix c.used c.next

def freshName (c : Context) : String := numbered c.settings.parameterPrefix c.freshCounter

@[simps]
def advance (c : Context) : Context where
  settings := c.settings
  next := c.freshCounter + 1
  used := c.freshName :: c.used
  bindings := c.bindings
  parameters := c.parameters
  events := c.events ++ [.nameGenerated c.freshName]

@[simps]
def addBinding (c : Context) (b : Binding) : Context where
  settings := c.settings
  next := c.next
  used := c.used
  bindings := c.bindings ++ [b]
  parameters := c.parameters
  events := c.events ++ [.bindingRegistered b.name]

@[simps]
def addUsed (c : Context) (name : String) : Context where
  settings := c.settings
  next := c.next
  used := name :: c.used
  bindings := c.bindings
  parameters := c.parameters
  events := c.events

@[simps]
def addParameter (c : Context) (name : String) (p : Parameter) : Context where
  settings := c.settings
  next := c.next
  used := c.used
  bindings := c.bindings
  parameters := c.parameters ++ [⟨name, p⟩]
  events := c.events

/-- Naming a leaf in the first context gives the name and leads to the second context. -/
inductive Step (c : Context) : Leaf → String → Context → Prop
  | literal (value : Value) (type : Option ValueType) :
    Step c (.literal value type) c.freshName (c.advance.addBinding ⟨c.freshName, value, type⟩)
  | known {p : Parameter} {name : String}
      (known : NamedParameter.nameIn? c.parameters p.key = some name) :
    Step c (.parameter p) name c
  | chosen {p : Parameter} (unknown : NamedParameter.nameIn? c.parameters p.key = none)
      (own : p.key.isUnnamed = false) :
    Step c (.parameter p) p.key.text ((c.addUsed p.key.text).addParameter p.key.text p)
  | generated {p : Parameter} (unknown : NamedParameter.nameIn? c.parameters p.key = none)
      (unnamed : p.key.isUnnamed = true) :
    Step c (.parameter p) c.freshName (c.advance.addParameter c.freshName p)

/-- A parameter that has a name keeps it; any other one is recorded under a name for its key. -/
theorem registerParameter_run (p : Parameter) (c : Context) :
    registerParameter p c =
      match NamedParameter.nameIn? c.parameters p.key with
      | some name => (name, c)
      | none => ((nameFor p.key c).1, (nameFor p.key c).2.addParameter (nameFor p.key c).1 p) := by
  have unfolded : registerParameter p c =
      (match c.nameOf? p with
        | some name => pure name
        | none => do
          let name ← nameFor p.key
          modify fun c => c.addParameter name p
          return name : StateM Context String) c := rfl
  rw [unfolded]
  show _ = match c.nameOf? p with
    | some name => (name, c)
    | none => ((nameFor p.key c).1, (nameFor p.key c).2.addParameter (nameFor p.key c).1 p)
  cases c.nameOf? p <;> rfl

theorem step_name (leaf : Leaf) (c : Context) : Step c leaf (leaf.name c).1 (leaf.name c).2 := by
  cases leaf with
  | literal value type => exact .literal value type
  | parameter p =>
    have run : (Leaf.parameter p).name c = registerParameter p c := rfl
    rw [run, registerParameter_run]
    cases h : NamedParameter.nameIn? c.parameters p.key with
    | some name => exact .known h
    | none =>
      obtain ⟨key, type⟩ := p
      cases key with
      | named name => exact .chosen h rfl
      | positional position => exact .chosen h rfl
      | unnamed token => exact .generated h rfl

/-- What a step leads to is what naming the leaf leads to. -/
theorem Step.name_eq {c c' : Context} {leaf : Leaf} {name : String} (step : Step c leaf name c') :
    leaf.name c = (name, c') := by
  have named (p : Parameter) : (Leaf.parameter p).name c = registerParameter p c := rfl
  cases step with
  | literal value type => rfl
  | known known => rw [named, registerParameter_run, known]
  | @chosen p unknown own =>
    rw [named, registerParameter_run, unknown]
    obtain ⟨key, type⟩ := p
    cases key with
    | named name => rfl
    | positional position => rfl
    | unnamed token => cases own
  | @generated p unknown unnamed =>
    rw [named, registerParameter_run, unknown]
    obtain ⟨key, type⟩ := p
    cases key with
    | named name => cases unnamed
    | positional position => cases unnamed
    | unnamed token => rfl

theorem Step.settings_eq {c c' : Context} {leaf : Leaf} {name : String}
    (step : Step c leaf name c') : c'.settings = c.settings := by
  cases step <;> rfl

/-- Literals alone are bound. -/
theorem Step.bindings_eq {c c' : Context} {p : Parameter} {name : String}
    (step : Step c (.parameter p) name c') : c'.bindings = c.bindings := by
  cases step <;> rfl

theorem freshName_not_mem (c : Context) : c.freshName ∉ c.used :=
  Naming.firstFree_not_mem _ _ _

end Context

open Context

theorem nameLeaves_cons (leaf : Leaf) (rest : List Leaf) (c : Context) :
    nameLeaves (leaf :: rest) c =
      ((leaf.name c).1 :: (nameLeaves rest (leaf.name c).2).1,
        (nameLeaves rest (leaf.name c).2).2) := rfl

/-- Two runs are in lockstep if each single step is. -/
theorem nameLeaves_map {f : Leaf → Leaf} {g : Context → Context}
    (step : ∀ leaf c, (f leaf).name (g c) = ((leaf.name c).1, g (leaf.name c).2))
    (leaves : List Leaf) (c : Context) :
    nameLeaves (leaves.map f) (g c) = ((nameLeaves leaves c).1, g (nameLeaves leaves c).2) := by
  induction leaves generalizing c with
  | nil => rfl
  | cons leaf rest ih => rw [List.map_cons, nameLeaves_cons, nameLeaves_cons, step, ih]

theorem Leaf.tokens_map {f : Leaf → Leaf} {marker : Char}
    (same : ∀ leaf : Leaf, (f leaf).token marker = leaf.token marker) (leaves : List Leaf)
    (names : List String) : tokens marker (leaves.map f) names = tokens marker leaves names := by
  rw [tokens, List.zipWith_map_left, tokens]
  simp only [same]

/-- What holds at the start and is kept by every step holds after all leaves are named. -/
theorem nameLeaves_induct {P : Context → Prop} {leaves : List Leaf} {c : Context} (start : P c)
    (step : ∀ leaf ∈ leaves, ∀ c name c', Step c leaf name c' → P c → P c') :
    P (nameLeaves leaves c).2 := by
  induction leaves generalizing c with
  | nil => exact start
  | cons leaf rest ih =>
    have first : P (leaf.name c).2 :=
      step leaf List.mem_cons_self c _ _ (step_name leaf c) start
    exact ih first fun next mem => step next (List.mem_cons_of_mem leaf mem)

theorem settings_nameLeaves (leaves : List Leaf) (c : Context) :
    (nameLeaves leaves c).2.settings = c.settings :=
  nameLeaves_induct (P := fun c' => c'.settings = c.settings) rfl
    fun _ _ _ _ _ step same => step.settings_eq.trans same

/-- Rendering a template is naming its leaves and filling in what stands for them. -/
theorem Template.render_run (t : Template) (c : Context) :
    render t c =
      (fill t (Leaf.tokens c.settings.marker (leaves t) (nameLeaves (leaves t) c).1),
        (nameLeaves (leaves t) c).2) := by
  induction t generalizing c with
  | nil => rfl
  | cons piece rest ih =>
    cases piece with
    | fixed text =>
      have head : render (.fixed text :: rest) c =
        (text ++ (render rest c).1, (render rest c).2) := rfl
      rw [head, ih]
      rfl
    | leaf leaf =>
      have same : (leaf.name c).2.settings = c.settings := (step_name leaf c).settings_eq
      have head : render (.leaf leaf :: rest) c =
        (leaf.token (leaf.name c).2.settings.marker (leaf.name c).1 ++
          (render rest (leaf.name c).2).1, (render rest (leaf.name c).2).2) := rfl
      rw [head, ih, same]
      rfl

end ParamQuery
