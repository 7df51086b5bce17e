import ParamQuery.Compiled

/-!
# Prepared queries

A prepared query holds the values of a compiled query's parameters. Values are written by name or
by explicit parameter; a name that is declared more than once stands for its first declaration. A
write that fails changes nothing.
-/

namespace ParamQuery

/-- A parameter that takes a value; for the parameter of a literal nothing but its name is known. -/
structure Declared where
  name : String
  explicit? : Option Parameter
deriving DecidableEq, Repr

structure Prepared where
  text : String
  declared : List Declared
  values : List (String × Value)
  events : List Log.Event

namespace Prepared

def value? (p : Prepared) (name : String) : Option Value := p.values.lookup name

def isBound (p : Prepared) (name : String) : Bool := (p.value? name).isSome

/-- The declared names that have values, with these, in the order of declaration. -/
def boundValues (p : Prepared) : List (String × Value) :=
  p.declared.filterMap fun d => (p.value? d.name).map (d.name, ·)

/-- Gives a name a value, in place of the one that it may have. -/
def put (p : Prepared) (name : String) (value : Value) : Prepared :=
  { p with values := (name, value) :: p.values.filter (·.1 != name) }

/-- A name that is kept has the same value among the entries that are kept. -/
theorem lookup_filter (keep : String → Bool) {name : String} (kept : keep name = true)
    (entries : List (String × Value)) :
    (entries.filter fun entry => keep entry.1).lookup name = entries.lookup name := by
  induction entries with
  | nil => rfl
  | cons entry rest ih =>
    obtain ⟨first, value⟩ := entry
    by_cases same : name = first
    · subst same
      simp [kept]
    · have other : (name == first) = false := beq_eq_false_iff_ne.2 same
      by_cases keeps : keep first = true <;> simp [keeps, List.lookup_cons, other, ih]

/-- A name that is given a value has it, and no other name is touched. -/
theorem value?_put (p : Prepared) (name n : String) (value : Value) :
    (p.put name value).value? n = if n = name then some value else p.value? n := by
  by_cases h : n = name
  · simp [put, value?, h]
  · have kept := lookup_filter (· != name) (bne_iff_ne.2 h) p.values
    simp [put, value?, List.lookup_cons, beq_eq_false_iff_ne.2 h, h, kept]

def report (p : Prepared) (event : Log.Event) : Prepared :=
  { p with events := p.events ++ [event] }

/-- Gives an explicit parameter a value that suits it, and reports if it had one before. -/
def rebind (p : Prepared) (name : String) (value : Value) : Prepared :=
  if p.isBound name then (p.report (.parameterRebound name)).put name value
  else p.put name value

/-- Writes the value of a declared name; an explicit parameter takes null and its own type only. -/
def write (p : Prepared) (name : String) (value : Value) : Except QueryError Prepared :=
  match p.declared.find? (·.name == name) with
  | none => .error (.unknownParameter name)
  | some ⟨_, none⟩ => .ok (p.put name value)
  | some ⟨_, some parameter⟩ =>
    match value.runtimeType? with
    | none => .ok (p.rebind name value)
    | some actual =>
      if actual = parameter.type then .ok (p.rebind name value)
      else .error (.typeMismatch name parameter.type actual)

def nameOf? (p : Prepared) (key : Parameter.Key) : Option String :=
  (p.declared.find? fun d => d.explicit?.any (·.key == key)).map Declared.name

def bind (p : Prepared) (parameter : Parameter) (value : Value) : Except QueryError Prepared :=
  match p.nameOf? parameter.key with
  | none => .error (.unknownParameter parameter.key.text)
  | some name => p.write name value

/-- Fails with the first declared name that has no value. -/
def ensureComplete (p : Prepared) : Except QueryError Unit :=
  match p.declared.find? fun d => !p.isBound d.name with
  | none => .ok ()
  | some d => .error (.unboundParameter d.name)

end Prepared

/--
Writes values one after the other, up to the first write that fails.

The outcome comes with what has been written by then. Values can be written to anything that has a
way of writing.
-/
def writeAll {σ : Type} (write : σ → String → Value → Except QueryError σ) :
    List Binding → σ → Except QueryError Unit × σ
  | [], state => (.ok (), state)
  | b :: rest, state =>
    match write state b.name b.value with
    | .error e => (.error e, state)
    | .ok next => writeAll write rest next

namespace Compiled

/-- The parameters of a compiled query, those of literals first. -/
def declared (c : Compiled) : List Declared :=
  c.bindings.map (⟨·.name, none⟩) ++ c.parameters.map fun p => ⟨p.name, some p.parameter⟩

def applyBindings {σ : Type} (c : Compiled)
    (write : σ → String → Value → Except QueryError σ) (state : σ) :
    Except QueryError Unit × σ :=
  writeAll write c.bindings state

def blank (c : Compiled) : Prepared := ⟨c.text, c.declared, [], []⟩

def prepare (c : Compiled) : Except QueryError Prepared :=
  match c.applyBindings Prepared.write c.blank with
  | (.ok (), p) => .ok p
  | (.error e, _) => .error e

end Compiled

end ParamQuery
