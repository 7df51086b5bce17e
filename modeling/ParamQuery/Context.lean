import ParamQuery.Log
import ParamQuery.Naming
import ParamQuery.Parameter
import ParamQuery.Settings.Basic
import ParamQuery.Value.Basic

/-!
# Rendering contexts

The state that is kept while one query is rendered: which names are in use, which values were bound
to generated names, and which name each explicit parameter has. A generated name is the first
numbered one that is not in use, and counting goes on behind it. The operations are state actions,
so that rendering can pass one context from part to part.
-/

namespace ParamQuery

/-- The value of a literal, bound to a generated name. -/
structure Binding where
  name : String
  value : Value
  type : Option ValueType

/-- An explicit parameter with the name that stands for it in the text. -/
structure NamedParameter where
  name : String
  parameter : Parameter
deriving DecidableEq, Repr

structure Context where
  settings : Settings
  next : Nat
  used : List String
  bindings : List Binding
  parameters : List NamedParameter
  events : List Log.Event

namespace Context

def start (settings : Settings) : Context :=
  ⟨settings, settings.parameterStart.toNat, [], [], [], []⟩

def report (event : Log.Event) : StateM Context Unit :=
  modify fun c => { c with events := c.events ++ [event] }

def reserve (name : String) : StateM Context Unit :=
  modify fun c => { c with used := name :: c.used }

def generateName : StateM Context String := do
  let c ← get
  let counter := Naming.firstFree c.settings.parameterPrefix c.used c.next
  let name := numbered c.settings.parameterPrefix counter
  set { c with next := counter + 1, used := name :: c.used }
  report (.nameGenerated name)
  return name

def placeholder (name : String) : StateM Context String := do
  return (← get).settings.placeholder name

def registerBinding (binding : Binding) : StateM Context Unit := do
  report (.bindingRegistered binding.name)
  modify fun c => { c with bindings := c.bindings ++ [binding] }

def nameOf? (c : Context) (p : Parameter) : Option String :=
  (c.parameters.find? fun q => q.parameter.key == p.key).map NamedParameter.name

/-- The name for a key that has none: its own text, or a generated name if it is unnamed. -/
def nameFor (key : Parameter.Key) : StateM Context String :=
  match key with
  | .unnamed _ => generateName
  | key => do
    reserve key.text
    return key.text

/-- The name of an explicit parameter, the same one for all parameters with its key. -/
def registerParameter (p : Parameter) : StateM Context String := do
  match (← get).nameOf? p with
  | some name => return name
  | none =>
    let name ← nameFor p.key
    modify fun c => { c with parameters := c.parameters ++ [⟨name, p⟩] }
    return name

end Context

end ParamQuery
