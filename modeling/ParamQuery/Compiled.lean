import ParamQuery.Expr.Render
import ParamQuery.Registry
import ParamQuery.Value.Literal

/-!
# Compiled queries

A compiled query is its text with all that is needed to bind its parameters. Compiling registers
the explicit parameters first, so that the names that the author chose are in use before the first
name is generated, and renders then.

For reading only, every placeholder of a bound literal can be replaced by the literal's text. A
placeholder is the marker with the longest name behind it. What stands behind a marker and is not
the name of a literal stays as it is.
-/

namespace ParamQuery

/-! ## Errors -/

inductive QueryError where
  /-- A query selects from nothing. -/
  | missingRoot
  /-- A query selects from several roots and does not say what. -/
  | ambiguousSelection (roots : Nat)
  /-- A value is bound to a parameter that the query does not have. -/
  | unknownParameter (name : String)
  /-- A value is bound to a parameter of another type. -/
  | typeMismatch (name : String) (expected actual : ValueType)
  /-- A parameter has no value. -/
  | unboundParameter (name : String)
deriving DecidableEq, Repr

def QueryError.message : QueryError → String
  | .missingRoot => "criteria query has no root; call `from` before compiling"
  | .ambiguousSelection roots =>
    "criteria query has " ++ toString roots ++ " roots and no selection"
  | .unknownParameter name => "unknown query parameter `" ++ name ++ "`"
  | .typeMismatch name expected actual =>
    "parameter `" ++ name ++ "` expects " ++ expected.name ++ ", got " ++ actual.name
  | .unboundParameter name => "no value bound for parameter `" ++ name ++ "`"

/-! ## Compiling -/

structure Compiled where
  text : String
  bindings : List Binding
  parameters : List NamedParameter
  registry : Registry
  marker : Char

def Binding.text (b : Binding) : String := b.name ++ ": " ++ b.value.literalText

/-- Bound values as they are logged, shortened to a number of characters. -/
def bindingsText (limit : Nat) (bindings : List Binding) : String :=
  Text.truncate limit ("\x7b" ++ ", ".intercalate (bindings.map Binding.text) ++ "\x7d")

namespace Compiled

/-- The names of all parameters, the generated ones of literals first. -/
def names (c : Compiled) : List String :=
  c.bindings.map Binding.name ++ c.parameters.map NamedParameter.name

def event (settings : Settings) (c : Compiled) : Log.Event :=
  .queryCompiled c.text (bindingsText settings.reprMaxChars.toNat c.bindings) c.parameters.length

def contextFor (settings : Settings) (registry : Registry) : Context :=
  registry.names.foldl (fun context name => (Context.reserve name context).2)
    (Context.start settings)

/-- Runs a rendering and collects its outcome, with the events on the way. -/
def ofRendering (settings : Settings) (registry : Registry) (render : StateM Context String) :
    Compiled × List Log.Event :=
  let (text, context) := render.run (contextFor settings registry)
  let compiled : Compiled :=
    ⟨text, context.bindings, context.parameters, registry, settings.marker⟩
  let summary := if settings.logBindings then [compiled.event settings] else []
  (compiled, context.events ++ summary)

end Compiled

def Expr.compile (settings : Settings) (e : Expr) : Compiled × List Log.Event :=
  Compiled.ofRendering settings (e.register .empty) e.render

/-! ## Values in place -/

namespace Compiled

/-- The text that stands for a marker and the name behind it. -/
def inlineName (c : Compiled) (name : List Char) : List Char :=
  match c.bindings.find? fun b => b.name == String.ofList name with
  | some binding => if name.isEmpty then [c.marker] else binding.value.literalText.toList
  | none => c.marker :: name

def inlineChars (c : Compiled) : List Char → List Char
  | [] => []
  | x :: rest =>
    if x = c.marker then
      c.inlineName (rest.takeWhile isNameChar) ++ c.inlineChars (rest.dropWhile isNameChar)
    else x :: c.inlineChars rest
termination_by cs => cs.length
decreasing_by
  · have := (List.dropWhile_suffix isNameChar (l := rest)).length_le
    simp only [List.length_cons]
    omega
  · simp

def inlineText (c : Compiled) : String := String.ofList (c.inlineChars c.text.toList)

end Compiled

end ParamQuery
