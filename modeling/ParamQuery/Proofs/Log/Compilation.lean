import ParamQuery.Proofs.Naming.Compiled
import ParamQuery.Proofs.Template.Occurrences

/-!
# The log of a compilation

Compiling reports the names that are generated and the bindings that are registered, leaf by leaf
from left to right, and then the outcome. Whether a leaf is reported depends on the keys before it
alone (`Leaf.events`), so the tables of the outcome tell the log (`events_tell_compilation`).
A query that does not compile has no log. That this loses nothing is seen by compiling it step by
step, with the context kept when a step fails: by then nothing was reported (`Query.attempt_eq`).
-/

namespace ParamQuery

open Context

/-! ## The events of leaves -/

/-- What is reported for a leaf of the given name, if these keys were met before it. -/
def Leaf.events (met : List Parameter.Key) (name : String) : Leaf → List Log.Event
  | .literal .. => [.nameGenerated name, .bindingRegistered name]
  | .parameter p => if p.key.isUnnamed = true ∧ p.key ∉ met then [.nameGenerated name] else []

def leafEvents (met : List Parameter.Key) : List Leaf → List String → List Log.Event
  | leaf :: rest, name :: names =>
    leaf.events met name ++
      leafEvents (met ++ (leaf.parameter?.map Parameter.key).toList) rest names
  | _, _ => []

def Log.Event.registered? : Event → Option String
  | .bindingRegistered name => some name
  | _ => none

namespace Context

variable {c c' : Context} {leaf : Leaf} {name : String}

/-- A step reports what is due for its leaf, if the keys met before it are those in the table. -/
theorem Step.events_eq (step : Step c leaf name c') {met : List Parameter.Key}
    (same : ∀ key, key ∈ met ↔ key ∈ NamedParameter.keys c.parameters) :
    c'.events = c.events ++ leaf.events met name := by
  cases step with
  | literal value type => exact List.append_assoc ..
  | @known p name known =>
    have listed : p.key ∈ met := (same p.key).2 (NamedParameter.mem_keys_of_nameIn? known)
    rw [Leaf.events, if_neg fun new => new.2 listed, List.append_nil]
  | chosen unknown own =>
    rw [Leaf.events, if_neg fun new => by simp [own] at new, List.append_nil]
    rfl
  | @generated p unknown unnamed =>
    have new : p.key ∉ met :=
      fun old => NamedParameter.nameIn?_eq_none_iff.1 unknown ((same p.key).1 old)
    rw [Leaf.events, if_pos ⟨unnamed, new⟩]
    rfl

theorem Step.mem_keys_iff (step : Step c leaf name c') {key : Parameter.Key} :
    key ∈ NamedParameter.keys c'.parameters ↔
      key ∈ NamedParameter.keys c.parameters ∨
        key ∈ (leaf.parameter?.map Parameter.key).toList := by
  cases step with
  | literal value type => simp [Leaf.parameter?]
  | @known p name known =>
    have listed := NamedParameter.mem_keys_of_nameIn? known
    simp only [Leaf.parameter?, Option.map_some, Option.toList_some, List.mem_singleton,
      iff_self_or]
    rintro rfl
    exact listed
  | chosen unknown own => simp [Leaf.parameter?, NamedParameter.keys]
  | generated unknown unnamed => simp [Leaf.parameter?, NamedParameter.keys]

end Context

theorem events_nameLeaves (leaves : List Leaf) (c : Context) {met : List Parameter.Key}
    (same : ∀ key, key ∈ met ↔ key ∈ NamedParameter.keys c.parameters) :
    (nameLeaves leaves c).2.events = c.events ++ leafEvents met leaves (nameLeaves leaves c).1 := by
  induction leaves generalizing c met with
  | nil => exact (List.append_nil _).symm
  | cons leaf rest ih =>
    have step := step_name leaf c
    have met_next : ∀ key, key ∈ met ++ (leaf.parameter?.map Parameter.key).toList ↔
        key ∈ NamedParameter.keys (leaf.name c).2.parameters := by
      intro key
      rw [List.mem_append, step.mem_keys_iff, same]
    rw [nameLeaves_cons, leafEvents, ih _ met_next, step.events_eq same, List.append_assoc]

/-- The names under which bindings are registered are those of the literals. -/
theorem TablesName.filterMap_registered? {parameters : List NamedParameter}
    {bindings : List Binding} {leaves : List Leaf} {names : List String}
    (named : TablesName parameters bindings leaves names) (met : List Parameter.Key) :
    (leafEvents met leaves names).filterMap Log.Event.registered? = bindings.map Binding.name := by
  induction named generalizing met with
  | nil => rfl
  | literal rest ih => exact congrArg _ (ih _)
  | @parameter p name bindings leaves names looked rest ih =>
    have silent : ((Leaf.parameter p).events met name).filterMap Log.Event.registered? = [] := by
      rw [Leaf.events]
      split <;> rfl
    rw [leafEvents, List.filterMap_append, silent, ih, List.nil_append]

/-! ## The events of a compilation -/

def Compiled.summary (settings : Settings) (c : Compiled) : List Log.Event :=
  if settings.logBindings then
    [.queryCompiled c.text (bindingsText settings.reprMaxChars.toNat c.bindings)
      c.parameters.length]
  else []

/-- The log of a compilation is told by the tables of its outcome. -/
structure Compiled.Reported (settings : Settings) (c : Compiled) (occurrences : List Leaf)
    (events : List Log.Event) : Prop where
  /-- Leaf by leaf, under the names that the tables give, and then the outcome. -/
  told : ∃ names, c.Names occurrences names ∧
    events = leafEvents [] occurrences names ++ c.summary settings
  registered : events.filterMap Log.Event.registered? = c.bindings.map Binding.name

theorem Template.compile_reported (settings : Settings) (t : Template) :
    (compile settings t).1.Reported settings (leaves t) (compile settings t).2 := by
  have named := names_compile settings t
  have told : (compile settings t).2 =
      leafEvents [] (leaves t) (nameLeaves (leaves t) (initial settings t)).1 ++
        (compile settings t).1.summary settings := by
    have none : ∀ key, key ∈ [] ↔ key ∈ NamedParameter.keys (initial settings t).parameters := by
      rw [parameters_initial]
      exact fun _ => Iff.rfl
    rw [compile_snd, final, events_nameLeaves _ _ none, events_initial]
    rfl
  refine ⟨⟨_, named, told⟩, ?_⟩
  have silent : ((compile settings t).1.summary settings).filterMap Log.Event.registered? = [] := by
    rw [Compiled.summary]
    split <;> rfl
  rw [told, List.filterMap_append, named.filterMap_registered?, silent, List.append_nil]

/-! ## Compiling step by step -/

namespace Query

/-- Renders what a query selects, looking at its roots only if there is no selection. -/
def attemptSelection (q : Query) : ExceptT QueryError (StateM Context) String :=
  match q.selections, q.roots with
  | [], [root] => return root.aliasName
  | [], roots => throw (.ambiguousSelection roots.length)
  | selections, _ => return ", ".intercalate (← Expr.renderAll selections)

/-- Renders a query part by part. Where a part fails, what the parts before it did is kept. -/
def attemptRender (q : Query) : ExceptT QueryError (StateM Context) String := do
  if q.roots.isEmpty then throw .missingRoot
  let selection ← q.attemptSelection
  q.renderSelecting (return selection)

/-- Compiles a query step by step. What was reported is kept, whether a step fails or not. -/
def attempt (settings : Settings) (q : Query) : Except QueryError Compiled × List Log.Event :=
  let registry := q.register .empty
  match q.attemptRender.run.run (Compiled.contextFor settings registry) with
  | (.error e, context) => (.error e, context.events)
  | (.ok text, context) =>
    let compiled : Compiled :=
      ⟨text, context.bindings, context.parameters, registry, settings.marker⟩
    (.ok compiled, context.events ++ compiled.summary settings)

/-- Rendering part by part fails where the query has no rendering, and before anything is done. -/
theorem attemptRender_run (q : Query) (c : Context) :
    q.attemptRender.run.run c =
      match q.render with
      | .error e => (.error e, c)
      | .ok rendering => (.ok (rendering c).1, (rendering c).2) := by
  unfold attemptRender attemptSelection render
  cases q.roots with
  | nil => rfl
  | cons root roots =>
    cases q.selections with
    | nil => cases roots <;> rfl
    | cons e es => cases roots <;> rfl

/-- Compiling step by step has the same outcome, and reports nothing if it fails. -/
theorem attempt_eq (settings : Settings) (q : Query) :
    q.attempt settings =
      match q.compile settings with
      | .error e => (.error e, [])
      | .ok (c, events) => (.ok c, events) := by
  rw [attempt, compile, attemptRender_run]
  cases q.render with
  | error e =>
    rw [Compiled.contextFor_eq]
    rfl
  | ok rendering => rfl

end Query

/--
The log of a compilation is true.

From left to right it has the generated name and then the registered binding for each literal, the
generated name for each unnamed parameter where that occurs first, and nothing for other leaves. If
the settings say so, one more event has the text that is returned, the bindings as they are logged,
and the number of explicit parameters. A query that does not compile reports nothing on the way.
-/
theorem events_tell_compilation (settings : Settings) :
    (∀ e : Expr,
      (e.compile settings).1.Reported settings e.occurrences (e.compile settings).2) ∧
      ∀ q : Query,
        (∀ c events, q.compile settings = .ok (c, events) →
          c.Reported settings q.occurrences events ∧ q.attempt settings = (.ok c, events)) ∧
        ∀ e, q.compile settings = .error e → q.attempt settings = (.error e, []) := by
  refine ⟨?_, fun q => ⟨?_, ?_⟩⟩
  · intro e
    rw [e.compile_eq, e.occurrences_eq]
    exact Template.compile_reported settings e.template
  · intro c events compiled
    refine ⟨?_, by rw [q.attempt_eq, compiled]⟩
    obtain ⟨t, -, same, outcome⟩ := q.exists_template compiled
    rw [q.occurrences_eq, ← same, show c = _ from congrArg Prod.fst outcome,
      show events = _ from congrArg Prod.snd outcome]
    exact Template.compile_reported settings t
  · intro e fails
    rw [q.attempt_eq, fails]

/--
An unnamed parameter occurs twice, and a later name makes the first generated one move on. Of the
eleven characters of the bindings, a limit of ten leaves five at either end.
-/
theorem events_tell_compilation_of_repeated_parameter :
    let settings : Settings := { Settings.standard with reprMaxChars := 10 }
    let unnamed : Parameter := ⟨.unnamed "a", .int⟩
    let e : Expr := .junction .and [
      .comparison .equal (.parameter unnamed) (.literal (.scalar (.int 1)) (some .int)),
      .comparison .less (.parameter ⟨.named "param0", .int⟩) (.parameter unnamed)]
    let query : Query := ((Query.start "t").addRoot "Person").2.restrict e
    let ambiguous : Query := (query.addRoot "Order").2
    (e.compile settings).2 =
        [.nameGenerated "param1", .nameGenerated "param2", .bindingRegistered "param2",
          .queryCompiled "(:param1 = :param2 and :param0 < :param1)"
            "\x7bpara  ... (1 characters truncated) ...  2: 1\x7d" 2] ∧
      (e.compile settings).1.Reported settings e.occurrences (e.compile settings).2 ∧
      (∃ c events, query.compile settings = .ok (c, events) ∧
        c.Reported settings query.occurrences events) ∧
      ambiguous.compile settings = .error (.ambiguousSelection 2) ∧
      ambiguous.attempt settings = (.error (.ambiguousSelection 2), []) := by
  intro settings unnamed e query ambiguous
  have reported := events_tell_compilation settings
  have fails : ambiguous.compile settings = .error (.ambiguousSelection 2) := rfl
  exact ⟨by decide +kernel, reported.1 e, ⟨_, _, rfl, ((reported.2 query).1 _ _ rfl).1⟩, fails,
    (reported.2 ambiguous).2 _ fails⟩

end ParamQuery
