import ParamQuery.Proofs.Naming.Tables
import ParamQuery.Proofs.Template.Occurrences

/-!
# Requests to a context

A context is asked for names, bindings and texts in any order. A text takes one naming for each of
its leaves, so a run of requests is a run of single moves (`Context.serveAll_eq`). What one move can
do decides what a whole run can do: a name that is made up was never taken before, a key keeps the
name that it got first, and both tables grow at their ends only (`Context.run_orderly`).
-/

namespace ParamQuery

namespace Context

inductive Request where
  | reserve (name : String)
  | generate
  | bind (binding : Binding)
  | register (parameter : Parameter)
  | render (e : Expr)
  /-- The text of an expression that a query selects. -/
  | project (e : Expr)

/-- Serves a request. The answer is a name or a text, if there is one. -/
def Request.serve : Request → StateM Context (Option String)
  | .reserve name => do
    Context.reserve name
    return none
  | .generate => return some (← generateName)
  | .bind binding => do
    registerBinding binding
    return none
  | .register p => return some (← registerParameter p)
  | .render e => return some (← e.render)
  | .project e => return some (← e.render)

def serveAll : List Request → Context → Context
  | [], c => c
  | r :: rest, c => serveAll rest (r.serve c).2

/-- The least that a context does at once. -/
inductive Move where
  | reserve (name : String)
  | generate
  | bind (binding : Binding)
  | nameLeaf (leaf : Leaf)

def Move.make : Move → StateM Context (Option String)
  | .reserve name => do
    Context.reserve name
    return none
  | .generate => return some (← generateName)
  | .bind binding => do
    registerBinding binding
    return none
  | .nameLeaf leaf => return some (← leaf.name)

def makeAll : List Move → Context → Context
  | [], c => c
  | move :: rest, c => makeAll rest (move.make c).2

def answers : List Move → Context → List String
  | [], _ => []
  | move :: rest, c => (move.make c).1.toList ++ answers rest (move.make c).2

namespace Request

/-- The moves that serve a request: a text needs a name for each of its leaves. -/
def moves : Request → List Move
  | .reserve name => [.reserve name]
  | .generate => [.generate]
  | .bind binding => [.bind binding]
  | .register p => [.nameLeaf (.parameter p)]
  | .render e => e.occurrences.map .nameLeaf
  | .project e => e.occurrences.map .nameLeaf

def answer (marker : Char) (names : List String) : Request → Option String
  | .reserve _ => none
  | .generate => names.head?
  | .bind _ => none
  | .register _ => names.head?
  | .render e => some (e.template.fill (Leaf.tokens marker e.occurrences names))
  | .project e => some (e.template.fill (Leaf.tokens marker e.occurrences names))

end Request

namespace Move

/--
Whether a move makes up a name.

It does so if it is asked to, for a literal, and for an unnamed parameter that has no name yet.
-/
def Generates (c : Context) : Move → Prop
  | .reserve _ => False
  | .generate => True
  | .bind _ => False
  | .nameLeaf (.literal ..) => True
  | .nameLeaf (.parameter p) =>
    p.key.isUnnamed = true ∧ p.key ∉ NamedParameter.keys c.parameters

/-- The name that a move reserves, makes up, or records for an explicit parameter. -/
def taken? (c : Context) : Move → Option String
  | .reserve name => some name
  | .generate => (generate.make c).1
  | .bind _ => none
  | .nameLeaf leaf => ((nameLeaf leaf).make c).1

end Move

def taken : List Move → Context → List String
  | [], _ => []
  | move :: rest, c => (move.taken? c).toList ++ taken rest (move.make c).2

/-! ## Single moves -/

theorem make_nameLeaf (leaf : Leaf) (c : Context) :
    (Move.nameLeaf leaf).make c = (some (leaf.name c).1, (leaf.name c).2) := rfl

theorem Move.Generates.make_fst {c : Context} {move : Move} (h : move.Generates c) :
    (move.make c).1 = some c.freshName := by
  cases move with
  | reserve name => exact h.elim
  | generate => rfl
  | bind binding => exact h.elim
  | nameLeaf leaf =>
    rw [make_nameLeaf]
    have step := step_name leaf c
    generalize (leaf.name c).1 = name, (leaf.name c).2 = next at step
    cases step with
    | literal value type => rfl
    | known known => exact absurd (NamedParameter.mem_keys_of_nameIn? known) h.2
    | chosen unknown own => simp [h.1] at own
    | generated unknown unnamed => rfl

theorem settings_make (move : Move) (c : Context) : (move.make c).2.settings = c.settings := by
  cases move with
  | reserve name => rfl
  | generate => rfl
  | bind binding => rfl
  | nameLeaf leaf => exact (step_name leaf c).settings_eq

theorem make_grows (move : Move) (c : Context) :
    c.bindings <+: (move.make c).2.bindings ∧ c.parameters <+: (move.make c).2.parameters := by
  cases move with
  | reserve name => exact ⟨List.prefix_refl _, List.prefix_refl _⟩
  | generate => exact ⟨List.prefix_refl _, List.prefix_refl _⟩
  | bind binding => exact ⟨List.prefix_append _ _, List.prefix_refl _⟩
  | nameLeaf leaf =>
    obtain ⟨⟨parameters, same⟩, bindings, also⟩ := (step_name leaf c).grows
    rw [make_nameLeaf, same, also]
    exact ⟨List.prefix_append _ _, List.prefix_append _ _⟩

theorem Step.nodup_keys {c c' : Context} {leaf : Leaf} {name : String}
    (step : Step c leaf name c') (nodup : (NamedParameter.keys c.parameters).Nodup) :
    (NamedParameter.keys c'.parameters).Nodup := by
  have added {p : Parameter} (name : String)
      (unknown : NamedParameter.nameIn? c.parameters p.key = none) :
      (NamedParameter.keys (c.parameters ++ [⟨name, p⟩])).Nodup := by
    have missing := NamedParameter.nameIn?_eq_none_iff.1 unknown
    rw [NamedParameter.keys, List.map_append, List.map_cons, List.map_nil, ← List.concat_eq_append]
    exact nodup.concat missing
  cases step with
  | literal value type => exact nodup
  | known known => exact nodup
  | chosen unknown own => exact added _ unknown
  | generated unknown unnamed => exact added _ unknown

/-- The names taken so far and those in the table of parameters are in use. -/
structure Guards (names : List String) (c : Context) : Prop where
  used : ∀ name ∈ names, name ∈ c.used
  recorded : ∀ q ∈ c.parameters, q.name ∈ c.used
  nodup : (NamedParameter.keys c.parameters).Nodup

theorem Guards.take {names : List String} {c c' : Context} {name : String} (h : Guards names c)
    (now : c'.used = name :: c.used) (nodup : (NamedParameter.keys c'.parameters).Nodup)
    (recorded : ∀ q ∈ c'.parameters, q ∈ c.parameters ∨ q.name = name) :
    Guards (names ++ [name]) c' where
  used other mem := by
    rw [now]
    rcases List.mem_append.1 mem with old | new
    · exact List.mem_cons_of_mem _ (h.used other old)
    · rw [List.mem_singleton.1 new]
      exact List.mem_cons_self
  recorded q mem := by
    rw [now]
    rcases recorded q mem with old | new
    · exact List.mem_cons_of_mem _ (h.recorded q old)
    · rw [new]
      exact List.mem_cons_self
  nodup := nodup

theorem Step.guards {names : List String} {c c' : Context} {leaf : Leaf} {name : String}
    (step : Step c leaf name c') (h : Guards names c) : Guards (names ++ [name]) c' := by
  have nodup := step.nodup_keys h.nodup
  have added {p : Parameter} {name : String} :
      ∀ q ∈ c.parameters ++ [⟨name, p⟩], q ∈ c.parameters ∨ q.name = name := by
    intro q mem
    rcases List.mem_append.1 mem with old | new
    · exact Or.inl old
    · rw [List.mem_singleton.1 new]
      exact Or.inr rfl
  cases step with
  | literal value type => exact h.take rfl nodup fun q mem => Or.inl mem
  | known known =>
    obtain ⟨q, mem, -, rfl⟩ := NamedParameter.exists_of_nameIn? known
    refine ⟨?_, h.recorded, nodup⟩
    intro other listed
    rcases List.mem_append.1 listed with old | new
    · exact h.used other old
    · rw [List.mem_singleton.1 new]
      exact h.recorded q mem
  | chosen unknown own => exact h.take rfl nodup added
  | generated unknown unnamed => exact h.take rfl nodup added

theorem Guards.make {names : List String} {c : Context} (h : Guards names c) (move : Move) :
    Guards (names ++ (move.taken? c).toList) (move.make c).2 := by
  cases move with
  | reserve name => exact h.take rfl h.nodup fun q mem => Or.inl mem
  | generate => exact h.take rfl h.nodup fun q mem => Or.inl mem
  | bind binding =>
    rw [Move.taken?, Option.toList_none, List.append_nil]
    exact ⟨h.used, h.recorded, h.nodup⟩
  | nameLeaf leaf => exact (step_name leaf c).guards h

/-! ## Runs of moves -/

theorem makeAll_append (first second : List Move) (c : Context) :
    makeAll (first ++ second) c = makeAll second (makeAll first c) := by
  induction first generalizing c with
  | nil => rfl
  | cons move rest ih => exact ih _

theorem settings_makeAll (moves : List Move) (c : Context) :
    (makeAll moves c).settings = c.settings := by
  induction moves generalizing c with
  | nil => rfl
  | cons move rest ih => exact (ih _).trans (settings_make move c)

theorem makeAll_grows (moves : List Move) (c : Context) :
    c.bindings <+: (makeAll moves c).bindings ∧ c.parameters <+: (makeAll moves c).parameters := by
  induction moves generalizing c with
  | nil => exact ⟨List.prefix_refl _, List.prefix_refl _⟩
  | cons move rest ih =>
    have first := make_grows move c
    have later := ih (move.make c).2
    exact ⟨first.1.trans later.1, first.2.trans later.2⟩

theorem Guards.run {names : List String} {c : Context} (h : Guards names c)
    (moves : List Move) : Guards (names ++ taken moves c) (makeAll moves c) := by
  induction moves generalizing names c with
  | nil =>
    rw [Context.taken, List.append_nil]
    exact h
  | cons move rest ih =>
    rw [Context.taken, ← List.append_assoc]
    exact ih (h.make move)

theorem guards_start (settings : Settings) : Guards [] (start settings) where
  used _ mem := absurd mem List.not_mem_nil
  recorded _ mem := absurd mem List.not_mem_nil
  nodup := List.nodup_nil

/-- The table still holds the name that a parameter was once named by. -/
theorem nameIn?_makeAll (p : Parameter) (rest : List Move) (c : Context) :
    NamedParameter.nameIn? (makeAll (.nameLeaf (.parameter p) :: rest) c).parameters p.key =
      ((Move.nameLeaf (.parameter p)).make c).1 := by
  have named := (step_name (.parameter p) c).nameIn?_eq
  obtain ⟨more, grown⟩ := (makeAll_grows rest ((Leaf.parameter p).name c).2).2
  show NamedParameter.nameIn? (makeAll rest ((Leaf.parameter p).name c).2).parameters p.key = _
  rw [← grown]
  exact NamedParameter.nameIn?_append named more

/-! ## Runs of requests -/

theorem makeAll_nameLeaf (leaves : List Leaf) (c : Context) :
    makeAll (leaves.map .nameLeaf) c = (nameLeaves leaves c).2 := by
  induction leaves generalizing c with
  | nil => rfl
  | cons leaf rest ih => exact ih _

theorem answers_nameLeaf (leaves : List Leaf) (c : Context) :
    answers (leaves.map .nameLeaf) c = (nameLeaves leaves c).1 := by
  induction leaves generalizing c with
  | nil => rfl
  | cons leaf rest ih =>
    rw [List.map_cons, answers, make_nameLeaf, ih, nameLeaves_cons]
    rfl

/-- A text is the fixed text of the expression with what its moves answer in it. -/
theorem render_eq_moves (e : Expr) (c : Context) :
    e.render c =
      (e.template.fill (Leaf.tokens c.settings.marker e.occurrences
          (answers (e.occurrences.map .nameLeaf) c)), makeAll (e.occurrences.map .nameLeaf) c) := by
  rw [e.render_eq, Template.render_run, answers_nameLeaf, makeAll_nameLeaf, e.occurrences_eq]
  rfl

theorem serve_eq (r : Request) (c : Context) :
    r.serve c = (r.answer c.settings.marker (answers r.moves c), makeAll r.moves c) := by
  have text (e : Expr) : (do return some (← e.render) : StateM Context (Option String)) c =
      (some (e.render c).1, (e.render c).2) := rfl
  cases r with
  | reserve name => rfl
  | generate => rfl
  | bind binding => rfl
  | register p => rfl
  | render e => rw [Request.serve, text, render_eq_moves]; rfl
  | project e => rw [Request.serve, text, render_eq_moves]; rfl

theorem serveAll_eq (requests : List Request) (c : Context) :
    serveAll requests c = makeAll (requests.flatMap Request.moves) c := by
  induction requests generalizing c with
  | nil => rfl
  | cons r rest ih =>
    rw [serveAll, ih, List.flatMap_cons, makeAll_append, serve_eq]

/-- What holds whenever a context has served these requests, starting with nothing. -/
structure Orderly (settings : Settings) (requests : List Request) : Prop where
  /-- All answers and all that is known later comes from single moves. -/
  served : ∀ before r rest, requests = before ++ r :: rest →
    let c := serveAll before (start settings)
    c = makeAll (before.flatMap Request.moves) (start settings) ∧
      r.serve c = (r.answer settings.marker (answers r.moves c), makeAll r.moves c)
  /-- A name that is made up differs from all names that were taken before. -/
  fresh : ∀ before move rest, requests.flatMap Request.moves = before ++ move :: rest →
    let c := makeAll before (start settings)
    move.Generates c → ∃ name, (move.make c).1 = some name ∧ name ∉ taken before (start settings)
  nodup : ∀ before rest, requests.flatMap Request.moves = before ++ rest →
    (NamedParameter.keys (makeAll before (start settings)).parameters).Nodup
  /-- A key keeps the name that it got first, and the table holds it. -/
  stable : ∀ before p between q rest,
    requests.flatMap Request.moves =
      before ++ .nameLeaf (.parameter p) :: (between ++ .nameLeaf (.parameter q) :: rest) →
    q.key = p.key →
    let c := makeAll before (start settings)
    let later := makeAll (.nameLeaf (.parameter p) :: between) c
    let name := ((Move.nameLeaf (.parameter p)).make c).1
    name.isSome = true ∧ ((Move.nameLeaf (.parameter q)).make later).1 = name ∧
      NamedParameter.nameIn? later.parameters p.key = name
  /-- The tables of an earlier state stand at the front of those of a later one. -/
  grows : ∀ before between rest, requests.flatMap Request.moves = before ++ (between ++ rest) →
    let c := makeAll before (start settings)
    c.bindings <+: (makeAll between c).bindings ∧ c.parameters <+: (makeAll between c).parameters

/--
Whatever a context is asked for, and in whatever order, its runs are orderly.

A name that is made up was neither reserved, nor made up, nor recorded for an explicit parameter
before. A parameter is recorded once and always answered with the name that it got first. Nothing
is ever removed from the tables or put in front of what they hold.
-/
theorem run_orderly (settings : Settings) (requests : List Request) :
    Orderly settings requests := by
  have guards (moves : List Move) :
      Guards (taken moves (start settings)) (makeAll moves (start settings)) :=
    (guards_start settings).run moves
  refine ⟨?_, ?_, ?_, ?_, ?_⟩
  · intro before r rest _ c
    have marker : c.settings = settings := by
      rw [show c = _ from serveAll_eq before _, settings_makeAll]
      rfl
    refine ⟨serveAll_eq before _, ?_⟩
    rw [serve_eq, marker]
  · intro before move rest _ c generates
    refine ⟨c.freshName, generates.make_fst, ?_⟩
    exact fun old => c.freshName_not_mem ((guards before).used _ old)
  · exact fun before rest _ => (guards before).nodup
  · intro before p between q rest _ same c later name
    have held : NamedParameter.nameIn? later.parameters p.key = name := nameIn?_makeAll p between c
    refine ⟨rfl, ?_, held⟩
    have again := nameIn?_makeAll q [] later
    have known : (registerParameter q later).2 = later := by
      rw [registerParameter_run, same, held]
      rfl
    rw [← again, same]
    show NamedParameter.nameIn? (registerParameter q later).2.parameters p.key = name
    rw [known, held]
  · exact fun before between rest _ => makeAll_grows between _

end Context

end ParamQuery
