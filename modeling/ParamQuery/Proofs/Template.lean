import ParamQuery.Compiled

/-!
# Templates

The text of a tree is fixed but for its leaves, the literals and the explicit parameters. A
template is this text cut into pieces, with the leaves in their places. Rendering a template is a
matter of naming its leaves from left to right (`Template.render_run`): the fixed text has no
influence on names, and the values of literals have none on either.
-/

namespace ParamQuery

/-- A part of a tree that stands in the text under a name. -/
inductive Leaf where
  | literal (value : Value) (type : Option ValueType)
  | parameter (parameter : Parameter)

inductive Piece where
  | fixed (text : String)
  | leaf (leaf : Leaf)

abbrev Template := List Piece

namespace Leaf

open Context

def parameter? : Leaf → Option Parameter
  | .literal .. => none
  | .parameter p => some p

def register (r : Registry) : Leaf → Registry
  | .literal .. => r
  | .parameter p => r.register p

/-- Names a leaf. A literal is bound to its name, an explicit parameter is recorded under it. -/
def name : Leaf → StateM Context String
  | .literal value type => do
    let name ← generateName
    registerBinding ⟨name, value, type⟩
    return name
  | .parameter p => registerParameter p

/-- What stands in the text for a leaf of the given name: a position stands for itself. -/
def token (marker : Char) : Leaf → String → String
  | .parameter ⟨.positional _, _⟩, name => name
  | _, name => String.singleton marker ++ name

def render (leaf : Leaf) : StateM Context String := do
  let name ← leaf.name
  return leaf.token (← get).settings.marker name

end Leaf

def nameLeaves : List Leaf → Context → List String × Context
  | [], c => ([], c)
  | leaf :: rest, c =>
    let (name, c) := leaf.name c
    let (names, c) := nameLeaves rest c
    (name :: names, c)

namespace Template

def leaves : Template → List Leaf
  | [] => []
  | .fixed _ :: rest => leaves rest
  | .leaf leaf :: rest => leaf :: leaves rest

/-- The text of a template, given what stands for its leaves. -/
def fill : Template → List String → String
  | [], _ => ""
  | .fixed text :: rest, tokens => text ++ fill rest tokens
  | .leaf _ :: rest, [] => fill rest []
  | .leaf _ :: rest, token :: tokens => token ++ fill rest tokens

def render : Template → StateM Context String
  | [] => return ""
  | .fixed text :: rest => do
    let texts ← render rest
    return text ++ texts
  | .leaf leaf :: rest => do
    let token ← leaf.render
    let texts ← render rest
    return token ++ texts

def joined (separator : String) (ts : List Template) : Template :=
  [Piece.fixed separator].intercalate ts

@[simp] theorem leaves_append (t u : Template) : leaves (t ++ u) = leaves t ++ leaves u := by
  induction t with
  | nil => rfl
  | cons piece rest ih => cases piece <;> simp [leaves, ih]

theorem leaves_joined (separator : String) (ts : List Template) :
    leaves (joined separator ts) = ts.flatMap leaves := by
  unfold joined
  induction ts with
  | nil => rfl
  | cons t rest ih =>
    cases rest with
    | nil => simp
    | cons u rest => simp [List.intercalate_cons_cons, leaves, ih]

section Map

variable {f : Piece → Piece} {g : Leaf → Leaf} (fixed : ∀ text, f (.fixed text) = .fixed text)
  (leaf : ∀ part, f (.leaf part) = .leaf (g part))

include fixed in
/-- What leaves fixed text as it is can be done before templates are joined. -/
theorem map_joined
    (separator : String) (ts : List Template) :
    (joined separator ts).map f = joined separator (ts.map (List.map f)) := by
  unfold joined
  induction ts with
  | nil => rfl
  | cons t rest ih =>
    cases rest with
    | nil => simp [List.intercalate_singleton]
    | cons u rest =>
      rw [List.map_cons] at ih ⊢
      rw [List.map_cons, List.intercalate_cons_cons, List.intercalate_cons_cons, List.map_append,
        List.map_append, ih, List.map_cons, fixed, List.map_nil]

include fixed leaf

theorem leaves_map (t : Template) : leaves (t.map f) = (leaves t).map g := by
  induction t with
  | nil => rfl
  | cons piece rest ih =>
    cases piece with
    | fixed text => rw [List.map_cons, fixed, leaves, ih, leaves]
    | leaf part => rw [List.map_cons, leaf, leaves, ih, leaves, List.map_cons]

theorem fill_map (t : Template) (tokens : List String) : fill (t.map f) tokens = fill t tokens := by
  induction t generalizing tokens with
  | nil => rfl
  | cons piece rest ih =>
    cases piece with
    | fixed text => rw [List.map_cons, fixed, fill, ih, fill]
    | leaf part =>
      rw [List.map_cons, leaf]
      cases tokens with
      | nil => exact ih []
      | cons token tokens => exact congrArg (token ++ ·) (ih tokens)

end Map

theorem render_fixed (text : String) : render [.fixed text] = return text := by
  simp only [render, pure_bind, String.append_empty]

theorem render_leaf (leaf : Leaf) : render [.leaf leaf] = leaf.render := by
  simp only [render, pure_bind, String.append_empty, bind_pure]

theorem render_append (t u : Template) :
    render (t ++ u) = do
      let first ← render t
      let second ← render u
      return first ++ second := by
  induction t with
  | nil => simp only [List.nil_append, render, pure_bind, String.empty_append, bind_pure]
  | cons piece rest ih =>
    cases piece with
    | fixed text =>
      simp only [List.cons_append, render, ih, bind_assoc, pure_bind, String.append_assoc]
    | leaf leaf =>
      simp only [List.cons_append, render, ih, bind_assoc, pure_bind, String.append_assoc]

theorem render_joined (separator : String) (ts : List Template) :
    render (joined separator ts) = do
      let texts ← ts.mapM render
      return separator.intercalate texts := by
  unfold joined
  induction ts with
  | nil => simp [render]
  | cons t rest ih =>
    cases rest with
    | nil => simp
    | cons u rest =>
      rw [List.intercalate_cons_cons, List.append_assoc, render_append]
      simp [render, ih, String.intercalate_cons_cons, String.append_assoc]

end Template

end ParamQuery
