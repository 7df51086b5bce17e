import ParamQuery.Proofs.Grouping.Chain
import ParamQuery.Proofs.Naming.Compiled

/-!
# Types do not show

Naming leaves runs in lockstep on a template and on the same one without the types of its leaves:
names depend on keys, and the text on names. What is compiled is then the same but for the types in
the tables (`Template.alike_stripped`).
-/

namespace ParamQuery

open Context

namespace Compiled

/-- Two compiled queries show the same text, the same values and the same parameters. -/
structure Alike (c d : Compiled) : Prop where
  text : c.text = d.text
  bindings : c.bindings.map (fun b => (b.name, b.value)) = d.bindings.map fun b => (b.name, b.value)
  parameters : c.parameters.map (fun q => (q.name, q.parameter.key)) =
    d.parameters.map fun q => (q.name, q.parameter.key)

theorem Alike.symm {c d : Compiled} (h : c.Alike d) : d.Alike c :=
  ⟨h.text.symm, h.bindings.symm, h.parameters.symm⟩

theorem Alike.trans {c d e : Compiled} (h : c.Alike d) (h' : d.Alike e) : c.Alike e :=
  ⟨h.text.trans h'.text, h.bindings.trans h'.bindings, h.parameters.trans h'.parameters⟩

end Compiled

def Binding.stripped (b : Binding) : Binding := ⟨b.name, b.value, none⟩

def NamedParameter.stripped (q : NamedParameter) : NamedParameter :=
  ⟨q.name, ⟨q.parameter.key, .bool⟩⟩

def Context.stripped (c : Context) : Context :=
  { c with
    bindings := c.bindings.map Binding.stripped
    parameters := c.parameters.map NamedParameter.stripped }

theorem NamedParameter.nameIn?_stripped (parameters : List NamedParameter) (key : Parameter.Key) :
    nameIn? (parameters.map stripped) key = nameIn? parameters key := by
  rw [nameIn?, List.find?_map, Option.map_map]
  rfl

theorem Leaf.name_stripped (leaf : Leaf) (c : Context) :
    leaf.stripped.name c.stripped = ((leaf.name c).1, (leaf.name c).2.stripped) := by
  cases leaf with
  | literal value type =>
    show (c.freshName, c.stripped.advance.addBinding ⟨c.freshName, value, none⟩) =
      (c.freshName, (c.advance.addBinding ⟨c.freshName, value, type⟩).stripped)
    simp only [Context.stripped, advance, addBinding, List.map_append, List.map_cons, List.map_nil]
    rfl
  | parameter p =>
    have same : nameFor p.key c.stripped = ((nameFor p.key c).1, (nameFor p.key c).2.stripped) := by
      cases p.key <;> rfl
    show registerParameter ⟨p.key, .bool⟩ c.stripped =
      ((registerParameter p c).1, (registerParameter p c).2.stripped)
    have table : c.stripped.parameters = c.parameters.map NamedParameter.stripped := rfl
    rw [registerParameter_run, registerParameter_run, same, table, NamedParameter.nameIn?_stripped]
    cases NamedParameter.nameIn? c.parameters p.key with
    | some name => rfl
    | none =>
      simp only [Context.stripped, addParameter, List.map_append, List.map_cons, List.map_nil]
      rfl

theorem Leaf.token_stripped (marker : Char) (leaf : Leaf) :
    leaf.stripped.token marker = leaf.token marker := by
  cases leaf with
  | literal value type => rfl
  | parameter p =>
    obtain ⟨key, type⟩ := p
    cases key <;> rfl

theorem Registry.names_eq_of_keys {r s : Registry} (same : r.keys = s.keys) : r.names = s.names := by
  have byKey (r : Registry) : r.names =
      r.keys.filterMap fun key => Parameter.name? ⟨key, .bool⟩ := by
    rw [keys, List.filterMap_map]
    rfl
  rw [byKey, byKey, same]

theorem Registry.keys_ofLeaves_stripped (leaves : List Leaf) :
    (ofLeaves (leaves.map Leaf.stripped)).keys = (ofLeaves leaves).keys := by
  have folded {r s : Registry} (same : r.keys = s.keys) :
      ((leaves.map Leaf.stripped).foldl Leaf.register r).keys =
        (leaves.foldl Leaf.register s).keys := by
    induction leaves generalizing r s with
    | nil => exact same
    | cons leaf rest ih =>
      cases leaf with
      | literal value type => exact ih same
      | parameter p =>
        refine ih ?_
        show (r.register ⟨p.key, .bool⟩).keys = (s.register p).keys
        rw [keys_register, keys_register, same]
  exact folded rfl

namespace Template

theorem leaves_stripped (t : Template) : leaves (stripped t) = (leaves t).map Leaf.stripped :=
  leaves_map (fun _ => rfl) (fun _ => rfl) t

theorem initial_stripped (settings : Settings) (t : Template) :
    initial settings (stripped t) = (initial settings t).stripped := by
  rw [initial, initial, leaves_stripped, Compiled.contextFor_eq, Compiled.contextFor_eq,
    Registry.names_eq_of_keys (Registry.keys_ofLeaves_stripped (leaves t))]
  rfl

/-- A template without types is compiled to the same, but for types. -/
theorem alike_stripped (settings : Settings) (t : Template) :
    (compile settings (stripped t)).1.Alike (compile settings t).1 := by
  have start := initial_stripped settings t
  have compiled :=
    compile_map (fun _ => rfl) (fun _ => rfl) Leaf.name_stripped start Leaf.token_stripped
  rw [stripped, compiled]
  refine ⟨rfl, ?_, ?_⟩
  · rw [compile_fst]
    show ((final settings t).bindings.map Binding.stripped).map _ = _
    rw [List.map_map]
    rfl
  · rw [compile_fst]
    show ((final settings t).parameters.map NamedParameter.stripped).map _ = _
    rw [List.map_map]
    rfl

theorem alike_of_stripped_eq (settings : Settings) {t u : Template}
    (same : stripped t = stripped u) : (compile settings t).1.Alike (compile settings u).1 := by
  have middle := alike_stripped settings t
  rw [same] at middle
  exact middle.symm.trans (alike_stripped settings u)

end Template

end ParamQuery
