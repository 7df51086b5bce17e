import ParamQuery.Proofs.Naming.Compiled
import ParamQuery.Proofs.Template.Occurrences

/-!
# Text from tables

Rendering makes up names while it walks over a tree, but the tables that it leaves behind say all
about them: the text is the template of the tree, filled with the names of the bindings in their
order and with the names that the table of parameters holds (`text_eq_substitution`).
-/

namespace ParamQuery

namespace Compiled

def marked (c : Compiled) (name : String) : String := String.singleton c.marker ++ name

/-- What stands for an explicit parameter: its position, or the name in the table for its key. -/
def parameterToken (c : Compiled) (p : Parameter) : String :=
  match p.key with
  | .positional position => "?" ++ toString position
  | key => c.marked ((NamedParameter.nameIn? c.parameters key).getD "")

theorem parameterToken_positional {c : Compiled} {p : Parameter} {position : Nat}
    (key : p.key = .positional position) : c.parameterToken p = "?" ++ toString position := by
  rw [parameterToken, key]

theorem parameterToken_marked {c : Compiled} {p : Parameter} {name : String}
    (looked : NamedParameter.nameIn? c.parameters p.key = some name)
    (other : ∀ position, p.key ≠ .positional position) : c.parameterToken p = c.marked name := by
  have named : (NamedParameter.nameIn? c.parameters p.key).getD "" = name := by
    rw [looked, Option.getD_some]
  rw [← named]
  unfold parameterToken
  cases key : p.key with
  | positional position => exact absurd key (other position)
  | named own => rfl
  | unnamed token => rfl

/-- What stands for leaves, the literals among them under the given names one after the other. -/
def substitution (c : Compiled) : List Leaf → List String → List String
  | [], _ => []
  | .literal .. :: rest, names =>
    c.marked (names.headD "") :: substitution c rest names.tail
  | .parameter p :: rest, names => c.parameterToken p :: substitution c rest names

end Compiled

theorem TablesName.map_bindings {parameters : List NamedParameter} {bindings : List Binding}
    {leaves : List Leaf} {names : List String}
    (named : TablesName parameters bindings leaves names) :
    bindings.map (fun b => (b.value, b.type)) = leaves.filterMap Leaf.literal? := by
  induction named with
  | nil => rfl
  | literal rest ih =>
    rw [List.map_cons, ih]
    rfl
  | parameter looked rest ih =>
    rw [ih]
    rfl

theorem TablesName.exists_nameIn? {parameters : List NamedParameter} {bindings : List Binding}
    {leaves : List Leaf} {names : List String}
    (named : TablesName parameters bindings leaves names) {p : Parameter}
    (mem : .parameter p ∈ leaves) :
    ∃ name, NamedParameter.nameIn? parameters p.key = some name := by
  induction named with
  | nil => exact absurd mem List.not_mem_nil
  | literal rest ih =>
    rcases List.mem_cons.1 mem with same | later
    · cases same
    · exact ih later
  | parameter looked rest ih =>
    rcases List.mem_cons.1 mem with same | later
    · cases same
      exact ⟨_, looked⟩
    · exact ih later

/-- The name that a table by key holds for a position is the text of the position. -/
theorem NamedParameter.NamedByKey.nameIn?_positional {parameters : List NamedParameter}
    (byKey : NamedByKey parameters) {position : Nat} {name : String}
    (looked : nameIn? parameters (.positional position) = some name) :
    name = "?" ++ toString position := by
  obtain ⟨q, mem, key, rfl⟩ := exists_of_nameIn? looked
  have own : q.parameter.key.isUnnamed = false := by
    rw [key]
    rfl
  rw [byKey q mem own, key]
  rfl

theorem Compiled.token_eq {c : Compiled} (byKey : NamedParameter.NamedByKey c.parameters)
    {p : Parameter} {name : String}
    (looked : NamedParameter.nameIn? c.parameters p.key = some name) :
    (Leaf.parameter p).token c.marker name = c.parameterToken p := by
  obtain ⟨key, type⟩ := p
  cases key with
  | positional position => exact byKey.nameIn?_positional looked
  | named own => exact (parameterToken_marked looked fun _ same => by cases same).symm
  | unnamed token => exact (parameterToken_marked looked fun _ same => by cases same).symm

theorem TablesName.tokens_eq {c : Compiled} (byKey : NamedParameter.NamedByKey c.parameters)
    {bindings : List Binding} {leaves : List Leaf} {names : List String}
    (named : TablesName c.parameters bindings leaves names) :
    Leaf.tokens c.marker leaves names = c.substitution leaves (bindings.map Binding.name) := by
  induction named with
  | nil => rfl
  | literal rest ih => exact congrArg _ ih
  | parameter looked rest ih =>
    show Leaf.token _ _ _ :: Leaf.tokens _ _ _ = _
    rw [ih, c.token_eq byKey looked]
    rfl

/-- The marker and the tables of a compiled query are enough to write its text. -/
structure Compiled.WrittenByTables (settings : Settings) (c : Compiled) (t : Template)
    (occurrences : List Leaf) : Prop where
  marker : c.marker = settings.marker
  /-- There is one binding for each occurrence of a literal, with its value and its type. -/
  bindings : c.bindings.map (fun b => (b.value, b.type)) = occurrences.filterMap Leaf.literal?
  keys : (NamedParameter.keys c.parameters).Nodup
  listed : ∀ p, .parameter p ∈ occurrences →
    ∃ name, NamedParameter.nameIn? c.parameters p.key = some name
  text : c.text = t.fill (c.substitution occurrences (c.bindings.map Binding.name))

theorem Template.compile_writtenByTables (settings : Settings) (t : Template) :
    (compile settings t).1.WrittenByTables settings t (leaves t) := by
  obtain ⟨names, named, text⟩ := exists_names_compile settings t
  have marker := marker_compile settings t
  have tokens := named.tokens_eq (namedByKey_compile settings t)
  rw [marker] at tokens
  exact ⟨marker, named.map_bindings, nodup_keys_compile settings t,
    fun p mem => named.exists_nameIn? mem, by rw [text, tokens]⟩

/--
Rendering in one pass is substituting the final tables for the leaves.

The bindings are those of the literals from left to right. The text is that of the tree with the
name of its binding for each literal, `?N` for a position, and for any other explicit parameter,
wherever it occurs, the name that the table holds for its key.
-/
theorem text_eq_substitution (settings : Settings) (e : Expr) :
    (e.compile settings).1.WrittenByTables settings e.template e.occurrences := by
  rw [e.compile_eq, e.occurrences_eq]
  exact Template.compile_writtenByTables settings e.template

end ParamQuery
