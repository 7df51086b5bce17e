import ParamQuery.Proofs.Inline.Exact
import ParamQuery.Proofs.Prepared.Apart

/-!
# Reading the names in a text

A text holds names where the tree has leaves, and the tables say which leaf a name stands for. So
text and tables together can be read back: the reader copies the fixed text and puts the value of a
literal or the key of a parameter in the place of its name (`Template.spelling_compile`). What it
makes depends on the tree alone, no longer on the names.
-/

namespace ParamQuery

/-- What a leaf stands for: the value of a literal or the key of an explicit parameter. -/
inductive Sign where
  | literal (value : Value)
  | parameter (key : Parameter.Key)

inductive Letter where
  | char (c : Char)
  | sign (sign : Sign)

/-- A text with the leaves themselves in it. -/
abbrev Spelling := List Letter

def Leaf.sign : Leaf → Sign
  | .literal value _ => .literal value
  | .parameter p => .parameter p.key

namespace Spelling

def ofText (text : String) : Spelling := text.toList.map Letter.char

@[simp] theorem ofText_append (first second : String) :
    ofText (first ++ second) = ofText first ++ ofText second := by
  rw [ofText, String.toList_append, List.map_append]
  rfl

theorem ofText_inj {first second : String} : ofText first = ofText second ↔ first = second := by
  have chars : Function.Injective Letter.char := fun _ _ same => by injection same
  rw [ofText, ofText, (List.map_injective_iff.2 chars).eq_iff, String.toList_inj]

end Spelling

open Spelling (ofText)

def Sign.spelling : Sign → Spelling
  | .parameter (.positional position) => ofText ("?" ++ toString position)
  | sign => [.sign sign]

def Piece.spelling : Piece → Spelling
  | .fixed text => ofText text
  | .leaf part => part.sign.spelling

def Template.spelling (t : Template) : Spelling := t.flatMap Piece.spelling

theorem Template.spelling_cons (piece : Piece) (t : Template) :
    spelling (piece :: t) = piece.spelling ++ spelling t := List.flatMap_cons

/-! ## The reader -/

namespace Spelling

open Compiled (Breaks)

def named (signs : List (String × Sign)) (name : String) : Spelling :=
  (signs.find? fun entry => entry.1 == name).toList.flatMap fun entry => entry.2.spelling

/-- Reads a text in which names stand behind a marker. -/
def read (marker : Char) (signs : List (String × Sign)) : List Char → Spelling
  | [] => []
  | x :: rest =>
    if x = marker then
      named signs (String.ofList (rest.takeWhile isNameChar)) ++
        read marker signs (rest.dropWhile isNameChar)
    else .char x :: read marker signs rest
termination_by cs => cs.length
decreasing_by
  · have := (List.dropWhile_suffix isNameChar (l := rest)).length_le
    simp only [List.length_cons]
    omega
  · simp

variable {marker : Char} {signs : List (String × Sign)}

theorem read_append {cs : List Char} (absent : marker ∉ cs) (rest : List Char) :
    read marker signs (cs ++ rest) = cs.map Letter.char ++ read marker signs rest := by
  induction cs with
  | nil => rfl
  | cons x cs ih =>
    obtain ⟨other, absent⟩ := not_or.1 (mt List.mem_cons.2 absent)
    rw [List.cons_append, read, if_neg (Ne.symm other), ih absent, List.map_cons, List.cons_append]

/-- The reader takes the whole name that stands behind a marker. -/
theorem read_name {name : String} {sign : Sign} (nodup : (signs.map Prod.fst).Nodup)
    (mem : (name, sign) ∈ signs) (letters : name.toList.all isNameChar = true) {rest : List Char}
    (breaks : Breaks rest) :
    read marker signs ((String.singleton marker ++ name).toList ++ rest) =
      sign.spelling ++ read marker signs rest := by
  have inside : ∀ x ∈ name.toList, isNameChar x = true := List.all_eq_true.1 letters
  have found := find?_eq_of_nodup_keys Prod.fst nodup mem
  rw [String.toList_append, String.toList_singleton, List.singleton_append, List.cons_append,
    read, if_pos rfl, takeWhile_append_of_break inside breaks,
    dropWhile_append_of_break inside breaks, String.ofList_toList, named, found, Option.toList_some,
    List.flatMap_singleton]

end Spelling

namespace Compiled

def signs (c : Compiled) : List (String × Sign) :=
  c.bindings.map (fun b => (b.name, .literal b.value)) ++
    c.parameters.map fun q => (q.name, .parameter q.parameter.key)

def spelling (c : Compiled) : Spelling := Spelling.read c.marker c.signs c.text.toList

theorem map_fst_signs (c : Compiled) : c.signs.map Prod.fst = c.names := by
  rw [signs, List.map_append, List.map_map, List.map_map]
  rfl

/-- The reader finds a leaf where it stands in the text under a name. -/
def Spells (c : Compiled) (leaf : Leaf) (name : String) : Prop :=
  ∀ rest, Breaks rest → Spelling.read c.marker c.signs ((leaf.token c.marker name).toList ++ rest) =
    leaf.sign.spelling ++ Spelling.read c.marker c.signs rest

theorem spells_literal {c : Compiled} (nodup : c.names.Nodup) {b : Binding} (mem : b ∈ c.bindings)
    (letters : b.name.toList.all isNameChar = true) :
    c.Spells (.literal b.value b.type) b.name := by
  rw [← c.map_fst_signs] at nodup
  have listed : (b.name, Sign.literal b.value) ∈ c.signs :=
    List.mem_append_left _ (List.mem_map_of_mem (f := fun b => (b.name, Sign.literal b.value)) mem)
  exact fun rest breaks => Spelling.read_name nodup listed letters breaks

theorem spells_positional {c : Compiled} (apart : isPlain c.marker = false) (position : Nat)
    (type : ValueType) :
    c.Spells (.parameter ⟨.positional position, type⟩) ("?" ++ toString position) := by
  intro rest _
  have absent : c.marker ∉ ("?" ++ toString position).toList := by
    intro there
    have plain := isPlain_position there
    rw [apart] at plain
    cases plain
  exact Spelling.read_append absent rest

theorem spells_marked {c : Compiled} (nodup : c.names.Nodup) {q : NamedParameter}
    (mem : q ∈ c.parameters) (letters : q.name.toList.all isNameChar = true)
    (marked : ∀ position, q.parameter.key ≠ .positional position) (type : ValueType) :
    c.Spells (.parameter ⟨q.parameter.key, type⟩) q.name := by
  rw [← c.map_fst_signs] at nodup
  have listed : (q.name, Sign.parameter q.parameter.key) ∈ c.signs :=
    List.mem_append_right _
      (List.mem_map_of_mem (f := fun q => (q.name, Sign.parameter q.parameter.key)) mem)
  intro rest breaks
  have token : (Leaf.parameter ⟨q.parameter.key, type⟩).token c.marker q.name =
      String.singleton c.marker ++ q.name := by
    cases key : q.parameter.key with
    | positional position => exact absurd key (marked position)
    | named name => rfl
    | unnamed token => rfl
  rw [token]
  exact Spelling.read_name nodup listed letters breaks

end Compiled

/-! ## Reading compiled trees -/

/-- Parameters with identifiers for names are not written like positions. -/
theorem unlikePositions_of_isIdentifier {marker : Char} (mark : marker ∉ punctuation)
    {parameters : List Parameter}
    (plain : ∀ p ∈ parameters, ∀ name ∈ p.name?, IsIdentifier name) :
    UnlikePositions marker parameters := by
  intro p mem q _ name position own _
  have identifier : IsIdentifier name := plain p mem name (by simp [Parameter.name?, own])
  refine ⟨identifier.ne_position position, fun same => ?_⟩
  have first : marker = '?' := by
    simpa using congrArg List.head? (congrArg String.toList same)
  exact mark (first ▸ by decide)

namespace Template

open Compiled

theorem spelling_fill (c : Compiled) {t : Template} (scannable : Scannable c.marker t)
    {names : List String} (spells : List.Forall₂ c.Spells (leaves t) names) :
    Spelling.read c.marker c.signs (fill t (Leaf.tokens c.marker (leaves t) names)).toList =
      spelling t := by
  induction t generalizing names with
  | nil => rw [fill, String.toList_empty, Spelling.read]; rfl
  | cons piece rest ih =>
    cases piece with
    | fixed text =>
      rw [leaves] at spells ⊢
      rw [fill, String.toList_append, Spelling.read_append scannable.1, ih scannable.2 spells,
        spelling_cons]
      rfl
    | leaf leaf =>
      rw [leaves] at spells ⊢
      cases spells with
      | @cons _ name _ names first later =>
        have breaks := breaks_fill scannable.1 (Leaf.tokens c.marker (leaves rest) names)
        rw [Leaf.tokens, List.zipWith_cons_cons, fill, String.toList_append, spelling_cons,
          ← ih scannable.2 later]
        exact first _ breaks

theorem spells_compile {settings : Settings} (valid : settings.Valid)
    (mark : settings.marker ∉ punctuation) {t : Template}
    (plain : ∀ p ∈ (leaves t).filterMap Leaf.parameter?, ∀ name ∈ p.name?, IsIdentifier name)
    {names : List String} (named : (compile settings t).1.Names (leaves t) names) :
    List.Forall₂ (compile settings t).1.Spells (leaves t) names := by
  have nodup := names_nodup valid (unlikePositions_of_isIdentifier mark plain)
  have byKey := namedByKey_compile settings t
  have apart : isPlain (compile settings t).1.marker = false := by
    rw [compile_fst]
    exact valid.isPlain_marker mark
  refine named.forall₂ (fun b mem => spells_literal nodup mem (isIdentifier_of_mem_generated valid
    (mem_generated_of_binding mem)).all_isNameChar) ?_
  rintro ⟨key, type⟩ name mem looked
  obtain ⟨q, listed, rfl, rfl⟩ := NamedParameter.exists_of_nameIn? looked
  by_cases positional : ∃ position, q.parameter.key = .positional position
  · obtain ⟨position, key⟩ := positional
    have own := byKey q listed (by rw [key]; rfl)
    rw [own, key]
    exact spells_positional apart position type
  · have marked : ∀ position, q.parameter.key ≠ .positional position :=
      fun position key => positional ⟨position, key⟩
    have letters := letters_of_mem_parameters valid
      (fun p occurs name own => (plain p occurs name own).all_isNameChar) listed marked
    exact spells_marked nodup listed letters marked type

/-- A compiled template read back is the template with its leaves in their places. -/
theorem spelling_compile {settings : Settings} (valid : settings.Valid)
    (mark : settings.marker ∉ punctuation) {t : Template} (scannable : Scannable settings.marker t)
    (plain : ∀ p ∈ (leaves t).filterMap Leaf.parameter?, ∀ name ∈ p.name?, IsIdentifier name) :
    (compile settings t).1.spelling = spelling t := by
  obtain ⟨names, named, text⟩ := exists_names_compile settings t
  have spells := spells_compile valid mark plain named
  have marker : (compile settings t).1.marker = settings.marker := by rw [compile_fst]
  rw [← marker] at text scannable
  rw [Compiled.spelling, text, spelling_fill _ scannable spells]

end Template

end ParamQuery
