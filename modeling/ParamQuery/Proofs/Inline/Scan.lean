import Mathlib.Data.List.TakeWhile
import ParamQuery.Compiled
import ParamQuery.Proofs.Inline.Direct
import ParamQuery.Proofs.Naming.Tables

/-!
# Finding placeholders again

The scanner copies text without markers (`inlineChars_append`) and takes the longest name behind a
marker (`inlineChars_name`). So it undoes the rendering of a template if the marker stands nowhere
in the fixed text and no name can go on into the fixed text behind it (`Template.Scannable`).
-/

namespace ParamQuery

/-- A word that breaks off is all that is taken from the front. -/
theorem takeWhile_append_of_break {α : Type} {p : α → Bool} {word rest : List α}
    (inside : ∀ x ∈ word, p x = true) (outside : ∀ x ∈ rest.head?, p x = false) :
    (word ++ rest).takeWhile p = word := by
  have nothing : rest.takeWhile p = [] := by
    cases rest with
    | nil => rfl
    | cons x rest => rw [List.takeWhile_cons_of_neg (by simp [outside x rfl])]
  rw [List.takeWhile_append_of_pos inside, nothing, List.append_nil]

/-- A word that breaks off is all that is dropped from the front. -/
theorem dropWhile_append_of_break {α : Type} {p : α → Bool} {word rest : List α}
    (inside : ∀ x ∈ word, p x = true) (outside : ∀ x ∈ rest.head?, p x = false) :
    (word ++ rest).dropWhile p = rest := by
  have all : rest.dropWhile p = rest := by
    cases rest with
    | nil => rfl
    | cons x rest => rw [List.dropWhile_cons_of_neg (by simp [outside x rfl])]
  rw [List.dropWhile_append_of_pos inside, all]

namespace Compiled

/-- What stands for an explicit parameter in the text: its name behind a marker, or its position. -/
def placeholder (c : Compiled) (p : Parameter) : String :=
  match p.key with
  | .named name => String.singleton c.marker ++ name
  | .positional position => "?" ++ toString position
  | .unnamed _ =>
    String.singleton c.marker ++ (NamedParameter.nameIn? c.parameters p.key).getD ""

def shown (c : Compiled) : Leaf → String
  | .literal value _ => value.literalText
  | .parameter p => c.placeholder p

/-! ## Characters -/

/-- No name can go on into these characters. -/
def Breaks (cs : List Char) : Prop := ∀ x ∈ cs.head?, isNameChar x = false

theorem Breaks.dropWhile_append {rest : List Char} (breaks : Breaks rest) (cs : List Char) :
    Breaks (cs.dropWhile isNameChar ++ rest) := by
  cases same : cs.dropWhile isNameChar with
  | nil => exact breaks
  | cons y after =>
    intro x mem
    cases mem
    have first := List.head_dropWhile_not isNameChar (l := cs) (by simp [same])
    simpa [same] using first

variable (c : Compiled)

theorem inlineChars_nil : c.inlineChars [] = [] := by rw [inlineChars]

/-- The scanner copies what contains no marker. -/
theorem inlineChars_append {cs : List Char} (absent : c.marker ∉ cs) (rest : List Char) :
    c.inlineChars (cs ++ rest) = cs ++ c.inlineChars rest := by
  induction cs with
  | nil => rfl
  | cons x cs ih =>
    obtain ⟨other, absent⟩ := not_or.1 (mt List.mem_cons.2 absent)
    rw [List.cons_append, inlineChars, if_neg (Ne.symm other), ih absent, List.cons_append]

/-- The scanner takes the whole name that stands behind a marker. -/
theorem inlineChars_name {name rest : List Char} (letters : name.all isNameChar = true)
    (breaks : Breaks rest) :
    c.inlineChars (c.marker :: (name ++ rest)) = c.inlineName name ++ c.inlineChars rest := by
  have inside : ∀ x ∈ name, isNameChar x = true := List.all_eq_true.1 letters
  rw [inlineChars, if_pos rfl, takeWhile_append_of_break inside breaks,
    dropWhile_append_of_break inside breaks]

/-- What stands before a break is read by itself. -/
theorem inlineChars_append_of_breaks (cs : List Char) {rest : List Char} (breaks : Breaks rest) :
    c.inlineChars (cs ++ rest) = c.inlineChars cs ++ c.inlineChars rest := by
  induction cs using inlineChars.induct c with
  | case1 => rw [List.nil_append, inlineChars_nil, List.nil_append]
  | case2 cs ih =>
    have letters : (cs.takeWhile isNameChar).all isNameChar = true :=
      List.all_eq_true.2 fun _ => List.mem_takeWhile_imp
    have whole := c.inlineChars_name letters (breaks.dropWhile_append cs)
    rw [← List.append_assoc, List.takeWhile_append_dropWhile, ih] at whole
    rw [List.cons_append, whole, inlineChars, if_pos rfl, List.append_assoc]
  | case3 x cs other ih =>
    rw [List.cons_append, inlineChars, if_neg other, ih, inlineChars, if_neg other,
      List.cons_append]

theorem inlineName_binding {b : Binding} (nodup : (c.bindings.map Binding.name).Nodup)
    (mem : b ∈ c.bindings) (nonempty : b.name ≠ "") :
    c.inlineName b.name.toList = b.value.literalText.toList := by
  have some_char : b.name.toList.isEmpty = false := by
    rw [List.isEmpty_eq_false_iff]
    exact mt String.toList_eq_nil_iff.1 nonempty
  simp only [inlineName, String.ofList_toList, find?_eq_of_nodup_keys Binding.name nodup mem, some_char,
    Bool.false_eq_true, if_false]

theorem inlineName_other {name : String} (other : ∀ b ∈ c.bindings, b.name ≠ name) :
    c.inlineName name.toList = c.marker :: name.toList := by
  have missing : (c.bindings.find? fun b => b.name == name) = none := by
    rw [List.find?_eq_none]
    intro b mem
    simpa using other b mem
  simp only [inlineName, String.ofList_toList, missing]

def scanned (c : Compiled) (text : String) : String := String.ofList (c.inlineChars text.toList)

/-- The scanner shows a leaf where it stands in the text under a name. -/
def Shows (leaf : Leaf) (name : String) : Prop :=
  ∀ rest, Breaks rest → c.inlineChars ((leaf.token c.marker name).toList ++ rest) =
    (c.shown leaf).toList ++ c.inlineChars rest

theorem Shows.scanned_eq {c : Compiled} {leaf : Leaf} {name : String} (shows : c.Shows leaf name) :
    c.scanned (leaf.token c.marker name) = c.shown leaf := by
  have whole := shows [] fun _ mem => by cases mem
  rw [List.append_nil, inlineChars_nil, List.append_nil] at whole
  rw [scanned, whole, String.ofList_toList]

end Compiled

namespace Template

open Compiled

/-! ## Templates -/

/-- No name can go on into the text of a template. -/
def Ends : Template → Prop
  | [] => True
  | .fixed text :: _ => (text.toList.head?.any fun x => !isNameChar x) = true
  | .leaf _ :: _ => False

/-- The marker stands nowhere in the fixed text, and no name can go on behind its leaf. -/
def Scannable (marker : Char) : Template → Prop
  | [] => True
  | .fixed text :: rest => marker ∉ text.toList ∧ Scannable marker rest
  | .leaf _ :: rest => Ends rest ∧ Scannable marker rest

theorem Ends.append {t u : Template} (ht : Ends t) (hu : Ends u) : Ends (t ++ u) := by
  cases t with
  | nil => exact hu
  | cons piece rest =>
    cases piece with
    | fixed text => exact ht
    | leaf leaf => exact ht.elim

variable {marker : Char}

theorem Scannable.append {t u : Template} (ht : Scannable marker t) (hu : Scannable marker u)
    (ends : Ends u) : Scannable marker (t ++ u) := by
  induction t with
  | nil => exact hu
  | cons piece rest ih =>
    cases piece with
    | fixed text => exact ⟨ht.1, ih ht.2⟩
    | leaf leaf => exact ⟨ht.1.append ends, ih ht.2⟩

theorem Scannable.joined (separator : String) {ts : List Template}
    (all : ∀ t ∈ ts, Scannable marker t) (absent : marker ∉ separator.toList)
    (ends : Ends [.fixed separator]) : Scannable marker (joined separator ts) := by
  unfold Template.joined
  induction ts with
  | nil => trivial
  | cons t rest ih =>
    cases rest with
    | nil =>
      rw [List.intercalate_singleton]
      exact all t List.mem_cons_self
    | cons u rest =>
      rw [List.intercalate_cons_cons, List.append_assoc]
      have later := ih fun t mem => all t (List.mem_cons_of_mem _ mem)
      exact (all t List.mem_cons_self).append ⟨absent, later⟩ ends

theorem breaks_fill {t : Template} (ends : Ends t) (tokens : List String) :
    Breaks (fill t tokens).toList := by
  cases t with
  | nil =>
    intro x mem
    cases mem
  | cons piece rest =>
    cases piece with
    | leaf leaf => exact ends.elim
    | fixed text =>
      intro x mem
      rw [fill, String.toList_append, List.head?_append] at mem
      cases h : text.toList.head? with
      | none => simp [Ends, h] at ends
      | some first =>
        rw [h] at mem
        cases mem
        simpa [Ends, h] using ends

/-- The scanner reads every token of a template by itself. -/
theorem inlineChars_fill_eq (c : Compiled) {t : Template} (scannable : Scannable c.marker t)
    (tokens : List String) :
    c.inlineChars (fill t tokens).toList = (fill t (tokens.map c.scanned)).toList := by
  induction t generalizing tokens with
  | nil => exact c.inlineChars_nil
  | cons piece rest ih =>
    cases piece with
    | fixed text =>
      rw [fill, fill, String.toList_append, String.toList_append,
        c.inlineChars_append scannable.1, ih scannable.2]
    | leaf leaf =>
      cases tokens with
      | nil => exact ih scannable.2 []
      | cons token tokens =>
        have breaks := breaks_fill scannable.1 tokens
        rw [List.map_cons, fill, fill, String.toList_append, String.toList_append,
          c.inlineChars_append_of_breaks _ breaks, ih scannable.2, scanned, String.toList_ofList]

theorem fill_leaves (write : Leaf → String) (t : Template) :
    fill t ((leaves t).map write) = written write t := by
  induction t with
  | nil => rfl
  | cons piece rest ih =>
    cases piece with
    | fixed text => rw [leaves, fill, written, ih]
    | leaf leaf => rw [leaves, List.map_cons, fill, written, ih]

/-- What the scanner reads in the token of each leaf is what it makes of the whole template. -/
theorem inlineChars_fill_written (c : Compiled) {t : Template} (scannable : Scannable c.marker t)
    {write : Leaf → String} {names : List String}
    (each : List.Forall₂ (fun leaf name => c.scanned (leaf.token c.marker name) = write leaf)
      (leaves t) names) :
    c.inlineChars (fill t (Leaf.tokens c.marker (leaves t) names)).toList =
      (written write t).toList := by
  have read {occurrences : List Leaf} {names : List String}
      (each : List.Forall₂ (fun leaf name => c.scanned (leaf.token c.marker name) = write leaf)
        occurrences names) :
      (Leaf.tokens c.marker occurrences names).map c.scanned = occurrences.map write := by
    induction each with
    | nil => rfl
    | cons first rest ih =>
      rw [Leaf.tokens, List.zipWith_cons_cons, List.map_cons, List.map_cons, first]
      exact congrArg _ ih
  rw [inlineChars_fill_eq c scannable, read each, fill_leaves]

/-- The scanner shows every leaf of a template where the fixed text lets it find the names. -/
theorem inlineChars_fill (c : Compiled) {t : Template} (scannable : Scannable c.marker t)
    {names : List String} (shows : List.Forall₂ c.Shows (leaves t) names) :
    c.inlineChars (fill t (Leaf.tokens c.marker (leaves t) names)).toList =
      (written c.shown t).toList :=
  inlineChars_fill_written c scannable (shows.imp fun _ _ => Shows.scanned_eq)

end Template

end ParamQuery
