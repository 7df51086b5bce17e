import ParamQuery.Proofs.Inline.Scan

/-!
# Placeholders with names of any form

The scanner reads a name only as far as letters, digits and underscores go, but the name of an
explicit parameter may be any text. The scanner leaves its placeholder as it is exactly if no word
behind a marker in it is the name of a literal (`Compiled.Legible.scanned_eq_self_iff`).
-/

namespace ParamQuery

/-- The words behind the markers in a text, each as far as letters of names go. -/
def wordsBehind (marker : Char) : List Char → List String
  | [] => []
  | x :: rest =>
    if x = marker then String.ofList (rest.takeWhile isNameChar) :: wordsBehind marker rest
    else wordsBehind marker rest

theorem wordsBehind_append {marker : Char} {cs : List Char} (absent : marker ∉ cs)
    (rest : List Char) : wordsBehind marker (cs ++ rest) = wordsBehind marker rest := by
  induction cs with
  | nil => rfl
  | cons x cs ih =>
    obtain ⟨other, absent⟩ := not_or.1 (mt List.mem_cons.2 absent)
    rw [List.cons_append, wordsBehind, if_neg (Ne.symm other), ih absent]

/-- No marker stands in a word, so the word may be passed over. -/
theorem wordsBehind_dropWhile {marker : Char} (outside : isNameChar marker = false)
    (cs : List Char) :
    wordsBehind marker (cs.dropWhile isNameChar) = wordsBehind marker cs := by
  have absent : marker ∉ cs.takeWhile isNameChar := by
    intro mem
    have inside := List.mem_takeWhile_imp mem
    rw [outside] at inside
    cases inside
  have parts := wordsBehind_append absent (cs.dropWhile isNameChar)
  rw [List.takeWhile_append_dropWhile] at parts
  exact parts.symm

namespace Compiled

variable {c : Compiled}

/-- No word behind a marker in the text is the name of a literal. -/
def Spares (c : Compiled) (text : String) : Prop :=
  ∀ word ∈ wordsBehind c.marker text.toList, word ∉ c.bindings.map Binding.name

instance (c : Compiled) (text : String) : Decidable (c.Spares text) :=
  inferInstanceAs (Decidable (∀ word ∈ wordsBehind c.marker text.toList, _))

/--
What stands for a literal cannot be taken for its placeholder.

It has a name, and its text is seen from the first character on to be no marker.
-/
structure Legible (c : Compiled) : Prop where
  marker : isNameChar c.marker = false
  named : ∀ b ∈ c.bindings, b.name ≠ ""
  begins : ∀ b ∈ c.bindings, ∃ x ∈ b.value.literalText.toList.head?, x ≠ c.marker

/-- The name of a literal is replaced by a text that does not begin like its placeholder. -/
theorem Legible.inlineName_begins (legible : c.Legible) {name : List Char}
    (bound : String.ofList name ∈ c.bindings.map Binding.name) :
    ∃ x ∈ (c.inlineName name).head?, x ≠ c.marker := by
  obtain ⟨b, mem, same⟩ := List.mem_map.1 bound
  cases found : c.bindings.find? fun b => b.name == String.ofList name with
  | none =>
    have missing := List.find?_eq_none.1 found b mem
    simp [same] at missing
  | some first =>
    have own : first.name = String.ofList name := by simpa using List.find?_some found
    have listed := List.mem_of_find?_eq_some found
    have some_char : name ≠ [] := by
      rintro rfl
      exact legible.named first listed own
    have text : c.inlineName name = first.value.literalText.toList := by
      simp only [inlineName, found, List.isEmpty_eq_false_iff.2 some_char, Bool.false_eq_true,
        if_false]
    rw [text]
    exact legible.begins first listed

theorem inlineName_free {name : List Char}
    (free : String.ofList name ∉ c.bindings.map Binding.name) :
    c.inlineName name = c.marker :: name := by
  have other : ∀ b ∈ c.bindings, b.name ≠ String.ofList name := by
    intro b mem same
    exact free (List.mem_map.2 ⟨b, mem, same⟩)
  have kept := c.inlineName_other other
  rwa [String.toList_ofList] at kept

/-- If what the scanner makes of a text can pass for it, it has left the text as it is. -/
theorem Legible.free_of_append_eq (legible : c.Legible) {cs first second : List Char}
    (same : c.inlineChars cs ++ first = cs ++ second) :
    ∀ word ∈ wordsBehind c.marker cs, word ∉ c.bindings.map Binding.name := by
  induction cs using inlineChars.induct c with
  | case1 => exact fun _ mem => absurd mem List.not_mem_nil
  | case2 cs ih =>
    rw [inlineChars, if_pos rfl, List.append_assoc] at same
    have free : String.ofList (cs.takeWhile isNameChar) ∉ c.bindings.map Binding.name := by
      intro bound
      obtain ⟨x, begins, other⟩ := legible.inlineName_begins bound
      have head := congrArg List.head? same
      rw [List.head?_append, begins, List.cons_append, List.head?_cons] at head
      exact other (Option.some.inj head)
    have parts : cs = cs.takeWhile isNameChar ++ cs.dropWhile isNameChar :=
      List.takeWhile_append_dropWhile.symm
    rw [inlineName_free free, List.cons_append, List.cons_append, List.cons_inj_right] at same
    nth_rewrite 3 [parts] at same
    rw [List.append_assoc, List.append_cancel_left_eq] at same
    have later := ih same
    rw [wordsBehind_dropWhile legible.marker] at later
    rw [wordsBehind, if_pos rfl]
    exact List.forall_mem_cons.2 ⟨free, later⟩
  | case3 x cs other ih =>
    rw [inlineChars, if_neg other, List.cons_append, List.cons_append, List.cons_inj_right] at same
    rw [wordsBehind, if_neg other]
    exact ih same

theorem inlineChars_eq_self (outside : isNameChar c.marker = false) {cs : List Char}
    (free : ∀ word ∈ wordsBehind c.marker cs, word ∉ c.bindings.map Binding.name) :
    c.inlineChars cs = cs := by
  induction cs using inlineChars.induct c with
  | case1 => exact c.inlineChars_nil
  | case2 cs ih =>
    rw [wordsBehind, if_pos rfl] at free
    obtain ⟨first, later⟩ := List.forall_mem_cons.1 free
    rw [← wordsBehind_dropWhile outside] at later
    rw [inlineChars, if_pos rfl, inlineName_free first, ih later, List.cons_append,
      List.takeWhile_append_dropWhile]
  | case3 x cs other ih =>
    rw [wordsBehind, if_neg other] at free
    rw [inlineChars, if_neg other, ih free]

/-- The scanner leaves a text as it is exactly if it finds no literal in it. -/
theorem Legible.scanned_eq_self_iff (legible : c.Legible) (text : String) :
    c.scanned text = text ↔ c.Spares text := by
  constructor
  · intro same
    have chars := congrArg String.toList same
    rw [scanned, String.toList_ofList] at chars
    exact legible.free_of_append_eq (congrArg (· ++ []) chars)
  · intro spares
    rw [scanned, inlineChars_eq_self legible.marker spares, String.ofList_toList]

def inlined (c : Compiled) : Leaf → String
  | .literal value _ => value.literalText
  | .parameter p => c.scanned (c.placeholder p)

end Compiled

end ParamQuery
