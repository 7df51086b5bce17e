import ParamQuery.Proofs.Inline.Exact
import ParamQuery.Proofs.Inline.Placeholders
import ParamQuery.Proofs.Naming.Substitution
import ParamQuery.Proofs.Text.Signed

/-!
# Values in place beside names of any form

The standard settings leave literals legible: no text of a value begins with the marker. So the text
with the literals in place is that of the tree rendered directly, with every explicit placeholder in
it, exactly if no named parameter has a name in which the scanner finds a literal.
-/

namespace ParamQuery

/-! ## Where the texts of values begin -/

def BeginsUnmarked (text : String) : Prop := ∃ x ∈ text.toList.head?, x ≠ ':'

theorem BeginsUnmarked.append {first : String} (begins : BeginsUnmarked first) (second : String) :
    BeginsUnmarked (first ++ second) := by
  obtain ⟨x, mem, other⟩ := begins
  refine ⟨x, ?_, other⟩
  rw [String.toList_append, List.head?_append, mem]
  rfl

theorem beginsUnmarked_ofList {x : Char} (other : x ≠ ':') (rest : List Char) :
    BeginsUnmarked (String.ofList (x :: rest)) := by
  refine ⟨x, ?_, other⟩
  rw [String.toList_ofList]
  rfl

theorem beginsUnmarked_of_isDigit {cs : List Char} (digits : ∀ x ∈ cs, x.isDigit = true)
    (nonempty : cs ≠ []) : BeginsUnmarked (String.ofList cs) := by
  cases cs with
  | nil => exact absurd rfl nonempty
  | cons x rest =>
    refine beginsUnmarked_ofList ?_ rest
    rintro rfl
    exact absurd (digits ':' List.mem_cons_self) (by decide)

theorem beginsUnmarked_of_isSigned {text : String} (signed : Text.IsSigned text.toList) :
    BeginsUnmarked text := by
  obtain ⟨sign, digits, same, signs, some_digit, all⟩ := signed
  rw [← text.ofList_toList, same]
  simp only [List.mem_cons, List.not_mem_nil, or_false] at signs
  rcases signs with rfl | rfl | rfl
  · exact beginsUnmarked_of_isDigit all some_digit
  · exact beginsUnmarked_ofList (by decide) digits
  · exact beginsUnmarked_ofList (by decide) digits

theorem beginsUnmarked_toString (n : Nat) : BeginsUnmarked (toString n) := by
  apply beginsUnmarked_of_isSigned
  rw [Nat.toString_eq_repr, Nat.toList_repr]
  exact Text.isSigned_toDigits n

theorem beginsUnmarked_positional (d : Decimal) : BeginsUnmarked d.positional := by
  have digits : ∀ x ∈ Nat.toDigits 10 d.digits, x.isDigit = true :=
    fun _ mem => Nat.isDigit_of_mem_toDigits (by decide) (by decide) mem
  simp only [Decimal.positional]
  split
  · exact (beginsUnmarked_of_isDigit digits Nat.toDigits_ne_nil).append _
  · refine (BeginsUnmarked.append ?_ _ |>.append _).append _
    split
    · exact ⟨'0', rfl, by decide⟩
    next some_whole =>
      refine beginsUnmarked_of_isDigit (fun x mem => digits x (List.mem_of_mem_take mem)) ?_
      rw [Ne, List.take_eq_nil_iff]
      exact not_or.2 ⟨some_whole, Nat.toDigits_ne_nil⟩

theorem beginsUnmarked_floatText {f : Floating.Format} (x : Floating.Number f) :
    BeginsUnmarked (floatText x) := by
  have signed {text : String} (begins : BeginsUnmarked text) :
      BeginsUnmarked ((if x.isNegative then "-" else "") ++ text) := by
    split
    · exact BeginsUnmarked.append ⟨'-', rfl, by decide⟩ text
    · rwa [String.empty_append]
  simp only [floatText]
  split
  · exact ⟨'N', rfl, by decide⟩
  · split
    · exact signed ⟨'i', rfl, by decide⟩
    · exact signed (beginsUnmarked_positional _)

theorem beginsUnmarked_literalText (v : Value) : BeginsUnmarked v.literalText := by
  have quoted (text : String) : BeginsUnmarked (Text.Quoted.quote text) :=
    beginsUnmarked_ofList (by decide) _
  have integer (value : Int) : BeginsUnmarked (toString value) :=
    beginsUnmarked_of_isSigned (Text.isSigned_toString value)
  cases v with
  | null type =>
    show BeginsUnmarked "NULL"
    exact ⟨'N', rfl, by decide⟩
  | scalar s =>
    cases s with
    | bool value => cases value <;> exact ⟨_, rfl, by decide⟩
    | tinyint value => exact integer _
    | smallint value => exact integer _
    | int value => exact integer _
    | bigint value => exact integer _
    | tinyUnsigned value => exact beginsUnmarked_toString _
    | smallUnsigned value => exact beginsUnmarked_toString _
    | unsigned value => exact beginsUnmarked_toString _
    | bigUnsigned value => exact beginsUnmarked_toString _
    | float value => exact beginsUnmarked_floatText value
    | double value => exact beginsUnmarked_floatText value
    | bytes value => exact beginsUnmarked_ofList (by decide) _
    | _ => exact quoted _

/-! ## What the scanner makes of leaves -/

namespace Compiled

variable {c : Compiled}

theorem token_eq_placeholder (byKey : NamedParameter.NamedByKey c.parameters) {p : Parameter}
    {name : String} (looked : NamedParameter.nameIn? c.parameters p.key = some name) :
    (Leaf.parameter p).token c.marker name = c.placeholder p := by
  rw [token_eq byKey looked]
  obtain ⟨key, type⟩ := p
  cases key with
  | positional position => rfl
  | unnamed token => rfl
  | named own =>
    obtain ⟨q, mem, same, listed⟩ := NamedParameter.exists_of_nameIn? looked
    have text := byKey q mem (by rw [same]; rfl)
    rw [same, listed] at text
    rw [parameterToken_marked looked (fun _ same => by cases same), text]
    rfl

theorem spares_position (apart : isPlain c.marker = false) (position : Nat) :
    c.Spares ("?" ++ toString position) := by
  have absent : c.marker ∉ ("?" ++ toString position).toList := by
    intro mem
    have plain := isPlain_position mem
    rw [apart] at plain
    cases plain
  have none := wordsBehind_append absent []
  rw [List.append_nil] at none
  intro word mem
  rw [none] at mem
  exact absurd mem List.not_mem_nil

theorem spares_marked (outside : isNameChar c.marker = false) {name : String}
    (letters : name.toList.all isNameChar = true) (free : name ∉ c.bindings.map Binding.name) :
    c.Spares (c.marked name) := by
  have inside : ∀ x ∈ name.toList, isNameChar x = true := List.all_eq_true.1 letters
  have behind : wordsBehind c.marker name.toList = [] := by
    rw [← wordsBehind_dropWhile outside, List.dropWhile_eq_nil_iff.2 inside, wordsBehind]
  have words : wordsBehind c.marker (c.marked name).toList = [name] := by
    rw [marked, String.toList_append, String.toList_singleton, List.singleton_append, wordsBehind,
      if_pos rfl, behind, List.takeWhile_eq_self_iff.2 inside, String.ofList_toList]
  intro word mem
  rw [words] at mem
  rwa [List.mem_singleton.1 mem]

end Compiled

namespace Template

open Compiled

theorem written_congr {write other : Leaf → String} {t : Template}
    (same : ∀ leaf ∈ leaves t, write leaf = other leaf) : written write t = written other t := by
  rw [← fill_leaves, ← fill_leaves, List.map_congr_left same]

/-- If the text with what the scanner reads can pass for that with all placeholders, it is that. -/
theorem inlined_eq_of_append_eq {c : Compiled} (legible : c.Legible) {t : Template}
    {first second : List Char}
    (same : (written c.inlined t).toList ++ first = (written c.shown t).toList ++ second) :
    ∀ leaf ∈ leaves t, c.inlined leaf = c.shown leaf := by
  induction t with
  | nil => exact fun _ mem => absurd mem List.not_mem_nil
  | cons piece rest ih =>
    cases piece with
    | fixed text =>
      rw [written, written, String.toList_append, String.toList_append, List.append_assoc,
        List.append_assoc, List.append_cancel_left_eq] at same
      exact ih same
    | leaf leaf =>
      rw [written, written, String.toList_append, String.toList_append, List.append_assoc,
        List.append_assoc] at same
      have own : c.inlined leaf = c.shown leaf := by
        cases leaf with
        | literal value type => rfl
        | parameter p =>
          rw [inlined, scanned, String.toList_ofList] at same
          exact (legible.scanned_eq_self_iff _).2 (legible.free_of_append_eq same)
      rw [own, List.append_cancel_left_eq] at same
      exact List.forall_mem_cons.2 ⟨own, ih same⟩

/-! ## Templates under the standard settings -/

theorem compile_legible (t : Template) : (compile .standard t).1.Legible where
  marker := by
    rw [marker_compile]
    rfl
  named b mem := by
    have identifier := isIdentifier_of_mem_generated Settings.standard_valid
      (mem_generated_of_binding mem)
    intro same
    rw [same] at identifier
    exact identifier
  begins b _ := by
    rw [marker_compile]
    exact beginsUnmarked_literalText b.value

/-- The scanner finds a literal in a placeholder only if it is in the name that was chosen. -/
theorem spares_placeholder_iff {t : Template} {p : Parameter} (occurs : .parameter p ∈ leaves t) :
    (compile .standard t).1.Spares ((compile .standard t).1.placeholder p) ↔
      ∀ name ∈ p.name?, (compile .standard t).1.Spares ((compile .standard t).1.marked name) := by
  have marker := marker_compile .standard t
  obtain ⟨key, type⟩ := p
  cases key with
  | named own => simp [Parameter.name?, placeholder, marked]
  | positional position =>
    refine iff_of_true (spares_position (by rw [marker]; rfl) position) ?_
    simp [Parameter.name?]
  | unnamed token =>
    refine iff_of_true ?_ (by simp [Parameter.name?])
    obtain ⟨names, named, -⟩ := exists_names_compile .standard t
    obtain ⟨name, looked⟩ := named.exists_nameIn? occurs
    obtain ⟨q, listed, same, rfl⟩ := NamedParameter.exists_of_nameIn? looked
    have unnamed : q.parameter.key.isUnnamed = true := by
      rw [same]
      rfl
    have generated := mem_generated_of_unnamed listed unnamed
    have letters := (isIdentifier_of_mem_generated Settings.standard_valid
      generated).all_isNameChar
    have free : q.name ∉ (compile .standard t).1.bindings.map Binding.name := by
      intro bound
      obtain ⟨b, mem, called⟩ := List.mem_map.1 bound
      have once := compile_generatedOnce Settings.standard_valid t
      exact once.binding_name_not_mem mem (called ▸ List.mem_map_of_mem listed)
    have text : (compile .standard t).1.placeholder ⟨.unnamed token, type⟩ =
        (compile .standard t).1.marked q.name := by
      simp only [placeholder, looked, Option.getD_some, marked]
    rw [text]
    exact spares_marked (by rw [marker]; rfl) letters free

theorem inlineText_compile_standard {t : Template}
    (scannable : Scannable Settings.standard.marker t) :
    (compile .standard t).1.inlineText = written (compile .standard t).1.inlined t := by
  obtain ⟨names, named, text⟩ := exists_names_compile .standard t
  have marker := marker_compile .standard t
  have nodup := (List.nodup_append.1 (compile_generatedOnce Settings.standard_valid t).nodup).1
  have each := named.forall₂
    (R := fun leaf name => (compile .standard t).1.scanned
      (leaf.token (compile .standard t).1.marker name) = (compile .standard t).1.inlined leaf)
    (fun b mem => (shows_literal nodup mem (isIdentifier_of_mem_generated
      Settings.standard_valid (mem_generated_of_binding mem))).scanned_eq)
    (fun p name _ looked =>
      congrArg _ (token_eq_placeholder (namedByKey_compile .standard t) looked))
  rw [← marker] at text scannable
  rw [inlineText, text, inlineChars_fill_written _ scannable each, String.ofList_toList]

end Template

theorem Expr.mem_parameters {e : Expr} {p : Parameter} :
    p ∈ e.parameters ↔ .parameter p ∈ Template.leaves e.template := by
  unfold parameters
  rw [List.mem_filterMap]
  constructor
  · rintro ⟨leaf, mem, own⟩
    cases leaf with
    | literal value type => cases own
    | parameter q =>
      cases own
      exact mem
  · exact fun mem => ⟨_, mem, rfl⟩

/--
Explicit parameters keep their placeholders exactly if no literal is found in their names.

Under the standard settings the text with the literals in place is the tree with the text of each
literal, and with what the scanner reads in each placeholder, in their places. It leaves the
placeholders of positions and of unnamed parameters alone, and that of a named one exactly if no
letters, digits and underscores behind a marker in it make up the name of a literal. If it leaves
all of them alone, the text is that of the tree with its placeholders, and only then.
-/
theorem inlineText_keeps_placeholders_iff (e : Expr)
    (unmarked : Unmarked Settings.standard.marker e.identifiers) :
    let c := (e.compile .standard).1
    c.inlineText = e.written c.inlined ∧
      (∀ p ∈ e.parameters, c.inlined (.parameter p) = c.placeholder p ↔
        ∀ name ∈ p.name?, c.Spares (c.marked name)) ∧
      (c.inlineText = e.written c.shown ↔
        ∀ p ∈ e.parameters, ∀ name ∈ p.name?, c.Spares (c.marked name)) := by
  have apart := Settings.standard_valid.isPlain_marker (by decide)
  have text := Template.inlineText_compile_standard (Expr.scannable_template apart e unmarked)
  have legible := Template.compile_legible e.template
  rw [← e.compile_eq] at text legible
  have kept : ∀ p ∈ e.parameters,
      (e.compile .standard).1.inlined (.parameter p) = (e.compile .standard).1.placeholder p ↔
        ∀ name ∈ p.name?,
          (e.compile .standard).1.Spares ((e.compile .standard).1.marked name) := by
    intro p mem
    have named := Template.spares_placeholder_iff (Expr.mem_parameters.1 mem)
    rw [← e.compile_eq] at named
    exact (legible.scanned_eq_self_iff _).trans named
  refine ⟨text.trans (e.written_eq _).symm, kept, ?_⟩
  rw [text, e.written_eq]
  constructor
  · intro same p mem
    have each := Template.inlined_eq_of_append_eq legible (congrArg (·.toList ++ []) same)
    exact (kept p mem).1 (each _ (Expr.mem_parameters.1 mem))
  · intro spared
    refine Template.written_congr fun leaf mem => ?_
    cases leaf with
    | literal value type => rfl
    | parameter p =>
      have occurs := Expr.mem_parameters.2 mem
      exact (kept p occurs).2 (spared p occurs)

/-- A name that goes on behind that of a literal loses its front, a name of blanks and marks none. -/
theorem inlineText_keeps_placeholders_iff_of_longer_name :
    let five : Expr := .literal (.scalar (.int 5)) (some .int)
    let torn : Expr := .comparison .equal five (.parameter ⟨.named "param0.x", .int⟩)
    let whole : Expr := .comparison .equal five (.parameter ⟨.named "a :b:", .int⟩)
    (torn.compile .standard).1.text = ":param0 = :param0.x" ∧
      (torn.compile .standard).1.inlineText = "5 = 5.x" ∧
      (torn.compile .standard).1.inlineText ≠
        torn.written (torn.compile .standard).1.shown ∧
      (whole.compile .standard).1.inlineText =
        whole.written (whole.compile .standard).1.shown ∧
      whole.written (whole.compile .standard).1.shown = "5 = :a :b:" := by
  intro five torn whole
  have exact_torn := inlineText_keeps_placeholders_iff torn (by decide +kernel)
  have exact_whole := inlineText_keeps_placeholders_iff whole (by decide +kernel)
  refine ⟨by decide +kernel, ?_, ?_, ?_, by decide +kernel⟩
  · rw [exact_torn.1]
    decide +kernel
  · rw [Ne, exact_torn.2.2]
    decide +kernel
  · rw [exact_whole.2.2]
    decide +kernel

end ParamQuery
