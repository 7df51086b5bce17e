import ParamQuery.Proofs.Inline.FixedText
import ParamQuery.Proofs.Naming.Generated

/-!
# Query text with its values in place is exact

For a marker that stands in no identifier and is no punctuation, the text with the literals in place
is that of the tree rendered directly, with the texts of literals and the placeholders of explicit
parameters for its leaves. Values are not scanned, so it does not matter what is written in them.
-/

namespace ParamQuery

namespace Compiled

/-- The scanner shows a literal whose name is an identifier and is that of no other literal. -/
theorem shows_literal {c : Compiled} (nodup : (c.bindings.map Binding.name).Nodup) {b : Binding}
    (mem : b ∈ c.bindings) (identifier : IsIdentifier b.name) :
    c.Shows (.literal b.value b.type) b.name := by
  intro rest breaks
  have nonempty : b.name ≠ "" := by
    intro same
    rw [same] at identifier
    exact identifier
  show c.inlineChars ((String.singleton c.marker ++ b.name).toList ++ rest) = _
  rw [String.toList_append, String.toList_singleton, List.singleton_append, List.cons_append,
    c.inlineChars_name identifier.all_isNameChar breaks, c.inlineName_binding nodup mem nonempty]
  rfl

/-- The scanner shows a marker with a name that belongs to no literal. -/
theorem inlineChars_other {c : Compiled} {name : String} {rest : List Char}
    (letters : name.toList.all isNameChar = true) (other : ∀ b ∈ c.bindings, b.name ≠ name)
    (breaks : Breaks rest) :
    c.inlineChars ((String.singleton c.marker ++ name).toList ++ rest) =
      (String.singleton c.marker ++ name).toList ++ c.inlineChars rest := by
  rw [String.toList_append, String.toList_singleton, List.singleton_append, List.cons_append,
    c.inlineChars_name letters breaks, c.inlineName_other other]

theorem eq_or_isDigit_of_mem_position {x : Char} {position : Nat}
    (mem : x ∈ ("?" ++ toString position).toList) : x = '?' ∨ x.isDigit = true := by
  rw [String.toList_append, Nat.toString_eq_repr, Nat.toList_repr] at mem
  rcases List.mem_append.1 mem with mark | digit
  · exact Or.inl (List.mem_singleton.1 mark)
  · exact Or.inr (Nat.isDigit_of_mem_toDigits (by decide) (by decide) digit)

theorem isPlain_position {x : Char} {position : Nat}
    (mem : x ∈ ("?" ++ toString position).toList) : isPlain x = true := by
  rcases eq_or_isDigit_of_mem_position mem with rfl | digit
  · rfl
  · rw [isPlain, isNameChar_of_isDigit digit]
    rfl

theorem shows_named {c : Compiled} {name : String} (type : ValueType)
    (letters : name.toList.all isNameChar = true) (other : ∀ b ∈ c.bindings, b.name ≠ name) :
    c.Shows (.parameter ⟨.named name, type⟩) name :=
  fun _ breaks => inlineChars_other letters other breaks

theorem shows_positional {c : Compiled} (apart : isPlain c.marker = false) (position : Nat)
    (type : ValueType) :
    c.Shows (.parameter ⟨.positional position, type⟩) ("?" ++ toString position) := by
  intro rest _
  have absent : c.marker ∉ ("?" ++ toString position).toList := by
    intro there
    have plain := isPlain_position there
    rw [apart] at plain
    cases plain
  exact c.inlineChars_append absent rest

theorem shows_unnamed {c : Compiled} {token name : String} (type : ValueType)
    (looked : NamedParameter.nameIn? c.parameters (.unnamed token) = some name)
    (letters : name.toList.all isNameChar = true) (other : ∀ b ∈ c.bindings, b.name ≠ name) :
    c.Shows (.parameter ⟨.unnamed token, type⟩) name := by
  intro rest breaks
  have same : c.shown (.parameter ⟨.unnamed token, type⟩) = String.singleton c.marker ++ name := by
    simp only [shown, placeholder, looked, Option.getD_some]
  rw [same]
  exact inlineChars_other letters other breaks

end Compiled

namespace Template

open Compiled

theorem isIdentifier_of_mem_generated {settings : Settings} (valid : settings.Valid) {t : Template}
    {name : String} (mem : name ∈ (compile settings t).1.generated) : IsIdentifier name := by
  obtain ⟨n, rfl⟩ := numbered_of_mem_generated mem
  exact valid.isIdentifier_parameterPrefix.numbered n

/-- What stands behind a marker for an explicit parameter consists of letters of names. -/
theorem letters_of_mem_parameters {settings : Settings} (valid : settings.Valid) {t : Template}
    (letters : ∀ p ∈ (leaves t).filterMap Leaf.parameter?, ∀ name ∈ p.name?,
      name.toList.all isNameChar = true)
    {q : NamedParameter} (mem : q ∈ (compile settings t).1.parameters)
    (marked : ∀ position, q.parameter.key ≠ .positional position) :
    q.name.toList.all isNameChar = true := by
  cases key : q.parameter.key with
  | positional position => exact absurd key (marked position)
  | named name =>
    obtain ⟨p, occurs, same⟩ := exists_occurrence mem
    have own := namedByKey_compile settings t q mem (by rw [key]; rfl)
    rw [own, key]
    exact letters p occurs name (by simp [Parameter.name?, same, key])
  | unnamed token =>
    have unnamed : q.parameter.key.isUnnamed = true := by
      rw [key]
      rfl
    exact (isIdentifier_of_mem_generated valid
      (mem_generated_of_unnamed mem unnamed)).all_isNameChar

theorem shows_compile {settings : Settings} (valid : settings.Valid)
    (mark : settings.marker ∉ punctuation) {t : Template}
    (letters : ∀ p ∈ (leaves t).filterMap Leaf.parameter?, ∀ name ∈ p.name?,
      name.toList.all isNameChar = true)
    {names : List String} (named : (compile settings t).1.Names (leaves t) names) :
    List.Forall₂ (compile settings t).1.Shows (leaves t) names := by
  have once := compile_generatedOnce valid t
  have byKey := namedByKey_compile settings t
  have apart : isPlain (compile settings t).1.marker = false := by
    rw [marker_compile]
    exact valid.isPlain_marker mark
  obtain ⟨nodup, -, disjoint⟩ := List.nodup_append.1 once.nodup
  refine named.forall₂ (fun b mem => shows_literal nodup mem
    (isIdentifier_of_mem_generated valid (mem_generated_of_binding mem))) ?_
  rintro ⟨key, type⟩ name mem looked
  obtain ⟨q, listed, same, rfl⟩ := NamedParameter.exists_of_nameIn? looked
  have occurs : ⟨key, type⟩ ∈ (leaves t).filterMap Leaf.parameter? :=
    List.mem_filterMap.2 ⟨_, mem, rfl⟩
  have own := byKey q listed
  rw [same] at own
  cases key with
  | named name =>
    rw [own rfl]
    refine shows_named type (letters _ occurs name rfl) ?_
    rintro b bound rfl
    exact once.not_named _ occurs _ rfl (mem_generated_of_binding bound)
  | positional position =>
    rw [own rfl]
    exact shows_positional apart position type
  | unnamed token =>
    have unnamed : q.parameter.key.isUnnamed = true := by
      rw [same]
      rfl
    refine shows_unnamed type looked
      (letters_of_mem_parameters valid letters listed (by simp [same])) ?_
    intro b bound
    exact disjoint _ (List.mem_map_of_mem bound) _
      (List.mem_map_of_mem (List.mem_filter.2 ⟨listed, unnamed⟩))

theorem inlineText_compile {settings : Settings} (valid : settings.Valid)
    (mark : settings.marker ∉ punctuation) {t : Template} (scannable : Scannable settings.marker t)
    (letters : ∀ p ∈ (leaves t).filterMap Leaf.parameter?, ∀ name ∈ p.name?,
      name.toList.all isNameChar = true) :
    (compile settings t).1.inlineText = written (compile settings t).1.shown t := by
  obtain ⟨names, named, text⟩ := exists_names_compile settings t
  have shows := shows_compile valid mark letters named
  rw [← marker_compile settings t] at text scannable
  rw [inlineText, text, inlineChars_fill _ scannable shows, String.ofList_toList]

end Template

/--
The text with the literals in place is that of the tree rendered directly.

The marker is no punctuation and stands in no identifier, and the named parameters have names of
letters, digits and underscores. Then every literal is replaced by its text and every explicit
parameter keeps its placeholder, whatever the values of the literals are.
-/
theorem inlineText_eq_written (settings : Settings) (valid : settings.Valid)
    (mark : settings.marker ∉ punctuation) :
    (∀ e : Expr, Unmarked settings.marker e.identifiers →
      (∀ p ∈ e.parameters, ∀ name ∈ p.name?, name.toList.all isNameChar = true) →
      (e.compile settings).1.inlineText = e.written (e.compile settings).1.shown) ∧
    ∀ (q : Query) (outcome : Compiled × List Log.Event), q.compile settings = .ok outcome →
      Unmarked settings.marker q.identifiers →
      (∀ p ∈ q.parameters, ∀ name ∈ p.name?, name.toList.all isNameChar = true) →
      q.written outcome.1.shown = .ok outcome.1.inlineText := by
  have apart := valid.isPlain_marker mark
  constructor
  · intro e unmarked letters
    rw [e.compile_eq, e.written_eq]
    exact Template.inlineText_compile valid mark (Expr.scannable_template apart e unmarked) letters
  · intro q outcome compiled unmarked letters
    obtain ⟨t, same, leaves, rfl⟩ := q.exists_template compiled
    rw [Query.parameters, ← leaves] at letters
    have scannable := Query.scannable_template apart unmarked same
    rw [q.written_eq, same, Template.inlineText_compile valid mark scannable letters]
    rfl

/-- A string that reads like a placeholder is not replaced in its turn. -/
theorem inlineText_eq_written_of_placeholder_in_string :
    let e : Expr := .junction .or
      [.comparison .equal (.path "t0" "name" none)
          (.literal (.scalar (.string ":param1")) (some .string)),
        .comparison .less (.literal (.scalar (.bool true)) (some .bool))
          (.parameter ⟨.unnamed "a", .bool⟩),
        .comparison .equal (.parameter ⟨.positional 2, .int⟩) (.parameter ⟨.named "n", .int⟩)]
    let query : Query := ((Query.start "t").addRoot "Person").2.restrict e
    (e.compile .standard).1.text =
        "(t0.name = :param0 or :param1 < :param2 or ?2 = :n)" ∧
      (e.compile .standard).1.inlineText =
        "(t0.name = ':param1' or TRUE < :param2 or ?2 = :n)" ∧
      ∃ outcome, query.compile .standard = .ok outcome ∧
        query.written outcome.1.shown = .ok outcome.1.inlineText := by
  intro e query
  have exact_text := inlineText_eq_written .standard Settings.standard_valid (by decide)
  refine ⟨by decide +kernel, ?_, _, rfl, ?_⟩
  · rw [exact_text.1 e (by decide +kernel) (by decide +kernel)]
    decide +kernel
  · exact exact_text.2 query _ rfl (by decide +kernel) (by decide +kernel)

end ParamQuery
