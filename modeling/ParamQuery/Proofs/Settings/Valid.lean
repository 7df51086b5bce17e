import ParamQuery.Settings.Basic

/-!
# What validity of settings means

Settings are valid exactly when both stems are identifiers, the marker is a mark, and both numbers
lie within their limits. A name made of an identifier and a counter is an identifier.
-/

namespace ParamQuery

/-- A text that starts like a name and goes on like one. -/
def IsIdentifier (text : String) : Prop :=
  match text.toList with
  | [] => False
  | first :: rest => isNameStart first = true ∧ rest.all isNameChar = true

instance : DecidablePred IsIdentifier := fun text =>
  match h : text.toList with
  | [] => .isFalse (by simp [IsIdentifier, h])
  | first :: rest =>
    decidable_of_iff (isNameStart first = true ∧ rest.all isNameChar = true)
      (by simp [IsIdentifier, h])

theorem isIdentifier_iff {text : String} :
    IsIdentifier text ↔ ∃ first rest, text.toList = first :: rest ∧ isNameStart first = true ∧
      rest.all isNameChar = true := by
  unfold IsIdentifier
  cases text.toList with
  | nil => simp
  | cons first rest =>
    constructor
    · intro h
      exact ⟨first, rest, rfl, h⟩
    · rintro ⟨_, _, same, h⟩
      cases same
      exact h

theorem isNameChar_of_isNameStart {c : Char} (h : isNameStart c = true) : isNameChar c = true := by
  simp only [isNameStart, isNameChar, Char.isAlphanum, Bool.or_eq_true] at h ⊢
  rcases h with alpha | underscore
  · exact Or.inl (Or.inl alpha)
  · exact Or.inr underscore

theorem isNameChar_of_isDigit {c : Char} (h : c.isDigit = true) : isNameChar c = true := by
  simp [isNameChar, Char.isAlphanum, h]

theorem isNameStart_of_isDigit {c : Char} (h : c.isDigit = true) : isNameStart c = false := by
  have high : c.val ≤ '9'.val := by
    simp only [Char.isDigit, Bool.and_eq_true, decide_eq_true_eq] at h
    exact h.2
  have upper : c.isUpper = false := decide_eq_false fun bounds => absurd bounds.1 (by grind)
  have lower : c.isLower = false := by
    have bound : ¬('a'.val ≤ c.val) := by grind
    show (decide ('a'.val ≤ c.val) && _) = false
    rw [decide_eq_false bound, Bool.false_and]
  have letter : c.isAlpha = false := by
    show (c.isUpper || c.isLower) = false
    rw [upper, lower, Bool.or_false]
  have underscore : c ≠ '_' := by
    rintro rfl
    exact absurd h (by decide)
  rw [isNameStart, letter, beq_eq_false_iff_ne.2 underscore]
  rfl

theorem IsIdentifier.all_isNameChar {text : String} (h : IsIdentifier text) :
    text.toList.all isNameChar = true := by
  obtain ⟨first, rest, same, start, others⟩ := isIdentifier_iff.1 h
  rw [same, List.all_cons, isNameChar_of_isNameStart start, others]
  rfl

theorem IsIdentifier.numbered {stem : String} (h : IsIdentifier stem) (counter : Nat) :
    IsIdentifier (numbered stem counter) := by
  obtain ⟨first, rest, same, start, others⟩ := isIdentifier_iff.1 h
  refine isIdentifier_iff.2 ⟨first, rest ++ (toString counter).toList, ?_, start, ?_⟩
  · rw [ParamQuery.numbered, String.toList_append, same, List.cons_append]
  · rw [List.all_append, others, Bool.true_and, List.all_eq_true]
    intro c mem
    rw [Nat.toString_eq_repr, Nat.toList_repr] at mem
    exact isNameChar_of_isDigit (Nat.isDigit_of_mem_toDigits (by decide) (by decide) mem)

namespace Settings

theorem checkIdentifier_eq_ok_iff (key value : String) :
    checkIdentifier key value = .ok () ↔ IsIdentifier value := by
  unfold checkIdentifier IsIdentifier
  cases value.toList with
  | nil => simp only [reduceCtorEq]
  | cons first rest =>
    by_cases start : isNameStart first = true
    · by_cases others : rest.all isNameChar = true
      · simp only [start, others, Bool.not_true, Bool.false_eq_true, if_false, if_true, and_self]
      · simp only [start, others, Bool.not_true, Bool.false_eq_true, if_false, reduceCtorEq,
          and_false]
    · simp only [start, Bool.not_false, if_true, reduceCtorEq, false_and]

/-- A guard passes exactly when its condition does not hold. -/
theorem guard_eq_ok_iff {p : Prop} [Decidable p] {fault : Fault} {next : Except Fault Unit} :
    (do
      if p then
        throw fault
      next : Except Fault Unit) = .ok () ↔ ¬p ∧ next = .ok () := by
  by_cases h : p
  · simp only [h, not_true_eq_false, false_and, iff_false]
    intro same
    cases same
  · simp only [h, not_false_eq_true, true_and]
    rfl

theorem valid_iff (s : Settings) :
    s.Valid ↔ IsIdentifier s.parameterPrefix ∧ IsIdentifier s.aliasPrefix ∧
      isMarker s.marker = true ∧ s.parameterStart ≤ maxParameterStart ∧ s.reprMaxChars ≠ 0 := by
  rw [Valid, check, ← checkIdentifier_eq_ok_iff "parameter_prefix",
    ← checkIdentifier_eq_ok_iff "alias_prefix"]
  cases checkIdentifier "parameter_prefix" s.parameterPrefix with
  | error fault => simp [bind, Except.bind]
  | ok _ =>
    cases checkIdentifier "alias_prefix" s.aliasPrefix with
    | error fault => simp [bind, Except.bind]
    | ok _ =>
      show (do
        if (!isMarker s.marker) = true then
          throw (Fault.badMarker s.marker)
        if maxParameterStart < s.parameterStart then
          throw (Fault.startTooLarge s.parameterStart)
        if s.reprMaxChars = 0 then
          throw Fault.noReprChars
        pure () : Except Fault Unit) = .ok () ↔ _
      rw [guard_eq_ok_iff, guard_eq_ok_iff, guard_eq_ok_iff]
      simp [pure, Except.pure, UInt64.not_lt]

theorem Valid.isIdentifier_parameterPrefix {s : Settings} (valid : s.Valid) :
    IsIdentifier s.parameterPrefix :=
  ((valid_iff s).1 valid).1

end Settings

end ParamQuery
