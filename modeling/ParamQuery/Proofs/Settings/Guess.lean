import ParamQuery.Proofs.Settings.Readings
import ParamQuery.Proofs.Text.Signed

/-!
# Guessed values

The text of an environment variable is guessed to be a number, a truth value or a text, and a field
for text turns the value back into text. Only a number may then read differently from what was
written, as in `007` or `+5`. Such a text is signed digits before and after, and no field for text
accepts signed digits; so a field holds the text that was written, or nothing (`textOf?_guess_iff`).
-/

namespace ParamQuery.Settings

open Source (guess)
open Text (IsSigned)

theorem isMarker_of_isDigit {c : Char} (h : c.isDigit = true) : isMarker c = false := by
  have letter : c.isAlphanum = true := by simp [Char.isAlphanum, h]
  simp [isMarker, Text.isAlphanumeric_of_isAlphanum c letter]

/-- A guessed value stands for the text that it was guessed from, or both are signed digits. -/
theorem textOf?_guess (text : String) :
    ∃ restored, textOf? (guess text) = some restored ∧
      (restored = text ∨ IsSigned text.toList ∧ IsSigned restored.toList) := by
  unfold guess
  split
  next value read =>
    exact ⟨toString value, rfl, Or.inr ⟨Text.isSigned_of_readInt64? read,
      Text.isSigned_toString value⟩⟩
  next =>
    split
    next same => exact ⟨"true", rfl, Or.inl same.symm⟩
    next =>
      split
      next same => exact ⟨"false", rfl, Or.inl same.symm⟩
      next => exact ⟨text, rfl, Or.inl rfl⟩

/-- What a field accepts that refuses signed digits is exactly what was written. -/
theorem textOf?_guess_iff {Accepts : String → Prop}
    (refuses : ∀ text : String, IsSigned text.toList → ¬Accepts text) {text field : String} :
    textOf? (guess text) = some field ∧ Accepts field ↔ Accepts text ∧ field = text := by
  obtain ⟨restored, read, same | ⟨written, signed⟩⟩ := textOf?_guess text
  · subst same
    rw [read, Option.some.injEq]
    constructor
    · rintro ⟨rfl, accepted⟩
      exact ⟨accepted, rfl⟩
    · rintro ⟨accepted, rfl⟩
      exact ⟨rfl, accepted⟩
  · rw [read, Option.some.injEq]
    constructor
    · rintro ⟨rfl, accepted⟩
      exact absurd accepted (refuses _ signed)
    · rintro ⟨accepted, -⟩
      exact absurd accepted (refuses _ written)

theorem charOf?_guess_iff {text : String} {c : Char} :
    charOf? (guess text) = some c ∧ isMarker c = true ↔
      text = String.singleton c ∧ isMarker c = true := by
  have refuses : ∀ text : String, IsSigned text.toList →
      ¬∃ c, text = String.singleton c ∧ isMarker c = true := by
    rintro _ signed ⟨c, rfl, marker⟩
    rw [String.toList_singleton] at signed
    rw [isMarker_of_isDigit signed.isDigit] at marker
    cases marker
  have exact_text := @textOf?_guess_iff _ refuses text (String.singleton c)
  rw [charOf?_eq_some_iff, AsMarker, ← textOf?_eq_some_iff]
  constructor
  · rintro ⟨read, marker⟩
    exact ⟨(exact_text.1 ⟨read, c, rfl, marker⟩).2.symm, marker⟩
  · rintro ⟨same, marker⟩
    exact ⟨(exact_text.2 ⟨⟨c, same, marker⟩, same.symm⟩).1, marker⟩

theorem countOf?_guess (n : UInt64) :
    countOf? (guess (toString n.toNat)) = if n.toNat < Nat.pow 2 63 then some n else none := by
  have signed : IsSigned (toString n.toNat).toList := by
    rw [Nat.toString_eq_repr, Nat.toList_repr]
    exact Text.isSigned_toDigits n.toNat
  have no_word (word : String) (identifier : IsIdentifier word) : toString n.toNat ≠ word :=
    fun same => signed.not_isIdentifier (same ▸ identifier)
  rw [guess, Text.readInt64?_toString]
  by_cases small : n.toNat < Nat.pow 2 63
  · rw [if_pos small, if_pos small]
    exact countOf?_eq_some_iff.2 (.integer n)
  · rw [if_neg small, if_neg small]
    dsimp only
    rw [if_neg (no_word "true" (by decide)), if_neg (no_word "false" (by decide))]
    rfl

theorem flagOf?_guess (b : Bool) : flagOf? (guess (toString b)) = some b := by
  cases b <;> decide

end ParamQuery.Settings
