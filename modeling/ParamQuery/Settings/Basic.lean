import ParamQuery.Naming
import ParamQuery.Text.Unicode.Classes

/-!
# Settings

The settings that control how names, placeholders and log messages are written. A settings value
may break the rules of `Settings.check`; only the settings that are loaded from sources obey them.
Stems are identifiers, so that a generated name can be found again in query text, and the marker is
a character that no name can contain.
-/

namespace ParamQuery

structure Settings where
  /-- The stem of generated parameter names. -/
  parameterPrefix : String
  /-- The first counter of generated parameter names. -/
  parameterStart : UInt64
  /-- The character in front of a parameter's name in query text. -/
  marker : Char
  /-- The stem of generated aliases. -/
  aliasPrefix : String
  /-- Whether compiled queries are logged with their bindings. -/
  logBindings : Bool
  /-- How many characters of the bindings are logged. -/
  reprMaxChars : UInt64
deriving DecidableEq, Repr

namespace Settings

def standard : Settings where
  parameterPrefix := "param"
  parameterStart := 0
  marker := ':'
  aliasPrefix := "generatedAlias"
  logBindings := true
  reprMaxChars := 300

instance : Inhabited Settings := ⟨standard⟩

def placeholder (s : Settings) (name : String) : String := String.singleton s.marker ++ name

/-! ## Validity -/

inductive Fault where
  | emptyIdentifier (key : String)
  | badFirstCharacter (key value : String)
  | badCharacter (key value : String)
  | badMarker (marker : Char)
  | startTooLarge (start : UInt64)
  | noReprChars
deriving DecidableEq, Repr

def maxParameterStart : UInt64 := 4294967295

def Fault.message : Fault → String
  | .emptyIdentifier key => key ++ " must not be empty"
  | .badFirstCharacter key value =>
    key ++ " '" ++ value ++ "' must start with a letter or underscore"
  | .badCharacter key value =>
    key ++ " '" ++ value ++ "' may only contain ASCII letters, digits and underscores"
  | .badMarker marker =>
    "placeholder_marker '" ++ String.singleton marker ++ "' must be a punctuation character"
  | .startTooLarge start =>
    "parameter_start " ++ toString start.toNat ++ " exceeds the maximum of " ++
      toString maxParameterStart.toNat
  | .noReprChars => "repr_max_chars must be greater than zero"

def isMarker (c : Char) : Bool := !(Text.isAlphanumeric c || c == '_' || Text.isBlank c)

def checkIdentifier (key value : String) : Except Fault Unit :=
  match value.toList with
  | [] => .error (.emptyIdentifier key)
  | first :: rest =>
    if !isNameStart first then .error (.badFirstCharacter key value)
    else if rest.all isNameChar then .ok ()
    else .error (.badCharacter key value)

/-- Checks all rules, in a fixed order. -/
def check (s : Settings) : Except Fault Unit := do
  checkIdentifier "parameter_prefix" s.parameterPrefix
  checkIdentifier "alias_prefix" s.aliasPrefix
  if !isMarker s.marker then
    throw (.badMarker s.marker)
  if maxParameterStart < s.parameterStart then
    throw (.startTooLarge s.parameterStart)
  if s.reprMaxChars = 0 then
    throw .noReprChars

def Valid (s : Settings) : Prop := s.check = .ok ()

instance (s : Settings) : Decidable s.Valid := by
  unfold Valid
  match s.check with
  | .ok () => exact .isTrue rfl
  | .error f => exact .isFalse (by simp)

/-- The standard settings are valid. -/
theorem standard_valid : standard.Valid := by
  decide +kernel

end Settings

end ParamQuery
