import ParamQuery.Value.Literal

/-!
# Literals read back

A text, a character and a JSON value stand in quotes in their literals, bytes in hexadecimal digits
behind an `X`. Readers that know nothing of values find the end of such a literal, whatever it holds
and whatever stands behind it, as long as no quote follows quoted text (`literals_read_back`). What
the reader of quoted text takes is exactly what is written in quotes (`Text.Quoted.read?_eq_some_iff`).
-/

namespace ParamQuery

namespace Text.Quoted

theorem eq_of_readBody? {input cs rest : List Char} (read : readBody? input = some (cs, rest)) :
    input = double cs ++ '\'' :: rest ∧ rest.head? ≠ some '\'' := by
  -- The reader tells a doubled quote from the one that ends the text by the character behind it.
  fun_induction readBody? input generalizing cs with
  | case1 => cases read
  | case2 behind ih =>
    obtain ⟨⟨body, after⟩, inner, same⟩ := Option.map_eq_some_iff.1 read
    cases same
    obtain ⟨written, apart⟩ := ih inner
    exact ⟨by rw [written]; rfl, apart⟩
  | case3 behind single =>
    cases read
    refine ⟨rfl, fun another => ?_⟩
    obtain ⟨more, rfl⟩ := List.head?_eq_some_iff.1 another
    exact single more rfl
  | case4 c behind _ other ih =>
    obtain ⟨⟨body, after⟩, inner, same⟩ := Option.map_eq_some_iff.1 read
    cases same
    obtain ⟨written, apart⟩ := ih inner
    have plain : c ≠ '\'' := other
    exact ⟨by rw [written, double, if_neg plain]; rfl, apart⟩

/-- Quoted text is read exactly where a text stands in its quotes and no quote follows. -/
theorem read?_eq_some_iff {input cs rest : List Char} :
    read? input = some (cs, rest) ↔ input = encode cs ++ rest ∧ rest.head? ≠ some '\'' := by
  constructor
  · intro read
    unfold read? at read
    split at read
    next body =>
      obtain ⟨written, apart⟩ := eq_of_readBody? read
      exact ⟨by simp [written, encode], apart⟩
    next => cases read
  · rintro ⟨rfl, apart⟩
    exact read?_encode cs rest apart

/-- A text in its quotes tells which text it is. -/
theorem quote_inj {s t : String} (same : quote s = quote t) : s = t := by
  have read (u : String) : read? (quote u).toList = some (u.toList, []) := by
    rw [read?_eq_some_iff, quote, String.toList_ofList]
    exact ⟨(List.append_nil _).symm, by simp⟩
  have texts := (read s).symm.trans ((congrArg (read? ·.toList) same).trans (read t))
  exact String.toList_inj.1 (by simpa using texts)

end Text.Quoted

namespace Text.Hex

/-- The bytes that digits spell between `X'` and the next quote, and what follows that quote. -/
def read? : List Char → Option (List UInt8 × List Char)
  | 'X' :: '\'' :: rest =>
    match rest.dropWhile (· ≠ '\'') with
    | [] => none
    | _ :: behind => (decode? (rest.takeWhile (· ≠ '\''))).map fun bytes => (bytes, behind)
  | _ => none

theorem upperHexDigit_ne_quote (n : Nat) : upperHexDigit n ≠ '\'' := by
  have all : ∀ d, d < 16 → (Nat.digitChar d).toUpper ≠ '\'' := by decide
  exact all _ (Nat.mod_lt n (by decide))

theorem ne_quote_of_mem_encodeUpper {bytes : List UInt8} {c : Char} (mem : c ∈ encodeUpper bytes) :
    c ≠ '\'' := by
  induction bytes with
  | nil => cases mem
  | cons b rest ih =>
    rw [encodeUpper, List.mem_cons, List.mem_cons] at mem
    obtain rfl | rfl | later := mem
    · exact upperHexDigit_ne_quote _
    · exact upperHexDigit_ne_quote _
    · exact ih later

/-- Bytes in upper-case digits read back, whatever stands behind their quote. -/
theorem read?_encodeUpper (bytes : List UInt8) (rest : List Char) :
    read? ('X' :: '\'' :: (encodeUpper bytes ++ '\'' :: rest)) = some (bytes, rest) := by
  have digits : ∀ c ∈ encodeUpper bytes, decide (c ≠ '\'') = true := fun c mem =>
    decide_eq_true (ne_quote_of_mem_encodeUpper mem)
  have taken : (encodeUpper bytes ++ '\'' :: rest).takeWhile (· ≠ '\'') = encodeUpper bytes := by
    rw [List.takeWhile_append_of_pos digits]
    simp
  have left : (encodeUpper bytes ++ '\'' :: rest).dropWhile (· ≠ '\'') = '\'' :: rest := by
    rw [List.dropWhile_append_of_pos digits]
    simp
  simp only [read?, taken, left, decode?_encodeUpper, Option.map_some]

end Text.Hex

open Text (Quoted.quote Quoted.quote_inj)

/-- The text that a scalar holds, or that is printed for it, if its literal is this text in quotes. -/
def Scalar.quotedText? : Scalar → Option String
  | .char c => some (String.singleton c)
  | .string s => some s
  | .json v => some v.text
  | _ => none

theorem Scalar.literalText_of_quotedText? {s : Scalar} {text : String}
    (quoted : s.quotedText? = some text) : s.literalText = Quoted.quote text := by
  cases s <;> cases quoted <;> rfl

theorem Scalar.toList_literalText_bytes (bytes : List UInt8) :
    (Scalar.bytes bytes).literalText.toList =
      'X' :: '\'' :: (Text.Hex.encodeUpper bytes ++ ['\'']) :=
  String.toList_ofList

/--
Literals of texts and of bytes cannot be broken out of.

The literal of a character, of a text or of a JSON value is read as quoted text. Reading gives the
text back and ends at the end of the literal, whatever follows it, as long as that is no quote; and
it gives this text and this rest nowhere else. The literal of bytes is read as digits and gives the
bytes back. Hence the literals of two values of one of these types are equal only if the values are,
or their texts in the case of JSON.
-/
theorem literals_read_back :
    (∀ (s : Scalar) (text : String), s.quotedText? = some text → ∀ input rest : List Char,
      Text.Quoted.read? input = some (text.toList, rest) ↔
        input = (Value.scalar s).literalText.toList ++ rest ∧ rest.head? ≠ some '\'') ∧
    (∀ (bytes : List UInt8) (rest : List Char),
      Text.Hex.read? ((Value.scalar (.bytes bytes)).literalText.toList ++ rest) =
        some (bytes, rest)) ∧
    (∀ a b : Char,
      (Value.scalar (.char a)).literalText = (Value.scalar (.char b)).literalText → a = b) ∧
    (∀ a b : String,
      (Value.scalar (.string a)).literalText = (Value.scalar (.string b)).literalText → a = b) ∧
    (∀ a b : Json,
      (Value.scalar (.json a)).literalText = (Value.scalar (.json b)).literalText →
        a.text = b.text) ∧
    (∀ a b : List UInt8,
      (Value.scalar (.bytes a)).literalText = (Value.scalar (.bytes b)).literalText → a = b) := by
  have bytes_read (bytes : List UInt8) (rest : List Char) :
      Text.Hex.read? ((Value.scalar (.bytes bytes)).literalText.toList ++ rest) =
        some (bytes, rest) := by
    rw [Value.literalText, Scalar.toList_literalText_bytes, List.cons_append, List.cons_append,
      List.append_assoc]
    exact Text.Hex.read?_encodeUpper bytes rest
  refine ⟨?_, bytes_read, ?_, ?_, ?_, ?_⟩
  · intro s text quoted input rest
    rw [Value.literalText, Scalar.literalText_of_quotedText? quoted, Quoted.quote,
      String.toList_ofList]
    exact Text.Quoted.read?_eq_some_iff
  · intro a b same
    exact String.singleton_inj.1 (Quoted.quote_inj same)
  · intro a b same
    exact Quoted.quote_inj same
  · intro a b same
    exact Quoted.quote_inj same
  · intro a b same
    have first := bytes_read a []
    rw [same, bytes_read b []] at first
    cases first
    rfl

/-- Quotes at both ends and next to each other, before text that a reader could take for more. -/
theorem literals_read_back_of_quotes :
    (Value.scalar (.string "'' or '1'='1'")).literalText = "''''' or ''1''=''1'''" ∧
      Text.Quoted.read? ("''''' or ''1''=''1''' or 'x'").toList =
        some ("'' or '1'='1'".toList, " or 'x'".toList) ∧
      Text.Hex.read? "X'AB01''".toList = some ([0xAB, 0x01], ['\'']) := by
  refine ⟨by decide +kernel, ?_, ?_⟩
  · exact (literals_read_back.1 (.string "'' or '1'='1'") _ rfl _ _).2
      ⟨by decide +kernel, by decide⟩
  · exact literals_read_back.2.1 [0xAB, 0x01] ['\'']

end ParamQuery
