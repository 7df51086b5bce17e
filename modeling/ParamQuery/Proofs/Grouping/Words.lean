import ParamQuery.Proofs.Grouping.Chain

/-!
# Words in the text of chains

What can be seen in a text. An operand shows at the first letter behind a name what it is
(`Atom.opens`), and what is written behind an operand shows at its first word what it is
(`Spelling.Starts`). What follows a whole chain is the end of the text, a bracket, a comma or a word
that no chain goes on with (`Spelling.Follows`).
-/

namespace ParamQuery

open Spelling (ofText)

/-! ## Words -/

namespace Letter

def isName : Letter → Bool
  | .char c => isNameChar c
  | .sign _ => false

/-- Whether a letter is part of a word: no blank, no comma and no closing bracket. -/
def isInner : Letter → Bool
  | .char c => c != ' ' && c != ')' && c != ','
  | .sign _ => true

theorem isName_of_not_isInner {l : Letter} (outer : l.isInner = false) : l.isName = false := by
  cases l with
  | sign sign => rfl
  | char c =>
    simp only [isInner, Bool.and_eq_false_iff, bne_eq_false_iff_eq] at outer
    rcases outer with (rfl | rfl) | rfl <;> rfl

end Letter

namespace Spelling

theorem isName_of_mem {word : String} (letters : word.toList.all isNameChar = true) :
    ∀ l ∈ ofText word, l.isName = true := by
  intro l mem
  obtain ⟨c, listed, rfl⟩ := List.mem_map.1 mem
  exact List.all_eq_true.1 letters c listed

/-- Two words that break off in two equal texts are equal. -/
theorem word_eq {p : Letter → Bool} {v w : String} {r s : Spelling}
    (inside : ∀ l ∈ ofText v, p l = true) (inside' : ∀ l ∈ ofText w, p l = true)
    (outside : ∀ l ∈ r.head?, p l = false) (outside' : ∀ l ∈ s.head?, p l = false)
    (same : ofText v ++ r = ofText w ++ s) : v = w ∧ r = s := by
  have taken : ofText v = ofText w := by
    rw [← takeWhile_append_of_break inside outside, same,
      takeWhile_append_of_break inside' outside']
  rw [taken] at same
  exact ⟨ofText_inj.1 taken, List.append_cancel_left same⟩

def Boundary (r : Spelling) : Prop := ∀ l ∈ r.head?, l.isInner = false

def Starts (word : String) (r : Spelling) : Prop :=
  ∃ rest, r = .char ' ' :: (ofText word ++ rest) ∧ Boundary rest

/-- The words behind which a chain goes on. -/
def going : List String := ["is", "=", "<>", "<", "<=", ">", ">=", "like"]

/-- The words that stand between chains. -/
def dividing : List String := ["and", "or", "then", "when", "else", "end"]

/-- What can stand behind a chain. -/
inductive Follows : Spelling → Prop
  | ending : Follows []
  | bracket (rest : Spelling) : Follows (.char ')' :: rest)
  | comma (rest : Spelling) : Follows (.char ',' :: rest)
  | word {word : String} {r : Spelling} (divides : word ∈ dividing) (starts : Starts word r) :
    Follows r

theorem isInner_of_mem_words {word : String} (mem : word ∈ going ++ dividing) :
    ∀ l ∈ ofText word, l.isInner = true := by
  revert word
  decide +kernel

theorem boundary_blank (rest : Spelling) : Boundary (.char ' ' :: rest) := by
  rintro l ⟨⟩
  rfl

theorem starts_between (word : String) (rest : Spelling) :
    Starts word (ofText (" " ++ word ++ " ") ++ rest) :=
  ⟨.char ' ' :: rest, by simp [ofText], boundary_blank rest⟩

theorem Starts.boundary {word : String} {r : Spelling} (starts : Starts word r) : Boundary r := by
  obtain ⟨rest, rfl, -⟩ := starts
  exact boundary_blank _

theorem Starts.eq {v w : String} {r : Spelling} (starts : Starts v r) (starts' : Starts w r)
    (mem : v ∈ going ++ dividing) (mem' : w ∈ going ++ dividing) : v = w := by
  obtain ⟨rest, rfl, outside⟩ := starts
  obtain ⟨rest', same, outside'⟩ := starts'
  exact (word_eq (isInner_of_mem_words mem) (isInner_of_mem_words mem') outside outside'
    (List.cons.inj same).2).1

theorem Follows.boundary {r : Spelling} (follows : Follows r) : Boundary r := by
  cases follows with
  | ending => rintro l ⟨⟩
  | bracket rest =>
    rintro l ⟨⟩
    rfl
  | comma rest =>
    rintro l ⟨⟩
    rfl
  | word divides starts => exact starts.boundary

theorem not_mem_dividing : ∀ word ∈ going, word ∉ dividing := by decide +kernel

theorem Follows.not_starts {word : String} {r : Spelling} (follows : Follows r)
    (goes : word ∈ going) : ¬Starts word r := by
  rintro ⟨rest, same, outside⟩
  cases follows with
  | ending => cases same
  | bracket other => cases same
  | comma other => cases same
  | @word divider r divides starts =>
    have shared := starts.eq ⟨rest, same, outside⟩ (List.mem_append_right _ divides)
      (List.mem_append_left _ goes)
    exact not_mem_dividing word goes (shared ▸ divides)

end Spelling

/-! ## How chains are spelled -/

def Chain.spelling (c : Chain) : Spelling := c.template.spelling

def Tail.spelling (t : Tail) : Spelling := t.template.spelling

def Atom.spelling (a : Atom) : Spelling := a.template.spelling

def Chain.more (separator : String) : List Chain → Spelling
  | [] => []
  | c :: rest => ofText separator ++ (c.spelling ++ Chain.more separator rest)

def Chain.items (separator : String) : List Chain → Spelling
  | [] => []
  | c :: rest => c.spelling ++ Chain.more separator rest

theorem Template.spelling_append (t u : Template) :
    spelling (t ++ u) = spelling t ++ spelling u := List.flatMap_append

theorem Template.spelling_fixed (text : String) (t : Template) :
    spelling (.fixed text :: t) = ofText text ++ spelling t := rfl

theorem Chain.spelling_joined (separator : String) (cs : List Chain) :
    Template.spelling (Template.joined separator (templateAll cs)) = items separator cs := by
  unfold Template.joined
  induction cs with
  | nil => rfl
  | cons c rest ih =>
    cases rest with
    | nil =>
      rw [templateAll, templateAll, List.intercalate_singleton, items, more, List.append_nil]
      rfl
    | cons d rest =>
      have separated : Template.spelling [.fixed separator] = ofText separator := List.append_nil _
      rw [templateAll] at ih ⊢
      rw [templateAll, List.intercalate_cons_cons, Template.spelling_append,
        Template.spelling_append, ih, separated, List.append_assoc]
      rfl

section Equations

theorem Chain.spelling_not (c : Chain) : (Chain.not c).spelling = ofText "not " ++ c.spelling := rfl

theorem Chain.spelling_operand (a : Atom) (t : Tail) :
    (Chain.operand a t).spelling = a.spelling ++ t.spelling :=
  Template.spelling_append a.template t.template

theorem Tail.spelling_test (negated : Bool) (t : Tail) :
    (Tail.test negated t).spelling =
      ofText (if negated then " is not null" else " is null") ++ t.spelling := rfl

theorem Tail.spelling_compare (operator : Comparison) (c : Chain) :
    (Tail.compare operator c).spelling = ofText (" " ++ operator.symbol ++ " ") ++ c.spelling := rfl

theorem Atom.spelling_leaf (sign : Sign) : (Atom.leaf sign).spelling = sign.spelling := by
  show sign.leaf.sign.spelling ++ [] = _
  rw [List.append_nil]
  cases sign <;> rfl

theorem Atom.spelling_path (source field : String) :
    (Atom.path source field).spelling = ofText source ++ .char '.' :: ofText field := by
  show ofText (source ++ "." ++ field) ++ [] = _
  simp [ofText]

theorem Atom.spelling_call (function : String) (arguments : List Chain) :
    (Atom.call function arguments).spelling =
      ofText function ++ .char '(' :: (Chain.items ", " arguments ++ [.char ')']) := by
  rw [Atom.spelling, Atom.template, Template.spelling_fixed, Template.spelling_append,
    Chain.spelling_joined]
  simp [ofText, Template.spelling, Piece.spelling]

theorem Atom.spelling_junction (connective : Connective) (first second : Chain)
    (rest : List Chain) : (Atom.junction connective first second rest).spelling =
      .char '(' :: (Chain.items (" " ++ connective.keyword ++ " ") (first :: second :: rest) ++
        [.char ')']) := by
  rw [← Chain.spelling_joined]
  exact Template.spelling_append
    (.fixed "(" :: Template.joined _ (Chain.templateAll (first :: second :: rest))) [.fixed ")"]

theorem Atom.spelling_case (operand : Option Chain) (branches : List (Chain × Chain))
    (default : Option Chain) : (Atom.case operand branches default).spelling =
      ofText "case" ++ (Template.spelling (Chain.templateOption " " operand) ++
        (Template.spelling (Chain.templateBranches branches) ++
          (Template.spelling (Chain.templateOption " else " default) ++ ofText " end"))) := by
  rw [Atom.spelling, Atom.template, Template.spelling_fixed, Template.spelling_append,
    Template.spelling_append, Template.spelling_append]
  rfl

theorem Atom.spelling_empty (connective : Connective) :
    (Atom.empty connective).spelling = ofText connective.emptyText := List.append_nil _

end Equations

/-! ## How chains begin -/

mutual

def Chain.Plain : Chain → Prop
  | .not rest => rest.Plain
  | .operand head tail => head.Plain ∧ tail.Plain

def Tail.Plain : Tail → Prop
  | .done => True
  | .test _ rest => rest.Plain
  | .compare _ right => right.Plain

def Atom.Plain : Atom → Prop
  | .leaf _ => True
  | .path source field => IsIdentifier source ∧ IsIdentifier field
  | .call function arguments => IsIdentifier function ∧ Chain.PlainAll arguments
  | .empty _ => True
  | .junction _ first second rest => first.Plain ∧ second.Plain ∧ Chain.PlainAll rest
  | .case operand branches default =>
    Chain.PlainOption operand ∧ Chain.PlainBranches branches ∧ Chain.PlainOption default

def Chain.PlainAll : List Chain → Prop
  | [] => True
  | c :: rest => c.Plain ∧ Chain.PlainAll rest

def Chain.PlainOption : Option Chain → Prop
  | none => True
  | some c => c.Plain

def Chain.PlainBranches : List (Chain × Chain) → Prop
  | [] => True
  | (condition, result) :: rest => condition.Plain ∧ result.Plain ∧ Chain.PlainBranches rest

end

/-- A text begins with a word and goes on with a letter that is not part of a name. -/
structure Spelling.Opens (word : String) (next : Letter) (r : Spelling) : Prop where
  letters : word.toList.all isNameChar = true
  outside : next.isName = false
  rest : ∃ rest, r = ofText word ++ next :: rest

namespace Spelling

theorem Opens.append {word : String} {next : Letter} {r : Spelling} (opens : Opens word next r)
    (more : Spelling) : Opens word next (r ++ more) := by
  obtain ⟨letters, outside, rest, rfl⟩ := opens
  exact ⟨letters, outside, rest ++ more, List.append_assoc _ _ _⟩

theorem Opens.eq {v w : String} {l m : Letter} {x y r s : Spelling} (opens : Opens v l x)
    (opens' : Opens w m y) (same : x ++ r = y ++ s) : (v, l) = (w, m) := by
  obtain ⟨letters, outside, rest, spelled⟩ := opens.append r
  obtain ⟨letters', outside', rest', spelled'⟩ := opens'.append s
  rw [spelled, spelled'] at same
  obtain ⟨rfl, behind⟩ := word_eq (isName_of_mem letters) (isName_of_mem letters')
    (fun _ => by rintro ⟨⟩; exact outside) (fun _ => by rintro ⟨⟩; exact outside') same
  rw [(List.cons.inj behind).1]

end Spelling

def Sign.opening : Sign → Letter
  | .parameter (.positional _) => .char '?'
  | sign => .sign sign

/-- The word that an operand begins with, and the letter behind it. -/
def Atom.opening : Atom → String × Letter
  | .leaf sign => ("", sign.opening)
  | .path source _ => (source, .char '.')
  | .call function _ => (function, .char '(')
  | .empty .and => ("1", .char '=')
  | .empty .or => ("0", .char '=')
  | .junction .. => ("", .char '(')
  | .case .. => ("case", .char ' ')

def Chain.opening : Chain → String × Letter
  | .not _ => ("not", .char ' ')
  | .operand head _ => head.opening

inductive Kind where
  | not
  | leaf
  | path
  | call
  | empty
  | junction
  | case

def Atom.kind : Atom → Kind
  | .leaf _ => .leaf
  | .path .. => .path
  | .call .. => .call
  | .empty _ => .empty
  | .junction .. => .junction
  | .case .. => .case

def Chain.kind : Chain → Kind
  | .not _ => .not
  | .operand head _ => head.kind

def Kind.of : String × Letter → Kind
  | (_, .sign _) => .leaf
  | (word, .char c) =>
    if c = '?' then .leaf
    else if c = '.' then .path
    else if c = '=' then .empty
    else if c = '(' then if word = "" then .junction else .call
    else if word = "not" then .not
    else .case

open Spelling

theorem Sign.positional_or (sign : Sign) :
    (∃ position, sign = .parameter (.positional position)) ∨
      sign.spelling = [.sign sign] ∧ sign.opening = .sign sign := by
  match sign with
  | .literal value => exact Or.inr ⟨rfl, rfl⟩
  | .parameter (.named name) => exact Or.inr ⟨rfl, rfl⟩
  | .parameter (.unnamed token) => exact Or.inr ⟨rfl, rfl⟩
  | .parameter (.positional position) => exact Or.inl ⟨position, rfl⟩

theorem IsIdentifier.ne_empty {text : String} (h : IsIdentifier text) : text ≠ "" := by
  rintro rfl
  exact h

theorem Atom.kind_eq {a : Atom} (plain : a.Plain) : Kind.of a.opening = a.kind := by
  cases a with
  | leaf sign =>
    rw [opening]
    rcases sign.positional_or with ⟨position, rfl⟩ | ⟨-, opening⟩
    · rfl
    · rw [opening]
      rfl
  | path source field => rfl
  | call function arguments => exact if_neg plain.1.ne_empty
  | empty connective => cases connective <;> rfl
  | junction connective first second rest => rfl
  | case operand branches default => rfl

theorem Chain.kind_eq {c : Chain} (plain : c.Plain) : Kind.of c.opening = c.kind := by
  cases c with
  | not rest => rfl
  | operand head tail => exact Atom.kind_eq plain.1

theorem Sign.opens (sign : Sign) : Opens "" sign.opening sign.spelling := by
  rcases sign.positional_or with ⟨position, rfl⟩ | ⟨spelled, opening⟩
  · refine ⟨rfl, rfl, ofText (toString position), ?_⟩
    rw [spelling, ofText_append]
    rfl
  · rw [spelled, opening]
    exact ⟨rfl, rfl, [], rfl⟩

/-- Behind the word `case` comes a blank, whatever the case has. -/
theorem Atom.opens_case (operand : Option Chain) (branches : List (Chain × Chain))
    (default : Option Chain) :
    Opens "case" (.char ' ') (Atom.case operand branches default).spelling := by
  rw [spelling_case]
  match operand, branches, default with
  | some c, _, _ => exact ⟨rfl, rfl, _, rfl⟩
  | none, (c, d) :: rest, _ => exact ⟨rfl, rfl, _, rfl⟩
  | none, [], some c => exact ⟨rfl, rfl, _, rfl⟩
  | none, [], none => exact ⟨rfl, rfl, _, rfl⟩

theorem Atom.opens {a : Atom} (plain : a.Plain) : Opens a.opening.1 a.opening.2 a.spelling := by
  cases a with
  | leaf sign =>
    rw [spelling_leaf]
    exact sign.opens
  | path source field => exact ⟨plain.1.all_isNameChar, rfl, _, spelling_path source field⟩
  | call function arguments =>
    exact ⟨plain.1.all_isNameChar, rfl, _, spelling_call function arguments⟩
  | empty connective =>
    rw [spelling_empty]
    cases connective with
    | and => exact ⟨rfl, rfl, _, rfl⟩
    | or => exact ⟨rfl, rfl, _, rfl⟩
  | junction connective first second rest =>
    exact ⟨rfl, rfl, _, spelling_junction connective first second rest⟩
  | case operand branches default => exact opens_case operand branches default

theorem Chain.opens {c : Chain} (plain : c.Plain) : Opens c.opening.1 c.opening.2 c.spelling := by
  cases c with
  | not rest =>
    show Opens "not" (.char ' ') (ofText "not " ++ rest.spelling)
    exact ⟨rfl, rfl, rest.spelling, rfl⟩
  | operand head tail =>
    rw [spelling_operand]
    exact (Atom.opens plain.1).append tail.spelling

theorem Chain.opening_of_outer {c : Chain} (outer : c.opening.2.isInner = false) :
    c.opening.1 = "not" ∨ c.opening.1 = "case" := by
  cases c with
  | not rest => exact Or.inl rfl
  | operand head tail =>
    cases head with
    | leaf sign =>
      rw [opening, Atom.opening] at outer
      rcases sign.positional_or with ⟨position, rfl⟩ | ⟨-, opening⟩
      · cases outer
      · rw [opening] at outer
        cases outer
    | path source field => cases outer
    | call function arguments => cases outer
    | empty connective => cases connective <;> cases outer
    | junction connective first second rest => cases outer
    | case operand branches default => exact Or.inr rfl

/-- No chain begins with a word that divides chains, or with what stands behind one. -/
theorem Chain.spelling_ne {c : Chain} (plain : c.Plain) {word : String} {rest : Spelling}
    (letters : word.toList.all isNameChar = true) (other : word ≠ "not" ∧ word ≠ "case")
    (boundary : Boundary rest) (more : Spelling) : c.spelling ++ more ≠ ofText word ++ rest := by
  intro same
  obtain ⟨letters', outside, behind, spelled⟩ := (Chain.opens plain).append more
  rw [spelled] at same
  obtain ⟨rfl, rfl⟩ := word_eq (isName_of_mem letters') (isName_of_mem letters)
    (fun _ => by rintro ⟨⟩; exact outside)
    (fun l mem => Letter.isName_of_not_isInner (boundary l mem)) same
  rcases Chain.opening_of_outer (boundary _ rfl) with isNot | isCase
  · exact other.1 isNot
  · exact other.2 isCase

end ParamQuery
