import ParamQuery.Toml.Lexical

/-!
# TOML documents

A document assigns values to keys, in tables that headers open. The rules that keep a table from
being defined twice need to know where each table comes from, so a document is read into nodes that
remember it, and the nodes become a value in the end.
-/

namespace ParamQuery.Toml

/-- What made a table. -/
inductive Origin where
  /-- A header of a table below it. -/
  | implied
  /-- A header of its own. -/
  | header
  /-- A key with several parts. -/
  | dotted
deriving DecidableEq, Repr

inductive Node where
  /-- A value that is complete, such as a number, an array or an inline table. -/
  | value (value : Toml)
  | table (origin : Origin) (members : List (String × Node))
  /-- The tables of one header in double brackets, the last one first. -/
  | tables (last : List (String × Node)) (earlier : List (List (String × Node)))

/-- The members of a table while it is read, by ascending key. -/
abbrev Members := List (String × Node)

mutual

def Node.toValue : Node → Toml
  | .value v => v
  | .table _ members => .table (membersToValues members)
  | .tables last earlier => .array (tablesToValues earlier [.table (membersToValues last)])

def membersToValues : List (String × Node) → List (String × Toml)
  | [] => []
  | (key, node) :: rest => (key, node.toValue) :: membersToValues rest

/-- Tables in reverse order as values, put before others. -/
def tablesToValues : List (List (String × Node)) → List Toml → List Toml
  | [], done => done
  | members :: rest, done => tablesToValues rest (.table (membersToValues members) :: done)

end

namespace Members

def find? (members : Members) (key : String) : Option Node := members.lookup key

/-- Changes the table at a path of headers, in which several tables mean their last one. -/
def modifyAt (change : Members → Option Members) : List String → Members → Option Members
  | [], members => change members
  | key :: path, members =>
    match members.find? key with
    | none => do
      let inner ← modifyAt change path []
      return Json.put key (.table .implied inner) members
    | some (.value _) => none
    | some (.table origin inner) => do
      let inner ← modifyAt change path inner
      return Json.put key (.table origin inner) members
    | some (.tables last earlier) => do
      let last ← modifyAt change path last
      return Json.put key (.tables last earlier) members

/-- Opens a table by its header: it must be new, or only implied so far. -/
def openTable (key : String) (members : Members) : Option Members :=
  match members.find? key with
  | none => some (Json.put key (.table .header []) members)
  | some (.table .implied inner) => some (Json.put key (.table .header inner) members)
  | some _ => none

def openNext (key : String) (members : Members) : Option Members :=
  match members.find? key with
  | none => some (Json.put key (.tables [] []) members)
  | some (.tables last earlier) => some (Json.put key (.tables [] (last :: earlier)) members)
  | some _ => none

/--
Assigns a value to a key of one or more parts.

The parts before the last one name tables, which a header of their own must not have opened, and
the innermost of which comes from such keys only. Nothing is assigned twice.
-/
def assign (value : Toml) : List String → Members → Option Members
  | [], _ => none
  | [key], members =>
    match members.find? key with
    | none => some (Json.put key (.value value) members)
    | some _ => none
  | key :: next :: path, members =>
    match members.find? key with
    | none => do
      let inner ← assign value (next :: path) []
      return Json.put key (.table .dotted inner) members
    | some (.table .dotted inner) => do
      let inner ← assign value (next :: path) inner
      return Json.put key (.table .dotted inner) members
    | some (.table .implied inner) => do
      if path.isEmpty then none
      else
        let inner ← assign value (next :: path) inner
        return Json.put key (.table .implied inner) members
    | some (.tables last earlier) => do
      if path.isEmpty then none
      else
        let last ← assign value (next :: path) last
        return Json.put key (.tables last earlier) members
    | some _ => none

end Members

mutual

/-- A value, with at most `depth` levels of arrays and inline tables in it. -/
def readValue? (depth : Nat) : Nat → List Char → Option (Toml × List Char)
  | 0, _ => none
  | fuel + 1, cs =>
    match cs with
    | '"' :: _ => (readString? cs).map fun (s, rest) => (.string s, rest)
    | '\'' :: _ => (readString? cs).map fun (s, rest) => (.string s, rest)
    | '[' :: rest =>
      if depth = 0 then none
      else
        (readItems? (depth - 1) fuel (skipBlank rest)).map fun (items, rest) =>
          (.array items, rest)
    | '\x7b' :: rest =>
      if depth = 0 then none
      else
        (readPairs? (depth - 1) fuel [] (skipBlank rest)).map fun (members, rest) =>
          (.table (membersToValues members), rest)
    | _ => readWord? cs

def readItems? (depth : Nat) : Nat → List Char → Option (List Toml × List Char)
  | 0, _ => none
  | fuel + 1, cs =>
    match cs with
    | ']' :: rest => some ([], rest)
    | _ => do
      let (item, rest) ← readValue? depth fuel cs
      match skipBlank rest with
      | ',' :: rest =>
        let (items, rest) ← readItems? depth fuel (skipBlank rest)
        return (item :: items, rest)
      | ']' :: rest => return ([item], rest)
      | _ => none

def readPairs? (depth : Nat) : Nat → Members → List Char → Option (Members × List Char)
  | 0, _, _ => none
  | fuel + 1, members, cs =>
    match cs with
    | '\x7d' :: rest => some (members, rest)
    | _ => do
      let (key, rest) ← readKey? cs
      let rest ← dropChar? '=' rest
      let (value, rest) ← readValue? depth fuel (skipSpaces rest)
      let members ← Members.assign value key members
      match skipBlank rest with
      | ',' :: rest => readPairs? depth fuel members (skipBlank rest)
      | '\x7d' :: rest => return (members, rest)
      | _ => none

end

def maxDepth : Nat := 80

/-- A document while it is read: its tables, and the path of the one that is open. -/
structure Document where
  members : Members
  path : List String

namespace Document

/-- A header, from the text behind its brackets, with what follows the closing brackets. -/
def readHeader? (doc : Document) (closing : Nat) (change : String → Members → Option Members)
    (cs : List Char) : Option (Document × List Char) := do
  let (path, rest) ← readKey? (skipSpaces cs)
  let last ← path.getLast?
  if rest.take closing = List.replicate closing ']' then
    let members ← Members.modifyAt (change last) path.dropLast doc.members
    return (⟨members, path⟩, rest.drop closing)
  else none

def readPair? (doc : Document) (cs : List Char) : Option (Document × List Char) := do
  let (key, rest) ← readKey? cs
  let rest ← dropChar? '=' rest
  let (value, rest) ← readValue? maxDepth (2 * rest.length + 1) (skipSpaces rest)
  let members ← Members.modifyAt (Members.assign value key) doc.path doc.members
  return (⟨members, doc.path⟩, rest)

def readLine? (doc : Document) (cs : List Char) : Option (Document × List Char) :=
  match cs with
  | '[' :: '[' :: rest => doc.readHeader? 2 Members.openNext rest
  | '[' :: rest => doc.readHeader? 1 Members.openTable rest
  | _ => doc.readPair? cs

/-- The lines of a text, at most as many as `fuel`. -/
def readLines? : Nat → Document → List Char → Option Document
  | 0, _, _ => none
  | fuel + 1, doc, cs =>
    match skipBlank cs with
    | [] => some doc
    | rest => do
      let (doc, rest) ← doc.readLine? rest
      let rest ← dropLineEnd? rest
      readLines? fuel doc rest

end Document

/-- The members of the document that a text is; a mark of byte order in front of it is skipped. -/
def parse? (text : String) : Option (List (String × Toml)) :=
  let cs := text.toList
  let cs := if cs.head? = some (Char.ofNat 0xFEFF) then cs.drop 1 else cs
  (Document.readLines? (cs.length + 1) ⟨[], []⟩ cs).map fun doc => membersToValues doc.members

end ParamQuery.Toml
