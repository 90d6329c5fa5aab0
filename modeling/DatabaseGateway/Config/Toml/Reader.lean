import DatabaseGateway.Config.Toml.Quoted
import DatabaseGateway.Config.Toml.Tree

/-!
Reading a TOML document. The text is taken statement by statement: a header opens a table, a pair
gives a value to a key of the open table.
-/

namespace DatabaseGateway.Toml

def skipSpace (cs : List Char) : List Char :=
  cs.dropWhile fun c => c == ' ' || c == '\t'

/-- What is left of a line behind its last word: blanks, a comment, and the end of the line. -/
def endLine? (cs : List Char) : Option (List Char) :=
  let cs := skipSpace cs
  let cs := match cs with
    | '#' :: rest => rest.dropWhile isPlain
    | _ => cs
  match cs with
  | [] => some []
  | '\n' :: rest | '\r' :: '\n' :: rest => some rest
  | _ => none

def skipLines : (fuel : Nat) → List Char → List Char
  | 0, cs => cs
  | fuel + 1, cs =>
    match skipSpace cs with
    | '#' :: rest => skipLines fuel (rest.dropWhile isPlain)
    | '\n' :: rest | '\r' :: '\n' :: rest => skipLines fuel rest
    | cs => cs

def isBare (c : Char) : Bool :=
  ('a' ≤ c && c ≤ 'z') || ('A' ≤ c && c ≤ 'Z') || Text.isDigit c || c == '_' || c == '-'

def keyPart? : List Char → Option (String × List Char)
  | '"' :: cs => (basic? cs).map fun (s, rest) => (String.ofList s, rest)
  | '\'' :: cs => (literal? cs).map fun (s, rest) => (String.ofList s, rest)
  | cs =>
    let word := cs.takeWhile isBare
    if word.isEmpty then none else some (String.ofList word, cs.drop word.length)

/-- How many parts a key may have, and how many lists and tables may stand inside each other. -/
def depthBound : Nat := 79

def keyWithin? : (room : Nat) → List Char → Option ((List String × String) × List Char)
  | 0, _ => none
  | room + 1, cs => do
    let (part, rest) ← keyPart? cs
    match skipSpace rest with
    | '.' :: more =>
      let ((path, name), rest) ← keyWithin? room (skipSpace more)
      return ((part :: path, name), rest)
    | _ => return (([], part), rest)

def key? (cs : List Char) : Option ((List String × String) × List Char) :=
  keyWithin? depthBound cs

def isWordChar (c : Char) : Bool :=
  isBare c || c == '+' || c == '.' || c == ':'

def word (cs : List Char) : List Char × List Char :=
  let first := cs.takeWhile isWordChar
  let rest := cs.drop first.length
  match rest with
  | ' ' :: more =>
    let second := more.takeWhile isWordChar
    if isDate first && (second.take 2).all Text.isDigit && 2 ≤ second.length then
      (first ++ ' ' :: second, more.drop second.length)
    else (first, rest)
  | _ => (first, rest)

mutual

/-- A value, in which lists and tables stand inside each other at most `room` deep. -/
def value? : (fuel room : Nat) → List Char → Option (Document × List Char)
  | 0, _, _ => none
  | fuel + 1, room, cs =>
    match cs, room with
    | '"' :: _, _ | '\'' :: _, _ =>
      (string? cs).map fun (s, rest) => (.text (String.ofList s), rest)
    | '[' :: _, 0 | '\x7b' :: _, 0 => none
    | '[' :: rest, room + 1 => (items? fuel room rest).map fun (ds, rest) => (.list ds, rest)
    | '\x7b' :: rest, room + 1 => do
      match skipSpace rest with
      | '\x7d' :: rest => return (.table [], rest)
      | rest =>
        let (es, rest) ← pairs? fuel room [] rest
        return (.table (documents es), rest)
    | _, _ =>
      let (first, rest) := word cs
      (scalar? first).map (·, rest)

def items? : (fuel room : Nat) → List Char → Option (List Document × List Char)
  | 0, _, _ => none
  | fuel + 1, room, cs =>
    match skipLines (fuel + 1) cs with
    | ']' :: rest => some ([], rest)
    | cs => do
      let (d, rest) ← value? fuel room cs
      match skipLines (fuel + 1) rest with
      | ']' :: rest => return ([d], rest)
      | ',' :: rest =>
        let (ds, rest) ← items? fuel room rest
        return (d :: ds, rest)
      | _ => none

def pairs? : (fuel room : Nat) → Entries → List Char → Option (Entries × List Char)
  | 0, _, _, _ => none
  | fuel + 1, room, es, cs => do
    let ((path, name), rest) ← key? cs
    match skipSpace rest with
    | '=' :: rest =>
      let (d, rest) ← value? fuel room (skipSpace rest)
      let es ← es.assign path name d
      match skipSpace rest with
      | '\x7d' :: rest => return (es, rest)
      | ',' :: rest => pairs? fuel room es (skipSpace rest)
      | _ => none
    | _ => none

end

/-- A document being read: its tables and the path of the open one. -/
structure Draft where
  root : Entries := []
  opened : List String := []

def Draft.assign (d : Draft) (path : List String) (name : String) (value : Document) :
    Option Draft := do
  let root ← Entries.descend false (fun _ es => es.assign path name value) d.opened false d.root
  return { d with root := root }

/-- Takes one statement off the text, which has fewer than `fuel` characters. -/
def statement? (fuel : Nat) (d : Draft) (cs : List Char) : Option (Draft × List Char) :=
  match skipSpace cs with
  | [] => some (d, [])
  | '[' :: '[' :: cs => do
    let ((path, name), rest) ← key? (skipSpace cs)
    match skipSpace rest with
    | ']' :: ']' :: rest =>
      let rest ← endLine? rest
      let root ← d.root.openRow path name
      return (⟨root, path ++ [name]⟩, rest)
    | _ => none
  | '[' :: cs => do
    let ((path, name), rest) ← key? (skipSpace cs)
    match skipSpace rest with
    | ']' :: rest =>
      let rest ← endLine? rest
      let root ← d.root.openTable path name
      return (⟨root, path ++ [name]⟩, rest)
    | _ => none
  | '#' :: _ | '\n' :: _ | '\r' :: _ => do
    let rest ← endLine? cs
    return (d, rest)
  | cs => do
    let ((path, name), rest) ← key? cs
    match skipSpace rest with
    | '=' :: rest =>
      let (value, rest) ← value? fuel depthBound (skipSpace rest)
      let rest ← endLine? rest
      let d ← d.assign path name value
      return (d, rest)
    | _ => none

/-- Takes statements until the text is used up; every statement takes at least one character. -/
def statements? : (fuel : Nat) → Draft → List Char → Option Draft
  | _, d, [] => some d
  | 0, _, _ => none
  | fuel + 1, d, cs => do
    let (d, rest) ← statement? (fuel + 1) d cs
    statements? fuel d rest

def parse? (text : String) : Option Document :=
  let cs := match text.toList with
    | '\uFEFF' :: cs => cs
    | cs => cs
  (statements? (cs.length + 1) {} cs).map fun d => .table (documents d.root)

end DatabaseGateway.Toml
