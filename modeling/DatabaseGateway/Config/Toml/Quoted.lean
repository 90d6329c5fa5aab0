import DatabaseGateway.Config.Toml.Scalar

/-!
Quoted strings of a TOML document. Each reader starts behind the opening quotes and gives the
string with what follows the closing ones.
-/

namespace DatabaseGateway.Toml

/-- Whether a character may stand in a string or a comment: no control but the tab. -/
def isPlain (c : Char) : Bool :=
  c == '\t' || (0x20 ≤ c.toNat && c.toNat != 0x7f)

def unicode? (digits : List Char) : Option Char := do
  let values ← digits.mapM digitValue?
  let n := values.foldl (fun n d => n * 16 + d) 0
  if n < 0xd800 || (0xe000 ≤ n && n < 0x110000) then some (Char.ofNat n) else none

def escaped? : Char → Option Char
  | 'b' => some '\x08'
  | 't' => some '\t'
  | 'n' => some '\n'
  | 'f' => some '\x0c'
  | 'r' => some '\r'
  | '"' => some '"'
  | '\\' => some '\\'
  | _ => none

def coded? (width : Nat) (cs : List Char) : Option (Char × List Char) :=
  if (cs.take width).length = width then (unicode? (cs.take width)).map (·, cs.drop width)
  else none

/-- An escape behind its backslash: a letter, or the code of a character in four or eight
digits. -/
def escape? : List Char → Option (Char × List Char)
  | 'u' :: cs => coded? 4 cs
  | 'U' :: cs => coded? 8 cs
  | c :: cs => (escaped? c).map (·, cs)
  | [] => none

theorem length_coded? {width : Nat} {cs rest : List Char} {c : Char}
    (h : coded? width cs = some (c, rest)) : rest.length ≤ cs.length := by
  unfold coded? at h
  split at h
  · obtain ⟨_, -, hrest⟩ := Option.map_eq_some_iff.1 h
    obtain ⟨-, rfl⟩ := Prod.mk.inj hrest
    rw [List.length_drop]
    exact Nat.sub_le ..
  · cases h

theorem length_escape? {cs rest : List Char} {c : Char} (h : escape? cs = some (c, rest)) :
    rest.length < cs.length := by
  unfold escape? at h
  split at h
  · exact Nat.lt_succ_of_le (length_coded? h)
  · exact Nat.lt_succ_of_le (length_coded? h)
  · obtain ⟨_, -, hrest⟩ := Option.map_eq_some_iff.1 h
    obtain ⟨-, rfl⟩ := Prod.mk.inj hrest
    exact Nat.lt_succ_self _
  · cases h

def endsLine (cs : List Char) : Bool :=
  match cs.dropWhile fun c => c == ' ' || c == '\t' with
  | '\n' :: _ | '\r' :: '\n' :: _ => true
  | _ => false

def skipLayout : List Char → List Char
  | ' ' :: cs | '\t' :: cs | '\n' :: cs | '\r' :: '\n' :: cs => skipLayout cs
  | cs => cs

theorem length_skipLayout_le (cs : List Char) : (skipLayout cs).length ≤ cs.length := by
  fun_induction skipLayout cs <;> grind

def basic? : List Char → Option (List Char × List Char)
  | [] => none
  | '"' :: cs => some ([], cs)
  | '\\' :: cs =>
    match h : escape? cs with
    | some (c, rest) =>
      have := length_escape? h
      (basic? rest).map fun (s, rest) => (c :: s, rest)
    | none => none
  | c :: cs => if isPlain c then (basic? cs).map fun (s, rest) => (c :: s, rest) else none
termination_by cs => cs.length
decreasing_by all_goals grind

def literal? : List Char → Option (List Char × List Char)
  | [] => none
  | '\'' :: cs => some ([], cs)
  | c :: cs => if isPlain c then (literal? cs).map fun (s, rest) => (c :: s, rest) else none

/-- Closing quotes of a string on several lines: up to two more quotes before them belong to the
string. -/
def closing? (quote : Char) (cs : List Char) : Option (List Char × List Char) :=
  let run := cs.takeWhile (· == quote)
  if run.length < 3 then none
  else
    let own := min 2 (run.length - 3)
    some (List.replicate own quote, cs.drop (own + 3))

/-- A string on several lines, in which a backslash starts an escape or joins lines. -/
def basicLines? : List Char → Option (List Char × List Char)
  | [] => none
  | c :: cs =>
    let goOn := fun (front : List Char) (rest : Option (List Char × List Char)) =>
      rest.map fun (s, rest) => (front ++ s, rest)
    if c = '"' then
      match closing? '"' (c :: cs) with
      | some (s, rest) => some (s, rest)
      | none => goOn [c] (basicLines? cs)
    else if c = '\\' then
      if endsLine cs then
        have := length_skipLayout_le cs
        basicLines? (skipLayout cs)
      else match h : escape? cs with
        | some (e, rest) =>
          have := length_escape? h
          goOn [e] (basicLines? rest)
        | none => none
    else if c = '\r' then
      match cs with
      | '\n' :: rest => goOn ['\n'] (basicLines? rest)
      | _ => none
    else if c = '\n' || isPlain c then goOn [c] (basicLines? cs)
    else none
termination_by cs => cs.length
decreasing_by all_goals grind

def literalLines? : List Char → Option (List Char × List Char)
  | [] => none
  | c :: cs =>
    let goOn := fun (front : List Char) (rest : Option (List Char × List Char)) =>
      rest.map fun (s, rest) => (front ++ s, rest)
    if c = '\'' then
      match closing? '\'' (c :: cs) with
      | some (s, rest) => some (s, rest)
      | none => goOn [c] (literalLines? cs)
    else if c = '\r' then
      match cs with
      | '\n' :: rest => goOn ['\n'] (literalLines? rest)
      | _ => none
    else if c = '\n' || isPlain c then goOn [c] (literalLines? cs)
    else none
termination_by cs => cs.length
decreasing_by all_goals grind

/-- A line break right behind opening quotes does not belong to the string. -/
def skipBreak : List Char → List Char
  | '\n' :: cs => cs
  | '\r' :: '\n' :: cs => cs
  | cs => cs

def string? : List Char → Option (List Char × List Char)
  | '"' :: '"' :: '"' :: cs => basicLines? (skipBreak cs)
  | '"' :: cs => basic? cs
  | '\'' :: '\'' :: '\'' :: cs => literalLines? (skipBreak cs)
  | '\'' :: cs => literal? cs
  | _ => none

end DatabaseGateway.Toml
