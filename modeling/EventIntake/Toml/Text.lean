import EventIntake.Toml.Spacing

/-!
# Strings and keys

A string stands in double quotes, with escapes, or in single quotes, as it is; three quotes open
one that may run over lines.  The line end right after them does not count, nor do a backslash at
the end of a line and the blanks and line ends after it.  Up to two quotes may stand right before
the three that close such a string.

A key is a bare word or a string on one line; points join keys to a path.
-/

namespace EventIntake.Toml

/-- Whether the character may stand in a string as it is, its delimiters apart. -/
def isPlain (c : Char) : Bool :=
  c == '\t' || (0x20 ≤ c.toNat && c.toNat ≤ 0x7E) || 0x80 ≤ c.toNat

def hexValue? (c : Char) : Option Nat :=
  if c.isDigit then some (c.toNat - 48)
  else if 'a' ≤ c ∧ c ≤ 'f' then some (c.toNat - 87)
  else if 'A' ≤ c ∧ c ≤ 'F' then some (c.toNat - 55)
  else none

/-- The character whose number stands in `count` hexadecimal digits. -/
def scalar (count : Nat) : Reads Char := fun cs => do
  let digits ← (cs.take count).mapM hexValue?
  if digits.length ≠ count then none
  let n := digits.foldl (fun n d => 16 * n + d) 0
  if n < 0xD800 ∨ (0xDFFF < n ∧ n ≤ 0x10FFFF) then some (Char.ofNat n, cs.drop count) else none

/-- What an escape stands for, read after its backslash. -/
def escape : Reads Char
  | 'b' :: rest => some ('\x08', rest)
  | 't' :: rest => some ('\t', rest)
  | 'n' :: rest => some ('\n', rest)
  | 'f' :: rest => some ('\x0c', rest)
  | 'r' :: rest => some ('\r', rest)
  | '"' :: rest => some ('"', rest)
  | '\\' :: rest => some ('\\', rest)
  | 'u' :: rest => scalar 4 rest
  | 'U' :: rest => scalar 8 rest
  | _ => none

/-- A string up to its closing quote, after the opening one. -/
def basic : Nat → Reads (List Char)
  | 0, _ => none
  | _ + 1, '"' :: rest => some ([], rest)
  | fuel + 1, '\\' :: rest => do
    let (c, rest) ← escape rest
    let (cs, rest) ← basic fuel rest
    return (c :: cs, rest)
  | fuel + 1, c :: rest => do
    if !isPlain c then none
    let (cs, rest) ← basic fuel rest
    return (c :: cs, rest)
  | _, [] => none

def literal : Reads (List Char)
  | [] => none
  | c :: rest =>
    if c = '\'' then some ([], rest)
    else if isPlain c then (literal rest).map fun (cs, rest) => (c :: cs, rest)
    else none

/-- How many of the quotes that come next, three or more, belong to the string itself. -/
def closing? (quote : Char) (cs : List Char) : Option Nat :=
  let n := (cs.takeWhile (· == quote)).length
  if n < 3 then none else some (min (n - 3) 2)

/-- What follows a backslash at the end of a line, with the blanks and line ends after it left
out. -/
def afterLineBreak? (cs : List Char) : Option (List Char) :=
  (newline? (skipBlanks cs)).map fun rest => skipLines (rest.length + 1) rest
where
  skipLines : Nat → List Char → List Char
    | 0, cs => cs
    | fuel + 1, cs =>
      match newline? (skipBlanks cs) with
      | some rest => skipLines fuel rest
      | none => skipBlanks cs

/-- A string over lines up to its closing quotes, after the opening ones. -/
def multiline (quote : Char) (escapes : Bool) : Nat → Reads (List Char)
  | 0, _ => none
  | fuel + 1, cs =>
    match closing? quote cs with
    | some own => some (List.replicate own quote, cs.drop (own + 3))
    | none =>
      match newline? cs, cs with
      | some rest, _ => do
        let (text, rest) ← multiline quote escapes fuel rest
        return ('\n' :: text, rest)
      | none, '\\' :: rest =>
        if escapes then
          match afterLineBreak? rest with
          | some rest => multiline quote escapes fuel rest
          | none => do
            let (c, rest) ← escape rest
            let (text, rest) ← multiline quote escapes fuel rest
            return (c :: text, rest)
        else do
          let (text, rest) ← multiline quote escapes fuel rest
          return ('\\' :: text, rest)
      | none, c :: rest => do
        if !isPlain c then none
        let (text, rest) ← multiline quote escapes fuel rest
        return (c :: text, rest)
      | none, [] => none

/-- The line end right after the opening quotes left out. -/
def afterOpening (cs : List Char) : List Char := (newline? cs).getD cs

/-- A string, from its opening quotes on. -/
def text : Reads String := fun cs =>
  let whole (r : Option (List Char × List Char)) : Option (String × List Char) :=
    r.map fun (cs, rest) => (String.ofList cs, rest)
  match cs with
  | '"' :: '"' :: '"' :: rest => whole (multiline '"' true (rest.length + 1) (afterOpening rest))
  | '"' :: rest => whole (basic (rest.length + 1) rest)
  | '\'' :: '\'' :: '\'' :: rest =>
    whole (multiline '\'' false (rest.length + 1) (afterOpening rest))
  | '\'' :: rest => whole (literal rest)
  | _ => none

/-! ## Keys -/

def isBare (c : Char) : Bool :=
  ('a' ≤ c && c ≤ 'z') || ('A' ≤ c && c ≤ 'Z') || c.isDigit || c == '-' || c == '_'

def simpleKey : Reads String
  | '"' :: rest => (basic (rest.length + 1) rest).map fun (cs, rest) => (String.ofList cs, rest)
  | '\'' :: rest => (literal rest).map fun (cs, rest) => (String.ofList cs, rest)
  | cs =>
    let word := cs.takeWhile isBare
    if word = [] then none else some (String.ofList word, cs.drop word.length)

/-- The longest path of keys is shorter than this, and so is the deepest nesting of values. -/
def depthLimit : Nat := 80

def keyPath : Nat → Reads (List String)
  | 0, _ => none
  | fuel + 1, cs => do
    let (key, rest) ← simpleKey (skipBlanks cs)
    match skipBlanks rest with
    | '.' :: rest =>
      let (path, rest) ← keyPath fuel rest
      return (key :: path, rest)
    | rest => return ([key], rest)

/-- Keys joined by points, with the blanks around them. -/
def key : Reads (List String) := keyPath (depthLimit - 1)

end EventIntake.Toml
