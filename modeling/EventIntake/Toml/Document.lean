import EventIntake.Toml.Scalar
import EventIntake.Toml.Table

/-!
# Documents

A document is a sequence of lines: blank ones, comments, values of keys, and headers that open the
table which the following keys belong to.  Values nest in arrays and inline tables; an array may run
over lines, an inline table stands on one.
-/

namespace EventIntake.Toml

/-! ## Values -/

/-- The items of an array, after its opening bracket. -/
def arrayItems (value : Reads Value) : Nat → Reads (List Value)
  | 0, _ => none
  | fuel + 1, cs => do
    let cs ← spacing? cs
    match cs with
    | ']' :: rest => return ([], rest)
    | cs =>
      let (v, rest) ← value cs
      match ← spacing? rest with
      | ']' :: rest => return ([v], rest)
      | ',' :: rest =>
        let (vs, rest) ← arrayItems value fuel rest
        return (v :: vs, rest)
      | _ => none

/-- A path of keys, an equals sign and a value. -/
def keyValue (value : Reads Value) : Reads (List String × String × Value) := fun cs => do
  let (path, rest) ← key cs
  match rest with
  | '=' :: rest =>
    let (v, rest) ← value (skipBlanks rest)
    let last ← path.getLast?
    return ((path.dropLast, last, v), rest)
  | _ => none

/-- The entries of an inline table, after its opening brace and at least one of them. -/
def inlineEntries (value : Reads Value) : Nat → Entries → Reads Entries
  | 0, _, _ => none
  | fuel + 1, es, cs => do
    let ((path, last, v), rest) ← keyValue value cs
    let es ← Node.addValue path last v es
    match skipBlanks rest with
    | '\x7d' :: rest => return (es, rest)
    | ',' :: rest => inlineEntries value fuel es rest
    | _ => none

def inlineTable (value : Reads Value) : Reads Value := fun cs =>
  match skipBlanks cs with
  | '\x7d' :: rest => some (.table [], rest)
  | cs => (inlineEntries value (cs.length + 1) [] cs).map fun (es, rest) =>
      (.table (Node.entriesToValues es), rest)

/-- A value with less than `depth` levels of arrays and inline tables. -/
def value : Nat → Reads Value
  | depth, cs =>
    match cs with
    | '"' :: _ | '\'' :: _ => (text cs).map fun (s, rest) => (.string s, rest)
    | 't' :: 'r' :: 'u' :: 'e' :: rest => some (.boolean true, rest)
    | 'f' :: 'a' :: 'l' :: 's' :: 'e' :: rest => some (.boolean false, rest)
    | '[' :: rest =>
      match depth with
      | 0 | 1 => none
      | depth + 1 => (arrayItems (value depth) (rest.length + 1) rest).map fun (vs, rest) =>
          (.array vs, rest)
    | '\x7b' :: rest =>
      match depth with
      | 0 | 1 => none
      | depth + 1 => inlineTable (value depth) rest
    | cs => numeric cs

/-! ## Lines -/

/-- A document so far: its entries and the table that is open. -/
structure Draft where
  root : Entries
  header : List String

/-- A header, with whether it opens an element of an array. -/
def header : Reads (List String × Bool) := fun cs =>
  match cs with
  | '[' :: '[' :: rest =>
    match key rest with
    | some (path, ']' :: ']' :: rest) => some ((path, true), rest)
    | _ => none
  | '[' :: rest =>
    match key rest with
    | some (path, ']' :: rest) => some ((path, false), rest)
    | _ => none
  | _ => none

/-- What one line adds, from its first character that is no blank to its end. -/
def line (d : Draft) (cs : List Char) : Option (Draft × List Char) :=
  match cs with
  | '[' :: _ => do
    let ((path, element), rest) ← header cs
    let rest ← lineEnd? rest
    let last ← path.getLast?
    let root ← if element then Node.openElement path.dropLast last d.root
      else Node.openTable path.dropLast last d.root
    return (⟨root, path⟩, rest)
  | _ => do
    let ((path, last, v), rest) ← keyValue (value depthLimit) cs
    let rest ← lineEnd? rest
    let root ← Node.inHeader d.header (Node.addValue path last v) d.root
    return (⟨root, d.header⟩, rest)

def linesFrom : Nat → Draft → List Char → Option Draft
  | 0, _, _ => none
  | fuel + 1, d, cs =>
    match skipBlanks cs with
    | [] => some d
    | cs@(c :: _) =>
      if c = '\n' ∨ c = '\r' then (newline? cs).bind (linesFrom fuel d)
      else if c = '#' then (lineEnd? cs).bind (linesFrom fuel d)
      else
        match line d cs with
        | some (d, rest) => linesFrom fuel d rest
        | none => none

/-- The entries of the table that a text stands for.  A mark of the byte order in front of it does
not count. -/
def parse (text : String) : Option (List (String × Value)) :=
  let cs := text.toList
  let cs := if cs.head? = some '\ufeff' then cs.drop 1 else cs
  (linesFrom (cs.length + 1) ⟨[], []⟩ cs).map fun d => Node.entriesToValues d.root

end EventIntake.Toml
