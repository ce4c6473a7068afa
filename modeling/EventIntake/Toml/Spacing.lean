/-!
# Blanks, comments and line ends

Blanks are spaces and tabs.  A line ends with a line feed, which a carriage return may precede, but
a carriage return alone ends nothing.  A comment runs from `#` to the end of its line and holds no
control character but the tab.
-/

namespace EventIntake.Toml

/-- Read from the front of a text: a value and what is left. -/
abbrev Reads (β : Type) := List Char → Option (β × List Char)

def isBlank (c : Char) : Bool := c == ' ' || c == '\t'

def skipBlanks (cs : List Char) : List Char := cs.dropWhile isBlank

/-- What follows a line end that comes next. -/
def newline? : List Char → Option (List Char)
  | '\n' :: rest => some rest
  | '\r' :: '\n' :: rest => some rest
  | _ => none

def isCommentChar (c : Char) : Bool :=
  c == '\t' || (0x20 ≤ c.toNat && c.toNat ≤ 0x7E) || 0x80 ≤ c.toNat

/-- A comment left out, if one comes next. -/
def skipComment (cs : List Char) : List Char :=
  if cs.head? = some '#' then cs.dropWhile isCommentChar else cs

/-- What follows the end of a line, which comes after blanks and a comment, or is that of the
text. -/
def lineEnd? (cs : List Char) : Option (List Char) :=
  match skipComment (skipBlanks cs) with
  | [] => some []
  | rest => newline? rest

/-- Blanks, comments and line ends left out.  A comment here is followed by a line end. -/
def skipSpacing : Nat → List Char → Option (List Char)
  | 0, cs => some cs
  | fuel + 1, cs =>
    let cs := skipBlanks cs
    match cs with
    | '#' :: _ => (newline? (skipComment cs)).bind (skipSpacing fuel)
    | '\n' :: rest => skipSpacing fuel rest
    | '\r' :: _ => (newline? cs).bind (skipSpacing fuel)
    | _ => some cs

def spacing? (cs : List Char) : Option (List Char) := skipSpacing (cs.length + 1) cs

end EventIntake.Toml
