/-!
# Blank characters, trimming and lines

A character is blank when it has the Unicode property White_Space.  `trim` takes blanks off both
ends of a text.  A line ends at a line feed, and a carriage return right before it belongs to the
end of the line; after the last line feed there is no further line unless text follows.
-/

namespace EventIntake.Text

def isBlank (c : Char) : Bool :=
  let n := c.toNat
  (9 ≤ n && n ≤ 13) || n == 0x20 || n == 0x85 || n == 0xA0 || n == 0x1680
    || (0x2000 ≤ n && n ≤ 0x200A) || n == 0x2028 || n == 0x2029 || n == 0x202F || n == 0x205F
    || n == 0x3000

def trimStart (cs : List Char) : List Char := cs.dropWhile isBlank

def trimEnd (cs : List Char) : List Char := (cs.reverse.dropWhile isBlank).reverse

def trim (cs : List Char) : List Char := trimEnd (trimStart cs)

/-- `trim`, on strings. -/
def trimmed (s : String) : String := String.ofList (trim s.toList)

/-- A line without the carriage return at its end. -/
def withoutReturn (line : List Char) : List Char :=
  if line.getLast? = some '\r' then line.dropLast else line

/-- The pieces between line feeds, the last one included. -/
def splitLines : List Char → List (List Char)
  | [] => [[]]
  | c :: rest =>
    if c = '\n' then [] :: splitLines rest
    else
      match splitLines rest with
      | [] => [[c]]
      | line :: more => (c :: line) :: more

/-- The lines of a text. -/
def lines (cs : List Char) : List (List Char) :=
  let pieces := splitLines cs
  let complete := pieces.dropLast.map withoutReturn
  match pieces.getLast? with
  | none | some [] => complete
  | some tail => complete ++ [tail]

end EventIntake.Text
