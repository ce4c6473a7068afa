import EventIntake.Properties.Basic
import EventIntake.Text.Blank

/-!
# The text of properties

Each line that is neither blank nor a comment gives one property: a key up to the first `=` or `:`,
then its value, both without the blanks around them.  A line without a separator is a key with an
empty value.  A comment begins with `#` or `!`.  Of two lines with the same key the later one
counts.

`render` writes one line for each property, in the order of the keys.
-/

namespace EventIntake.Properties

def isSeparator (c : Char) : Bool := c == '=' || c == ':'

def isComment : List Char → Bool
  | [] => true
  | c :: _ => c == '#' || c == '!'

/-- The property that a line without blanks around it gives. -/
def ofLine? (line : List Char) : Option (String × String) :=
  if isComment line then none
  else
    let key := line.takeWhile fun c => !isSeparator c
    let value := (line.dropWhile fun c => !isSeparator c).drop 1
    some (String.ofList (Text.trim key), String.ofList (Text.trim value))

def ofText (text : String) : Properties :=
  ofList ((Text.lines text.toList).filterMap fun line => ofLine? (Text.trim line))

def render (p : Properties) : String :=
  String.join (p.entries.map fun (key, value) => key ++ "=" ++ value ++ "\n")

end EventIntake.Properties
