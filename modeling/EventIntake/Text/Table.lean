/-!
# Written tables of characters

A table is a text of entries between blanks, on as many lines as it takes, with every number in
hexadecimal.  An entry of a set is a code point `c` or a span `a-b`, ends included.  An entry of a
substitution says in addition what is put in the place of the character: `a>t` or `a>t+u` a text,
`a-b>t` the character as far from `t` as the one replaced is from `a`, and `a-b/2>t` the same for
every second character of the span.
-/

namespace EventIntake.Text.Table

def digit (c : Char) : Nat := if c.isDigit then c.toNat - 0x30 else c.toNat - 0x57

def number (s : String) : Nat := s.toList.foldl (fun n c => 16 * n + digit c) 0

def entries (s : String) : List String :=
  ((s.splitOn "\n").flatMap (·.splitOn " ")).filter (!·.isEmpty)

/-! ## Sets -/

structure Span where
  first : Nat
  last : Nat
deriving Repr, DecidableEq, Inhabited

def Span.ofText (s : String) : Span :=
  match s.splitOn "-" with
  | [a, b] => ⟨number a, number b⟩
  | _ => ⟨number s, number s⟩

def spans (s : String) : List Span := (entries s).map Span.ofText

def Span.holds (span : Span) (c : Char) : Bool := span.first ≤ c.toNat && c.toNat ≤ span.last

def holds (table : List Span) (c : Char) : Bool := table.any (·.holds c)

/-! ## Substitutions -/

structure Substitution where
  span : Span
  step : Nat
  image : List Nat
deriving Repr, DecidableEq, Inhabited

def Substitution.ofText (s : String) : Substitution :=
  match s.splitOn ">" with
  | [source, target] =>
    let image := (target.splitOn "+").map number
    match source.splitOn "/" with
    | [source, step] => ⟨.ofText source, number step, image⟩
    | _ => ⟨.ofText source, 1, image⟩
  | _ => ⟨.ofText s, 1, []⟩

def substitutions (s : String) : List Substitution := (entries s).map Substitution.ofText

def Substitution.image? (r : Substitution) (c : Char) : Option (List Char) :=
  let distance := c.toNat - r.span.first
  if r.span.holds c ∧ distance % r.step = 0 then
    some (r.image.map fun t => Char.ofNat (t + distance))
  else none

def image? (table : List Substitution) (c : Char) : Option (List Char) :=
  table.findSome? (·.image? c)

end EventIntake.Text.Table
