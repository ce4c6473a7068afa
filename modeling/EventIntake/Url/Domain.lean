import EventIntake.Text.Canonical
import EventIntake.Text.Direction
import EventIntake.Text.Joining
import EventIntake.Text.Mark
import EventIntake.Url.Domain.Punycode
import EventIntake.Url.Domain.Table

/-!
# Domain names

A name is brought into one spelling: letters become small, compatible characters the plain ones,
and the whole takes its composed form.  Its labels are then checked one by one, and a label beyond
ASCII is written behind `xn--` in Punycode.  A label that is given that way has to stand for one
that would be written so.
-/

namespace EventIntake.Url.Domain

open Text

/-- Characters that no domain name of a URL has, blanks and controls apart. -/
def denied : List Char := ['%', '#', '/', ':', '<', '>', '?', '@', '[', '\\', ']', '^', '|']

def isDenied (c : Char) : Bool := c.toNat ≤ 0x20 || c.toNat == 0x7F || c ∈ denied

def isAscii (c : Char) : Bool := c.toNat < 0x80

def lower (c : Char) : Char := if 'A' ≤ c ∧ c ≤ 'Z' then Char.ofNat (c.toNat + 32) else c

/-- The parts between points. -/
def labels (cs : List Char) : List (List Char) :=
  cs.foldr (fun c acc =>
    if c = '.' then [] :: acc
    else
      match acc with
      | [] => [[c]]
      | p :: rest => (c :: p) :: rest) [[]]

/-! ## One spelling -/

/-- What stands in the place of a character: nothing for one that is left out, and for one that is
made of others what stands in theirs. -/
def image? (c : Char) : Option (List Char) :=
  if Table.holds disallowed c then none
  else if Table.holds ignored c then some []
  else some ((Canonical.decomposition c).flatMap fun d => (Table.image? replaced d).getD [d])

def spelling? (cs : List Char) : Option (List Char) :=
  (cs.mapM image?).map fun images => Canonical.composed images.flatten

/-! ## Labels -/

def codeMark : List Char := ['x', 'n', '-', '-']

def isCoded (label : List Char) : Bool := codeMark.isPrefixOf label

/-- Longer labels are not decoded, and those beyond ASCII that are longer than half of it not
encoded. -/
def decodedLimit : Nat := 2000

/-- The text that a label stands for. -/
def meaning? (label : List Char) : Option (List Char) :=
  if isCoded label then do
    let code := label.drop codeMark.length
    if decodedLimit < code.length then none
    let text ← Punycode.decode? code
    if text.all isAscii ∨ spelling? text ≠ some text then none
    return text
  else some label

def written (label : List Char) : List Char :=
  if label.all isAscii then label else codeMark ++ Punycode.encode label

/-- A character that joins or separates its neighbours stands behind a sign that kills a vowel, and
one that separates also between letters that would join. -/
def joinsFit (before : List Char) : List Char → Bool
  | [] => true
  | c :: rest =>
    let behindKiller := before.head?.any (Canonical.combiningClass · == 9)
    let across (cs : List Char) := (cs.dropWhile (Table.holds Joining.transparent)).head?
    let between :=
      (across before).any Joining.joinsOnward && (across rest).any Joining.joinsBack
    let fits :=
      if c = '\u200c' then behindKiller || between
      else if c = '\u200d' then behindKiller
      else true
    fits && joinsFit (c :: before) rest

def isLabel (label : List Char) : Bool :=
  !label.head?.any isMark && joinsFit [] label
    && (label.all isAscii || label.length ≤ decodedLimit / 2)

/-! ## Direction -/

def turns (d : Direction) : Bool := d ∈ [.right, .arabic, .arabicNumber]

/-- The directions that a label from left to right has. -/
def withLeft : List Direction :=
  [.left, .europeanNumber, .separator, .common, .terminator, .neutral, .boundary, .mark]

/-- The directions that a label from right to left has. -/
def withRight : List Direction :=
  [.right, .arabic, .arabicNumber, .europeanNumber, .separator, .common, .terminator, .neutral,
    .boundary, .mark]

/-- A label has one direction, that of its first character, and ends in it or in a number. -/
def hasOneDirection (label : List Char) : Bool :=
  let all := label.map Direction.of
  let last := (all.reverse.dropWhile (· = .mark)).head?
  match all.head? with
  | none => true
  | some .left => all.all (· ∈ withLeft) && last.any (· ∈ [.left, .europeanNumber])
  | some .right | some .arabic =>
    all.all (· ∈ withRight)
      && last.any (· ∈ [.right, .arabic, .europeanNumber, .arabicNumber])
      && !(.europeanNumber ∈ all && .arabicNumber ∈ all)
  | some _ => false

/-! ## Names -/

/-- A name of small letters in ASCII, of which no label stands for another text. -/
def isPlain (cs : List Char) : Bool := cs.all isAscii && !(labels cs).any isCoded

def ofSpelling? (cs : List Char) : Option (List Char) := do
  if cs.any isDenied then none
  let parts := labels cs
  let meanings ← parts.mapM meaning?
  if !meanings.all isLabel then none
  if (meanings.any (·.any (turns ∘ Direction.of))) ∧ !meanings.all hasOneDirection then none
  return ['.'].intercalate (meanings.map written)

/-- The name in ASCII. -/
def toAscii (bytes : List UInt8) : Option (List Char) := do
  let s ← String.fromUTF8? ⟨bytes.toArray⟩
  let small := s.toList.map lower
  if isPlain small then
    if small.any isDenied then none else return small
  else ofSpelling? (← spelling? small)

end EventIntake.Url.Domain
