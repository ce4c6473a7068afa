import EventIntake.Url.Host

/-!
# Reading URLs

Blanks and controls around the text and tabs and line ends within it do not count.  A scheme comes
first, for there is no other URL that a text could be relative to.  After the scheme of a special
URL any number of slashes lead to its host; any other URL has a host only after two.

A path is read segment by segment: `.` is left out and `..` takes the segment before it away, both
also in their encoded forms.
-/

namespace EventIntake.Url

/-- The text that counts. -/
def cleaned (text : String) : List Char :=
  let blank (c : Char) : Bool := c.toNat ≤ 0x20
  let cs := ((text.toList.dropWhile blank).reverse.dropWhile blank).reverse
  cs.filter fun c => c ≠ '\t' ∧ c ≠ '\n' ∧ c ≠ '\r'

def isAlpha (c : Char) : Bool := ('a' ≤ c && c ≤ 'z') || ('A' ≤ c && c ≤ 'Z')

/-- The scheme, in lower case, and what follows its colon. -/
def scheme? (cs : List Char) : Option (String × List Char) :=
  let name := cs.takeWhile fun c => isAlpha c || c.isDigit || c = '+' || c = '-' || c = '.'
  match name.head?, cs.drop name.length with
  | some first, ':' :: rest =>
    if isAlpha first then some (String.ofList (name.map Domain.lower), rest) else none
  | _, _ => none

/-- Whether the character ends what comes before the path. -/
def endsAuthority (k : SchemeKind) (c : Char) : Bool :=
  c == '/' || c == '?' || c == '#' || (k.isSpecial && c == '\\')

/-! ## Credentials, host and port -/

/-- What stands before the last `@` of the authority, and what follows it. -/
def splitUserinfo (k : SchemeKind) (cs : List Char) : Option (List Char × List Char) :=
  let authority := cs.takeWhile fun c => !endsAuthority k c
  let afterAt := (authority.reverse.takeWhile (· ≠ '@')).reverse
  if afterAt.length = authority.length then none
  else
    some (authority.take (authority.length - afterAt.length - 1),
      afterAt ++ cs.drop authority.length)

/-- The encoded name and password. -/
def credentials (userinfo : List Char) : String × Option String :=
  let name := userinfo.takeWhile (· ≠ ':')
  let password := userinfo.drop (name.length + 1)
  (String.ofList (encode userinfoSet name),
    if password = [] then none else some (String.ofList (encode userinfoSet password)))

/-- The text of a host up to a port, a path, a query or a fragment. -/
def hostText (k : SchemeKind) : Bool → List Char → List Char
  | _, [] => []
  | inBrackets, c :: rest =>
    if (c = ':' ∧ !inBrackets) ∨ endsAuthority k c then []
    else c :: hostText k (if c = '[' then true else if c = ']' then false else inBrackets) rest

def readHost (k : SchemeKind) (cs : List Char) : Except ParseError (Host × List Char) :=
  let text := hostText k false cs
  let rest := cs.drop text.length
  if k = .special then
    if text = [] then .error .emptyHost else (Host.ofSpecial text).map (·, rest)
  else (Host.ofOpaque text).map (·, rest)

/-- The port after a colon; one that goes without saying is left out. -/
def readPort (scheme : String) (cs : List Char) : Except ParseError (Option Nat × List Char) :=
  let digits := cs.takeWhile Char.isDigit
  let rest := cs.drop digits.length
  let n := Number.ofDigits digits
  let ends := match rest with
    | [] => true
    | c :: _ => c = '/' ∨ c = '\\' ∨ c = '?' ∨ c = '#'
  if 65535 < n ∨ !ends then .error .invalidPort
  else if digits = [] ∨ some n = defaultPort? scheme then .ok (none, rest)
  else .ok (some n, rest)

def readAuthority (scheme : String) (k : SchemeKind) (cs : List Char) :
    Except ParseError (Authority × List Char) := do
  let (username, password, cs) ←
    match splitUserinfo k cs with
    | none => pure ("", none, cs)
    | some ([], rest) =>
      if rest.head?.any (endsAuthority k) then throw .emptyHost
      pure ("", none, rest)
    | some (userinfo, rest) =>
      let (username, password) := credentials userinfo
      pure (username, password, rest)
  let (host, cs) ← readHost k cs
  let isEmpty := host = .domain ""
  if isEmpty ∧ cs.head? = some ':' then throw .emptyHost
  let (port, cs) ←
    match cs with
    | ':' :: rest => readPort scheme rest
    | cs => pure (none, cs)
  if isEmpty ∧ (username ≠ "" ∨ password.isSome) then throw .emptyHost
  return (⟨username, password, host, port⟩, cs)

/-! ## Paths -/

/-- A segment in lower case with encoded points decoded. -/
def plainDots : List Char → List Char
  | '%' :: '2' :: e :: rest =>
    if e = 'e' ∨ e = 'E' then '.' :: plainDots rest else '%' :: '2' :: e :: plainDots rest
  | c :: rest => c :: plainDots rest
  | [] => []

/-- A path up to its last slash, that slash included. -/
def throughLastSlash (path : List Char) : List Char :=
  (path.reverse.dropWhile (· ≠ '/')).reverse

/-- A drive letter with its colon. -/
def isDrive (cs : List Char) : Bool :=
  match cs with
  | [c, d] => isAlpha c && (d = ':' || d = '|')
  | _ => false

def isNormalDrive (cs : List Char) : Bool := isDrive cs && cs.getLast? == some ':'

/-- The path after a segment of two points. -/
def afterParent (file : Bool) (path : List Char) (slash : Bool) : List Char :=
  let removable := path.getLast? = some '/' ∧ '/' ∈ path.dropLast
    ∧ !(file && (isDrive ((path.dropLast.reverse.takeWhile (· ≠ '/')).reverse)))
  let path := if removable then path.dropLast else path
  let shortened :=
    if path = [] ∨ (file ∧ isNormalDrive path) then path
    else
      let last := (path.reverse.takeWhile (· ≠ '/')).reverse
      if file ∧ isNormalDrive last then path else throughLastSlash path
  if slash ∧ shortened.getLast? ≠ some '/' then shortened ++ ['/'] else shortened

/-- The path so far, after one more segment. -/
def afterSegment (file : Bool) (path segment : List Char) (slash : Bool) : List Char :=
  if plainDots segment = ['.', '.'] then afterParent file path slash
  else if plainDots segment = ['.'] then
    if path.getLast? = some '/' then path else path ++ ['/']
  else
    let segment :=
      match segment with
      | [c, _] => if file ∧ path = ['/'] ∧ isDrive segment then [c, ':'] else segment
      | _ => segment
    path ++ segment ++ (if slash then ['/'] else [])

/-- Read the segments of a path, after what there is of it. -/
def readSegments (k : SchemeKind) : Nat → List Char → List Char → List Char × List Char
  | 0, path, cs => (path, cs)
  | fuel + 1, path, cs =>
    let segment := cs.takeWhile fun c => !endsAuthority k c
    let rest := cs.drop segment.length
    let file := k == .file
    let encoded := encode pathSet segment
    match rest with
    | c :: rest' =>
      if c = '?' ∨ c = '#' then (afterSegment file path encoded false, rest)
      else readSegments k fuel (afterSegment file path encoded true) rest'
    | [] => (afterSegment file path encoded false, [])

/-- The path that follows an authority. -/
def readPath (k : SchemeKind) (cs : List Char) : List Char × List Char :=
  let slashed (cs : List Char) : List Char × List Char := readSegments k (cs.length + 1) ['/'] cs
  match cs with
  | [] => if k.isSpecial then (['/'], []) else ([], [])
  | c :: rest =>
    if c = '/' ∨ (k.isSpecial ∧ c = '\\') then slashed rest
    else if (c = '?' ∨ c = '#') ∧ !k.isSpecial then ([], cs)
    else slashed cs

/-! ## Queries and fragments -/

def readEnd (k : SchemeKind) (cs : List Char) : Option String × Option String :=
  let fragment (cs : List Char) : Option String :=
    match cs with
    | '#' :: rest => some (String.ofList (encode fragmentSet rest))
    | _ => none
  match cs with
  | '?' :: rest =>
    let query := rest.takeWhile (· ≠ '#')
    let set := if k.isSpecial then specialQuerySet else querySet
    (some (String.ofList (encode set query)), fragment (rest.drop query.length))
  | cs => (none, fragment cs)

def assemble (scheme : String) (authority : Option Authority) (path : List Char) (k : SchemeKind)
    (rest : List Char) : Url :=
  let (query, fragment) := readEnd k rest
  { scheme, authority, path := String.ofList path, query, fragment }

/-! ## The kinds of URL -/

def withAuthority (scheme : String) (k : SchemeKind) (cs : List Char) : Except ParseError Url := do
  let (authority, cs) ← readAuthority scheme k cs
  let (path, rest) := readPath k cs
  return assemble scheme (some authority) path k rest

/-- The slashes that a path of a file begins with are one. -/
def oneSlash (path : List Char) : List Char := '/' :: path.dropWhile (· = '/')

def isSlash (c : Char) : Bool := c = '/' || c = '\\'

/-- A URL of a file: two slashes lead to a host, which may be empty and may be this one. -/
def ofFile (cs : List Char) : Except ParseError Url := do
  let build (host : Host) (path rest : List Char) : Url :=
    assemble "file" (some ⟨"", none, host, none⟩) (oneSlash path) .file rest
  match cs with
  | a :: b :: rest =>
    if isSlash a ∧ isSlash b then
      let text := rest.takeWhile fun c => !(isSlash c || c == '?' || c == '#')
      if isDrive text then
        let (path, rest) := readSegments .file (rest.length + 1) ['/'] rest
        return build (.domain "") path rest
      let host ← if text = [] then pure (Host.domain "") else Host.ofSpecial text
      let (path, rest) := readPath .file (rest.drop text.length)
      let local? := host = .domain "localhost" ∨ isNormalDrive ((path.drop 1).takeWhile (· ≠ '/'))
      return build (if local? then .domain "" else host) path rest
    else
      let (path, rest) := readPath .file cs
      return build (.domain "") path rest
  | cs =>
    let (path, rest) := readPath .file cs
    return build (.domain "") path rest

/-- A URL under a scheme that is not special. -/
def ofOther (scheme : String) (cs : List Char) : Except ParseError Url :=
  match cs with
  | '/' :: '/' :: rest => withAuthority scheme .other rest
  | '/' :: rest =>
    let (path, rest) := readSegments .other (rest.length + 1) ['/'] rest
    .ok (assemble scheme none path .other rest)
  | cs =>
    let opaqueText := cs.takeWhile fun c => c ≠ '?' ∧ c ≠ '#'
    .ok (assemble scheme none (encode [] opaqueText) .other (cs.drop opaqueText.length))

def parse (text : String) : Except ParseError Url :=
  match scheme? (cleaned text) with
  | none => .error .relativeWithoutBase
  | some (scheme, rest) =>
    match SchemeKind.of scheme with
    | .file => ofFile rest
    | .special => withAuthority scheme .special (rest.dropWhile isSlash)
    | .other => ofOther scheme rest

end EventIntake.Url
