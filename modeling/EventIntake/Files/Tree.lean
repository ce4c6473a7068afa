/-!
# File trees

A tree gives what stands at each path below a working directory: a file, a directory or a link.
Paths are lists of names.  What lies above the working directory is not known and taken as empty.

`resolve` follows a path as the system does: a name is looked up in a directory only, `..` leads to
the directory above, and a link is followed from where it stands, forty of them at the most.
-/

namespace EventIntake

/-- Why a file could not be read. -/
inductive ReadError where
  | notFound
  | notDirectory
  | isDirectory
  | nameTooLong
  | tooManyLinks
  | nulInPath
  | notUtf8
  deriving DecidableEq, Repr

def ReadError.message : ReadError → String
  | notFound => "No such file or directory (os error 2)"
  | notDirectory => "Not a directory (os error 20)"
  | isDirectory => "Is a directory (os error 21)"
  | nameTooLong => "File name too long (os error 36)"
  | tooManyLinks => "Too many levels of symbolic links (os error 40)"
  | nulInPath => "file name contained an unexpected NUL byte"
  | notUtf8 => "stream did not contain valid UTF-8"

namespace Files

inductive Node where
  | file (contents : ByteArray)
  | directory
  | link (target : String)
  deriving Inhabited

def Node.isDirectory : Node → Bool
  | directory => true
  | file _ | link _ => false

/-- A place: below the working directory, or somewhere outside. -/
inductive Place where
  | inside (path : List String)
  | outside
  deriving DecidableEq, Repr

structure Tree where
  nodes : List (List String × Node) := []

namespace Tree

def node? (t : Tree) : List String → Option Node
  | [] => some .directory
  | path => t.nodes.lookup path

/-- The names in a path between its slashes, empty ones included. -/
def names (path : String) : List String := (go path.toList).map String.ofList
where
  go : List Char → List (List Char)
    | [] => [[]]
    | c :: rest =>
      if c = '/' then [] :: go rest
      else
        match go rest with
        | [] => [[c]]
        | name :: more => (c :: name) :: more

/-- Where a path begins and the names that lead on from there. -/
def origin (here : Place) (path : String) : Place × List String :=
  if path.startsWith "/" then (.outside, names path) else (here, names path)

/-- How far the names lead: to a place, or to a link with names left after it. -/
inductive Reached where
  | place (place : Place)
  | link (base : Place) (target : String) (rest : List String)

/-- Whether the place can be looked into. -/
def isDirectory (t : Tree) : Place → Bool
  | .outside => true
  | .inside path => (t.node? path).any Node.isDirectory

def above : Place → Place
  | .outside => .outside
  | .inside [] => .outside
  | .inside path => .inside path.dropLast

/-- Follow the names up to the first link. -/
def descend (t : Tree) : Place → List String → Except ReadError Reached
  | here, [] => .ok (.place here)
  | here, name :: rest =>
    if !t.isDirectory here then .error .notDirectory
    else if name = "" ∨ name = "." then t.descend here rest
    else if name = ".." then t.descend (above here) rest
    else if 255 < name.utf8ByteSize then .error .nameTooLong
    else
      match here with
      | .outside => .error .notFound
      | .inside path =>
        match t.node? (path ++ [name]) with
        | none => .error .notFound
        | some (.link target) => .ok (.link here target rest)
        | some _ => t.descend (.inside (path ++ [name])) rest

/-- Follow the names, and at most `links` links. -/
def follow (t : Tree) : Nat → Place → List String → Except ReadError Place
  | links, here, path =>
    match t.descend here path with
    | .error e => .error e
    | .ok (.place p) => .ok p
    | .ok (.link base target rest) =>
      match links with
      | 0 => .error .tooManyLinks
      | links + 1 =>
        let (base, path) := origin base target
        t.follow links base (path ++ rest)

/-- The place that a path leads to. -/
def resolve (t : Tree) (path : String) : Except ReadError Place :=
  if path.toList.contains '\x00' then .error .nulInPath
  else if path = "" then .error .notFound
  else if 4096 ≤ path.utf8ByteSize then .error .nameTooLong
  else
    let (base, path) := origin (.inside []) path
    t.follow 40 base path

/-- The contents of the file that a path leads to. -/
def read (t : Tree) (path : String) : Except ReadError ByteArray :=
  match t.resolve path with
  | .error e => .error e
  | .ok .outside => .error .isDirectory
  | .ok (.inside path) =>
    match t.node? path with
    | some (.file contents) => .ok contents
    | some .directory => .error .isDirectory
    | some (.link _) => .error .tooManyLinks
    | none => .error .notFound

/-- The contents as text; a mark of the byte order is part of it. -/
def readText (t : Tree) (path : String) : Except ReadError String :=
  match t.read path with
  | .error e => .error e
  | .ok contents =>
    match String.fromUTF8? contents with
    | some text => .ok text
    | none => .error .notUtf8

/-- Set what stands at a path of names. -/
def setNode (t : Tree) (path : List String) (n : Node) : Tree :=
  ⟨(path, n) :: t.nodes.filter fun (p, _) => !(path.isPrefixOf p)⟩

/-- Make directories along `names`, as far as they are not there. -/
def makeDirectories (t : Tree) (base : List String) : List String → Tree × List String
  | [] => (t, base)
  | name :: rest =>
    if name = "" ∨ name = "." then t.makeDirectories base rest
    else
      let path := base ++ [name]
      match t.node? path with
      | none => (t.setNode path .directory).makeDirectories path rest
      | some _ =>
        match t.follow 40 (.inside base) [name] with
        | .ok (.inside real) => t.makeDirectories real rest
        | _ => t.makeDirectories path rest

/-- Put a node at a path, in one step, with the directories above it. -/
def put (t : Tree) (path : String) (n : Node) : Tree :=
  let names := (names path).filter fun name => name ≠ "" ∧ name ≠ "."
  let (t, base) := t.makeDirectories [] names.dropLast
  match names.getLast? with
  | some name => t.setNode (base ++ [name]) n
  | none => t

/-- Take away what stands at a path, with everything below it. -/
def remove (t : Tree) (path : String) : Tree :=
  let names := (names path).filter fun name => name ≠ "" ∧ name ≠ "."
  match t.follow 40 (.inside []) names.dropLast, names.getLast? with
  | .ok (.inside base), some name =>
    ⟨t.nodes.filter fun (p, _) => !((base ++ [name]).isPrefixOf p)⟩
  | _, _ => t

end Tree

end Files

end EventIntake
