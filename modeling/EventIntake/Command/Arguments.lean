/-!
# Command line arguments

Two options are known: `--config` (or `-c`) with the path of a document, and `--check`; each may be
given once.  The value of an option follows it, or stands behind an equals sign, and for the short
form right behind it; as the next argument it does not begin with a dash, unless it is one.
Nothing else may stand on the command line.  The arguments are read in their order, so `--help` (or
`-h`) wins over what comes after it only.
-/

namespace EventIntake.Command

structure Options where
  config : Option String := none
  check : Bool := false
  deriving DecidableEq, Repr

inductive Request where
  | help
  | run (options : Options)
  /-- The arguments do not fit. -/
  | misuse
  deriving DecidableEq, Repr

/-- Whether an argument can be the value of the option before it. -/
def isValue (argument : String) : Bool := argument == "-" || !argument.startsWith "-"

/-- The options with the path of the document set. -/
def Options.setConfig (o : Options) (path : String) : Option Options :=
  if path = "" ∨ o.config.isSome then none else some { o with config := some path }

def Options.setCheck (o : Options) : Option Options :=
  if o.check then none else some { o with check := true }

/-- What an argument asks for. -/
inductive Meaning where
  | help
  | check
  | config (value : Option String)
  /-- No option may follow. -/
  | terminator
  | unknown
  deriving DecidableEq, Repr

def meaning (argument : String) : Meaning :=
  match argument.toList with
  | '-' :: '-' :: [] => .terminator
  | '-' :: '-' :: long =>
    let name := long.takeWhile (· ≠ '=')
    let value :=
      if name.length < long.length then some (String.ofList (long.drop (name.length + 1))) else none
    if name = "config".toList then .config value
    else if value.isSome then .unknown
    else if name = "check".toList then .check
    else if name = "help".toList then .help
    else .unknown
  | '-' :: 'h' :: _ => .help
  | ['-', 'c'] => .config none
  | '-' :: 'c' :: '=' :: value => .config (some (String.ofList value))
  | '-' :: 'c' :: value => .config (some (String.ofList value))
  | _ => .unknown

def parseFrom (o : Options) : List String → Request
  | [] => .run o
  | argument :: rest =>
    match meaning argument with
    | .help => .help
    | .unknown => .misuse
    | .terminator => if rest.isEmpty then .run o else .misuse
    | .check =>
      match o.setCheck with
      | some o => parseFrom o rest
      | none => .misuse
    | .config (some value) =>
      match o.setConfig value with
      | some o => parseFrom o rest
      | none => .misuse
    | .config none =>
      match rest with
      | value :: rest =>
        if isValue value then
          match o.setConfig value with
          | some o => parseFrom o rest
          | none => .misuse
        else .misuse
      | [] => .misuse

def parse (arguments : List String) : Request := parseFrom {} arguments

end EventIntake.Command
