import EventIntake.Toml.Value

/-!
# Tables under construction

A document builds its tables piece by piece, and what may be added depends on how a table came to
be.  A table is *implicit* when it was only passed through on the way to another one; it is
*dotted* when a path of keys made it.  A header may open a table that is implicit and not dotted,
once; a path of keys may lead through implicit tables only, and adds entries to dotted ones.
-/

namespace EventIntake.Toml

/-- What a key of a table under construction leads to. -/
inductive Node where
  | value (value : Value)
  | table (implicit dotted : Bool) (entries : List (String × Node))
  /-- Tables that were opened one after the other, the last one first. -/
  | tables (entries : List (List (String × Node)))

abbrev Entries := List (String × Node)

namespace Node

def find? (key : String) : Entries → Option Node
  | [] => none
  | (k, n) :: rest => if k = key then some n else find? key rest

def set (key : String) (node : Node) : Entries → Entries
  | [] => [(key, node)]
  | (k, n) :: rest => if k = key then (k, node) :: rest else (k, n) :: set key node rest

/-- Change the table that `path` leads to, making tables on the way where there are none.  The
change is told whether its table is dotted. -/
def within (viaKeys : Bool) (change : Bool → Entries → Option Entries) :
    List String → Bool → Entries → Option Entries
  | [], dotted, es => change dotted es
  | key :: path, _, es =>
    match find? key es with
    | none =>
      (within viaKeys change path viaKeys []).map fun inner =>
        set key (.table true viaKeys inner) es
    | some (.table implicit dotted inner) =>
      if viaKeys ∧ !implicit then none
      else
        (within viaKeys change path dotted inner).map fun inner =>
          set key (.table implicit dotted inner) es
    | some (.tables (last :: before)) =>
      (within viaKeys change path false last).map fun last => set key (.tables (last :: before)) es
    | some (.tables []) => none
    | some (.value _) => none

/-- Add the value of a path of keys to a table.  A path of one key adds to a table that is not
dotted, a longer one to a dotted table. -/
def addValue (path : List String) (key : String) (v : Value) : Entries → Option Entries :=
  within true (fun dotted es =>
    if dotted = path.isEmpty then none
    else
      match find? key es with
      | some _ => none
      | none => some (set key (.value v) es)) path false

/-- Open a table by its header. -/
def openTable (path : List String) (key : String) : Entries → Option Entries :=
  within false (fun _ es =>
    match find? key es with
    | none => some (set key (.table false false []) es)
    | some (.table true false inner) => some (set key (.table false false inner) es)
    | some _ => none) path false

/-- Open one more table of an array of tables by its header. -/
def openElement (path : List String) (key : String) : Entries → Option Entries :=
  within false (fun _ es =>
    match find? key es with
    | none => some (set key (.tables [[]]) es)
    | some (.tables ts) => some (set key (.tables ([] :: ts)) es)
    | some _ => none) path false

/-- Change the table that the last header opened. -/
def inHeader (header : List String) (change : Entries → Option Entries) :
    Entries → Option Entries :=
  within false (fun _ es => change es) header false

mutual

/-- The finished value. -/
def toValue : Node → Value
  | .value v => v
  | .table _ _ es => .table (entriesToValues es)
  | .tables ts => .array (tablesToValues ts).reverse

def entriesToValues : List (String × Node) → List (String × Value)
  | [] => []
  | (key, node) :: rest => (key, toValue node) :: entriesToValues rest

def tablesToValues : List (List (String × Node)) → List Value
  | [] => []
  | es :: rest => .table (entriesToValues es) :: tablesToValues rest

end

end Node

end EventIntake.Toml
