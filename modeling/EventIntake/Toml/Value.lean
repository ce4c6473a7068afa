import EventIntake.Number.Binary64

/-!
# TOML values

A table holds its entries in the order in which they were written, each key once.  A date or a time
is kept as its text.
-/

namespace EventIntake.Toml

inductive Value where
  | string (text : String)
  | integer (value : Int)
  | float (value : Binary64)
  | boolean (value : Bool)
  | moment (text : String)
  | array (items : List Value)
  | table (entries : List (String × Value))

instance : Inhabited Value := ⟨.boolean false⟩

end EventIntake.Toml
