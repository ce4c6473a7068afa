/-!
# JSON values

The members of an object stand in the order of the text, and a name may come twice.  A string that
is not well-formed text is `none`: it does not make the document malformed, but it is no text
either.  Nothing here asks for the value of a number.
-/

namespace EventIntake.Json

inductive Value where
  | null
  | boolean (value : Bool)
  | number
  | string (text : Option String)
  | array (items : List Value)
  | object (members : List (Option String × Value))

instance : Inhabited Value := ⟨.null⟩

end EventIntake.Json
