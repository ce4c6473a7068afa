/-!
# Messages

A message goes to an address, carries headers in the order they were given, and a payload.  Headers
may repeat; a look-up sees the first.
-/

namespace EventIntake

structure Message where
  address : String
  headers : List (String × String) := []
  payload : ByteArray

namespace Message

def header? (m : Message) (key : String) : Option String :=
  (m.headers.find? fun h => h.1 == key).map Prod.snd

theorem header?_cons (address key value : String) (rest : List (String × String))
    (payload : ByteArray) (k : String) :
    (⟨address, (key, value) :: rest, payload⟩ : Message).header? k =
      if key = k then some value else (⟨address, rest, payload⟩ : Message).header? k := by
  by_cases h : key = k <;> simp [header?, h]

end Message

end EventIntake
