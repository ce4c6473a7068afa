import EventIntake.Capability.Source

/-!
# The index of event types

The index holds the event types of one list.  They are told apart by their keys, and of two with one
key the later one stays; no two entries share a key.  A key is the namespace and the name with a
slash between them, so a slash inside of either can bring two pairs to one key.
-/

namespace EventIntake.Capability

def keyOf («namespace» name : String) : String := «namespace» ++ "/" ++ name

def EventType.key (e : EventType) : String := keyOf e.namespace e.name

/-- The items that no later item has the key of. -/
def latest : List EventType → List EventType
  | [] => []
  | e :: rest =>
    let kept := latest rest
    if kept.any fun other => other.key == e.key then kept else e :: kept

theorem mem_of_mem_latest {e : EventType} : ∀ {items : List EventType}, e ∈ latest items →
    e ∈ items := by
  intro items
  induction items with
  | nil => exact id
  | cons first rest ih =>
    intro h
    unfold latest at h
    simp only at h
    split at h
    · exact List.mem_cons_of_mem _ (ih h)
    · rcases List.mem_cons.1 h with rfl | h
      · exact List.mem_cons_self
      · exact List.mem_cons_of_mem _ (ih h)

theorem pairwise_latest (items : List EventType) :
    (latest items).Pairwise fun a b => a.key ≠ b.key := by
  induction items with
  | nil => exact .nil
  | cons first rest ih =>
    unfold latest
    simp only
    split
    · exact ih
    · case isFalse hNew =>
      refine List.pairwise_cons.2 ⟨fun other hOther hKey => hNew ?_, ih⟩
      exact List.any_eq_true.2 ⟨other, hOther, beq_iff_eq.2 hKey.symm⟩

structure EventIndex where
  entries : List EventType := []
  distinct : entries.Pairwise fun a b => a.key ≠ b.key := by exact .nil

namespace EventIndex

def empty : EventIndex := ⟨[], .nil⟩

instance : Inhabited EventIndex := ⟨empty⟩

def ofList (items : List EventType) : EventIndex := ⟨latest items, pairwise_latest items⟩

def size (x : EventIndex) : Nat := x.entries.length

def isEmpty (x : EventIndex) : Bool := x.entries.isEmpty

def get? (x : EventIndex) («namespace» name : String) : Option EventType :=
  x.entries.find? fun e => e.key == keyOf «namespace» name

/-- Some event type of the namespace that describes events of type `type`. -/
def findType? (x : EventIndex) («namespace» type : String) : Option EventType :=
  x.entries.find? fun e => e.namespace == «namespace» && e.type == type

end EventIndex

end EventIntake.Capability
