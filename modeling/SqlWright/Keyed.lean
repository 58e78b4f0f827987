/-! Ordered collections in which an item may carry a key. A new item replaces the first
one with its key in place; an item without a key is always appended. -/
namespace SqlWright.Keyed

variable {Item Key : Type} [DecidableEq Key]

/-- Put an item at the first position with this key, or at the end. -/
def putAt (keyOf : Item → Option Key) (key : Key) (item : Item) : List Item → List Item
  | [] => [item]
  | first :: rest =>
    if keyOf first = some key then item :: rest else first :: putAt keyOf key item rest

theorem mem_putAt {keyOf : Item → Option Key} {key : Key} {item entry : Item}
    {items : List Item} (member : entry ∈ putAt keyOf key item items) :
    entry = item ∨ entry ∈ items := by
  induction items with
  | nil => simpa [putAt] using member
  | cons first rest ih =>
    unfold putAt at member
    split at member
    · rcases List.mem_cons.1 member with same | inRest
      · exact .inl same
      · exact .inr (List.mem_cons_of_mem _ inRest)
    · rcases List.mem_cons.1 member with same | inRest
      · exact .inr (same ▸ List.mem_cons_self ..)
      · exact (ih inRest).imp id (List.mem_cons_of_mem _)

def put (keyOf : Item → Option Key) (items : List Item) (item : Item) : List Item :=
  match keyOf item with
  | none => items ++ [item]
  | some key => putAt keyOf key item items

/-- Put all items in order. -/
def putAll (keyOf : Item → Option Key) (items additions : List Item) : List Item :=
  additions.foldl (put keyOf) items

/-- Merge a whole collection into another; an empty one resets it. -/
def merge (keyOf : Item → Option Key) (items additions : List Item) : List Item :=
  if additions.isEmpty then [] else putAll keyOf items additions

end SqlWright.Keyed
