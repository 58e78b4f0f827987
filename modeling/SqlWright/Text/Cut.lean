/-! Cutting a text to a number of UTF-8 bytes. A text cannot be cut between the bytes of one
character, so the cut is moved back to a boundary between characters first. -/
namespace SqlWright

/-- Whether the byte at a position begins a character, or the text ends there. -/
def isBoundary (text : String) (position : Nat) : Bool :=
  String.Pos.Raw.isValid text ⟨position⟩

theorem isBoundary_iff {text : String} {position : Nat} :
    isBoundary text position = true ↔ String.Pos.Raw.IsValid text ⟨position⟩ :=
  String.Pos.Raw.isValid_eq_true_iff

theorem isBoundary_zero (text : String) : isBoundary text 0 = true :=
  isBoundary_iff.mpr String.Pos.Raw.isValid_zero

/-- Step back from a byte position until a boundary is reached. -/
def backToBoundary (text : String) : Nat → Nat
  | 0 => 0
  | position + 1 =>
    if isBoundary text (position + 1) then position + 1 else backToBoundary text position

theorem isBoundary_backToBoundary (text : String) (position : Nat) :
    isBoundary text (backToBoundary text position) = true := by
  induction position with
  | zero => exact isBoundary_zero text
  | succ position ih =>
    rw [backToBoundary]
    split
    · next boundary => exact boundary
    · exact ih

/-- The text before a byte position. There is none where the position is no boundary. -/
def beginning? (text : String) (position : Nat) : Option String :=
  if boundary : isBoundary text position then
    some (text.sliceTo (text.pos ⟨position⟩ (isBoundary_iff.mp boundary))).copy
  else none

theorem isSome_beginning? (text : String) (position : Nat) :
    (beginning? text position).isSome = isBoundary text position := by
  unfold beginning?
  split <;> simp [*]

/-- A text within a limit, or what stands before the cut and three points. -/
def truncate? (text : String) : Option Nat → Option String
  | none => some text
  | some limit =>
    if limit < text.utf8ByteSize then
      (beginning? text (backToBoundary text limit)).map (· ++ "...")
    else some text

theorem isSome_truncate? (text : String) (limit : Option Nat) :
    (truncate? text limit).isSome = true := by
  cases limit with
  | none => rfl
  | some limit =>
    rw [truncate?]
    split
    · rw [Option.isSome_map, isSome_beginning?, isBoundary_backToBoundary]
    · rfl

/-- A text within a limit, or its leading characters and three points. -/
def truncate (text : String) (limit : Option Nat) : String :=
  (truncate? text limit).get (isSome_truncate? text limit)

end SqlWright
