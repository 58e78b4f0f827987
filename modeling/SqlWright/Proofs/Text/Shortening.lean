import Mathlib.Order.Bounds.Basic
import SqlWright.Text.Cut
/-! A text over its limit is cut at the last boundary within it, wherever the limit falls, and what
stands before the cut is the longest beginning of whole characters that fits. -/
namespace SqlWright

/-- The longest beginning of a text, character by character, with at most so many UTF-8 bytes. -/
structure LongestWithin (limit : Nat) (text kept : String) : Prop where
  beginning : kept.toList <+: text.toList
  fits : kept.utf8ByteSize ≤ limit
  longest : ∀ other : String, other.toList <+: text.toList → other.utf8ByteSize ≤ limit →
    other.toList <+: kept.toList

/-- What a text may be shortened to, without a word on where it is cut. -/
inductive Shortened (text : String) : Option Nat → String → Prop where
  | unlimited : Shortened text none text
  | whole {limit : Nat} (fits : text.utf8ByteSize ≤ limit) : Shortened text (some limit) text
  | marked {limit : Nat} {kept : String} (exceeds : limit < text.utf8ByteSize)
      (longest : LongestWithin limit text kept) : Shortened text (some limit) (kept ++ "...")

variable {text kept first second : String} {limit position : Nat}

section Beginnings

theorem toList_prefix_iff : kept.toList <+: text.toList ↔ ∃ rest, text = kept ++ rest := by
  constructor
  · rintro ⟨rest, spelled⟩
    refine ⟨String.ofList rest, String.toList_inj.mp ?_⟩
    rw [String.toList_append, String.toList_ofList, spelled]
  · rintro ⟨rest, rfl⟩
    rw [String.toList_append]
    exact List.prefix_append ..

/-- Of two beginnings of a text the one with fewer bytes is a beginning of the other. -/
theorem prefix_of_utf8ByteSize_le (firstBegins : first.toList <+: text.toList)
    (secondBegins : second.toList <+: text.toList)
    (shorter : first.utf8ByteSize ≤ second.utf8ByteSize) : first.toList <+: second.toList := by
  rcases List.prefix_or_prefix_of_prefix firstBegins secondBegins with inside | around
  · exact inside
  · obtain ⟨more, rfl⟩ := toList_prefix_iff.mp around
    rw [String.utf8ByteSize_append] at shorter
    have none : more = "" := String.utf8ByteSize_eq_zero_iff.mp (by omega)
    simp [none]

/-- What can be cut off before a byte position is the beginning with so many bytes. -/
theorem beginning?_eq_some_iff : beginning? text position = some kept ↔
    kept.toList <+: text.toList ∧ kept.utf8ByteSize = position := by
  rw [toList_prefix_iff]
  unfold beginning?
  constructor
  · intro cut
    split at cut
    · next boundary =>
      cases cut
      have splits := (text.pos ⟨position⟩ (isBoundary_iff.mp boundary)).splits
      have sized := congrArg String.Pos.Raw.byteIdx splits.offset_eq_rawEndPos
      exact ⟨⟨_, splits.eq_append⟩, sized.symm⟩
    · cases cut
  · rintro ⟨⟨rest, whole⟩, rfl⟩
    have boundary : isBoundary text kept.utf8ByteSize = true :=
      isBoundary_iff.mpr (String.Pos.Raw.isValid_iff_exists_append.mpr ⟨kept, rest, whole, rfl⟩)
    have splits : (text.pos _ (isBoundary_iff.mp boundary)).Splits kept rest := ⟨whole, rfl⟩
    rw [dif_pos boundary, splits.copy_sliceTo_eq]

theorem isBoundary_utf8ByteSize (begins : kept.toList <+: text.toList) :
    isBoundary text kept.utf8ByteSize = true := by
  rw [← isSome_beginning?, beginning?_eq_some_iff.mpr ⟨begins, rfl⟩, Option.isSome_some]

end Beginnings

/-- Stepping back ends at the last boundary up to a position. -/
theorem isGreatest_backToBoundary (text : String) (position : Nat) :
    IsGreatest {place | isBoundary text place = true ∧ place ≤ position}
      (backToBoundary text position) := by
  induction position with
  | zero => exact ⟨⟨isBoundary_zero text, le_rfl⟩, fun _ inside => inside.2⟩
  | succ position ih =>
    rw [backToBoundary]
    split
    · next boundary => exact ⟨⟨boundary, le_rfl⟩, fun _ inside => inside.2⟩
    · next between =>
      -- The position itself is no boundary, so none up to it is passed over.
      refine ⟨⟨ih.1.1, ih.1.2.trans (Nat.le_succ _)⟩, fun place inside => ih.2 ⟨inside.1, ?_⟩⟩
      have other : place ≠ position + 1 := fun same => between (same ▸ inside.1)
      have := inside.2
      omega

namespace LongestWithin

theorem unique (firstLongest : LongestWithin limit text first)
    (secondLongest : LongestWithin limit text second) : first = second := by
  have inside := secondLongest.longest first firstLongest.beginning firstLongest.fits
  have around := firstLongest.longest second secondLongest.beginning secondLongest.fits
  exact String.toList_inj.mp (inside.eq_of_length (le_antisymm inside.length_le around.length_le))

theorem of_beginning? (cut : beginning? text (backToBoundary text limit) = some kept) :
    LongestWithin limit text kept := by
  obtain ⟨⟨-, within⟩, greatest⟩ := isGreatest_backToBoundary text limit
  obtain ⟨begins, sized⟩ := beginning?_eq_some_iff.mp cut
  refine ⟨begins, sized.trans_le within, fun other otherBegins otherFits => ?_⟩
  have before := greatest ⟨isBoundary_utf8ByteSize otherBegins, otherFits⟩
  exact prefix_of_utf8ByteSize_le otherBegins begins (before.trans_eq sized.symm)

end LongestWithin

theorem exists_beginning?_backToBoundary (text : String) (position : Nat) :
    ∃ kept, beginning? text (backToBoundary text position) = some kept := by
  rw [← Option.isSome_iff_exists, isSome_beginning?]
  exact isBoundary_backToBoundary text position

theorem beginning?_backToBoundary_eq_some_iff :
    beginning? text (backToBoundary text limit) = some kept ↔ LongestWithin limit text kept := by
  refine ⟨.of_beginning?, fun longest => ?_⟩
  obtain ⟨cut, found⟩ := exists_beginning?_backToBoundary text limit
  rw [found, (LongestWithin.of_beginning? found).unique longest]

theorem truncate?_eq_some_iff {limit : Option Nat} {reported : String} :
    truncate? text limit = some reported ↔ Shortened text limit reported := by
  constructor
  · intro shortened
    cases limit with
    | none =>
      cases shortened
      exact .unlimited
    | some limit =>
      rw [truncate?] at shortened
      split at shortened
      · next exceeds =>
        obtain ⟨kept, cut, rfl⟩ := Option.map_eq_some_iff.mp shortened
        exact .marked exceeds (beginning?_backToBoundary_eq_some_iff.mp cut)
      · next fits =>
        cases shortened
        exact .whole (not_lt.mp fits)
  · intro shortened
    cases shortened with
    | unlimited => rfl
    | whole fits => rw [truncate?, if_neg (not_lt.mpr fits)]
    | marked exceeds longest =>
      rw [truncate?, if_pos exceeds, beginning?_backToBoundary_eq_some_iff.mpr longest]
      rfl

theorem truncate?_eq_some_truncate (text : String) (limit : Option Nat) :
    truncate? text limit = some (truncate text limit) :=
  (Option.some_get _).symm

/-- Shortening never fails: from any position the steps back end at the last boundary up to it, and
there the text can be cut. A text without a limit or within it is kept, and any other becomes its
longest beginning of whole characters that fits, followed by three points. -/
theorem truncate_keeps_longest_beginning (text : String) (limit : Option Nat) :
    (∀ position, IsGreatest {place | isBoundary text place = true ∧ place ≤ position}
        (backToBoundary text position) ∧
      ∃ kept, beginning? text (backToBoundary text position) = some kept) ∧
      truncate? text limit = some (truncate text limit) ∧
      ∀ reported, Shortened text limit reported ↔ reported = truncate text limit := by
  refine ⟨fun position => ⟨isGreatest_backToBoundary text position,
    exists_beginning?_backToBoundary text position⟩, truncate?_eq_some_truncate text limit,
    fun reported => ?_⟩
  rw [← truncate?_eq_some_iff, truncate?_eq_some_truncate, Option.some_inj, eq_comm]

/-- A limit within the first character leaves the three points alone. -/
example : truncate "é" (some 1) = "..." ∧ truncate "aé" (some 2) = "a..." := by decide

end SqlWright
