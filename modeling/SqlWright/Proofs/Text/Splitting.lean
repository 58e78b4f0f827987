import Mathlib.Data.List.Infix
/-! A text that is put together from pieces is cut into these pieces again, if the separator begins
in none of them. -/
namespace SqlWright

open String.Slice.Pattern

/-- The parts of a text between the separators in it, which are searched from the left. -/
def cutAt (separator text : String) : List String :=
  (text.split separator).toList.map String.Slice.copy

/-- No separator begins in the piece, whatever stands behind it: from each place on, the two differ
before one of them is over. -/
def Avoids (separator piece : List Char) : Prop :=
  ∀ back, back <:+ piece → back ≠ [] → ¬ back <+: separator ∧ ¬ separator <+: back

namespace Avoids

variable {separator piece tail back : List Char}

instance : Decidable (Avoids separator piece) :=
  decidable_of_iff
    (∀ back ∈ piece.tails, back ≠ [] → ¬ back <+: separator ∧ ¬ separator <+: back)
    (forall_congr' fun _ => imp_congr_left (List.mem_tails ..))

theorem not_prefix (avoids : Avoids separator piece) (inside : back <:+ piece)
    (nonempty : back ≠ []) (behind : List Char) : ¬ separator <+: back ++ behind := by
  obtain ⟨shorter, longer⟩ := avoids back inside nonempty
  intro starts
  exact (List.prefix_or_prefix_of_prefix starts (List.prefix_append back behind)).elim longer
    shorter

/-- A piece without the first character of the separator. -/
theorem of_not_mem {first : Char} {others : List Char} (absent : first ∉ piece) :
    Avoids (first :: others) piece := by
  intro back inside nonempty
  cases back with
  | nil => exact absurd rfl nonempty
  | cons c rest =>
    have other : c ≠ first := fun same => absent (same ▸ inside.subset List.mem_cons_self)
    simp [List.cons_prefix_cons, other, other.symm]

theorem append (avoids : Avoids separator piece) (behind : Avoids separator tail) :
    Avoids separator (piece ++ tail) := by
  intro back inside nonempty
  rcases List.suffix_or_suffix_of_suffix inside (List.suffix_append piece tail) with late | early
  · exact behind back late nonempty
  · obtain ⟨front, rfl⟩ := early
    by_cases alone : front = []
    · subst alone
      exact behind tail (List.suffix_refl tail) nonempty
    · have own : front <:+ piece := by
        obtain ⟨before, whole⟩ := inside
        exact ⟨before, List.append_cancel_right (by simpa using whole)⟩
      refine ⟨fun shorter => ?_, avoids.not_prefix own alone tail⟩
      exact (avoids front own alone).1 ((List.prefix_append front tail).trans shorter)

end Avoids

section Cutting

variable {separator piece done behind : String} {text : String.Slice} {start stop : text.Pos}

/-- Nothing is found from the start of a piece up to its end. -/
theorem not_matchesAt_of_avoids (avoids : Avoids separator.toList piece.toList)
    (atStart : start.Splits done (piece ++ behind)) (atStop : stop.Splits (done ++ piece) behind)
    (place : text.Pos) (fromStart : start ≤ place) (beforeStop : place < stop) :
    ¬ Model.MatchesAt separator place := by
  rw [Model.ForwardStringSearcher.matchesAt_iff_splits]
  rintro ⟨left, right, split⟩
  obtain ⟨front, rfl, _⟩ := (atStart.le_iff_exists_eq_append split).mp fromStart
  obtain ⟨back, nonempty, whole, remaining⟩ := (split.lt_iff_exists_eq_append atStop).mp beforeStop
  have own : piece = front ++ back := by
    simpa [String.append_assoc] using whole
  have inside : back.toList <:+ piece.toList := by
    rw [own, String.toList_append]
    exact List.suffix_append _ _
  apply avoids.not_prefix inside (mt String.toList_eq_nil_iff.mp nonempty) behind.toList
  rw [← String.toList_append, ← remaining, String.toList_append]
  exact List.prefix_append _ _

theorem split_eq_of_avoids [Model.StrictPatternModel separator]
    (avoids : Avoids separator.toList piece.toList)
    (atStart : start.Splits done (piece ++ behind)) (atStop : stop.Splits (done ++ piece) behind) :
    ∃ ordered : start ≤ stop, Model.split separator start start (Std.le_refl start) =
      Model.split separator start stop ordered := by
  have ordered : start ≤ stop :=
    (atStart.le_iff_exists_eq_append atStop).mpr ⟨piece, rfl, rfl⟩
  exact ⟨ordered, Model.split_eq_of_not_matchesAt stop ordered
    (not_matchesAt_of_avoids avoids atStart atStop)⟩

theorem copy_subslice (atStart : start.Splits done (piece ++ behind))
    (atStop : stop.Splits (done ++ piece) behind) (ordered : start ≤ stop) :
    (text.subslice start stop ordered).toSlice.copy = piece := by
  obtain ⟨_, spelled⟩ :=
    String.Slice.copy_slice_eq_iff_splits.mpr ⟨done, behind, atStart, atStop⟩
  exact spelled

/-- From the start of the first piece on, the parts that are found are the pieces. -/
theorem split_intercalate [Model.StrictPatternModel separator] {pieces : List String}
    (nonempty : pieces ≠ []) (avoid : ∀ piece ∈ pieces, Avoids separator.toList piece.toList)
    (atStart : start.Splits done (separator.intercalate pieces)) :
    (Model.split separator start start (Std.le_refl start)).map (fun part => part.toSlice.copy) =
      pieces := by
  induction pieces generalizing start done with
  | nil => exact absurd rfl nonempty
  | cons first rest ih =>
    obtain ⟨avoidsFirst, avoidRest⟩ := List.forall_mem_cons.mp avoid
    by_cases last : rest = []
    · subst last
      have atFirst : start.Splits done (first ++ "") := by simpa using atStart
      have atStop : text.endPos.Splits (done ++ first) "" := by
        have whole := atFirst.splits_rotateRight
        rwa [whole.eq_endPos_iff.mpr rfl] at whole
      obtain ⟨ordered, same⟩ := split_eq_of_avoids avoidsFirst atFirst atStop
      rw [same, Model.split_endPos, List.map_singleton, copy_subslice atFirst atStop]
    · rw [String.intercalate_cons_of_ne_nil last, String.append_assoc] at atStart
      have atStop := atStart.splits_rotateRight
      have atNext := atStop.splits_rotateRight
      obtain ⟨ordered, same⟩ := split_eq_of_avoids avoidsFirst atStart atStop
      have found : Model.IsLongestMatchAt separator atStart.rotateRight atStop.rotateRight :=
        Model.ForwardStringSearcher.isLongestMatchAt_iff_splits.mpr ⟨_, _, atStop, atNext⟩
      rw [same, Model.split_eq_of_isLongestMatchAt found, List.map_cons,
        copy_subslice atStart atStop, ih last avoidRest atNext]

end Cutting

/-- Pieces that are joined with a separator are found again. Without any the text is empty, and
that is one empty part. -/
theorem cutAt_intercalate {separator : String} (visible : separator ≠ "") {pieces : List String}
    (avoid : ∀ piece ∈ pieces, Avoids separator.toList piece.toList) :
    cutAt separator (separator.intercalate pieces) = if pieces = [] then [""] else pieces := by
  have := Model.ForwardStringSearcher.strictPatternModel visible
  have := Model.ForwardStringSearcher.lawfulToForwardSearcherModel visible
  have cut (pieces : List String) (some : pieces ≠ [])
      (avoid : ∀ piece ∈ pieces, Avoids separator.toList piece.toList) :
      cutAt separator (separator.intercalate pieces) = pieces := by
    have atStart := String.Slice.splits_startPos (separator.intercalate pieces).toSlice
    rw [String.copy_toSlice] at atStart
    rw [cutAt, String.split_eq_split_toSlice, String.Slice.toList_split_eq_splitToSubslice,
      toList_splitToSubslice_eq_modelSplit, List.map_map]
    exact split_intercalate some avoid atStart
  split
  · next none =>
    subst none
    have alone := cut [""] (List.cons_ne_nil _ _) (by simp [Avoids])
    simpa using alone
  · next some => exact cut pieces some avoid

end SqlWright
