import SqlWright.Fragment
/-! Generated placeholder names: they differ from each other and from every name that a
caller may bind. -/
namespace SqlWright.Placeholder

theorem toList_generated (index : Nat) :
    (generated index).toList = ':' :: 'p' :: Nat.toDigits 10 index := by
  simp [generated]

theorem generated_inj {first second : Nat} :
    generated first = generated second ↔ first = second := by
  constructor
  · intro same
    have digits : Nat.toDigits 10 first = Nat.toDigits 10 second := by
      simpa [toList_generated] using congrArg String.toList same
    calc first = Nat.ofDigitChars 10 (Nat.toDigits 10 first) 0 :=
          Nat.ofDigitChars_ten_toDigits.symm
      _ = Nat.ofDigitChars 10 (Nat.toDigits 10 second) 0 := by rw [digits]
      _ = second := Nat.ofDigitChars_ten_toDigits
  · exact congrArg generated

theorem isDigit_toDigits (index : Nat) : (Nat.toDigits 10 index).all Char.isDigit = true := by
  apply List.all_eq_true.mpr
  intro digit member
  exact Nat.isDigit_of_mem_toDigits (by decide) (by decide) member

theorem ne_of_mem_toString {n : Nat} {c other : Char} (member : c ∈ (toString n).toList)
    (noDigit : other.isDigit = false) : c ≠ other := by
  rintro rfl
  rw [Nat.toString_eq_ofList_toDigits, String.toList_ofList] at member
  rw [List.all_eq_true.mp (isDigit_toDigits n) c member] at noDigit
  cases noDigit

/-- A generated name without its colon. -/
def serial (index : Nat) : String := "p" ++ toString index

theorem generated_eq (index : Nat) : generated index = ":" ++ serial index := by
  apply String.toList_injective
  simp [toList_generated, serial]

theorem serial_inj {first second : Nat} : serial first = serial second ↔ first = second := by
  rw [← generated_inj, generated_eq, generated_eq]
  exact ⟨congrArg (":" ++ ·), fun same => by simpa using same⟩

theorem isReserved_serial (index : Nat) : isReserved (serial index) = true := by
  have digits := isDigit_toDigits index
  have nonempty : Nat.toDigits 10 index ≠ [] := Nat.toDigits_ne_nil
  simp only [isReserved, serial, String.toList_append, Nat.toString_eq_ofList_toDigits,
    String.toList_ofList]
  cases same : Nat.toDigits 10 index with
  | nil => exact absurd same nonempty
  | cons digit rest => simpa [same] using digits

theorem isGenerated_colon (bareName : String) :
    isGenerated (":" ++ bareName) = isReserved bareName := by
  simp [isGenerated]

theorem isGenerated_generated (index : Nat) : isGenerated (generated index) = true := by
  rw [generated_eq, isGenerated_colon, isReserved_serial]

theorem bare_colon (bareName : String) : bare (":" ++ bareName) = bareName := by
  simp [bare]

theorem bare_generated (index : Nat) : bare (generated index) = serial index := by
  rw [generated_eq, bare_colon]

/-- A name that a caller may bind is a colon before a name of another shape. -/
theorem isCallerName_iff {name : String} : isCallerName name = true ↔
    ∃ bareName, name = ":" ++ bareName ∧ bareName ≠ "" ∧ isReserved bareName = false := by
  constructor
  · intro allowed
    unfold isCallerName at allowed
    split at allowed
    · next rest spelled =>
      have parts : rest ≠ [] ∧ isReserved (String.ofList rest) = false := by
        simpa [List.isEmpty_iff] using allowed
      refine ⟨String.ofList rest, ?_, ?_, parts.2⟩
      · apply String.toList_injective
        simp [spelled]
      · intro empty
        exact parts.1 (by simpa using congrArg String.toList empty)
    · cases allowed
  · rintro ⟨bareName, rfl, nonempty, free⟩
    simpa [isCallerName, nonempty] using free

theorem isGenerated_of_isCallerName {name : String} (allowed : isCallerName name = true) :
    isGenerated name = false := by
  obtain ⟨bareName, rfl, _, free⟩ := isCallerName_iff.mp allowed
  rw [isGenerated_colon, free]

/-- Callers never bind a generated name. -/
theorem ne_generated_of_isCallerName {name : String} (allowed : isCallerName name = true)
    (index : Nat) : name ≠ generated index := by
  rintro rfl
  have spared := isGenerated_of_isCallerName allowed
  rw [isGenerated_generated] at spared
  cases spared

end SqlWright.Placeholder
