import SqlWright.Bytes
/-! What is written as bytes is read back from them: a number from its big-endian form, up to
the bytes it was cut to, and a text from its UTF-8 form. -/
namespace SqlWright

@[simp] theorem length_bigEndian (width n : Nat) : (bigEndian width n).length = width := by
  simp [bigEndian]

theorem bigEndian_succ (width n : Nat) :
    bigEndian (width + 1) n = bigEndian width (n / 256) ++ [UInt8.ofNat n] := by
  have higher : ∀ index ∈ List.range width,
      UInt8.ofNat (n / Nat.pow 256 (width + 1 - 1 - index)) =
        UInt8.ofNat (n / 256 / Nat.pow 256 (width - 1 - index)) := by
    intro index below
    have shift : width + 1 - 1 - index = width - 1 - index + 1 := by
      rw [List.mem_range] at below
      omega
    rw [shift, Nat.div_div_eq_div_mul, Nat.mul_comm]
    rfl
  rw [bigEndian, List.range_succ, List.map_append, List.map_congr_left higher]
  simp [bigEndian]

theorem naturalOfBytes_append (bytes : List UInt8) (last : UInt8) :
    naturalOfBytes (bytes ++ [last]) = naturalOfBytes bytes * 256 + last.toNat := by
  simp [naturalOfBytes]

theorem naturalOfBytes_bigEndian (width n : Nat) :
    naturalOfBytes (bigEndian width n) = n % Nat.pow 256 width := by
  induction width generalizing n with
  | zero => simp [naturalOfBytes, bigEndian, Nat.mod_one]
  | succ width ih =>
    calc naturalOfBytes (bigEndian (width + 1) n)
        = n / 256 % Nat.pow 256 width * 256 + n % 256 := by
          rw [bigEndian_succ, naturalOfBytes_append, ih, UInt8.toNat_ofNat']
      _ = n % (256 * Nat.pow 256 width) := by
          rw [Nat.mod_mul, Nat.add_comm, Nat.mul_comm]
      _ = n % Nat.pow 256 (width + 1) := by
          rw [Nat.mul_comm]
          rfl

theorem textOfBytes?_bytesOfText (text : String) :
    textOfBytes? (bytesOfText text) = some text := by
  have same : (⟨(bytesOfText text).toArray⟩ : ByteArray) = text.toByteArray := by
    rw [bytesOfText, Array.toArray_toList, String.toUTF8_eq_toByteArray]
  rw [textOfBytes?, same, String.fromUTF8?, dif_pos text.isValidUTF8]
  rfl

end SqlWright
