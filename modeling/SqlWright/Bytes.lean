/-! Byte lists: big-endian numbers, UTF-8 text and hexadecimal digits. -/
namespace SqlWright

/-- The lowest bytes of a natural number, most significant first. -/
def bigEndian (width n : Nat) : List UInt8 :=
  (List.range width).map fun index => UInt8.ofNat (n / Nat.pow 256 (width - 1 - index))

/-- The number whose bytes these are, most significant first. -/
def naturalOfBytes (bytes : List UInt8) : Nat :=
  bytes.foldl (fun value byte => value * 256 + byte.toNat) 0

def bytesOfText (text : String) : List UInt8 := text.toUTF8.data.toList

/-- The text whose UTF-8 form these bytes are, if they are well formed. -/
def textOfBytes? (bytes : List UInt8) : Option String := String.fromUTF8? ⟨bytes.toArray⟩

/-- Bytes as lower-case hexadecimal digits. -/
def hexText (bytes : List UInt8) : String :=
  String.ofList (bytes.flatMap fun byte =>
    [Nat.digitChar (byte.toNat / 16), Nat.digitChar (byte.toNat % 16)])

end SqlWright
