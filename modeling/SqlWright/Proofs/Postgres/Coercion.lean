import SqlWright.Postgres.Wire
import SqlWright.Proofs.Bytes
import SqlWright.Proofs.Number.Numeral
/-! Binding a scalar and reading it back. `Coerces` says what a column of each type makes of each
scalar, `Unfit` which scalars it does not take. A scalar that is taken is written as bytes that
read as what it was coerced to, and binding fails for the others: no integer is truncated or
wrapped on the way. -/
namespace SqlWright.Postgres

/-- The integers with a two's complement form of so many bytes. -/
def Fits (width : Nat) (n : Int) : Prop :=
  -(Nat.pow 2 (8 * width - 1) : Int) ≤ n ∧ n < (Nat.pow 2 (8 * width - 1) : Int)

instance (width : Nat) (n : Int) : Decidable (Fits width n) := inferInstanceAs (Decidable (_ ∧ _))

namespace ColumnType

/-- The bytes of an integer column. -/
def width? : ColumnType → Option Nat
  | .int2 => some 2
  | .int4 => some 4
  | .int8 => some 8
  | _ => none

def isTextual : ColumnType → Bool
  | .text | .varchar | .bpchar | .name | .unknown => true
  | _ => false

/-- The types whose columns keep what they take as it is, without rounding. -/
inductive Exact : ColumnType → Prop where
  | bool : Exact .bool
  | integer {type : ColumnType} {width : Nat} (wide : type.width? = some width) : Exact type
  | textual {type : ColumnType} (textual : type.isTextual = true) : Exact type

end ColumnType

/-- What a column of a type makes of a scalar that is bound to it. -/
inductive Coerces : ColumnType → Value → Value → Prop where
  | null {type : ColumnType} : Coerces type .null .null
  | boolAsBool {b : Bool} : Coerces .bool (.bool b) (.bool b)
  | intAsBool {n : Int64} : Coerces .bool (.int n) (.bool (decide (n ≠ 0)))
  | trueAsBool : Coerces .bool (.text "true") (.bool true)
  | falseAsBool : Coerces .bool (.text "false") (.bool false)
  | boolAsInt {type : ColumnType} {width : Nat} {b : Bool} (wide : type.width? = some width) :
      Coerces type (.bool b) (.int (if b then 1 else 0))
  | intAsInt {type : ColumnType} {width : Nat} {n : Int64} (wide : type.width? = some width)
      (fits : Fits width n.toInt) : Coerces type (.int n) (.int n)
  | textAsInt {type : ColumnType} {width : Nat} {s : String} {n : Int64}
      (wide : type.width? = some width) (spelled : Spells s.toList n.toInt)
      (fits : Fits width n.toInt) : Coerces type (.text s) (.int n)
  | boolAsText {type : ColumnType} {b : Bool} (textual : type.isTextual = true) :
      Coerces type (.bool b) (.text (if b then "1" else "0"))
  | intAsText {type : ColumnType} {n : Int64} (textual : type.isTextual = true) :
      Coerces type (.int n) (.text (toString n.toInt))
  | textAsText {type : ColumnType} {s : String} (textual : type.isTextual = true) :
      Coerces type (.text s) (.text s)

/-- The scalars that a column of a type does not take: integers beyond its width, given or
spelled, and texts that spell nothing for it. -/
inductive Unfit : ColumnType → Value → Prop where
  | int {type : ColumnType} {width : Nat} {n : Int64} (wide : type.width? = some width)
      (outside : ¬ Fits width n.toInt) : Unfit type (.int n)
  | numeral {type : ColumnType} {width : Nat} {s : String} {n : Int}
      (wide : type.width? = some width) (spelled : Spells s.toList n)
      (outside : ¬ Fits width n) : Unfit type (.text s)
  | notNumeral {type : ColumnType} {width : Nat} {s : String} (wide : type.width? = some width)
      (unspelled : ∀ n, ¬ Spells s.toList n) : Unfit type (.text s)
  | notBoolean {s : String} (notTrue : s ≠ "true") (notFalse : s ≠ "false") :
      Unfit .bool (.text s)

namespace ColumnType

variable {type : ColumnType} {width : Nat}

theorem ne_bool_of_width (wide : type.width? = some width) : type ≠ .bool := by
  rintro rfl
  cases wide

theorem ne_bool_of_textual (textual : type.isTextual = true) : type ≠ .bool := by
  rintro rfl
  cases textual

/-- An integer column has two, four or eight bytes. -/
theorem width_cases (wide : type.width? = some width) :
    type = .int2 ∧ width = 2 ∨ type = .int4 ∧ width = 4 ∨ type = .int8 ∧ width = 8 := by
  cases type <;> simp_all [width?]

theorem textual_cases (textual : type.isTextual = true) :
    type = .text ∨ type = .varchar ∨ type = .bpchar ∨ type = .name ∨ type = .unknown := by
  cases type <;> simp_all [isTextual]

theorem Exact.isSupported (exact : type.Exact) : type.isSupported = true := by
  cases exact with
  | bool => rfl
  | integer wide => obtain ⟨rfl, -⟩ | ⟨rfl, -⟩ | ⟨rfl, -⟩ := width_cases wide <;> rfl
  | textual textual => obtain rfl | rfl | rfl | rfl | rfl := textual_cases textual <;> rfl

end ColumnType

section Integers

variable {width : Nat} {n : Int} {s : String}

theorem mem_signed_iff_fits : n ∈ IntegerRange.signed (8 * width) ↔ Fits width n :=
  and_congr_right fun _ => Int.le_sub_one_iff

theorem fits_zero : Fits width 0 := by
  have positive : 0 < Nat.pow 2 (8 * width - 1) := Nat.pow_pos (by decide)
  constructor <;> omega

theorem length_encodeInteger : (encodeInteger width n).length = width := length_bigEndian _ _

/-- The bytes of a word hold twice as many numbers as have either sign. -/
theorem pow_width (positive : 0 < width) :
    Nat.pow 256 width = 2 * Nat.pow 2 (8 * width - 1) := by
  have bits : 8 * width = 8 * width - 1 + 1 := by omega
  calc Nat.pow 256 width
      = Nat.pow 2 (8 * width) := (Nat.pow_mul 2 8 width).symm
    _ = Nat.pow 2 (8 * width - 1 + 1) := by rw [← bits]
    _ = 2 * Nat.pow 2 (8 * width - 1) := Nat.pow_succ'

theorem decodeInteger_encodeInteger (positive : 0 < width) (fits : Fits width n) :
    decodeInteger (encodeInteger width n) = n := by
  obtain ⟨low, high⟩ := fits
  rw [decodeInteger, encodeInteger, naturalOfBytes_bigEndian, length_bigEndian,
    pow_width positive]
  generalize Nat.pow 2 (8 * width - 1) = side at low high ⊢
  rcases Int.lt_or_le n 0 with negative | natural
  · have residue : n % (2 * side : Nat) = n + (2 * side : Nat) := by
      rw [Int.emod_eq_add_self_emod, Int.emod_eq_of_lt (by omega) (by omega)]
    rw [residue, Nat.mod_eq_of_lt (by omega), if_neg (by omega)]
    omega
  · rw [Int.emod_eq_of_lt natural (by omega), Nat.mod_eq_of_lt (by omega), if_pos (by omega)]
    omega

theorem encodeFitting_of_fits (fits : Fits width n) :
    encodeFitting width n = .ok (encodeInteger width n) := by
  rw [encodeFitting, IntegerRange.check_of_mem (mem_signed_iff_fits.2 fits)]

theorem encodeFitting_of_not_fits (outside : ¬ Fits width n) :
    ∃ fault, encodeFitting width n = .error fault := by
  obtain ⟨fault, refused⟩ :=
    IntegerRange.exists_check_error (mt mem_signed_iff_fits.1 outside)
  exact ⟨.integer fault, by rw [encodeFitting, refused]⟩

theorem readInteger_signed_eq_ok_iff : readInteger (.signed (8 * width)) s = .ok n ↔
    Spells s.toList n ∧ Fits width n := by
  rw [readInteger_eq_ok_iff (mem_signed_iff_fits.2 fits_zero), mem_signed_iff_fits]

theorem encodeNumeral_of_spells (spelled : Spells s.toList n) (fits : Fits width n) :
    encodeNumeral width s = .ok (encodeInteger width n) := by
  rw [encodeNumeral, readInteger_signed_eq_ok_iff.2 ⟨spelled, fits⟩]

theorem encodeNumeral_of_not_fits (outside : ∀ n, Spells s.toList n → ¬ Fits width n) :
    ∃ fault, encodeNumeral width s = .error fault := by
  unfold encodeNumeral
  split
  · next read =>
    obtain ⟨spelled, fits⟩ := readInteger_signed_eq_ok_iff.1 read
    exact absurd fits (outside _ spelled)
  · exact ⟨_, rfl⟩

end Integers

section Columns

variable {type : ColumnType} {width : Nat} {n : Int} {s : String} {bytes : List UInt8}

theorem encodeInt_of_width (wide : type.width? = some width) :
    encodeInt type n = encodeFitting width n := by
  obtain ⟨rfl, rfl⟩ | ⟨rfl, rfl⟩ | ⟨rfl, rfl⟩ := ColumnType.width_cases wide <;> rfl

theorem encodeText_of_width (wide : type.width? = some width) :
    encodeText type s = encodeNumeral width s := by
  obtain ⟨rfl, rfl⟩ | ⟨rfl, rfl⟩ | ⟨rfl, rfl⟩ := ColumnType.width_cases wide <;> rfl

theorem decodeBytes?_of_width (wide : type.width? = some width) (length : bytes.length = width) :
    decodeBytes? type bytes = some (.int (Int64.ofInt (decodeInteger bytes))) := by
  obtain ⟨rfl, rfl⟩ | ⟨rfl, rfl⟩ | ⟨rfl, rfl⟩ := ColumnType.width_cases wide <;>
    exact if_pos length

theorem decodeBytes?_encodeInteger {n : Int64} (wide : type.width? = some width)
    (fits : Fits width n.toInt) :
    decodeBytes? type (encodeInteger width n.toInt) = some (.int n) := by
  have positive : 0 < width := by
    obtain ⟨-, rfl⟩ | ⟨-, rfl⟩ | ⟨-, rfl⟩ := ColumnType.width_cases wide <;> decide
  rw [decodeBytes?_of_width wide length_encodeInteger,
    decodeInteger_encodeInteger positive fits, Int64.ofInt_toInt]

/-- Each integer column holds both digits that stand for truth values, and none holds more than
the scalars do. -/
theorem side_of_width (wide : type.width? = some width) :
    1 < Nat.pow 2 (8 * width - 1) ∧ Nat.pow 2 (8 * width - 1) ≤ 9223372036854775808 := by
  obtain ⟨-, rfl⟩ | ⟨-, rfl⟩ | ⟨-, rfl⟩ := ColumnType.width_cases wide <;> decide

theorem toInt_ofInt_of_fits (wide : type.width? = some width) (fits : Fits width n) :
    (Int64.ofInt n).toInt = n := by
  have within := (side_of_width wide).2
  obtain ⟨low, high⟩ := fits
  exact Int64.toInt_ofInt_of_le (by omega) (by omega)

theorem fits_digit (b : Bool) (wide : type.width? = some width) :
    Fits width (if b then 1 else 0 : Int64).toInt := by
  have digit : (if b then 1 else 0 : Int64).toInt = if b then 1 else 0 := by cases b <;> rfl
  have above := (side_of_width wide).1
  rw [digit, Fits]
  split <;> omega

theorem encodeInt_of_textual (textual : type.isTextual = true) :
    encodeInt type n = .ok (bytesOfText (toString n)) := by
  obtain rfl | rfl | rfl | rfl | rfl := ColumnType.textual_cases textual <;> rfl

theorem encodeText_of_textual (textual : type.isTextual = true) :
    encodeText type s = .ok (bytesOfText s) := by
  obtain rfl | rfl | rfl | rfl | rfl := ColumnType.textual_cases textual <;> rfl

theorem decodeBytes?_bytesOfText (textual : type.isTextual = true) :
    decodeBytes? type (bytesOfText s) = some (.text s) := by
  have read : decodeBytes? type (bytesOfText s) = (textOfBytes? (bytesOfText s)).map .text := by
    obtain rfl | rfl | rfl | rfl | rfl := ColumnType.textual_cases textual <;> rfl
  rw [read, textOfBytes?_bytesOfText, Option.map_some]

end Columns

/-- Bound to a column of this type, the scalar is read back from it as the other one. -/
def ReadBackAs (type : ColumnType) (value read : Value) : Prop :=
  ∃ cell, encode type value = .ok cell ∧
    ∀ name index, decodeCell ⟨name, type⟩ index cell = .ok read

section Scalars

variable {type : ColumnType} {value read : Value}

theorem encode_eq_encodeValue (exact : type.Exact) : encode type value = encodeValue type value :=
  if_pos exact.isSupported

theorem ReadBackAs.of_bytes {bytes : List UInt8} (exact : type.Exact)
    (encoded : encodeValue type value = .ok (some bytes))
    (decoded : decodeBytes? type bytes = some read) : ReadBackAs type value read := by
  refine ⟨some bytes, (encode_eq_encodeValue exact).trans encoded, ?_⟩
  intro name index
  rw [decodeCell, if_pos exact.isSupported]
  simp only [decoded]

theorem ReadBackAs.null (exact : type.Exact) : ReadBackAs type .null .null :=
  ⟨none, encode_eq_encodeValue exact, fun _ _ => if_pos exact.isSupported⟩

/-- To a column of another type, a truth value is bound as the integer that stands for it. -/
theorem encodeValue_bool_of_ne {b : Bool} (other : type ≠ .bool) :
    encodeValue type (.bool b) = encodeValue type (.int (if b then 1 else 0)) := by
  rw [encodeValue, if_neg other, encodeValue]
  cases b <;> rfl

theorem encodeValue_int_of_fits {width : Nat} {n : Int64} (wide : type.width? = some width)
    (fits : Fits width n.toInt) :
    encodeValue type (.int n) = .ok (some (encodeInteger width n.toInt)) := by
  rw [encodeValue, encodeInt_of_width wide, encodeFitting_of_fits fits]
  rfl

theorem encodeValue_int_of_textual {n : Int64} (textual : type.isTextual = true) :
    encodeValue type (.int n) = .ok (some (bytesOfText (toString n.toInt))) := by
  rw [encodeValue, encodeInt_of_textual textual]
  rfl

theorem decodeBytes?_encodeBool (b : Bool) :
    decodeBytes? .bool (encodeBool b) = some (.bool b) := by
  cases b <;> rfl

theorem Coerces.readBackAs (exact : type.Exact) (coerced : Coerces type value read) :
    ReadBackAs type value read := by
  cases coerced with
  | null => exact .null exact
  | boolAsBool => exact .of_bytes exact rfl (decodeBytes?_encodeBool _)
  | @intAsBool n =>
    have nonzero : (n.toInt != 0) = decide (n ≠ 0) := by
      rw [Bool.eq_iff_iff, bne_iff_ne, decide_eq_true_iff, ← Int64.toInt_zero, ne_eq,
        Int64.toInt_inj]
    refine .of_bytes exact ?_ (decodeBytes?_encodeBool _)
    rw [← nonzero]
    rfl
  | trueAsBool => exact .of_bytes exact rfl (decodeBytes?_encodeBool true)
  | falseAsBool => exact .of_bytes exact rfl (decodeBytes?_encodeBool false)
  | @boolAsInt _ _ b wide =>
    have fits := fits_digit b wide
    refine .of_bytes exact ?_ (decodeBytes?_encodeInteger wide fits)
    rw [encodeValue_bool_of_ne (ColumnType.ne_bool_of_width wide),
      encodeValue_int_of_fits wide fits]
  | intAsInt wide fits =>
    exact .of_bytes exact (encodeValue_int_of_fits wide fits) (decodeBytes?_encodeInteger wide fits)
  | textAsInt wide spelled fits =>
    refine .of_bytes exact ?_ (decodeBytes?_encodeInteger wide fits)
    rw [encodeValue, encodeText_of_width wide, encodeNumeral_of_spells spelled fits]
    rfl
  | @boolAsText _ b textual =>
    have digit : toString (if b then 1 else 0 : Int64).toInt = if b then "1" else "0" := by
      cases b <;> rfl
    refine .of_bytes exact ?_ (decodeBytes?_bytesOfText textual)
    rw [encodeValue_bool_of_ne (ColumnType.ne_bool_of_textual textual),
      encodeValue_int_of_textual textual, digit]
  | intAsText textual =>
    exact .of_bytes exact (encodeValue_int_of_textual textual) (decodeBytes?_bytesOfText textual)
  | textAsText textual =>
    refine .of_bytes exact ?_ (decodeBytes?_bytesOfText textual)
    rw [encodeValue, encodeText_of_textual textual]
    rfl

theorem Unfit.refused (exact : type.Exact) (unfit : Unfit type value) :
    ∃ fault, encode type value = .error fault := by
  rw [encode_eq_encodeValue exact]
  cases unfit with
  | int wide outside =>
    obtain ⟨fault, refused⟩ := encodeFitting_of_not_fits outside
    exact ⟨fault, by rw [encodeValue, encodeInt_of_width wide, refused]; rfl⟩
  | numeral wide spelled outside =>
    obtain ⟨fault, refused⟩ := encodeNumeral_of_not_fits fun n other fits =>
      outside (spelled.unique other ▸ fits)
    exact ⟨fault, by rw [encodeValue, encodeText_of_width wide, refused]; rfl⟩
  | notNumeral wide unspelled =>
    obtain ⟨fault, refused⟩ := encodeNumeral_of_not_fits fun n spelled _ => unspelled n spelled
    exact ⟨fault, by rw [encodeValue, encodeText_of_width wide, refused]; rfl⟩
  | notBoolean notTrue notFalse =>
    exact ⟨.boolean, by rw [encodeValue, encodeText, if_neg notTrue, if_neg notFalse]; rfl⟩

/-- An exact column takes each scalar but the floating-point numbers, or it is unfit for it. -/
theorem coerces_or_unfit (exact : type.Exact) (unrounded : ∀ x, value ≠ .float x) :
    (∃ read, Coerces type value read) ∨ Unfit type value := by
  cases value with
  | null => exact .inl ⟨_, .null⟩
  | float x => exact absurd rfl (unrounded x)
  | bool b => cases exact with
    | bool => exact .inl ⟨_, .boolAsBool⟩
    | integer wide => exact .inl ⟨_, .boolAsInt wide⟩
    | textual textual => exact .inl ⟨_, .boolAsText textual⟩
  | int n => cases exact with
    | bool => exact .inl ⟨_, .intAsBool⟩
    | @integer _ width wide =>
      by_cases fits : Fits width n.toInt
      · exact .inl ⟨_, .intAsInt wide fits⟩
      · exact .inr (.int wide fits)
    | textual textual => exact .inl ⟨_, .intAsText textual⟩
  | text s => cases exact with
    | bool =>
      by_cases isTrue : s = "true"
      · exact .inl ⟨.bool true, by rw [isTrue]; exact .trueAsBool⟩
      · by_cases isFalse : s = "false"
        · exact .inl ⟨.bool false, by rw [isFalse]; exact .falseAsBool⟩
        · exact .inr (.notBoolean isTrue isFalse)
    | @integer _ width wide =>
      by_cases numeral : ∃ n, Spells s.toList n
      · obtain ⟨n, spelled⟩ := numeral
        by_cases fits : Fits width n
        · have stored := toInt_ofInt_of_fits wide fits
          exact .inl ⟨_, .textAsInt wide (stored.symm ▸ spelled) (stored.symm ▸ fits)⟩
        · exact .inr (.numeral wide spelled fits)
      · exact .inr (.notNumeral wide (not_exists.1 numeral))
    | textual textual => exact .inl ⟨_, .textAsText textual⟩

theorem coerces_of_encode {cell : Option (List UInt8)} (exact : type.Exact)
    (unrounded : ∀ x, value ≠ .float x) (encoded : encode type value = .ok cell) :
    ∃ read, Coerces type value read ∧
      ∀ name index, decodeCell ⟨name, type⟩ index cell = .ok read := by
  rcases coerces_or_unfit exact unrounded with ⟨read, coerced⟩ | unfit
  · obtain ⟨other, again, decoded⟩ := coerced.readBackAs exact
    obtain rfl : cell = other := Except.ok.inj (encoded.symm.trans again)
    exact ⟨read, coerced, decoded⟩
  · obtain ⟨fault, refused⟩ := unfit.refused exact
    cases encoded.symm.trans refused

theorem unfit_of_refused {fault : BindFault} (exact : type.Exact)
    (unrounded : ∀ x, value ≠ .float x) (refused : encode type value = .error fault) :
    Unfit type value := by
  rcases coerces_or_unfit exact unrounded with ⟨read, coerced⟩ | unfit
  · obtain ⟨cell, encoded, -⟩ := coerced.readBackAs exact
    cases encoded.symm.trans refused
  · exact unfit

end Scalars

/-- A scalar that is no floating-point number, bound to a column without rounding, is read back
as what the column makes of it, or it does not fit the column and binding fails. -/
theorem bound_then_read_iff_coerces {column : Column} {value : Value} (exact : column.type.Exact)
    (unrounded : ∀ x, value ≠ .float x) (index : Nat) :
    (∀ read, (∃ cell, encode column.type value = .ok cell ∧
        decodeCell column index cell = .ok read) ↔ Coerces column.type value read) ∧
      (∀ cell, encode column.type value = .ok cell →
        ∃ read, decodeCell column index cell = .ok read) ∧
      ((∃ fault, encode column.type value = .error fault) ↔ Unfit column.type value) := by
  refine ⟨fun read => ⟨?_, ?_⟩, ?_, ?_, Unfit.refused exact⟩
  · rintro ⟨cell, encoded, readFrom⟩
    obtain ⟨kept, coerced, decoded⟩ := coerces_of_encode exact unrounded encoded
    obtain rfl : kept = read := Except.ok.inj ((decoded column.name index).symm.trans readFrom)
    exact coerced
  · intro coerced
    obtain ⟨cell, encoded, decoded⟩ := coerced.readBackAs exact
    exact ⟨cell, encoded, decoded column.name index⟩
  · intro cell encoded
    obtain ⟨kept, -, decoded⟩ := coerces_of_encode exact unrounded encoded
    exact ⟨kept, decoded column.name index⟩
  · rintro ⟨fault, refused⟩
    exact unfit_of_refused exact unrounded refused

/-- The lowest integer of two bytes goes through as a text; the one below it is refused. -/
theorem bound_then_read_iff_coerces_at_lowest :
    (∃ cell, encode .int2 (.text "-32768") = .ok cell ∧
        decodeCell ⟨"delta", .int2⟩ 0 cell = .ok (.int (-32768))) ∧
      Unfit .int2 (.text "-32769") := by
  have exact : (Column.mk "delta" .int2).type.Exact := .integer rfl
  have spelled : Spells "-32768".toList (-32768) := by
    rw [String.toList_ofList]
    exact .minus (by decide) (List.all_eq_true.1 (by decide))
  refine ⟨((bound_then_read_iff_coerces exact (by simp) 0).1 _).2
    (.textAsInt rfl spelled (by decide)), ?_⟩
  exact (bound_then_read_iff_coerces exact (by simp) 0).2.2.1 ⟨.integer .tooSmall, by decide⟩

end SqlWright.Postgres
