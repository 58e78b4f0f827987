import SqlWright.Pagination
import SqlWright.Proofs.Json.Number
import Mathlib.Data.List.Basic
/-! What the pages of a result hold. The body of a LIMIT clause is read as an offset and a size, in
either spelling; the rows that it selects are those of exact arithmetic, since an offset that is
held at the greatest 64-bit number lies past the last row all the same. -/
namespace SqlWright

variable {Row : Type} {rows : List Row} {limit : Limit} {style : Style} {size page : UInt64}

/-- How many rows a LIMIT clause passes over, and how many it takes at most. -/
structure Bounds where
  offset : Nat
  size : Nat
  deriving DecidableEq

namespace Bounds

def slice (bounds : Bounds) (rows : List Row) : List Row :=
  (rows.drop bounds.offset).take bounds.size

/-- The number that some digits spell; nothing else may be among them. -/
def number? (digits : List Char) : Option Nat :=
  if digits ≠ [] ∧ digits.all Char.isDigit then some (naturalOfDigits digits) else none

/-- What a first number stands for, by what is behind it: a size; an offset, with a comma and the
size behind it; or a size, with OFFSET and the offset behind it. -/
def ofNumber? (first : Nat) (behind : List Char) : Option Bounds :=
  if behind = [] then some ⟨0, first⟩
  else if ", ".toList <+: behind then (number? (behind.drop 2)).map (⟨first, ·⟩)
  else if " OFFSET ".toList <+: behind then (number? (behind.drop 8)).map (⟨·, first⟩)
  else none

/-- Read the body of a LIMIT clause in whichever way it is spelled. -/
def ofBody? (body : String) : Option Bounds :=
  (number? (body.toList.takeWhile Char.isDigit)).bind fun first =>
    ofNumber? first (body.toList.dropWhile Char.isDigit)

private theorem number?_toDigits (n : Nat) : number? (Nat.toDigits 10 n) = some n := by
  have digits : (Nat.toDigits 10 n).all Char.isDigit = true :=
    List.all_eq_true.2 fun _ => Json.isDigit_of_mem_toDigits
  rw [number?, if_pos ⟨Nat.toDigits_ne_nil, digits⟩, Json.naturalOfDigits_toDigits]

/-- A number at the start of a body is read up to what stands behind it. -/
private theorem ofBody?_of_toList {body : String} {n : Nat} {behind : List Char}
    (spelled : body.toList = Nat.toDigits 10 n ++ behind) (ends : Json.NoDigitAhead behind) :
    ofBody? body = ofNumber? n behind := by
  have digits : ∀ c ∈ Nat.toDigits 10 n, c.isDigit = true :=
    fun _ => Json.isDigit_of_mem_toDigits
  rw [ofBody?, spelled, Json.takeWhile_isDigit_append digits ends,
    Json.dropWhile_isDigit_append digits ends, number?_toDigits, Option.bind_some]

theorem ofBody?_first (form : LimitForm) (size : UInt64) :
    ofBody? ((Window.first size).text form) = some ⟨0, size.toNat⟩ := by
  have spelled : ((Window.first size).text form).toList = Nat.toDigits 10 size.toNat ++ [] := by
    simp [Window.text]
  rw [ofBody?_of_toList spelled fun _ isHead => nomatch isHead]
  rfl

/-- Both spellings of a page are read alike. -/
theorem ofBody?_page (form : LimitForm) (size offset : UInt64) :
    ofBody? ((Window.page size offset).text form) = some ⟨offset.toNat, size.toNat⟩ := by
  cases form with
  | offsetComma =>
    have spelled : ((Window.page size offset).text .offsetComma).toList =
        Nat.toDigits 10 offset.toNat ++ (", ".toList ++ Nat.toDigits 10 size.toNat) := by
      simp [Window.text]
    have ends : Json.NoDigitAhead (", ".toList ++ Nat.toDigits 10 size.toNat) := by
      rintro c ⟨⟩
      rfl
    rw [ofBody?_of_toList spelled ends, ofNumber?, if_neg (by simp), if_pos (List.prefix_append ..)]
    exact congrArg (Option.map _) (number?_toDigits size.toNat)
  | offsetKeyword =>
    have spelled : ((Window.page size offset).text .offsetKeyword).toList =
        Nat.toDigits 10 size.toNat ++ (" OFFSET ".toList ++ Nat.toDigits 10 offset.toNat) := by
      simp [Window.text]
    have ends : Json.NoDigitAhead (" OFFSET ".toList ++ Nat.toDigits 10 offset.toNat) := by
      rintro c ⟨⟩
      rfl
    have other : ¬", ".toList <+: " OFFSET ".toList ++ Nat.toDigits 10 offset.toNat := by
      rintro ⟨_, same⟩
      cases same
    rw [ofBody?_of_toList spelled ends, ofNumber?, if_neg (by simp), if_neg other,
      if_pos (List.prefix_append ..)]
    exact congrArg (Option.map _) (number?_toDigits offset.toNat)

example : ofBody? "20, 10" = some ⟨20, 10⟩ ∧ ofBody? "10 OFFSET 20" = some ⟨20, 10⟩ := by
  decide

end Bounds

/-- The rows that a limit and a page select, by the body of their LIMIT clause. -/
def selectedRows? (limit : Limit) (page : Option UInt64) (style : Style) (rows : List Row) :
    Option (List Row) :=
  (paginate limit page style).bind fun body => (Bounds.ofBody? body).map (·.slice rows)

/-- How many rows a page has: the count, or the default size where no limit is given. -/
def Limit.pageSize? (style : Style) : Limit → Option UInt64
  | .count n => some n
  | .unset => some style.pageSize
  | .raw text => if text = "" then some style.pageSize else none

section Slices

theorem toNat_saturatingMul (a b : UInt64) :
    (saturatingMul a b).toNat = min (a.toNat * b.toNat) (UInt64.size - 1) := by
  have fits : min (a.toNat * b.toNat) (UInt64.size - 1) < UInt64.size := by
    have some : 0 < UInt64.size := by decide
    omega
  rw [saturatingMul, UInt64.toNat_ofNat_of_lt' fits]

/-- Where the product is held at the greatest number, both lie past the last row. -/
theorem drop_saturatingMul (few : rows.length < UInt64.size) (a b : UInt64) :
    rows.drop (saturatingMul a b).toNat = rows.drop (a.toNat * b.toNat) := by
  rw [toNat_saturatingMul]
  rcases Nat.le_total (a.toNat * b.toNat) (UInt64.size - 1) with exact | held
  · rw [Nat.min_eq_left exact]
  · rw [Nat.min_eq_right held, List.drop_of_length_le (by omega), List.drop_of_length_le (by omega)]

/-- A page holds the rows of exact arithmetic, in either spelling. -/
theorem selectedRows?_page (sized : limit.pageSize? style = some size)
    (few : rows.length < UInt64.size) (form : LimitForm) (page : UInt64) :
    selectedRows? limit (some page) { style with limitForm := form } rows =
      some ((rows.drop (size.toNat * page.toNat)).take size.toNat) := by
  have selected : Window.select limit (some page) style.pageSize =
        some (.page size (saturatingMul size page)) ∨
      Window.select limit (some page) style.pageSize =
        some (.page size (saturatingMul page size)) := by
    cases limit with
    | count n =>
      cases sized
      exact .inl rfl
    | unset =>
      cases sized
      exact .inr rfl
    | raw text =>
      rw [Limit.pageSize?] at sized
      split at sized
      · next empty =>
        cases sized
        simp [Window.select, empty]
      · cases sized
  rcases selected with selected | selected
  · simp only [selectedRows?, paginate, selected, Option.map_some, Option.bind_some,
      Bounds.ofBody?_page, Bounds.slice, drop_saturatingMul few]
  · simp only [selectedRows?, paginate, selected, Option.map_some, Option.bind_some,
      Bounds.ofBody?_page, Bounds.slice, drop_saturatingMul few, Nat.mul_comm]

theorem selectedRows?_count (style : Style) (rows : List Row) (size : UInt64) :
    selectedRows? (.count size) none style rows = some (rows.take size.toNat) := by
  have selected : Window.select (.count size) none style.pageSize = some (.first size) := rfl
  simp only [selectedRows?, paginate, selected, Option.map_some, Option.bind_some,
    Bounds.ofBody?_first, Bounds.slice, List.drop_zero]

/-- The first pages, one after the other, are the first rows. -/
theorem flatMap_slices (rows : List Row) (size count : Nat) :
    (List.range count).flatMap (fun page => (rows.drop (size * page)).take size) =
      rows.take (size * count) := by
  induction count with
  | zero => simp
  | succ count ih =>
    rw [List.range_succ, List.flatMap_append, ih, Nat.mul_succ, List.take_add]
    simp

private theorem position_of_mem_slice {numbered : Row × Nat} {offset size : Nat}
    (member : numbered ∈ (rows.zipIdx.drop offset).take size) :
    offset ≤ numbered.2 ∧ numbered.2 < offset + size := by
  obtain ⟨index, inside, rfl⟩ := List.mem_iff_getElem.1 member
  have early : index < size := by
    rw [List.length_take] at inside
    omega
  simp only [List.getElem_take, List.getElem_drop, List.getElem_zipIdx]
  omega

/-- No row, told by its position, is on two pages. -/
theorem disjoint_slices (rows : List Row) (size : Nat) {first second : Nat}
    (different : first ≠ second) :
    ((rows.zipIdx.drop (size * first)).take size).Disjoint
      ((rows.zipIdx.drop (size * second)).take size) := by
  intro numbered inFirst inSecond
  obtain ⟨fromFirst, belowFirst⟩ := position_of_mem_slice inFirst
  obtain ⟨fromSecond, belowSecond⟩ := position_of_mem_slice inSecond
  rw [← Nat.mul_succ] at belowFirst belowSecond
  rcases Nat.lt_or_gt_of_ne different with before | behind
  · have apart := Nat.mul_le_mul_left size (Nat.succ_le_of_lt before)
    omega
  · have apart := Nat.mul_le_mul_left size (Nat.succ_le_of_lt behind)
    omega

end Slices

/-- The pages of a result tile it. Whichever way the LIMIT clause is spelled, a page holds the rows
that exact arithmetic gives it. No row is on two pages, the pages in order make up all rows, and
from some page on there is none. A count without a page selects the first page. -/
theorem pages_tile (sized : limit.pageSize? style = some size) (positive : 0 < size)
    (few : rows.length < UInt64.size) :
    ∃ pages : UInt64 → List Row,
      (∀ form page, selectedRows? limit (some page) { style with limitForm := form } rows =
        some (pages page)) ∧
      (∀ page, pages page = (rows.drop (size.toNat * page.toNat)).take size.toNat) ∧
      (∀ form first second, first ≠ second → ∃ these those,
        selectedRows? limit (some first) { style with limitForm := form } rows.zipIdx =
            some these ∧
          selectedRows? limit (some second) { style with limitForm := form } rows.zipIdx =
            some those ∧ these.Disjoint those) ∧
      (∃ last : UInt64, (∀ page, last ≤ page → pages page = []) ∧
        (List.range last.toNat).flatMap (fun page => pages (.ofNat page)) = rows) ∧
      (limit = .count size → ∀ form,
        selectedRows? limit none { style with limitForm := form } rows = some (pages 0)) := by
  refine ⟨fun page => (rows.drop (size.toNat * page.toNat)).take size.toNat,
    selectedRows?_page sized few, fun _ => rfl, ?_, ⟨.ofNat rows.length, ?_, ?_⟩, ?_⟩
  · intro form first second different
    have fewToo : rows.zipIdx.length < UInt64.size := by rwa [List.length_zipIdx]
    exact ⟨_, _, selectedRows?_page sized fewToo form first,
      selectedRows?_page sized fewToo form second,
      disjoint_slices rows _ (mt UInt64.toNat_inj.1 different)⟩
  · intro page past
    rw [UInt64.le_iff_toNat_le, UInt64.toNat_ofNat_of_lt' few] at past
    have beyond : page.toNat ≤ size.toNat * page.toNat :=
      Nat.le_mul_of_pos_left _ (UInt64.lt_iff_toNat_lt.1 positive)
    simp only [List.drop_of_length_le (Nat.le_trans past beyond), List.take_nil]
  · have exact : ∀ page ∈ List.range rows.length,
        (rows.drop (size.toNat * (UInt64.ofNat page).toNat)).take size.toNat =
          (rows.drop (size.toNat * page)).take size.toNat := by
      intro page member
      rw [UInt64.toNat_ofNat_of_lt' (Nat.lt_trans (List.mem_range.1 member) few)]
    have all : rows.length ≤ size.toNat * rows.length :=
      Nat.le_mul_of_pos_left _ (UInt64.lt_iff_toNat_lt.1 positive)
    rw [UInt64.toNat_ofNat_of_lt' few, List.flatMap_congr exact, flatMap_slices,
      List.take_of_length_le all]
  · rintro rfl form
    rw [selectedRows?_count]
    simp

/-- Pages past the greatest 64-bit offset are empty, and not a repetition of the first ones. -/
theorem pages_tile_when_saturated :
    let limit := Limit.count 4294967296
    let style := Style.postgres
    let rows := ["a", "b"]
    limit.pageSize? style = some 4294967296 ∧ (0 : UInt64) < 4294967296 ∧
      rows.length < UInt64.size ∧
      paginate limit (some 4294967296) style =
        some "4294967296 OFFSET 18446744073709551615" ∧
      ∃ pages : UInt64 → List String,
        (∀ form page, selectedRows? limit (some page) { style with limitForm := form } rows =
          some (pages page)) ∧ pages 0 = ["a", "b"] ∧ pages 4294967296 = [] := by
  intro limit style rows
  have sized : limit.pageSize? style = some 4294967296 := rfl
  have positive : (0 : UInt64) < 4294967296 := by decide
  have few : rows.length < UInt64.size := by decide
  obtain ⟨pages, selects, holds, -⟩ := pages_tile sized positive few
  refine ⟨sized, positive, few, by decide, pages, selects, ?_, ?_⟩
  · rw [holds]
    rfl
  · rw [holds]
    exact List.take_eq_nil_of_eq_nil (List.drop_of_length_le (by decide))

end SqlWright
