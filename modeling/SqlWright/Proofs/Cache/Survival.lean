import SqlWright.Proofs.Cache.Key
/-! What of a scalar survives in JSON text, and so in a cache key and in a kept result. Every
scalar does but a double that is no finite number, of which null is left. -/
namespace SqlWright

open Record (memberValue)

/-- The digits that are written for a double are read as the double. Of the other scalars
nothing is rounded. -/
def Value.DigitsReadBack : Value → Prop
  | .float x => ∀ number, Json.Number.ofDouble? x = some number → number.double? = some x
  | _ => True

section Scalars

variable {value other : Value}

/-- Nothing is asked of a double that is written without digits. -/
theorem Value.digitsReadBack_of_infinite {x : Double} (infinite : x.isFinite = false) :
    (Value.float x).DigitsReadBack := by
  intro number written
  rw [← Json.Number.isSome_ofDouble?, written] at infinite
  cases infinite

/-- A scalar is left as it is, or it is a double with no digits and null is left. -/
theorem Record.memberValue_cases (value : Value) :
    value.IsFinite ∧ memberValue value = value ∨
      ∃ x, value = .float x ∧ x.isFinite = false ∧ memberValue value = .null := by
  cases value with
  | float x =>
    cases finite : x.isFinite with
    | true => exact .inl ⟨finite, if_pos finite⟩
    | false => exact .inr ⟨x, rfl, finite, by simp [memberValue, finite]⟩
  | _ => exact .inl ⟨trivial, rfl⟩

theorem Record.isFinite_memberValue (value : Value) : (memberValue value).IsFinite := by
  rcases Record.memberValue_cases value with ⟨finite, same⟩ | ⟨_, _, _, null⟩
  · rwa [same]
  · rw [null]
    trivial

theorem Record.memberValue_eq_self_iff : memberValue value = value ↔ value.IsFinite := by
  constructor
  · intro same
    exact same ▸ Record.isFinite_memberValue value
  · intro finite
    rcases Record.memberValue_cases value with ⟨_, same⟩ | ⟨x, rfl, infinite, _⟩
    · exact same
    · exact absurd (infinite.symm.trans finite) Bool.false_ne_true

theorem Value.DigitsReadBack.memberValue (digits : value.DigitsReadBack) :
    (memberValue value).DigitsReadBack := by
  rcases Record.memberValue_cases value with ⟨_, same⟩ | ⟨_, _, _, null⟩
  · rwa [same]
  · rw [null]
    trivial

/-- The digits of a finite double have a point or an exponent, so no integer is read in
them. -/
theorem Value.DigitsReadBack.readsBack (digits : value.DigitsReadBack) (finite : value.IsFinite) :
    value.ReadsBack := by
  cases value with
  | float x =>
    obtain ⟨number, written, tree, noInteger⟩ := Json.treeOf_float finite
    refine ⟨finite, ?_⟩
    rw [Json.readValue, (Json.reads_value (.float x)).parse, Option.bind_some, tree]
    simp [Json.Tree.value?, Json.Number.value?, noInteger, digits number written]
  | _ => trivial

namespace Json

/-- A scalar and what is left of it have one text. -/
theorem ofValue_memberValue (value : Value) : ofValue (memberValue value) = ofValue value := by
  rcases Record.memberValue_cases value with ⟨_, same⟩ | ⟨x, rfl, infinite, null⟩
  · rw [same]
  · have noDigits : Number.ofDouble? x = none := by
      rw [← Option.not_isSome_iff_eq_none, Number.isSome_ofDouble?]
      exact Bool.eq_false_iff.1 infinite
    rw [null]
    show "null" = NumberLayout.json.write x
    rw [← String.toList_inj, Number.toList_write, noDigits]
    rfl

theorem ofValue_eq_iff : ofValue value = ofValue other ↔ memberValue value = memberValue other := by
  rw [← ofValue_memberValue value, ← ofValue_memberValue other]
  exact ⟨ofValue_inj (Record.isFinite_memberValue value) (Record.isFinite_memberValue other),
    congrArg ofValue⟩

theorem readValue_ofValue (digits : value.DigitsReadBack) :
    readValue (ofValue value) = .ok (memberValue value) := by
  have readsBack := digits.memberValue.readsBack (Record.isFinite_memberValue value)
  rw [← ofValue_memberValue, readValue, (reads_value _).parse, Option.bind_some,
    value?_treeOf readsBack]

end Json

end Scalars

section Results

/-- What is left of a result in JSON text. -/
def ResultSet.memberValues (result : ResultSet) : ResultSet :=
  { result with rows := result.rows.map (List.map memberValue) }

variable {result : ResultSet}

private theorem map_eq_self_iff {Item : Type} {change : Item → Item} {items : List Item} :
    items.map change = items ↔ ∀ item ∈ items, change item = item := by
  have pointwise : items.map change = items.map id ↔ ∀ item ∈ items, change item = id item :=
    List.map_inj_left
  rwa [List.map_id] at pointwise

theorem ResultSet.memberValues_eq_self_iff :
    result.memberValues = result ↔ ∀ row ∈ result.rows, ∀ value ∈ row, value.IsFinite := by
  have rows : result.memberValues = result ↔
      result.rows.map (List.map memberValue) = result.rows :=
    ⟨congrArg ResultSet.rows, fun same => by rw [memberValues, same]⟩
  simp only [rows, map_eq_self_iff, Record.memberValue_eq_self_iff]

namespace Json

theorem ofResult_memberValues (result : ResultSet) :
    ofResult result.memberValues = ofResult result := by
  simp only [ofResult, ResultSet.memberValues, List.map_map, Function.comp_def, ofValue_memberValue]

theorem readResult_ofResult_memberValues
    (digits : ∀ row ∈ result.rows, ∀ value ∈ row, value.DigitsReadBack) :
    readResult (ofResult result) = .ok result.memberValues := by
  rw [← ofResult_memberValues]
  refine readResult_ofResult fun row member value inRow => ?_
  obtain ⟨whole, wholeMember, rfl⟩ := List.mem_map.1 member
  obtain ⟨entry, inWhole, rfl⟩ := List.mem_map.1 inRow
  exact (digits whole wholeMember entry inWhole).memberValue.readsBack
    (Record.isFinite_memberValue entry)

end Json

end Results

section Keys

variable {entries : List (String × Value)} {first second : Rendered}

namespace Table

/-- Entries with what is left of their scalars in JSON text. -/
def memberValues (entries : List (String × Value)) : List (String × Value) :=
  entries.map fun entry => (entry.1, memberValue entry.2)

theorem valueIn_memberValues :
    valueIn (memberValues entries) = fun name => (valueIn entries name).map memberValue := by
  funext name
  induction entries with
  | nil => rfl
  | cons entry rest ih =>
    have step : memberValues (entry :: rest) =
        (entry.1, memberValue entry.2) :: memberValues rest := rfl
    rw [step, valueIn_cons, valueIn_cons, ih]
    split <;> rfl

theorem Ascending.memberValues (ascending : Ascending entries) :
    Ascending (Table.memberValues entries) :=
  List.pairwise_map.2 ascending

end Table

theorem Json.memberTexts_eq_iff {others : List (String × Value)} :
    memberTexts entries = memberTexts others ↔
      Table.memberValues entries = Table.memberValues others := by
  simp only [memberTexts, Table.memberValues, ← List.forall₂_eq_eq_eq, List.forall₂_map_left_iff,
    List.forall₂_map_right_iff, Prod.mk.injEq, ofValue_eq_iff]

/-- Two queries are cached under one text exactly where they have one text and what is left
of the values of each name is the same. -/
theorem cachePreimage_eq_iff_memberValue : cachePreimage first = cachePreimage second ↔
    first.sql = second.sql ∧ ∀ name, (first.params.lastValueOf name).map memberValue =
      (second.params.lastValueOf name).map memberValue := by
  rw [cachePreimage_eq_iff, Json.ofTable_eq_iff, Json.memberTexts_eq_iff]
  refine and_congr_right fun _ => ?_
  have maps (table : Table) : Table.valueIn (Table.memberValues table.snapshot) =
      fun name => (table.lastValueOf name).map memberValue := by
    rw [Table.valueIn_memberValues, Table.valueIn_snapshot_eq_lastValueOf]
  constructor
  · intro same name
    have sameMap := congrFun (congrArg Table.valueIn same) name
    rwa [maps, maps] at sameMap
  · intro same
    refine (Table.ascending_snapshot _).memberValues.eq_of_valueIn_eq
      (Table.ascending_snapshot _).memberValues ?_
    rw [maps, maps]
    exact funext same

end Keys

/-- A scalar is read back from its JSON text, and a result from its, exactly where it has no
infinities and nothing that is no number in it. Two queries are cached under one text exactly
where, names by names, their values are equal but for such ones, so different finite values
of a name are told apart. -/
theorem survives_json_iff (value : Value) (first second : Rendered) (result : ResultSet)
    (digits : value.DigitsReadBack)
    (rowDigits : ∀ row ∈ result.rows, ∀ entry ∈ row, entry.DigitsReadBack) :
    (Json.readValue (Json.ofValue value) = .ok value ↔ value.IsFinite) ∧
      (cachePreimage first = cachePreimage second ↔
        first.sql = second.sql ∧ ∀ name, (first.params.lastValueOf name).map memberValue =
          (second.params.lastValueOf name).map memberValue) ∧
      (∀ name own other, first.params.lastValueOf name = some own →
        second.params.lastValueOf name = some other → own.IsFinite → other.IsFinite →
        own ≠ other → cachePreimage first ≠ cachePreimage second) ∧
      (Json.readResult (Json.ofResult result) = .ok result ↔
        ∀ row ∈ result.rows, ∀ entry ∈ row, entry.IsFinite) := by
  refine ⟨?_, cachePreimage_eq_iff_memberValue, ?_, ?_⟩
  · rw [Json.readValue_ofValue digits, Except.ok.injEq, Record.memberValue_eq_self_iff]
  · intro name own other ownBound otherBound ownFinite otherFinite different same
    have left := (cachePreimage_eq_iff_memberValue.1 same).2 name
    rw [ownBound, otherBound, Option.map_some, Option.map_some, Option.some.injEq,
      Record.memberValue_eq_self_iff.2 ownFinite, Record.memberValue_eq_self_iff.2 otherFinite]
      at left
    exact different left
  · rw [Json.readResult_ofResult_memberValues rowDigits, Except.ok.injEq,
      ResultSet.memberValues_eq_self_iff]

/-- One and a half, next to an infinity that comes back as null. -/
theorem survives_json_iff_of_infinity :
    let half : Value := .float ⟨0x3FF8000000000000⟩
    let infinity : Value := .float (Double.infinity false)
    let result : ResultSet := { columns := ["x", "y"], rows := [[half, infinity]] }
    (half.DigitsReadBack ∧ ∀ row ∈ result.rows, ∀ entry ∈ row, entry.DigitsReadBack) ∧
      Json.readValue (Json.ofValue half) = .ok half ∧
      Json.readResult (Json.ofResult result) ≠ .ok result := by
  intro half infinity result
  have halfDigits : half.DigitsReadBack := by
    intro number written
    have spelled :
        Json.Number.ofDouble? ⟨0x3FF8000000000000⟩ = some ⟨false, ['1'], ['5'], none⟩ := by
      decide +kernel
    obtain rfl := Option.some.inj (spelled.symm.trans written)
    decide +kernel
  have rowDigits : ∀ row ∈ result.rows, ∀ entry ∈ row, entry.DigitsReadBack := by
    intro row member entry inRow
    obtain rfl := List.mem_singleton.1 member
    rcases List.mem_pair.1 inRow with rfl | rfl
    · exact halfDigits
    · exact Value.digitsReadBack_of_infinite (by decide)
  obtain ⟨survives, -, -, resultSurvives⟩ := survives_json_iff half ⟨"SELECT 1", {}⟩
    ⟨"SELECT 1", {}⟩ result halfDigits rowDigits
  have halfFinite : half.IsFinite := show Double.isFinite _ = true by decide
  refine ⟨⟨halfDigits, rowDigits⟩, survives.2 halfFinite, fun same => ?_⟩
  have finite : (Double.infinity false).isFinite = true :=
    resultSurvives.1 same [half, infinity] (List.mem_singleton_self _) infinity (by simp)
  revert finite
  decide

/-- An infinity is read back as null, also in a result, and null and a value that is no
number have one cache key. -/
theorem infinity_read_as_null :
    let infinity : Value := .float (Double.infinity false)
    let notANumber : Value := .float (Double.quiet false)
    Json.readValue (Json.ofValue infinity) = .ok .null ∧
      cachePreimage ⟨"SELECT :x", ⟨[(":x", notANumber)], 0⟩⟩ =
        cachePreimage ⟨"SELECT :x", ⟨[(":x", .null)], 0⟩⟩ ∧
      Json.readResult (Json.ofResult { columns := ["x"], rows := [[infinity]] }) =
        .ok { columns := ["x"], rows := [[.null]] } := by
  intro infinity notANumber
  have digits : infinity.DigitsReadBack := Value.digitsReadBack_of_infinite (by decide)
  refine ⟨Json.readValue_ofValue digits, by decide +kernel, ?_⟩
  refine Json.readResult_ofResult_memberValues fun row member entry inRow => ?_
  obtain rfl := List.mem_singleton.1 member
  obtain rfl := List.mem_singleton.1 inRow
  exact digits

end SqlWright
