import SqlWright.Proofs.Json.Reading
import SqlWright.Proofs.Placeholder.Snapshot
/-! What is written for scalars, tables and results is read back. Different scalars have different
texts, and a kept result is the result that was kept. -/
namespace SqlWright

/-- A scalar that JSON has a word for: every one but the doubles that are no finite numbers. -/
def Value.IsFinite : Value → Prop
  | .float x => x.isFinite = true
  | _ => True

/-- A scalar whose own JSON text is read as the scalar again. The nearest double to a written
number is not always found, so this is asked of doubles only. -/
def Value.ReadsBack : Value → Prop
  | .float x => x.isFinite = true ∧ Json.readValue (Json.ofValue (.float x)) = .ok (.float x)
  | _ => True

namespace Json

section Scalars

def Number.ofInt (n : Int) : Number := ⟨decide (n < 0), Nat.toDigits 10 n.natAbs, [], none⟩

theorem Number.text_ofInt (n : Int) : (toString n).toList = (Number.ofInt n).text := by
  rw [Int.toString_eq_repr, Int.repr_eq_if]
  by_cases negative : n < 0
  · have magnitude : (-n).toNat = n.natAbs := by omega
    simp [Number.ofInt, Number.text, negative, not_le.2 negative, magnitude, fractionText,
      exponentText]
  · have magnitude : n.toNat = n.natAbs := by omega
    simp [Number.ofInt, Number.text, negative, not_lt.1 negative, magnitude, fractionText,
      exponentText]

theorem Number.wellFormed_ofInt (n : Int) : (Number.ofInt n).WellFormed where
  digits := by
    intro c member
    rw [ofInt, List.append_nil] at member
    exact isDigit_of_mem_toDigits member
  leading := by
    by_cases zero : n = 0
    · exact .inl (by simp [ofInt, zero])
    · exact .inr (exists_toDigits_cons (Int.natAbs_ne_zero.2 zero))

theorem Number.integer?_ofInt (n : Int) : (Number.ofInt n).integer? = some n := by
  have integer : (Number.ofInt n).isInteger = true := rfl
  simp only [integer?, integer, if_true]
  simp only [ofInt, naturalOfDigits_toDigits, decide_eq_true_eq]
  congr 1
  split <;> omega

/-- The tree that a scalar's text is read as. -/
def treeOf : Value → Tree
  | .null => .null
  | .bool b => .bool b
  | .int n => .number (Number.ofInt n.toInt)
  | .float x => (Number.ofDouble? x).elim .null .number
  | .text s => .string (unitsOf s)

theorem reads_value (value : Value) : Reads (ofValue value) (treeOf value) := by
  cases value with
  | null => exact reads_null
  | bool b => cases b with
    | false => exact reads_false
    | true => exact reads_true
  | int n => exact reads_number (Number.text_ofInt n.toInt) (Number.wellFormed_ofInt n.toInt)
  | float x =>
    have text := Number.toList_write x
    show Reads (NumberLayout.json.write x) ((Number.ofDouble? x).elim .null .number)
    cases written : Number.ofDouble? x with
    | none =>
      rw [written, Option.elim_none] at text
      rw [String.toList_inj.1 (text.trans (by decide : _ = "null".toList))]
      exact reads_null
    | some number =>
      rw [written] at text
      exact reads_number text (Number.wellFormed_ofDouble? written)
  | text s => exact reads_text s

/-- A finite double is read as a number with a point or an exponent. -/
theorem treeOf_float {x : Double} (finite : x.isFinite = true) :
    ∃ number, Number.ofDouble? x = some number ∧ treeOf (.float x) = .number number ∧
      number.integer? = none := by
  rw [← Number.isSome_ofDouble?] at finite
  obtain ⟨number, written⟩ := Option.isSome_iff_exists.1 finite
  refine ⟨number, written, by rw [treeOf, written, Option.elim_some], ?_⟩
  simp [Number.integer?, Number.isInteger_ofDouble? written]

private theorem eq_float_of_treeOf_eq {x : Double} {value : Value} (finite : x.isFinite = true)
    (valueFinite : value.IsFinite) (same : treeOf value = treeOf (.float x)) :
    value = .float x := by
  obtain ⟨number, written, tree, noInteger⟩ := treeOf_float finite
  rw [tree] at same
  cases value with
  | int n =>
    cases same
    rw [Number.integer?_ofInt] at noInteger
    cases noInteger
  | float y =>
    obtain ⟨other, otherWritten, otherTree, -⟩ := treeOf_float valueFinite
    rw [otherTree] at same
    cases same
    rw [Number.ofDouble?_inj otherWritten written]
  | _ => cases same

theorem treeOf_inj {first second : Value} (firstFinite : first.IsFinite)
    (secondFinite : second.IsFinite) (same : treeOf first = treeOf second) : first = second := by
  cases first with
  | float x => exact (eq_float_of_treeOf_eq firstFinite secondFinite same.symm).symm
  | null => cases second with
    | float y => exact eq_float_of_treeOf_eq secondFinite firstFinite same
    | null => rfl
    | _ => cases same
  | bool b => cases second with
    | float y => exact eq_float_of_treeOf_eq secondFinite firstFinite same
    | bool c => cases same; rfl
    | _ => cases same
  | int n => cases second with
    | float y => exact eq_float_of_treeOf_eq secondFinite firstFinite same
    | int m =>
      have integers := congrArg Number.integer? (Tree.number.inj same)
      rw [Number.integer?_ofInt, Number.integer?_ofInt] at integers
      rw [Int64.toInt_inj.1 (Option.some.inj integers)]
    | _ => cases same
  | text s => cases second with
    | float y => exact eq_float_of_treeOf_eq secondFinite firstFinite same
    | text t =>
      have texts := congrArg textOfUnits (Tree.string.inj same)
      rw [textOfUnits_unitsOf, textOfUnits_unitsOf] at texts
      rw [Option.some.inj texts]
    | _ => cases same

/-- Finite scalars have texts of their own. -/
theorem ofValue_inj {first second : Value} (firstFinite : first.IsFinite)
    (secondFinite : second.IsFinite) (same : ofValue first = ofValue second) : first = second :=
  treeOf_inj firstFinite secondFinite
    ((reads_value first).unique (same ▸ reads_value second))

/-- A scalar is read back from inside any text as it is from its own. -/
theorem value?_treeOf {value : Value} (readsBack : value.ReadsBack) :
    (treeOf value).value? = some value := by
  cases value with
  | null => rfl
  | bool b => rfl
  | int n =>
    have bounds : Int64.minValue.toInt ≤ n.toInt ∧ n.toInt ≤ Int64.maxValue.toInt :=
      ⟨n.minValue_le_toInt, n.toInt_le⟩
    have noNegativeZero : ¬ ((Number.ofInt n.toInt).negative = true ∧ n.toInt = 0) := by
      rintro ⟨negative, zero⟩
      rw [Number.ofInt, zero] at negative
      cases negative
    simp only [treeOf, Tree.value?, Number.value?, Number.integer?_ofInt]
    rw [if_neg noNegativeZero, if_pos bounds, Int64.ofInt_toInt]
  | float x =>
    have read := readsBack.2
    rw [readValue, (reads_value (.float x)).parse, Option.bind_some] at read
    split at read
    · next value found =>
      cases read
      exact found
    · cases read
  | text s => simp [treeOf, Tree.value?, textOfUnits_unitsOf]

end Scalars

section Tables

variable {first second : Table}

theorem reads_table (table : Table) : Reads (ofTable table)
    (.object (table.snapshot.map fun entry => (unitsOf entry.1, treeOf entry.2))) := by
  refine reads_object ?_
  rw [List.forall₂_map_left_iff, List.forall₂_map_right_iff, List.forall₂_same]
  exact fun entry _ => ⟨rfl, reads_value entry.2⟩

/-- The text that a scalar was written with, from the tree that it is read as. -/
private def scalarText : Tree → String
  | .null => "null"
  | .bool true => "true"
  | .bool false => "false"
  | .number written => String.ofList written.text
  | .string units => (textOfUnits units).elim "" ofText
  | .array _ | .object _ => ""

private theorem scalarText_treeOf (value : Value) : scalarText (treeOf value) = ofValue value := by
  cases value with
  | null => rfl
  | bool b => cases b <;> rfl
  | int n =>
    show String.ofList (Number.ofInt n.toInt).text = toString n.toInt
    rw [← Number.text_ofInt, String.ofList_toList]
  | float x =>
    have text := Number.toList_write x
    show scalarText ((Number.ofDouble? x).elim .null .number) = NumberLayout.json.write x
    rw [← String.toList_inj, text]
    cases Number.ofDouble? x with
    | none => rfl
    | some number => exact String.toList_ofList
  | text s => simp [treeOf, scalarText, textOfUnits_unitsOf, ofValue]

/-- Entries with their scalars as texts. -/
def memberTexts (entries : List (String × Value)) : List (String × String) :=
  entries.map fun entry => (entry.1, ofValue entry.2)

/-- Objects are equal exactly where the sorted names and the texts under them are. -/
theorem ofTable_eq_iff :
    ofTable first = ofTable second ↔ memberTexts first.snapshot = memberTexts second.snapshot := by
  constructor
  · intro same
    have trees := Tree.object.inj ((reads_table first).unique (same ▸ reads_table second))
    rw [← List.forall₂_eq_eq_eq, List.forall₂_map_left_iff, List.forall₂_map_right_iff] at trees
    rw [memberTexts, memberTexts, ← List.forall₂_eq_eq_eq, List.forall₂_map_left_iff,
      List.forall₂_map_right_iff]
    refine trees.imp fun entry other sameTrees => ?_
    obtain ⟨names, values⟩ := Prod.mk.inj sameTrees
    have texts := congrArg textOfUnits names
    rw [textOfUnits_unitsOf, textOfUnits_unitsOf] at texts
    rw [Option.some.inj texts, ← scalarText_treeOf, values, scalarText_treeOf]
  · exact congrArg object

private theorem entries_of_memberTexts_eq {entries others : List (String × Value)}
    (finite : ∀ entry ∈ entries, entry.2.IsFinite)
    (othersFinite : ∀ entry ∈ others, entry.2.IsFinite)
    (texts : memberTexts entries = memberTexts others) : entries = others := by
  induction entries generalizing others with
  | nil => exact (List.map_eq_nil_iff.1 texts.symm).symm
  | cons entry rest ih =>
    cases others with
    | nil => cases texts
    | cons other others =>
      obtain ⟨heads, tails⟩ := List.cons.inj texts
      obtain ⟨names, values⟩ := Prod.mk.inj heads
      have value := ofValue_inj (finite entry List.mem_cons_self)
        (othersFinite other List.mem_cons_self) values
      rw [Prod.ext names value,
        ih (fun entry member => finite entry (List.mem_cons_of_mem _ member))
          (fun entry member => othersFinite entry (List.mem_cons_of_mem _ member)) tails]

/-- The text of a table of finite scalars gives back its sorted entries. -/
theorem snapshot_of_ofTable_eq (firstFinite : ∀ entry ∈ first.entries, entry.2.IsFinite)
    (secondFinite : ∀ entry ∈ second.entries, entry.2.IsFinite)
    (same : ofTable first = ofTable second) : first.snapshot = second.snapshot :=
  entries_of_memberTexts_eq
    (fun entry member => firstFinite entry (Table.mem_of_mem_snapshot member))
    (fun entry member => secondFinite entry (Table.mem_of_mem_snapshot member))
    (ofTable_eq_iff.1 same)

end Tables

section Results

variable {result : ResultSet}

private theorem reads_texts (texts : List String) :
    Reads (array (texts.map ofText)) (.array (texts.map fun text => .string (unitsOf text))) := by
  refine reads_array ?_
  rw [List.forall₂_map_left_iff, List.forall₂_map_right_iff, List.forall₂_same]
  exact fun text _ => reads_text text

private theorem reads_row (row : List Value) :
    Reads (array (row.map ofValue)) (.array (row.map treeOf)) := by
  refine reads_array ?_
  rw [List.forall₂_map_left_iff, List.forall₂_map_right_iff, List.forall₂_same]
  exact fun value _ => reads_value value

private theorem reads_rows (rows : List (List Value)) :
    Reads (array (rows.map fun row => array (row.map ofValue)))
      (.array (rows.map fun row => .array (row.map treeOf))) := by
  refine reads_array ?_
  rw [List.forall₂_map_left_iff, List.forall₂_map_right_iff, List.forall₂_same]
  exact fun row _ => reads_row row

private theorem reads_count (n : Nat) : Reads (toString n) (.number (Number.ofInt n)) := by
  refine reads_number ?_ (Number.wellFormed_ofInt n)
  rw [← Number.text_ofInt]
  rfl

def resultTree (result : ResultSet) : Tree :=
  .object
    [(unitsOf "columns", .array (result.columns.map fun text => .string (unitsOf text))),
     (unitsOf "rows", .array (result.rows.map fun row => .array (row.map treeOf))),
     (unitsOf "affected", .number (Number.ofInt result.affected.toNat))]

theorem reads_result (result : ResultSet) : Reads (ofResult result) (resultTree result) :=
  reads_object <|
    .cons ⟨rfl, reads_texts result.columns⟩ <|
    .cons ⟨rfl, reads_rows result.rows⟩ <|
    .cons ⟨rfl, reads_count result.affected.toNat⟩ .nil

private theorem mapM_map_of_inverse {Item Part : Type} {write : Item → Part}
    {read : Part → Option Item} {items : List Item}
    (inverse : ∀ item ∈ items, read (write item) = some item) :
    (items.map write).mapM read = some items := by
  induction items with
  | nil => rfl
  | cons first rest ih =>
    have others := ih fun item member => inverse item (List.mem_cons_of_mem _ member)
    rw [List.map_cons, List.mapM_cons, inverse first List.mem_cons_self, others]
    rfl

private theorem count?_ofInt (n : UInt64) :
    (Tree.number (Number.ofInt n.toNat)).count? = some n := by
  have bounded : (n.toNat : Int) < UInt64.size := by exact_mod_cast n.toNat_lt
  have accepted : ¬ (Number.ofInt n.toNat).negative = true ∧ (n.toNat : Int) < UInt64.size :=
    ⟨by simp [Number.ofInt], bounded⟩
  simp only [Tree.count?, Number.integer?_ofInt, if_pos accepted, Int.toNat_natCast,
    UInt64.ofNat_toNat]

private theorem result?_object (columns rows affected : Tree) :
    (Tree.object [(unitsOf "columns", columns), (unitsOf "rows", rows),
      (unitsOf "affected", affected)]).result? = resultOfParts columns rows affected := by
  simp only [Tree.result?, List.mapM_cons, List.mapM_nil, textOfUnits_unitsOf, Option.pure_def,
    Option.bind_eq_bind, Option.bind_some]
  rfl

theorem result?_resultTree
    (readsBack : ∀ row ∈ result.rows, ∀ value ∈ row, value.ReadsBack) :
    (resultTree result).result? = some result := by
  have columns : (result.columns.map fun text => Tree.string (unitsOf text)).mapM Tree.text? =
      some result.columns :=
    mapM_map_of_inverse fun text _ => textOfUnits_unitsOf text
  have rows : (result.rows.map fun row => Tree.array (row.map treeOf)).mapM
      (fun row => do (← row.items?).mapM Tree.value?) = some result.rows := by
    refine mapM_map_of_inverse fun row member => ?_
    exact mapM_map_of_inverse fun value inRow => value?_treeOf (readsBack row member value inRow)
  rw [resultTree, result?_object]
  simp only [resultOfParts, Tree.items?, count?_ofInt, Option.pure_def, Option.bind_eq_bind,
    Option.bind_some] at rows ⊢
  rw [columns, Option.bind_some, rows, Option.bind_some]

/-- A result whose doubles are read back is itself read back. -/
theorem readResult_ofResult
    (readsBack : ∀ row ∈ result.rows, ∀ value ∈ row, value.ReadsBack) :
    readResult (ofResult result) = .ok result := by
  rw [readResult, (reads_result result).parse, Option.bind_some, result?_resultTree readsBack]

end Results

end Json

end SqlWright
