import SqlWright.Json.Read
import SqlWright.Json.Text
import SqlWright.Proofs.Json.Number
/-! Texts that are read as a tree wherever they stand. The writers build such texts from
smaller ones, so whatever they write is read back piece by piece. -/
namespace SqlWright.Json

section Strings

/-- How a character is read back: a control character without a name of its own comes as
the code of its escape. -/
def unitOf (c : Char) : StringUnit :=
  if c = '\x08' ∨ c = '\x0c' ∨ c = '\n' ∨ c = '\r' ∨ c = '\t' then .char c
  else if c.toNat < 32 then .unit c.toNat
  else .char c

def unitsOf (text : String) : List StringUnit := text.toList.map unitOf

private theorem hexValue_hexDigit : ∀ digit < 16, hexValue (hexDigit digit) = some digit := by
  decide

/-- An escape of two characters is read as the character it stands for. -/
private theorem readUnits_named {mark c : Char} (rest : List Char)
    (escaped : escapedChar mark = some c) :
    readUnits ('\\' :: mark :: rest) =
      (readUnits rest).map fun read => (.char c :: read.1, read.2) := by
  have notNumeric : mark ≠ 'u' := by
    rintro rfl
    cases escaped
  rw [readUnits.eq_def]
  cases read : readUnits rest <;> simp [notNumeric, escaped, read]

private theorem readUnits_escapeChar (c : Char) (rest : List Char) :
    readUnits (escapeChar c ++ rest) =
      (readUnits rest).map fun read => (unitOf c :: read.1, read.2) := by
  unfold escapeChar
  split_ifs with quote backslash backspace formFeed newline carriage tab control
  · subst quote
    exact readUnits_named rest rfl
  · subst backslash
    exact readUnits_named rest rfl
  · subst backspace
    exact readUnits_named rest rfl
  · subst formFeed
    exact readUnits_named rest rfl
  · subst newline
    exact readUnits_named rest rfl
  · subst carriage
    exact readUnits_named rest rfl
  · subst tab
    exact readUnits_named rest rfl
  · have high := hexValue_hexDigit (c.toNat / 16) (by omega)
    have low := hexValue_hexDigit (c.toNat % 16) (by omega)
    have zero : hexValue '0' = some 0 := by decide
    have code : c.toNat / 16 * 16 + c.toNat % 16 = c.toNat := by omega
    cases read : readUnits rest <;>
      simp [readUnits, read, high, low, zero, code, unitOf, control, backspace, formFeed, newline,
        carriage, tab]
  · have unit : unitOf c = .char c := by simp [unitOf, control]
    rw [List.singleton_append, readUnits.eq_def, unit]
    cases read : readUnits rest <;> simp [backslash, control, read]

/-- A quoted text is read up to its closing quote. -/
theorem readUnits_quoted (text rest : List Char) :
    readUnits (text.flatMap escapeChar ++ '"' :: rest) = some (text.map unitOf, rest) := by
  induction text with
  | nil => simp [readUnits]
  | cons c text ih =>
    rw [List.flatMap_cons, List.append_assoc, readUnits_escapeChar, ih]
    rfl

private theorem decodeUnits_unitOf (c : Char) (units : List StringUnit) :
    decodeUnits (unitOf c :: units) = (decodeUnits units).map (c :: ·) := by
  unfold unitOf
  split_ifs with named control
  · rw [decodeUnits]
  · have low : ¬ (0xD800 ≤ c.toNat ∧ c.toNat < 0xDC00) := by omega
    have high : ¬ (0xDC00 ≤ c.toNat ∧ c.toNat < 0xE000) := by omega
    have surrogate : ¬ (0xD800 ≤ c.toNat ∧ c.toNat < 0xE000) := by omega
    rw [decodeUnits.eq_def]
    cases units with
    | nil => simp [surrogate, Char.ofNat_toNat]
    | cons first rest => cases first <;> simp [low, high, surrogate, Char.ofNat_toNat]
  · rw [decodeUnits]

theorem decodeUnits_map_unitOf (text : List Char) :
    decodeUnits (text.map unitOf) = some text := by
  induction text with
  | nil => rfl
  | cons c text ih => rw [List.map_cons, decodeUnits_unitOf, ih, Option.map_some]

theorem textOfUnits_unitsOf (text : String) : textOfUnits (unitsOf text) = some text := by
  simp [textOfUnits, unitsOf, decodeUnits_map_unitOf]

end Strings

/-- A text that is read as this tree in front of any delimiter. Its first character tells it
from a blank and from the end of a list. -/
structure Reads (text : String) (tree : Tree) : Prop where
  head : ∃ first rest, text.toList = first :: rest ∧ isBlank first = false ∧ first ≠ ']'
  read : ∀ (fuel : Nat) {rest : List Char}, 2 * text.toList.length ≤ fuel → Delimited rest →
    readTree fuel (text.toList ++ rest) = some (tree, rest)

private theorem skipBlanks_cons {c : Char} {rest : List Char} (notBlank : isBlank c = false) :
    skipBlanks (c :: rest) = c :: rest := by
  simp [skipBlanks, notBlank]

section Writing

variable {text : String} {tree : Tree}

/-- A whole text is parsed as the tree it is read as. -/
theorem Reads.parse (reads : Reads text tree) : Tree.parse text = some tree := by
  have ended : Delimited [] := nofun
  have read := reads.read (2 * text.toList.length + 2) (by omega) ended
  rw [List.append_nil] at read
  rw [Tree.parse, read]
  rfl

theorem Reads.unique {other : Tree} (reads : Reads text tree) (again : Reads text other) :
    tree = other :=
  Option.some.inj (reads.parse.symm.trans again.parse)

/-- A text is not empty, so its first call has fuel. -/
private theorem Reads.of_succ
    (head : ∃ first rest, text.toList = first :: rest ∧ isBlank first = false ∧ first ≠ ']')
    (read : ∀ {fuel : Nat} {rest : List Char}, 2 * text.toList.length ≤ fuel + 1 →
      Delimited rest → readTree (fuel + 1) (text.toList ++ rest) = some (tree, rest)) :
    Reads text tree where
  head := head
  read := by
    intro fuel rest enough delimited
    obtain ⟨first, others, same, -⟩ := head
    cases fuel with
    | zero => simp [same] at enough
    | succ fuel => exact read enough delimited

theorem reads_null : Reads "null" .null := by
  refine .of_succ ⟨'n', ['u', 'l', 'l'], by decide⟩ ?_
  intro fuel rest _ _
  simp [readTree, skipBlanks, isBlank, expect]

theorem reads_true : Reads "true" (.bool true) := by
  refine .of_succ ⟨'t', ['r', 'u', 'e'], by decide⟩ ?_
  intro fuel rest _ _
  simp [readTree, skipBlanks, isBlank, expect]

theorem reads_false : Reads "false" (.bool false) := by
  refine .of_succ ⟨'f', ['a', 'l', 's', 'e'], by decide⟩ ?_
  intro fuel rest _ _
  simp [readTree, skipBlanks, isBlank, expect]

theorem reads_text (text : String) : Reads (ofText text) (.string (unitsOf text)) := by
  have same : (ofText text).toList = '"' :: (text.toList.flatMap escapeChar ++ ['"']) := by
    simp [ofText, quoteChars]
  refine .of_succ ⟨_, _, same, by decide⟩ ?_
  intro fuel rest _ _
  have quoted := readUnits_quoted text.toList rest
  simp [same, readTree, skipBlanks, isBlank, quoted, unitsOf]

theorem reads_number {number : Number} (same : text.toList = number.text)
    (wellFormed : number.WellFormed) : Reads text (.number number) := by
  obtain ⟨first, others, split, start⟩ := Number.exists_text_cons wellFormed
  have special : ∀ c ∈ [' ', '\t', '\n', '\r', ']', '"', '[', '\x7b', 'n', 't', 'f'],
      first ≠ c := by
    have neither : ∀ c ∈ [' ', '\t', '\n', '\r', ']', '"', '[', '\x7b', 'n', 't', 'f'],
        c ≠ '-' ∧ c.isDigit = false := by simp
    rintro c member rfl
    obtain ⟨notSign, notDigit⟩ := neither first member
    exact start.elim notSign fun digit => by rw [notDigit] at digit; cases digit
  simp only [List.mem_cons, List.not_mem_nil, or_false, forall_eq_or_imp, forall_eq] at special
  obtain ⟨space, tab, newline, carriage, notClosing, notQuote, notList, notObject, notNull,
    notTrue, notFalse⟩ := special
  have notBlank : isBlank first = false := by simp [isBlank, space, tab, newline, carriage]
  refine .of_succ ⟨first, others, same.trans split, notBlank, notClosing⟩ ?_
  intro fuel rest _ delimited
  have read := Number.read_text wellFormed delimited
  rw [split, List.cons_append] at read
  rw [same, split, List.cons_append, readTree.eq_def]
  simp [skipBlanks, notBlank, notQuote, notList, notObject, notNull, notTrue, notFalse, read]

private theorem delimited_cons {c : Char} (mark : c = ',' ∨ c = ']' ∨ c = '\x7d')
    (rest : List Char) : Delimited (c :: rest) := by
  intro first head
  obtain rfl : c = first := Option.some.inj head
  exact mark

/-- What stands between brackets: the texts with commas between them. -/
def listed (texts : List String) : List Char :=
  [','].intercalate (texts.map String.toList)

theorem listed_cons_cons (first second : String) (texts : List String) :
    listed (first :: second :: texts) = first.toList ++ ',' :: listed (second :: texts) := by
  simp [listed]

private theorem exists_listed_cons {text : String} {first : Char} {rest : List Char}
    (head : text.toList = first :: rest) (texts : List String) :
    ∃ tail, listed (text :: texts) = first :: tail := by
  cases texts with
  | nil => exact ⟨rest, by simp [listed, head]⟩
  | cons second texts => exact ⟨_, by rw [listed_cons_cons, head, List.cons_append]⟩

private theorem toList_array (texts : List String) :
    (array texts).toList = '[' :: (listed texts ++ [']']) := by
  simp [array, listed, String.toList_intercalate]

private theorem readItems_listed {texts : List String} {trees : List Tree}
    (each : List.Forall₂ Reads texts trees) (nonempty : texts ≠ []) (fuel : Nat)
    (enough : 2 * (listed texts).length < fuel) (rest : List Char) :
    readItems fuel (listed texts ++ ']' :: rest) = some (trees, rest) := by
  induction each generalizing fuel with
  | nil => exact absurd rfl nonempty
  | @cons text tree texts trees reads others ih =>
    cases fuel with
    | zero => omega
    | succ fuel =>
      cases others with
      | nil =>
        have single : listed [text] = text.toList := by simp [listed]
        rw [single] at enough
        have item := reads.read fuel (by omega) (delimited_cons (.inr (.inl rfl)) rest)
        simp [listed, readItems, item, skipBlanks, isBlank]
      | @cons second secondTree texts trees _ _ =>
        rw [listed_cons_cons] at enough ⊢
        simp only [List.length_append, List.length_cons] at enough
        have item := reads.read fuel (by omega)
          (delimited_cons (.inl rfl) (listed (second :: texts) ++ ']' :: rest))
        have items := ih (List.cons_ne_nil _ _) fuel (by omega)
        simp [readItems, item, items, skipBlanks, isBlank]

/-- A list of texts is read as the list of their trees. -/
theorem reads_array {texts : List String} {trees : List Tree}
    (each : List.Forall₂ Reads texts trees) : Reads (array texts) (.array trees) := by
  refine .of_succ ⟨'[', _, toList_array texts, by decide⟩ ?_
  intro fuel rest enough _
  rw [toList_array] at enough ⊢
  cases each with
  | nil => simp [listed, readTree, skipBlanks, isBlank]
  | @cons text tree texts trees reads others =>
    simp only [List.length_cons, List.length_append, List.length_nil] at enough
    have items := readItems_listed (.cons reads others) (List.cons_ne_nil _ _) fuel
      (by omega) rest
    obtain ⟨first, _, head, notBlank, notClosing⟩ := reads.head
    obtain ⟨tail, same⟩ := exists_listed_cons head texts
    rw [same, List.cons_append] at items
    have opening : isBlank '[' = false := rfl
    simp [readTree, same, skipBlanks_cons, opening, notBlank, notClosing, items]

/-- A member of an object, as it is written and as it is read. -/
structure ReadsMember (member : String × String) (tree : List StringUnit × Tree) :
    Prop where
  name : tree.1 = unitsOf member.1
  value : Reads member.2 tree.2

def memberText (member : String × String) : String := ofText member.1 ++ ":" ++ member.2

theorem toList_object (members : List (String × String)) :
    (object members).toList = '\x7b' :: (listed (members.map memberText) ++ ['\x7d']) := by
  simp [object, listed, String.toList_intercalate, memberText, Function.comp_def]

theorem toList_memberText (member : String × String) :
    (memberText member).toList =
      '"' :: (member.1.toList.flatMap escapeChar ++ '"' :: ':' :: member.2.toList) := by
  simp [memberText, ofText, quoteChars]

private theorem readMembers_cons {member : String × String} {tree : List StringUnit × Tree}
    (reads : ReadsMember member tree) {fuel : Nat}
    (enough : 2 * (memberText member).toList.length < fuel + 1) {c : Char}
    (mark : c = ',' ∨ c = '\x7d') (rest : List Char) :
    readMembers (fuel + 1) ((memberText member).toList ++ c :: rest) =
      if c = ',' then (readMembers fuel rest).map fun read => (tree :: read.1, read.2)
      else some ([tree], rest) := by
  have quote : isBlank '"' = false := rfl
  have colon : isBlank ':' = false := rfl
  have comma : isBlank ',' = false := rfl
  have closing : isBlank '\x7d' = false := rfl
  have delimited : Delimited (c :: rest) := delimited_cons (mark.imp id .inr) rest
  have name := readUnits_quoted member.1.toList (':' :: (member.2.toList ++ c :: rest))
  rw [toList_memberText, List.length_cons, List.length_append, List.length_cons,
    List.length_cons] at enough
  have value := reads.value.read fuel (by omega) delimited
  obtain ⟨treeName, treeValue⟩ := tree
  obtain rfl : treeName = unitsOf member.1 := reads.name
  rcases mark with rfl | rfl
  · simp [toList_memberText, readMembers, skipBlanks_cons, quote, colon, comma, expect, name, value,
      unitsOf, Option.map_eq_bind]
  · simp [toList_memberText, readMembers, skipBlanks_cons, quote, colon, closing, expect, name,
      value, unitsOf]

private theorem readMembers_listed {members : List (String × String)}
    {trees : List (List StringUnit × Tree)} (each : List.Forall₂ ReadsMember members trees)
    (nonempty : members ≠ []) (fuel : Nat)
    (enough : 2 * (listed (members.map memberText)).length < fuel) (rest : List Char) :
    readMembers fuel (listed (members.map memberText) ++ '\x7d' :: rest) = some (trees, rest) := by
  induction each generalizing fuel with
  | nil => exact absurd rfl nonempty
  | @cons member tree members trees reads others ih =>
    cases fuel with
    | zero => omega
    | succ fuel =>
      cases others with
      | nil =>
        have single : listed [memberText member] = (memberText member).toList := by simp [listed]
        rw [List.map_singleton, single] at enough ⊢
        exact readMembers_cons reads (by omega) (.inr rfl) rest
      | @cons second secondTree members trees _ _ =>
        rw [List.map_cons, List.map_cons, listed_cons_cons] at enough ⊢
        rw [List.length_append, List.length_cons] at enough
        have others := ih (List.cons_ne_nil _ _) fuel (by
          rw [List.map_cons]
          omega)
        rw [List.map_cons] at others
        rw [List.append_assoc, List.cons_append,
          readMembers_cons reads (by omega) (.inl rfl), if_pos rfl, others, Option.map_some]

/-- Named texts are read as the object of their trees. -/
theorem reads_object {members : List (String × String)} {trees : List (List StringUnit × Tree)}
    (each : List.Forall₂ ReadsMember members trees) : Reads (object members) (.object trees) := by
  refine .of_succ ⟨'\x7b', _, toList_object members, by decide⟩ ?_
  intro fuel rest enough _
  have opening : isBlank '\x7b' = false := rfl
  have closing : isBlank '\x7d' = false := rfl
  have quote : isBlank '"' = false := rfl
  rw [toList_object] at enough ⊢
  cases each with
  | nil => simp [listed, readTree, skipBlanks_cons, opening, closing]
  | @cons member tree members trees reads others =>
    simp only [List.length_cons, List.length_append, List.length_nil] at enough
    have read := readMembers_listed (.cons reads others) (List.cons_ne_nil _ _) fuel
      (by omega) rest
    obtain ⟨tail, same⟩ := exists_listed_cons (toList_memberText member) (members.map memberText)
    rw [List.map_cons] at read ⊢
    rw [same, List.cons_append] at read ⊢
    simp [readTree, skipBlanks_cons, opening, quote, read]

end Writing

end SqlWright.Json
