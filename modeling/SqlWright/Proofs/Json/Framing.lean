import SqlWright.Proofs.Json.RoundTrip
/-! Where an object begins. An object of scalars that follows an arbitrary text can be told from
that text: no other object of scalars is an end of it. -/
namespace SqlWright.Json

/-- Where a reader stands behind the opening brace of an object of scalars. A brace or a
backslash outside the quotes leads astray. -/
inductive Place where
  | outside
  | inside
  | escaped
  | astray
  deriving DecidableEq

namespace Place

def step : Place → Char → Place
  | .outside, c => if c = '"' then .inside else if c = '\\' ∨ c = '\x7b' then .astray else .outside
  | .inside, c => if c = '"' then .outside else if c = '\\' then .escaped else .inside
  | .escaped, _ => .inside
  | .astray, _ => .astray

def walk (place : Place) (text : List Char) : Place := text.foldl step place

variable {first second text : List Char} {place : Place}

theorem walk_append : place.walk (first ++ second) = (place.walk first).walk second :=
  List.foldl_append

theorem walk_astray (text : List Char) : astray.walk text = astray := by
  induction text with
  | nil => rfl
  | cons c text ih => exact ih

/-- Every quote swaps the two readers, and nothing but quotes moves both of them on, so they
never stand outside together. -/
theorem not_outside_twice (text : List Char) (fromOutside : outside.walk text = outside) :
    inside.walk text ≠ outside := by
  suffices swapped : ∀ text : List Char, ¬ (outside.walk text = outside ∧
      inside.walk text = outside) from fun fromInside => swapped text ⟨fromOutside, fromInside⟩
  intro text
  induction text with
  | nil => nofun
  | cons c text ih =>
    rintro ⟨one, other⟩
    simp only [walk, List.foldl_cons, step] at one other ih
    by_cases quote : c = '"'
    · rw [if_pos quote] at one other
      exact ih ⟨other, one⟩
    · rw [if_neg quote] at one other
      split at one
      · have lost := walk_astray text
        simp only [walk] at lost
        rw [lost] at one
        cases one
      · next plain =>
        rw [if_neg fun backslash => plain (.inl backslash)] at other
        exact ih ⟨one, other⟩

end Place

/-- A brace and a text that leads from outside the quotes to outside the quotes. -/
def IsFlatObject (text : List Char) : Prop :=
  ∃ body, text = '\x7b' :: body ∧ Place.outside.walk body = .outside

/-- A flat object behind a flat object's first characters is no end of it. -/
private theorem not_isFlatObject_append {before object : List Char} (nonempty : before ≠ [])
    (inner : IsFlatObject object) : ¬ IsFlatObject (before ++ object) := by
  rintro ⟨body, same, ends⟩
  obtain ⟨innerBody, rfl, innerEnds⟩ := inner
  cases before with
  | nil => exact nonempty rfl
  | cons c before =>
    obtain ⟨rfl, rfl⟩ := List.cons.inj same
    have split : Place.outside.walk (before ++ '\x7b' :: innerBody) = .outside := ends
    rw [Place.walk_append] at split
    have after : ((Place.outside.walk before).step '\x7b').walk innerBody = .outside := split
    cases place : Place.outside.walk before with
    | outside =>
      rw [place] at after
      exact absurd ((Place.walk_astray innerBody).symm.trans after) (by decide)
    | inside =>
      rw [place] at after
      exact Place.not_outside_twice innerBody innerEnds after
    | escaped =>
      rw [place] at after
      exact Place.not_outside_twice innerBody innerEnds after
    | astray =>
      rw [place] at after
      exact absurd ((Place.walk_astray innerBody).symm.trans after) (by decide)

/-- A text and the flat object behind it can be told apart. -/
theorem IsFlatObject.append_inj {firstText secondText firstObject secondObject : List Char}
    (firstFlat : IsFlatObject firstObject) (secondFlat : IsFlatObject secondObject)
    (same : firstText ++ firstObject = secondText ++ secondObject) :
    firstText = secondText ∧ firstObject = secondObject := by
  rcases List.append_eq_append_iff.1 same with ⟨between, rfl, object⟩ | ⟨between, rfl, object⟩
  · rcases eq_or_ne between [] with rfl | nonempty
    · exact ⟨(List.append_nil _).symm, object⟩
    · exact (not_isFlatObject_append nonempty secondFlat (object ▸ firstFlat)).elim
  · rcases eq_or_ne between [] with rfl | nonempty
    · exact ⟨List.append_nil _, object.symm⟩
    · exact (not_isFlatObject_append nonempty firstFlat (object ▸ secondFlat)).elim

section Written

variable {text : List Char}

theorem Place.walk_plain (plain : ∀ c ∈ text, c ≠ '"' ∧ c ≠ '\\' ∧ c ≠ '\x7b') :
    outside.walk text = outside := by
  induction text with
  | nil => rfl
  | cons c text ih =>
    obtain ⟨notQuote, notBackslash, notBrace⟩ := plain c List.mem_cons_self
    have step : outside.step c = outside := by simp [Place.step, notQuote, notBackslash, notBrace]
    rw [walk, List.foldl_cons, step]
    exact ih fun c member => plain c (List.mem_cons_of_mem _ member)

private theorem Place.walk_escapeChar (c : Char) : inside.walk (escapeChar c) = inside := by
  have digits : ∀ digit < 16, inside.step (hexDigit digit) = inside := by decide
  unfold escapeChar
  split_ifs with quote backslash backspace formFeed newline carriage tab control
  · rfl
  · rfl
  · rfl
  · rfl
  · rfl
  · rfl
  · rfl
  · have high := digits (c.toNat / 16) (by omega)
    have low := digits (c.toNat % 16) (by omega)
    show (inside.step (hexDigit (c.toNat / 16))).step (hexDigit (c.toNat % 16)) = inside
    rw [high, low]
  · show inside.step c = inside
    simp [step, quote, backslash]

theorem Place.walk_escaped (text : List Char) : inside.walk (text.flatMap escapeChar) = inside := by
  induction text with
  | nil => rfl
  | cons c text ih => rw [List.flatMap_cons, walk_append, walk_escapeChar, ih]

theorem Place.walk_ofText (text : String) : outside.walk (ofText text).toList = outside := by
  have same : (ofText text).toList = ['"'] ++ text.toList.flatMap escapeChar ++ ['"'] := by
    simp [ofText, quoteChars]
  have opened : outside.walk ['"'] = inside := rfl
  rw [same, walk_append, walk_append, opened, walk_escaped]
  rfl

private theorem Place.walk_number {number : Number} (wellFormed : number.WellFormed) :
    outside.walk number.text = outside := by
  have marks : ∀ c ∈ ['"', '\\', '\x7b'], c.isDigit = false ∧ c ∉ ['-', '+', '.', 'e'] := by simp
  have special : ∀ c ∈ ['"', '\\', '\x7b'], c ∉ number.text := by
    intro c member inText
    obtain ⟨notDigit, notMark⟩ := marks c member
    rcases Number.mem_text wellFormed inText with digit | mark
    · rw [notDigit] at digit
      cases digit
    · exact notMark mark
  refine walk_plain fun c member => ⟨?_, ?_, ?_⟩
  · rintro rfl
    exact special _ (by decide) member
  · rintro rfl
    exact special _ (by decide) member
  · rintro rfl
    exact special _ (by decide) member

theorem Place.walk_ofValue (value : Value) : outside.walk (ofValue value).toList = outside := by
  cases value with
  | null => decide
  | bool b => cases b <;> decide
  | int n =>
    show outside.walk (toString n.toInt).toList = outside
    rw [Number.text_ofInt]
    exact walk_number (Number.wellFormed_ofInt n.toInt)
  | float x =>
    show outside.walk (NumberLayout.json.write x).toList = outside
    rw [Number.toList_write]
    cases written : Number.ofDouble? x with
    | none => rfl
    | some number => exact walk_number (Number.wellFormed_ofDouble? written)
  | text s => exact walk_ofText s

private theorem Place.walk_listed {texts : List String}
    (each : ∀ text ∈ texts, outside.walk text.toList = outside) :
    outside.walk (listed texts) = outside := by
  induction texts with
  | nil => rfl
  | cons first texts ih =>
    have others := ih fun text member => each text (List.mem_cons_of_mem _ member)
    have start := each first List.mem_cons_self
    cases texts with
    | nil => simpa [listed] using start
    | cons second texts =>
      rw [listed_cons_cons, walk_append, start]
      exact others

private theorem Place.walk_memberText (name : String) (value : Value) :
    outside.walk (memberText (name, ofValue value)).toList = outside := by
  rw [memberText, String.toList_append, String.toList_append, walk_append, walk_append,
    walk_ofText]
  exact walk_ofValue value

theorem isFlatObject_ofTable (table : Table) : IsFlatObject (ofTable table).toList := by
  refine ⟨_, toList_object _, ?_⟩
  rw [Place.walk_append, Place.walk_listed]
  · rfl
  · intro text member
    rw [List.map_map] at member
    obtain ⟨entry, -, rfl⟩ := List.mem_map.1 member
    exact Place.walk_memberText entry.1 entry.2

end Written

end SqlWright.Json
