import SqlWright.Style
import SqlWright.Template
import SqlWright.Proofs.Placeholder.Naming
import SqlWright.Proofs.Postgres.Lexemes
/-! Texts that are split as they were meant: plain text, quoted identifiers, generated
placeholders, and fragments whose colons all start placeholders of their own. -/
namespace SqlWright

namespace Postgres

/-- Neither a quote character nor a colon is in the text. -/
def isPlainText (text : String) : Bool := text.toList.all fun c => !isQuote c && c != ':'

/-- No quote character is in the text, and every colon in it starts a placeholder whose
name, with the colon, is among these. -/
def colonsBound (names : List String) : List Char → Bool
  | [] => true
  | c :: rest =>
    if c = ':' then
      rest.head?.any isNameStart &&
        names.contains (String.ofList (':' :: rest.takeWhile isNamePart)) && colonsBound names rest
    else !isQuote c && colonsBound names rest

/-- The text splits into legible pieces. -/
def Readable (text : String) : Prop := Legible (scan text.toList)

/-- A placeholder before the text would end there. -/
def Opens (text : String) : Prop := ∀ c ∈ text.toList.head?, isNamePart c = false

/-- The last piece of the text is not a placeholder. -/
def Shuts (text : String) : Prop :=
  ∀ last ∈ (scan text.toList).getLast?, last.isPlaceholder = false

/-- The text splits into legible pieces without placeholders. -/
structure Verbatim (text : String) : Prop where
  readable : Readable text
  noPlaceholder : ∀ lexeme ∈ scan text.toList, lexeme.isPlaceholder = false

end Postgres

/-- A fragment in which every colon starts a placeholder that the fragment itself binds. -/
def Fragment.isPlain (fragment : Fragment) : Bool :=
  Postgres.colonsBound fragment.params.names fragment.text.toList

namespace Postgres

variable {first second text : String}

section Joining

/-- Two readable texts are split one after the other, if no placeholder at the end of the
first is extended by the second. -/
theorem scan_append (firstReadable : Readable first) (secondReadable : Readable second)
    (boundary : Shuts first ∨ Opens second) :
    Legible (scan first.toList ++ scan second.toList) ∧
      scan (first ++ second).toList = scan first.toList ++ scan second.toList := by
  have legible : Legible (scan first.toList ++ scan second.toList) := by
    refine firstReadable.append secondReadable ?_
    intro last isLast placeholder c isHead
    rw [flatMap_text_scan] at isHead
    rcases boundary with shuts | opens
    · rw [shuts last isLast] at placeholder
      cases placeholder
    · exact opens c isHead
  refine ⟨legible, ?_⟩
  have split := legible.scan_text
  rwa [List.flatMap_append, flatMap_text_scan, flatMap_text_scan, ← String.toList_append] at split

theorem Readable.append (firstReadable : Readable first) (secondReadable : Readable second)
    (boundary : Shuts first ∨ Opens second) : Readable (first ++ second) := by
  obtain ⟨legible, split⟩ := scan_append firstReadable secondReadable boundary
  rwa [Readable, split]

theorem placeholderNames_append (firstReadable : Readable first)
    (secondReadable : Readable second) (boundary : Shuts first ∨ Opens second) :
    placeholderNames (first ++ second) = placeholderNames first ++ placeholderNames second := by
  rw [placeholderNames, (scan_append firstReadable secondReadable boundary).2,
    List.filterMap_append]
  rfl

theorem opens_empty : Opens "" := by
  intro c isHead
  cases isHead

theorem opens_of_head? {c : Char} (starts : text.toList.head? = some c)
    (stop : isNamePart c = false) : Opens text := by
  intro other isHead
  rwa [← Option.some.inj (starts.symm.trans isHead)]

/-- No placeholder's name starts with a colon. -/
theorem Readable.bare_of_mem {name : String} (readable : Readable text)
    (member : name ∈ placeholderNames text) : Placeholder.bare name = name := by
  obtain ⟨lexeme, inText, isName⟩ := List.mem_filterMap.mp member
  have settled := readable.settled lexeme inText
  cases lexeme with
  | placeholder spelled =>
    obtain ⟨first, others, start, _, rfl⟩ := settled
    have notColon : first ≠ ':' := by
      rintro rfl
      cases start
    rw [← Option.some.inj isName]
    simp [Placeholder.bare, notColon]
  | _ => cases isName

theorem Opens.append (firstOpens : Opens first) (secondOpens : Opens second) :
    Opens (first ++ second) := by
  intro c isHead
  rw [String.toList_append, List.head?_append] at isHead
  rcases Option.or_eq_some_iff.mp isHead with inFirst | ⟨_, inSecond⟩
  · exact firstOpens c inFirst
  · exact secondOpens c inSecond

end Joining

namespace Verbatim

theorem shuts (verbatim : Verbatim text) : Shuts text :=
  fun last isLast => verbatim.noPlaceholder last (List.mem_of_getLast? isLast)

theorem append (firstVerbatim : Verbatim first) (secondVerbatim : Verbatim second) :
    Verbatim (first ++ second) where
  readable := firstVerbatim.readable.append secondVerbatim.readable (.inl firstVerbatim.shuts)
  noPlaceholder := by
    rw [(scan_append firstVerbatim.readable secondVerbatim.readable (.inl firstVerbatim.shuts)).2]
    intro lexeme member
    exact (List.mem_append.mp member).elim (firstVerbatim.noPlaceholder lexeme)
      (secondVerbatim.noPlaceholder lexeme)

theorem intercalate {separator : String} {texts : List String}
    (separatorVerbatim : Verbatim separator) (verbatim : ∀ text ∈ texts, Verbatim text) :
    Verbatim (separator.intercalate texts) := by
  induction texts with
  | nil => exact ⟨by simp [Readable, scan, Legible.nil], by simp [scan]⟩
  | cons first rest ih =>
    have firstVerbatim := verbatim first (List.mem_cons_self ..)
    have restVerbatim := ih fun text member => verbatim text (List.mem_cons_of_mem _ member)
    cases rest with
    | nil => simpa using firstVerbatim
    | cons second others =>
      rw [String.intercalate_cons_cons]
      exact (firstVerbatim.append separatorVerbatim).append restVerbatim

theorem placeholderNames_eq_nil (verbatim : Verbatim text) : placeholderNames text = [] := by
  apply List.filterMap_eq_nil_iff.mpr
  intro lexeme member
  have other := verbatim.noPlaceholder lexeme member
  cases lexeme with
  | placeholder name => cases other
  | _ => rfl

/-- A text that ends in verbatim text does not end in a placeholder. -/
theorem shuts_append (verbatim : Verbatim second) (nonempty : second ≠ "")
    (firstReadable : Readable first) (opens : Opens second) : Shuts (first ++ second) := by
  intro last isLast
  rw [(scan_append firstReadable verbatim.readable (.inr opens)).2, List.getLast?_append] at isLast
  have pieces : scan second.toList ≠ [] := by
    intro none
    have spelled := flatMap_text_scan second.toList
    rw [none] at spelled
    exact nonempty (by simpa using spelled.symm)
  rw [Option.or_of_isSome (by simpa using pieces)] at isLast
  exact verbatim.shuts last isLast

end Verbatim

section PlainText

private theorem scan_plain {characters : List Char}
    (plain : ∀ c ∈ characters, isQuote c = false ∧ c ≠ ':') :
    scan characters = characters.map .char := by
  induction characters with
  | nil => simp [scan]
  | cons c rest ih =>
    obtain ⟨notQuote, notColon⟩ := plain c (List.mem_cons_self ..)
    rw [scan_char rest notQuote notColon, ih fun other member =>
      plain other (List.mem_cons_of_mem _ member), List.map_cons]

theorem isPlainText_iff : isPlainText text = true ↔
    ∀ c ∈ text.toList, isQuote c = false ∧ c ≠ ':' := by
  simp [isPlainText, List.all_eq_true]

theorem verbatim_of_isPlainText (plain : isPlainText text = true) : Verbatim text := by
  have characters := isPlainText_iff.mp plain
  have split := scan_plain characters
  have noPlaceholder : ∀ lexeme ∈ scan text.toList, lexeme.isPlaceholder = false := by
    simp [split, Lexeme.isPlaceholder]
  refine ⟨⟨?_, ?_⟩, noPlaceholder⟩
  · rw [split]
    intro lexeme member
    obtain ⟨c, inText, rfl⟩ := List.mem_map.mp member
    exact characters c inText
  · refine List.Pairwise.isChain (List.pairwise_iff_forall_sublist.mpr ?_)
    intro before after both placeholder
    have member := both.subset (List.mem_cons_self ..)
    rw [noPlaceholder before member] at placeholder
    cases placeholder

/-- A quoted name holds no quote character, so it is one piece; an expression holds none and
stays as it is. -/
theorem verbatim_quoteIdentifier {token : String} {quote : Char}
    (isQuoteChar : isQuote quote = true) (plain : isPlainText token = true) :
    Verbatim (quoteIdentifier token quote) := by
  unfold quoteIdentifier
  split
  · exact verbatim_of_isPlainText plain
  · have characters := isPlainText_iff.mp plain
    have outside : quote ∉ token.toList := by
      intro member
      rw [(characters quote member).1] at isQuoteChar
      cases isQuoteChar
    have noColon : ':' ∉ token.toList := fun member => (characters ':' member).2 rfl
    have split : scan (quote.toString ++ token ++ quote.toString).toList =
        [.quoted (quote :: (token.toList ++ [quote]))] := by
      have closed := scan_quoted [] isQuoteChar outside
      simpa [scan, Char.toString] using closed
    constructor
    · rw [Readable, split]
      exact .singleton ⟨quote, token.toList, isQuoteChar, outside, noColon, rfl⟩
    · rw [split]
      simp [Lexeme.isPlaceholder]

end PlainText

section Fragments

variable {names : List String} {characters : List Char}

private theorem colonsBound_of_cons {c : Char} {rest : List Char}
    (bound : colonsBound names (c :: rest) = true) : colonsBound names rest = true := by
  unfold colonsBound at bound
  split at bound
  · exact (Bool.and_eq_true_iff.mp bound).2
  · exact (Bool.and_eq_true_iff.mp bound).2

private theorem colonsBound_dropWhile (keep : Char → Bool)
    (bound : colonsBound names characters = true) :
    colonsBound names (characters.dropWhile keep) = true := by
  induction characters with
  | nil => exact bound
  | cons c rest ih =>
    rw [List.dropWhile_cons]
    split
    · exact ih (colonsBound_of_cons bound)
    · exact bound

private theorem isNamePart_of_isNameStart {c : Char} (start : isNameStart c = true) :
    isNamePart c = true := by
  simp only [isNameStart, isNamePart, Char.isAlphanum, Bool.or_eq_true] at start ⊢
  exact start.imp_left .inl

private theorem isNameStart_of_colonsBound {next : Char} {rest : List Char}
    (bound : colonsBound names (':' :: next :: rest) = true) :
    isNameStart next = true ∧
      String.ofList (':' :: (next :: rest).takeWhile isNamePart) ∈ names := by
  simp only [colonsBound, ↓reduceIte, List.head?_cons, Option.any_some, List.contains_eq_mem,
    Bool.and_eq_true, decide_eq_true_eq] at bound
  exact bound.1

/-- A text whose colons are all bound splits into characters and into placeholders with a
bound name. -/
theorem legible_of_colonsBound (bound : colonsBound names characters = true) :
    Legible (scan characters) ∧ ∀ name ∈ (scan characters).filterMap Lexeme.name?,
      ":" ++ name ∈ names := by
  fun_induction scan characters with
  | case1 => exact ⟨.nil, by simp⟩
  | case2 c rest isQuoteChar ih =>
    have notColon : c ≠ ':' := by
      rintro rfl
      cases isQuoteChar
    simp [colonsBound, notColon, isQuoteChar] at bound
  | case3 => simp [colonsBound] at bound
  | case4 tail _ ih => cases (isNameStart_of_colonsBound bound).1
  | case5 next tail _ start _ ih =>
    obtain ⟨legible, named⟩ := ih (colonsBound_dropWhile isNamePart
      (colonsBound_of_cons (colonsBound_of_cons bound)))
    have taken := (isNameStart_of_colonsBound bound).2
    rw [List.takeWhile_cons_of_pos (isNamePart_of_isNameStart start)] at taken
    constructor
    · have settled : (Lexeme.placeholder (next :: tail.takeWhile isNamePart)).Settled :=
        ⟨next, _, start, fun c member => List.mem_takeWhile_imp member, rfl⟩
      refine (Legible.singleton settled).append legible ?_
      intro _ _ _ c isHead
      rw [flatMap_text_scan] at isHead
      have stopped := List.head?_dropWhile_not isNamePart tail
      rw [isHead] at stopped
      simpa using stopped
    · intro name member
      rcases List.mem_cons.mp member with rfl | inRest
      · simpa using taken
      · exact named name inRest
  | case6 next tail _ noStart _ ih =>
    exact absurd (isNameStart_of_colonsBound bound).1 noStart
  | case7 c rest notQuote notColon ih =>
    obtain ⟨legible, named⟩ := ih (colonsBound_of_cons bound)
    have settled : (Lexeme.char c).Settled := ⟨by simpa using notQuote, notColon⟩
    refine ⟨(Legible.singleton settled).append legible ?_, named⟩
    intro last isLast placeholder
    rw [← Option.some.inj isLast] at placeholder
    cases placeholder

end Fragments

section Placeholders

private theorem isNamePart_toDigits (index : Nat) :
    ∀ c ∈ Nat.toDigits 10 index, isNamePart c = true := by
  intro c member
  have digit := List.all_eq_true.mp (Placeholder.isDigit_toDigits index) c member
  simp [isNamePart, Char.isAlphanum, digit]

theorem scan_generated (index : Nat) :
    scan (Placeholder.generated index).toList =
      [.placeholder (Placeholder.serial index).toList] := by
  have whole := @scan_placeholder 'p' (Nat.toDigits 10 index) [] rfl
    (isNamePart_toDigits index) (by simp)
  simpa [scan, Placeholder.toList_generated, Placeholder.serial] using whole

theorem readable_generated (index : Nat) : Readable (Placeholder.generated index) := by
  have settled : (Lexeme.placeholder (Placeholder.serial index).toList).Settled :=
    ⟨'p', Nat.toDigits 10 index, rfl, isNamePart_toDigits index, by simp [Placeholder.serial]⟩
  rw [Readable, scan_generated]
  exact .singleton settled

theorem placeholderNames_generated (index : Nat) :
    placeholderNames (Placeholder.generated index) = [Placeholder.serial index] := by
  simp [placeholderNames, scan_generated, Lexeme.name?]

end Placeholders

section Terminators

private theorem legible_dropTerminators {characters : List Char}
    (legible : Legible (scan characters)) :
    let kept := (characters.reverse.dropWhile (· = ';')).reverse
    Legible (scan kept) ∧
      (scan kept).filterMap Lexeme.name? = (scan characters).filterMap Lexeme.name? := by
  induction characters using List.reverseRecOn with
  | nil => exact ⟨legible, rfl⟩
  | append_singleton front c ih =>
    by_cases terminator : c = ';'
    · subst terminator
      obtain ⟨others, split, spelled⟩ :=
        legible.eq_concat_of_text_eq (flatMap_text_scan (front ++ [';']))
      rw [split] at legible
      have frontSplit : scan front = others := by
        rw [← spelled, legible.left.scan_text]
      rw [← frontSplit] at legible split
      have nameless : [Lexeme.char ';'].filterMap Lexeme.name? = [] := rfl
      simpa [split, nameless] using ih legible.left
    · simpa [terminator] using legible

theorem Readable.dropTerminators (readable : Readable text) :
    Readable (dropTerminators text) := by
  simpa [Readable, SqlWright.dropTerminators] using (legible_dropTerminators readable).1

/-- Dropping semicolons at the end loses no placeholder. -/
theorem placeholderNames_dropTerminators (readable : Readable text) :
    placeholderNames (dropTerminators text) = placeholderNames text := by
  simpa [placeholderNames, SqlWright.dropTerminators] using (legible_dropTerminators readable).2

end Terminators

end Postgres

end SqlWright
