import SqlWright.Postgres.Positional
import Mathlib.Data.List.Chain
import Mathlib.Data.List.DropRight
/-! Which sequences of pieces a text is split into again. Pieces read back when each is
complete in itself and no placeholder is followed by a character that would extend it. -/
namespace SqlWright.Postgres

section Splitting

private theorem spanQuoted_append (quote : Char) (text : List Char) :
    (spanQuoted quote text).1 ++ (spanQuoted quote text).2 = text := by
  induction text with
  | nil => rfl
  | cons c rest ih =>
    unfold spanQuoted
    split
    · rfl
    · simpa using ih

/-- The pieces of a text, one after the other, are the text. -/
theorem flatMap_text_scan (text : List Char) : (scan text).flatMap Lexeme.text = text := by
  fun_induction scan text with
  | case1 => rfl
  | case2 c rest _ ih => simp [Lexeme.text, ih, spanQuoted_append]
  | case3 => rfl
  | case4 tail _ ih => simp [Lexeme.text, ih]
  | case5 next tail _ _ _ ih =>
    simp [Lexeme.text, ih, List.takeWhile_append_dropWhile]
  | case6 next tail _ _ _ ih => simpa [Lexeme.text] using ih
  | case7 c rest _ _ ih => simp [Lexeme.text, ih]

theorem spanQuoted_closed {quote : Char} {body : List Char} (rest : List Char)
    (inside : quote ∉ body) :
    spanQuoted quote (body ++ quote :: rest) = (body ++ [quote], rest) := by
  induction body with
  | nil => simp [spanQuoted]
  | cons c others ih =>
    have different : c ≠ quote := fun same => inside (by simp [same])
    have othersInside : quote ∉ others := fun member => inside (by simp [member])
    simp [spanQuoted, different, ih othersInside]

theorem spanQuoted_unclosed {quote : Char} {body : List Char} (inside : quote ∉ body) :
    spanQuoted quote body = (body, []) := by
  induction body with
  | nil => rfl
  | cons c others ih =>
    have different : c ≠ quote := fun same => inside (by simp [same])
    have othersInside : quote ∉ others := fun member => inside (by simp [member])
    simp [spanQuoted, different, ih othersInside]

theorem scan_quoted {quote : Char} {body : List Char} (rest : List Char)
    (isQuoteChar : isQuote quote = true) (inside : quote ∉ body) :
    scan (quote :: (body ++ quote :: rest)) =
      .quoted (quote :: (body ++ [quote])) :: scan rest := by
  rw [scan.eq_def]
  simp [isQuoteChar, spanQuoted_closed rest inside]

/-- An open region takes the whole text. -/
theorem scan_unclosed {quote : Char} {body : List Char} (isQuoteChar : isQuote quote = true)
    (inside : quote ∉ body) : scan (quote :: body) = [.quoted (quote :: body)] := by
  rw [scan.eq_def]
  simp [isQuoteChar, spanQuoted_unclosed inside, scan]

theorem scan_doubleColon (rest : List Char) :
    scan (':' :: ':' :: rest) = .doubleColon :: scan rest := by
  rw [scan.eq_def]
  simp [isQuote]

/-- A colon in front of neither a colon nor a name stands alone. -/
theorem scan_loneColon {rest : List Char}
    (lone : ∀ next ∈ rest.head?, next ≠ ':' ∧ isNameStart next = false) :
    scan (':' :: rest) = .char ':' :: scan rest := by
  rw [scan.eq_def]
  cases rest with
  | nil => simp [isQuote, scan]
  | cons next tail =>
    obtain ⟨notColon, noName⟩ := lone next rfl
    simp [isQuote, notColon, noName]

theorem scan_char {c : Char} (rest : List Char) (notQuote : isQuote c = false)
    (notColon : c ≠ ':') : scan (c :: rest) = .char c :: scan rest := by
  rw [scan.eq_def]
  simp [notQuote, notColon]

theorem scan_placeholder {first : Char} {others rest : List Char}
    (start : isNameStart first = true) (part : ∀ c ∈ others, isNamePart c = true)
    (stop : ∀ c ∈ rest.head?, isNamePart c = false) :
    scan (':' :: (first :: others ++ rest)) = .placeholder (first :: others) :: scan rest := by
  have notColon : first ≠ ':' := by
    rintro rfl
    cases start
  have taken : (others ++ rest).takeWhile isNamePart = others := by
    rw [List.takeWhile_append_of_pos part]
    cases rest with
    | nil => simp
    | cons c tail => simp [stop c rfl]
  have dropped : (others ++ rest).dropWhile isNamePart = rest := by
    rw [List.dropWhile_append_of_pos part]
    cases rest with
    | nil => rfl
    | cons c tail => simp [stop c rfl]
  rw [scan.eq_def]
  simp [isQuote, notColon, start, taken, dropped]

end Splitting

namespace Lexeme

def isPlaceholder : Lexeme → Bool
  | .placeholder _ => true
  | _ => false

/-- The name of a placeholder, without the colon. -/
def name? : Lexeme → Option String
  | .placeholder name => some (String.ofList name)
  | _ => none

/-- A piece that is complete in itself; a colon stands before the name of a placeholder
and nowhere else. -/
def Settled : Lexeme → Prop
  | .quoted region => ∃ quote body, isQuote quote = true ∧ quote ∉ body ∧ ':' ∉ body ∧
      region = quote :: (body ++ [quote])
  | .doubleColon => False
  | .placeholder name => ∃ first others, isNameStart first = true ∧
      (∀ c ∈ others, isNamePart c = true) ∧ name = first :: others
  | .char c => isQuote c = false ∧ c ≠ ':'

/-- The second piece does not extend the first. -/
def Apart (first second : Lexeme) : Prop :=
  first.isPlaceholder = true → ∀ c ∈ second.text.head?, isNamePart c = false

theorem Settled.text_ne_nil {lexeme : Lexeme} (settled : lexeme.Settled) : lexeme.text ≠ [] := by
  cases lexeme with
  | quoted region =>
    obtain ⟨quote, body, _, _, _, rfl⟩ := settled
    simp [text]
  | doubleColon => cases settled
  | placeholder name => simp [text]
  | char c => simp [text]

/-- Outside placeholders a settled piece holds no colon. -/
theorem Settled.colon_not_mem {lexeme : Lexeme} (settled : lexeme.Settled)
    (other : lexeme.isPlaceholder = false) : ':' ∉ lexeme.text := by
  cases lexeme with
  | quoted region =>
    obtain ⟨quote, body, isQuoteChar, _, noColon, rfl⟩ := settled
    have different : ':' ≠ quote := by
      rintro rfl
      cases isQuoteChar
    simp [text, noColon, different]
  | doubleColon => cases settled
  | placeholder name => cases other
  | char c => simpa [text] using Ne.symm settled.2

/-- No placeholder and no quoted region ends in a semicolon. -/
theorem Settled.eq_char_of_getLast? {lexeme : Lexeme} (settled : lexeme.Settled)
    (ends : lexeme.text.getLast? = some ';') : lexeme = .char ';' := by
  cases lexeme with
  | quoted region =>
    obtain ⟨quote, body, isQuoteChar, _, _, rfl⟩ := settled
    have same : quote = ';' := by simpa [text, List.getLast?_cons] using ends
    subst same
    cases isQuoteChar
  | doubleColon => cases settled
  | placeholder name =>
    obtain ⟨first, others, start, part, rfl⟩ := settled
    rcases List.eq_nil_or_concat others with rfl | ⟨front, last, rfl⟩
    · have same : first = ';' := by simpa [text] using ends
      subst same
      cases start
    · have same : last = ';' := by simpa [text, List.getLast?_cons] using ends
      have isPart := part last (by simp)
      rw [same] at isPart
      cases isPart
  | char c =>
    have same : c = ';' := by simpa [text] using ends
    rw [same]

end Lexeme

/-- The names of the placeholders in a text, in order and without their colons. -/
def placeholderNames (text : String) : List String := (scan text.toList).filterMap Lexeme.name?

/-- Pieces that read back from their text. -/
structure Legible (lexemes : List Lexeme) : Prop where
  settled : ∀ lexeme ∈ lexemes, lexeme.Settled
  apart : lexemes.IsChain Lexeme.Apart

namespace Legible

variable {lexeme : Lexeme} {lexemes first second : List Lexeme}

theorem nil : Legible [] := ⟨by simp, List.isChain_nil⟩

theorem left (legible : Legible (first ++ second)) : Legible first where
  settled := fun lexeme member => legible.settled lexeme (List.mem_append_left _ member)
  apart := (List.isChain_append.mp legible.apart).1

private theorem tail (legible : Legible (lexeme :: lexemes)) : Legible lexemes where
  settled := fun other member => legible.settled other (List.mem_cons_of_mem _ member)
  apart := (List.isChain_cons.mp legible.apart).2

/-- The text of legible pieces starts as the first piece does. -/
theorem head?_text (legible : Legible lexemes) :
    (lexemes.flatMap Lexeme.text).head? = lexemes.head?.bind fun lexeme => lexeme.text.head? := by
  cases lexemes with
  | nil => rfl
  | cons lexeme rest =>
    have nonempty := (legible.settled lexeme (List.mem_cons_self ..)).text_ne_nil
    cases spelled : lexeme.text with
    | nil => exact absurd spelled nonempty
    | cons c others => simp [spelled]

/-- Pieces join where the first do not end in a placeholder or the text of the others does
not extend one. -/
theorem append (firstLegible : Legible first) (secondLegible : Legible second)
    (boundary : ∀ last ∈ first.getLast?, last.isPlaceholder = true →
      ∀ c ∈ (second.flatMap Lexeme.text).head?, isNamePart c = false) :
    Legible (first ++ second) where
  settled := by
    intro lexeme member
    exact (List.mem_append.mp member).elim (firstLegible.settled lexeme)
      (secondLegible.settled lexeme)
  apart := by
    refine firstLegible.apart.append secondLegible.apart ?_
    intro last isLast next isNext placeholder c isHead
    apply boundary last isLast placeholder c
    rw [secondLegible.head?_text]
    exact Option.bind_eq_some_iff.mpr ⟨next, isNext, isHead⟩

theorem singleton (settled : lexeme.Settled) : Legible [lexeme] :=
  ⟨by simpa using settled, List.isChain_singleton _⟩

/-- Splitting the text of legible pieces gives these pieces. -/
theorem scan_text (legible : Legible lexemes) :
    scan (lexemes.flatMap Lexeme.text) = lexemes := by
  induction lexemes with
  | nil => simp [scan]
  | cons lexeme rest ih =>
    have settled := legible.settled lexeme (List.mem_cons_self ..)
    have restText := ih legible.tail
    rw [List.flatMap_cons]
    cases lexeme with
    | quoted region =>
      obtain ⟨quote, body, isQuoteChar, inside, _, rfl⟩ := settled
      simpa [Lexeme.text, restText] using
        scan_quoted (rest.flatMap Lexeme.text) isQuoteChar inside
    | doubleColon => cases settled
    | placeholder name =>
      obtain ⟨initial, others, start, part, rfl⟩ := settled
      have stop : ∀ c ∈ (rest.flatMap Lexeme.text).head?, isNamePart c = false := by
        intro c member
        rw [legible.tail.head?_text] at member
        obtain ⟨next, isNext, isHead⟩ := Option.bind_eq_some_iff.mp member
        exact (List.isChain_cons.mp legible.apart).1 next isNext rfl c isHead
      simpa [Lexeme.text, restText] using scan_placeholder start part stop
    | char c =>
      simpa [Lexeme.text, restText] using
        scan_char (rest.flatMap Lexeme.text) settled.1 settled.2

/-- A semicolon at the end of the text is a piece of its own. -/
theorem eq_concat_of_text_eq {front : List Char} (legible : Legible lexemes)
    (text : lexemes.flatMap Lexeme.text = front ++ [';']) :
    ∃ others, lexemes = others ++ [.char ';'] ∧ others.flatMap Lexeme.text = front := by
  rcases List.eq_nil_or_concat lexemes with rfl | ⟨others, last, rfl⟩
  · simp at text
  · have settled := legible.settled last (by simp)
    have ends : last.text.getLast? = some ';' := by
      have whole := congrArg List.getLast? text
      simpa [List.getLast?_append, Option.or_of_isSome, settled.text_ne_nil] using whole
    have isSemicolon : last = .char ';' := settled.eq_char_of_getLast? ends
    subst isSemicolon
    refine ⟨others, by simp, ?_⟩
    simpa [Lexeme.text] using text

end Legible

end SqlWright.Postgres
