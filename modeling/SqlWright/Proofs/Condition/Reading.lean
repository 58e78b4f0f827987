import Mathlib.Data.List.DropRight
import Mathlib.Data.List.Forall2
/-! How SQL reads a condition: elementary conditions with AND and OR between them, of which AND
binds tighter. What stands in parentheses, between CASE and END, in quotes or in comments belongs to
an elementary condition, and so do NOT and the AND of a BETWEEN. -/
namespace SqlWright.Condition

inductive Connective where
  | and
  | or
  deriving DecidableEq

/-- Elementary conditions, with a connective between each and the next. -/
inductive Reading where
  | last (factor : String)
  | link (factor : String) (connective : Connective) (rest : Reading)
  deriving DecidableEq

namespace Reading

/-- The disjunction that a condition is: each alternative is a conjunction of factors. -/
def alternatives : Reading → List (List String)
  | .last factor => [[factor]]
  | .link factor .and rest => rest.alternatives.modifyHead (factor :: ·)
  | .link factor .or rest => [factor] :: rest.alternatives

/-- A row for which certain elementary conditions are true satisfies a condition. Only what is
true counts, so it does not matter whether the other ones are false or unknown. -/
def Satisfied (row : String → Prop) (reading : Reading) : Prop :=
  ∃ factors ∈ reading.alternatives, ∀ factor ∈ factors, row factor

/-- No OR stands outside of parentheses. -/
def isConjunction : Reading → Bool
  | .last _ => true
  | .link _ connective rest => connective = .and && rest.isConjunction

/-- Two conditions in a row, with AND between the last factor and the first one. -/
def andThen : Reading → Reading → Reading
  | .last factor, second => .link factor .and second
  | .link factor connective rest, second => .link factor connective (rest.andThen second)

/-- Several conditions in a row, with AND between each and the next. -/
def chained : Reading → List Reading → Reading
  | first, [] => first
  | first, second :: rest => first.andThen (second.chained rest)

variable {first second : Reading} {rest : List Reading} {row : String → Prop}

theorem alternatives_ne_nil (reading : Reading) : reading.alternatives ≠ [] := by
  induction reading with
  | last factor => exact List.cons_ne_nil _ _
  | link factor connective rest ih =>
    cases connective with
    | and => simpa [alternatives] using ih
    | or => exact List.cons_ne_nil _ _

/-- AND joins the last alternative before it and the first one after it, and no other ones. -/
theorem alternatives_andThen (first second : Reading) :
    ∃ earlier final initial later, first.alternatives = earlier ++ [final] ∧
      second.alternatives = initial :: later ∧
      (first.andThen second).alternatives = earlier ++ (final ++ initial) :: later := by
  induction first with
  | last factor =>
    obtain ⟨initial, later, spelled⟩ := List.exists_cons_of_ne_nil second.alternatives_ne_nil
    exact ⟨[], [factor], initial, later, rfl, spelled, by simp [andThen, alternatives, spelled]⟩
  | link factor connective rest ih =>
    obtain ⟨earlier, final, initial, later, restSpelled, spelled, joined⟩ := ih
    cases connective with
    | or =>
      exact ⟨[factor] :: earlier, final, initial, later, by simp [alternatives, restSpelled],
        spelled, by simp [andThen, alternatives, joined]⟩
    | and =>
      -- The factor goes in front of the first alternative, which may be the last one as well.
      cases earlier with
      | nil =>
        exact ⟨[], factor :: final, initial, later, by simp [alternatives, restSpelled],
          spelled, by simp [andThen, alternatives, joined]⟩
      | cons head others =>
        exact ⟨(factor :: head) :: others, final, initial, later,
          by simp [alternatives, restSpelled], spelled, by simp [andThen, alternatives, joined]⟩

theorem Satisfied.andThen (firstHolds : first.Satisfied row) (secondHolds : second.Satisfied row) :
    (first.andThen second).Satisfied row := by
  obtain ⟨earlier, final, initial, later, firstSpelled, secondSpelled, joined⟩ :=
    alternatives_andThen first second
  obtain ⟨firstFactors, inFirst, firstTrue⟩ := firstHolds
  obtain ⟨secondFactors, inSecond, secondTrue⟩ := secondHolds
  simp only [firstSpelled, List.mem_append, List.mem_singleton] at inFirst
  simp only [secondSpelled, List.mem_cons] at inSecond
  unfold Satisfied
  rw [joined]
  rcases inFirst with inEarlier | rfl
  · exact ⟨firstFactors, by simp [inEarlier], firstTrue⟩
  · rcases inSecond with rfl | inLater
    · refine ⟨firstFactors ++ secondFactors, by simp, ?_⟩
      exact List.forall_mem_append.mpr ⟨firstTrue, secondTrue⟩
    · exact ⟨secondFactors, by simp [inLater], secondTrue⟩

theorem Satisfied.chained (firstHolds : first.Satisfied row)
    (restHold : ∀ reading ∈ rest, reading.Satisfied row) : (first.chained rest).Satisfied row := by
  induction rest generalizing first with
  | nil => exact firstHolds
  | cons second others ih =>
    obtain ⟨secondHolds, othersHold⟩ := List.forall_mem_cons.mp restHold
    exact firstHolds.andThen (ih secondHolds othersHold)

theorem alternatives_of_isConjunction (conjunction : first.isConjunction = true) :
    ∃ factors, first.alternatives = [factors] := by
  induction first with
  | last factor => exact ⟨[factor], rfl⟩
  | link factor connective rest ih =>
    cases connective with
    | or => cases conjunction
    | and =>
      obtain ⟨factors, spelled⟩ := ih conjunction
      exact ⟨factor :: factors, by simp [alternatives, spelled]⟩

/-- Between two conjunctions AND has the whole of both on its sides. -/
theorem satisfied_andThen (firstAlone : first.isConjunction = true)
    (secondAlone : second.isConjunction = true) :
    (first.andThen second).Satisfied row ↔ first.Satisfied row ∧ second.Satisfied row := by
  refine ⟨?_, fun both => both.1.andThen both.2⟩
  obtain ⟨earlier, final, initial, later, firstSpelled, secondSpelled, joined⟩ :=
    alternatives_andThen first second
  obtain ⟨firstFactors, onlyFirst⟩ := alternatives_of_isConjunction firstAlone
  obtain ⟨secondFactors, onlySecond⟩ := alternatives_of_isConjunction secondAlone
  rw [onlyFirst, eq_comm, List.append_eq_singleton_iff] at firstSpelled
  obtain ⟨rfl, sameFirst⟩ | ⟨-, impossible⟩ := firstSpelled
  · obtain ⟨rfl, rfl⟩ : secondFactors = initial ∧ later = [] := by
      simpa [onlySecond, eq_comm] using secondSpelled
    obtain rfl := List.singleton_inj.mp sameFirst
    simp only [Satisfied, onlyFirst, onlySecond, joined, List.nil_append, List.mem_singleton,
      exists_eq_left, List.forall_mem_append, imp_self]
  · cases impossible

theorem isConjunction_andThen (first second : Reading) :
    (first.andThen second).isConjunction = (first.isConjunction && second.isConjunction) := by
  induction first with
  | last factor => simp [andThen, isConjunction]
  | link factor connective rest ih => simp [andThen, isConjunction, ih, Bool.and_assoc]

theorem isConjunction_chained (firstAlone : first.isConjunction = true)
    (restAlone : ∀ reading ∈ rest, reading.isConjunction = true) :
    (first.chained rest).isConjunction = true := by
  induction rest generalizing first with
  | nil => exact firstAlone
  | cons second others ih =>
    obtain ⟨secondAlone, othersAlone⟩ := List.forall_mem_cons.mp restAlone
    simp only [chained, isConjunction_andThen, firstAlone, ih secondAlone othersAlone,
      Bool.and_self]

theorem satisfied_chained (firstAlone : first.isConjunction = true)
    (restAlone : ∀ reading ∈ rest, reading.isConjunction = true) :
    (first.chained rest).Satisfied row ↔ ∀ reading ∈ first :: rest, reading.Satisfied row := by
  induction rest generalizing first with
  | nil => simp [chained]
  | cons second others ih =>
    obtain ⟨secondAlone, othersAlone⟩ := List.forall_mem_cons.mp restAlone
    rw [chained, satisfied_andThen firstAlone (isConjunction_chained secondAlone othersAlone),
      ih secondAlone othersAlone]
    exact List.forall_mem_cons.symm

end Reading

/-- What has been begun where reading stands. -/
inductive Carry where
  | clear
  | name (read : List Char)
  /-- A dash or a slash, which may begin a comment. -/
  | after (first : Char)
  | quoted (quote : Char)
  /-- A backslash in quotes that hides the next character. -/
  | escaped (quote : Char)
  | line
  | block
  /-- An asterisk in a comment, which may be the end of it. -/
  | star

inductive Piece where
  | name (text : List Char)
  | mark (c : Char)
  /-- A character in quotes or in a comment. -/
  | covered (c : Char)

def Piece.chars : Piece → List Char
  | .name text => text
  | .mark c | .covered c => [c]

/-- Characters of names, of which placeholders, variables and numbers are read like words. -/
def isNameChar (c : Char) : Bool :=
  c.isAlphanum || c = '_' || c = '.' || c = ':' || c = '@' || c = '$' || c = '#' || 127 < c.toNat

def isQuote (c : Char) : Bool := c = '\'' || c = '"' || c = '\x60'

/-- Read a character where nothing has been begun. -/
def start (c : Char) : Carry × List Piece :=
  if isNameChar c then (.name [c], [])
  else if c = '-' || c = '/' then (.after c, [])
  else if isQuote c then (.quoted c, [.covered c])
  else (.clear, [.mark c])

/-- Read a character. In some dialects a backslash in the quotes of a text hides the next one; in
none does it in the backquotes of a name. -/
def step (escapes : Bool) : Carry → Char → Carry × List Piece
  | .clear, c => start c
  | .name read, c =>
    if isNameChar c then (.name (read ++ [c]), [])
    else ((start c).1, .name read :: (start c).2)
  | .after first, c =>
    if first = '-' && c = '-' then (.line, [.covered first, .covered c])
    else if first = '/' && c = '*' then (.block, [.covered first, .covered c])
    else ((start c).1, .mark first :: (start c).2)
  | .quoted quote, c =>
    (if c = quote then .clear
      else if escapes && quote != '\x60' && c = '\\' then .escaped quote
      else .quoted quote, [.covered c])
  | .escaped quote, c => (.quoted quote, [.covered c])
  | .line, c => (if c = '\n' then .clear else .line, [.covered c])
  | .block, c => (if c = '*' then .star else .block, [.covered c])
  | .star, c => (if c = '/' then .clear else if c = '*' then .star else .block, [.covered c])

/-- What is left to read at the end; no quotes and no comment may be open there. -/
def finish : Carry → Option (List Piece)
  | .clear => some []
  | .name read => some [.name read]
  | .after first => some [.mark first]
  | .quoted _ | .escaped _ | .line | .block | .star => none

def pieces (escapes : Bool) : Carry → List Char → Option (List Piece)
  | carry, [] => finish carry
  | carry, c :: rest =>
    (pieces escapes (step escapes carry c).1 rest).map ((step escapes carry c).2 ++ ·)

/-- What keeps a connective from standing between factors. -/
inductive Bracket where
  | parenthesis
  | case

inductive Move where
  /-- The piece belongs to the factor that is being read. -/
  | keep (opened : List Bracket) (owed : Nat)
  | cut (connective : Connective)
  | refuse

/-- Whether a name is a keyword, in either case. -/
def spells (text : List Char) (keyword : String) : Bool :=
  text.map Char.toUpper = keyword.toList

/-- What a piece does inside of some brackets, where some BETWEENs still need their AND. A name
END stands for itself where no CASE is open. -/
def Piece.move (opened : List Bracket) (owed : Nat) : Piece → Move
  | .covered _ => .keep opened owed
  | .mark c =>
    if c = '(' then .keep (.parenthesis :: opened) owed
    else if c = ')' then
      match opened with
      | .parenthesis :: outer => .keep outer owed
      | _ => .refuse
    else .keep opened owed
  | .name text =>
    if spells text "CASE" then .keep (.case :: opened) owed
    else
      match opened with
      | .case :: outer => .keep (if spells text "END" then outer else opened) owed
      | .parenthesis :: _ => .keep opened owed
      | [] =>
        if spells text "BETWEEN" then .keep [] (owed + 1)
        else if spells text "AND" then if owed = 0 then .cut .and else .keep [] (owed - 1)
        else if spells text "OR" then if owed = 0 then .cut .or else .refuse
        else .keep [] owed

/-- The text between two connectives without the blanks around it, of which something is left. -/
def factor (read : List Char) : Option String :=
  let trimmed := (read.dropWhile Char.isWhitespace).rdropWhile Char.isWhitespace
  if trimmed.isEmpty then none else some (String.ofList trimmed)

/-- Cut the pieces at the connectives that stand between factors. -/
def split : List Bracket → Nat → List Char → List Piece → Option Reading
  | opened, owed, read, [] =>
    if opened.isEmpty && owed = 0 then (factor read).map .last else none
  | opened, owed, read, piece :: rest =>
    match piece.move opened owed with
    | .keep opened owed => split opened owed (read ++ piece.chars) rest
    | .cut connective =>
      (factor read).bind fun text => (split [] 0 [] rest).map (.link text connective)
    | .refuse => none

/-- Read a condition. -/
def read (escapes : Bool) (text : String) : Option Reading :=
  (pieces escapes .clear text.toList).bind (split [] 0 [])

section Pieces

variable {escapes : Bool} {carry : Carry} {first second : List Char} {out : List Piece}

/-- A blank ends what has been begun, unless it is covered. -/
theorem step_blank (ended : finish carry = some out) :
    step escapes carry ' ' = (.clear, out ++ [.mark ' ']) := by
  have blank : start ' ' = (.clear, [.mark ' ']) := rfl
  cases carry with
  | clear => cases ended; rfl
  | name read => cases ended; rfl
  | after first => cases ended; simp [step, blank]
  | _ => cases ended

/-- Text that can be read alone is read in the same way in front of a blank. -/
theorem pieces_append_blank (alone : pieces escapes carry first = some out) :
    pieces escapes carry (first ++ ' ' :: second) =
      (pieces escapes .clear second).map (out ++ .mark ' ' :: ·) := by
  induction first generalizing carry out with
  | nil =>
    rw [List.nil_append, pieces, step_blank alone]
    simp
  | cons c rest ih =>
    obtain ⟨behind, restAlone, rfl⟩ := Option.map_eq_some_iff.mp alone
    rw [List.cons_append, pieces, ih restAlone, Option.map_map]
    simp [Function.comp_def]

/-- The text of AND makes up a piece of its own. -/
theorem pieces_and (escapes : Bool) (second : List Char) :
    pieces escapes .clear ("AND".toList ++ ' ' :: second) =
      (pieces escapes .clear second).map (.name "AND".toList :: .mark ' ' :: ·) := by
  have alone : pieces escapes .clear "AND".toList = some [.name "AND".toList] := rfl
  exact pieces_append_blank alone

end Pieces

section Factors

variable {opened : List Bracket} {owed : Nat} {before behind : List Piece} {reading : Reading}

theorem factor_concat_blank (read : List Char) : factor (read ++ [' ']) = factor read := by
  have trimmed : ((read ++ [' ']).dropWhile Char.isWhitespace).rdropWhile Char.isWhitespace =
      (read.dropWhile Char.isWhitespace).rdropWhile Char.isWhitespace := by
    rw [List.dropWhile_append]
    split
    · next blank => simp [List.isEmpty_iff.mp blank]
    · exact List.rdropWhile_concat_pos _ _ _ rfl
  simp only [factor, trimmed]

/-- Only the factor that is being read depends on what has been read of it. -/
theorem split_congr {first second : List Char}
    (same : ∀ more, factor (first ++ more) = factor (second ++ more)) :
    split opened owed first behind = split opened owed second behind := by
  induction behind generalizing opened owed first second with
  | nil =>
    have sameFactor := same []
    simp only [List.append_nil] at sameFactor
    rw [split, split, sameFactor]
  | cons piece rest ih =>
    rw [split, split]
    split
    · apply ih
      intro more
      simpa using same (piece.chars ++ more)
    · have sameFactor := same []
      simp only [List.append_nil] at sameFactor
      rw [sameFactor]
    · rfl

theorem split_blank_cons :
    split [] 0 [] (.mark ' ' :: behind) = split [] 0 [] behind := by
  have kept : split [] 0 [] (.mark ' ' :: behind) = split [] 0 [' '] behind := rfl
  rw [kept]
  exact split_congr fun more => rfl

/-- What stands before AND is read as it is read alone. -/
theorem split_append_and {read : List Char} (alone : split opened owed read before = some reading) :
    split opened owed read (before ++ .mark ' ' :: .name "AND".toList :: .mark ' ' :: behind) =
      (split [] 0 [] behind).map reading.andThen := by
  induction before generalizing opened owed read reading with
  | nil =>
    rw [split] at alone
    split at alone
    -- Nothing is open at the end, so AND cuts; the blank in front of it is trimmed off.
    · next closed =>
      obtain ⟨text, isFactor, rfl⟩ := Option.map_eq_some_iff.mp alone
      obtain ⟨none, nothing⟩ : opened = [] ∧ owed = 0 := by simpa using closed
      subst none nothing
      have cut : split [] 0 read (.mark ' ' :: .name "AND".toList :: .mark ' ' :: behind) =
          (factor (read ++ [' '])).bind fun text =>
            (split [] 0 [] (.mark ' ' :: behind)).map (.link text .and) := rfl
      rw [List.nil_append, cut, factor_concat_blank, isFactor, split_blank_cons]
      rfl
    · cases alone
  | cons piece rest ih =>
    rw [split] at alone
    rw [List.cons_append, split]
    cases moved : piece.move opened owed with
    | keep inner left =>
      rw [moved] at alone
      exact ih alone
    | cut connective =>
      rw [moved] at alone
      obtain ⟨text, isFactor, linked⟩ := Option.bind_eq_some_iff.mp alone
      obtain ⟨later, laterRead, rfl⟩ := Option.map_eq_some_iff.mp linked
      simp only [isFactor, Option.bind_some, ih laterRead, Option.map_map]
      rfl
    | refuse =>
      rw [moved] at alone
      cases alone

end Factors

/-- Two texts that are conditions are one with AND between them. -/
theorem read_and {escapes : Bool} {first second : String} {before behind : Reading}
    (firstRead : read escapes first = some before)
    (secondRead : read escapes second = some behind) :
    read escapes (first ++ " AND " ++ second) = some (before.andThen behind) := by
  obtain ⟨firstPieces, firstPieced, firstSplit⟩ := Option.bind_eq_some_iff.mp firstRead
  obtain ⟨secondPieces, secondPieced, secondSplit⟩ := Option.bind_eq_some_iff.mp secondRead
  have spelled : (first ++ " AND " ++ second).toList =
      first.toList ++ ' ' :: ("AND".toList ++ ' ' :: second.toList) := by
    simp [String.toList_append]
  rw [read, spelled, pieces_append_blank firstPieced, pieces_and, secondPieced]
  simp only [Option.map_some, Option.bind_some]
  rw [split_append_and firstSplit, secondSplit]
  rfl

example : read false "a BETWEEN 1 AND 2 OR b AND (c)" =
    some (.link "a BETWEEN 1 AND 2" .or (.link "b" .and (.last "(c)"))) := by
  rfl

theorem read_intercalate_and {escapes : Bool} {texts : List String} {first : Reading}
    {rest : List Reading}
    (each : List.Forall₂ (fun text reading => read escapes text = some reading) texts
      (first :: rest)) :
    read escapes (" AND ".intercalate texts) = some (first.chained rest) := by
  induction rest generalizing texts first with
  | nil =>
    obtain ⟨text, _, alone, nothing, rfl⟩ := List.forall₂_cons_right_iff.mp each
    obtain rfl := List.forall₂_nil_right_iff.mp nothing
    simpa [Reading.chained] using alone
  | cons second others ih =>
    obtain ⟨text, texts, firstRead, restRead, rfl⟩ := List.forall₂_cons_right_iff.mp each
    have nonempty : texts ≠ [] := by
      rintro rfl
      cases restRead
    rw [String.intercalate_cons_of_ne_nil nonempty]
    exact read_and firstRead (ih restRead)

end SqlWright.Condition
