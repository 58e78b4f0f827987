import SqlWright.Proofs.Postgres.Numbering
/-! The pieces of a text, told without a scanner, and the rewriting of placeholders in terms of
them. The split is unique, and rewritten text has no placeholders left. -/
namespace SqlWright.Postgres

/-- The pieces of a text from left to right. A quote opens a region up to the next one like it,
or up to the end; two colons stand together; a colon before a name is a placeholder, whose
name is as long as it can be; any other character stands alone. -/
inductive Splits : List Char → List Lexeme → Prop where
  | done : Splits [] []
  | closed {quote : Char} {body rest : List Char} {pieces : List Lexeme}
      (opens : isQuote quote = true) (inside : quote ∉ body) (others : Splits rest pieces) :
      Splits (quote :: (body ++ quote :: rest)) (.quoted (quote :: (body ++ [quote])) :: pieces)
  | unclosed {quote : Char} {body : List Char} (opens : isQuote quote = true)
      (inside : quote ∉ body) : Splits (quote :: body) [.quoted (quote :: body)]
  | doubleColon {rest : List Char} {pieces : List Lexeme} (others : Splits rest pieces) :
      Splits (':' :: ':' :: rest) (.doubleColon :: pieces)
  | placeholder {first : Char} {more rest : List Char} {pieces : List Lexeme}
      (start : isNameStart first = true) (part : ∀ c ∈ more, isNamePart c = true)
      (stop : ∀ c ∈ rest.head?, isNamePart c = false) (others : Splits rest pieces) :
      Splits (':' :: (first :: more ++ rest)) (.placeholder (first :: more) :: pieces)
  | char {c : Char} {rest : List Char} {pieces : List Lexeme} (notQuote : isQuote c = false)
      (lone : c = ':' → ∀ next ∈ rest.head?, next ≠ ':' ∧ isNameStart next = false)
      (others : Splits rest pieces) : Splits (c :: rest) (.char c :: pieces)

section Scanner

variable {text : List Char} {pieces : List Lexeme}

/-- The scanner finds the pieces, whatever they are. -/
theorem Splits.scan_eq (splits : Splits text pieces) : scan text = pieces := by
  induction splits with
  | done => simp [scan]
  | closed opens inside _ ih => rw [scan_quoted _ opens inside, ih]
  | unclosed opens inside => exact scan_unclosed opens inside
  | doubleColon _ ih => rw [scan_doubleColon, ih]
  | placeholder start part stop _ ih => rw [scan_placeholder start part stop, ih]
  | @char c rest pieces notQuote lone _ ih =>
    by_cases colon : c = ':'
    · subst colon
      rw [scan_loneColon (lone rfl), ih]
    · rw [scan_char rest notQuote colon, ih]

theorem splits_scan (text : List Char) : Splits text (scan text) := by
  fun_induction scan text with
  | case1 => exact .done
  | case2 c rest opens ih =>
    by_cases closes : c ∈ rest
    · obtain ⟨body, after, rfl, inside⟩ := List.eq_append_cons_of_mem closes
      rw [spanQuoted_closed after inside] at ih ⊢
      exact .closed opens inside ih
    · rw [spanQuoted_unclosed closes]
      simpa [scan] using Splits.unclosed opens closes
  | case3 => exact .char rfl (by simp) .done
  | case4 tail _ ih => exact .doubleColon ih
  | case5 next tail _ start _ ih =>
    have part : ∀ c ∈ tail.takeWhile isNamePart, isNamePart c = true :=
      fun _ => List.mem_takeWhile_imp
    have stop : ∀ c ∈ (tail.dropWhile isNamePart).head?, isNamePart c = false := by
      intro c isHead
      have ended := List.head?_dropWhile_not isNamePart tail
      rw [Option.mem_def.mp isHead] at ended
      simpa using ended
    have split := Splits.placeholder start part stop ih
    rwa [List.cons_append, List.takeWhile_append_dropWhile] at split
  | case6 next tail notColon noName _ ih =>
    refine .char rfl (fun _ other isNext => ?_) ih
    obtain rfl : next = other := Option.some.inj isNext
    exact ⟨notColon, by simpa using noName⟩
  | case7 c rest notQuote notColon ih =>
    exact .char (by simpa using notQuote) (fun colon => absurd colon notColon) ih

/-- A text has one split, which is the one that the scanner finds. -/
theorem scan_eq_iff : scan text = pieces ↔ Splits text pieces :=
  ⟨fun same => same ▸ splits_scan text, Splits.scan_eq⟩

end Scanner

section Rewritten

variable {text rest plain : List Char} {pieces : List Lexeme} {names : List String}

/-- A piece as it is split again after it was rewritten: a number falls apart into its
characters. -/
def Lexeme.scattered (names : List String) : Lexeme → List Lexeme
  | .placeholder name => (Lexeme.renumbered names (.placeholder name)).map .char
  | lexeme => [lexeme]

theorem filterMap_scattered (names : List String) (pieces : List Lexeme) :
    (pieces.flatMap (Lexeme.scattered names)).filterMap Lexeme.name? = [] := by
  induction pieces with
  | nil => rfl
  | cons piece others ih =>
    rw [List.flatMap_cons, List.filterMap_append, ih, List.append_nil]
    cases piece with
    | placeholder name => simp [Lexeme.scattered, Lexeme.name?]
    | _ => rfl

private theorem harmless_of_isDigit {c : Char} (digit : c.isDigit = true) :
    isQuote c = false ∧ c ≠ ':' := by
  refine ⟨?_, by rintro rfl; cases digit⟩
  by_contra quote
  simp only [isQuote, Bool.not_eq_false, Bool.or_eq_true, decide_eq_true_eq] at quote
  rcases quote with (rfl | rfl) | rfl
  · cases digit
  · cases digit
  · cases digit

private theorem harmless_renumbered {name : List Char} {c : Char}
    (member : c ∈ Lexeme.renumbered names (.placeholder name)) :
    isQuote c = false ∧ c ≠ ':' := by
  rcases List.mem_cons.mp member with rfl | inDigits
  · decide
  · exact harmless_of_isDigit (List.all_eq_true.mp (Placeholder.isDigit_toDigits _) c inDigits)

private theorem Splits.append_plain (harmless : ∀ c ∈ plain, isQuote c = false ∧ c ≠ ':')
    (others : Splits rest pieces) : Splits (plain ++ rest) (plain.map .char ++ pieces) := by
  induction plain with
  | nil => exact others
  | cons c plain ih =>
    obtain ⟨notQuote, notColon⟩ := harmless c List.mem_cons_self
    exact .char notQuote (fun colon => absurd colon notColon)
      (ih fun other member => harmless other (List.mem_cons_of_mem _ member))

/-- Rewritten text starts as the text did, or with the sign of a number. -/
private theorem Splits.head?_renumbered (splits : Splits text pieces) :
    ∀ next ∈ (pieces.flatMap (Lexeme.renumbered names)).head?, next ∈ text.head? ∨ next = '$' := by
  intro next isHead
  cases splits with
  | done => cases isHead
  | placeholder => exact .inr (Option.some.inj isHead).symm
  | closed | unclosed | doubleColon | char => exact .inl isHead

/-- Rewriting the placeholders leaves all other pieces what they were. A colon that stood alone
still does: what follows it starts as before or with the sign of a number. -/
theorem Splits.renumbered (splits : Splits text pieces) (names : List String) :
    Splits (pieces.flatMap (Lexeme.renumbered names))
      (pieces.flatMap (Lexeme.scattered names)) := by
  induction splits with
  | done => exact .done
  | closed opens inside _ ih =>
    simpa [Lexeme.renumbered, Lexeme.scattered, Lexeme.text] using
      Splits.closed opens inside ih
  | unclosed opens inside =>
    simpa [Lexeme.renumbered, Lexeme.scattered, Lexeme.text] using
      Splits.unclosed opens inside
  | doubleColon _ ih => exact .doubleColon ih
  | placeholder _ _ _ _ ih => exact ih.append_plain fun _ => harmless_renumbered
  | char notQuote lone others ih =>
    refine .char notQuote (fun colon next isHead => ?_) ih
    rcases others.head?_renumbered next isHead with same | rfl
    · exact lone colon next same
    · decide

theorem placeholderNames_renumbered (sql : String) (names : List String) :
    placeholderNames (String.ofList ((scan sql.toList).flatMap (Lexeme.renumbered names))) =
      [] := by
  rw [placeholderNames, String.toList_ofList,
    ((splits_scan sql.toList).renumbered names).scan_eq, filterMap_scattered]

end Rewritten

section Rewriting

variable {table : Table} {sql : String}

/-- Text without placeholders is rewritten to itself. -/
theorem toPositional_of_placeholderNames_eq_nil (none : placeholderNames sql = [])
    (table : Table) : toPositional sql table = .ok (sql, []) := by
  have held : ∀ name ∈ placeholderNames sql, (table.get? name).isSome := by simp [none]
  obtain ⟨values, rewritten, bound⟩ := exists_toPositional_eq held
  have kept : ∀ piece ∈ scan sql.toList,
      Lexeme.renumbered (placeholderNames sql).eraseDups piece = piece.text := by
    intro piece member
    cases piece with
    | placeholder name =>
      have named : String.ofList name ∈ placeholderNames sql :=
        List.mem_filterMap.mpr ⟨_, member, rfl⟩
      rw [none] at named
      cases named
    | _ => rfl
  have noValues : values = [] := by
    rw [none] at bound
    exact List.forall₂_nil_left_iff.mp bound
  rw [rewritten, List.flatMap_congr kept, flatMap_text_scan, String.ofList_toList, noValues]

/-- Either the first placeholder without a value is named, or all have one and are numbered. -/
theorem toPositional_cases (sql : String) (table : Table) :
    (∃ name, (placeholderNames sql).find? (fun name => (table.get? name).isNone) = some name ∧
        toPositional sql table = .error (.usage (.unboundPlaceholder name))) ∨
      (∀ name ∈ placeholderNames sql, (table.get? name).isSome) ∧ ∃ values,
        toPositional sql table = .ok (String.ofList ((scan sql.toList).flatMap
          (Lexeme.renumbered (placeholderNames sql).eraseDups)), values) ∧
        values.map some = (placeholderNames sql).eraseDups.map table.get? := by
  cases missing : (placeholderNames sql).find? (fun name => (table.get? name).isNone) with
  | some name => exact .inl ⟨name, rfl, toPositional_eq_error missing⟩
  | none =>
    have held : ∀ name ∈ placeholderNames sql, (table.get? name).isSome := by
      intro name member
      simpa [Option.isSome_iff_ne_none] using List.find?_eq_none.mp missing name member
    obtain ⟨values, rewritten, bound⟩ := exists_toPositional_eq held
    refine .inr ⟨held, values, rewritten, ?_⟩
    rw [← List.forall₂_eq_eq_eq, List.forall₂_map_left_iff, List.forall₂_map_right_iff]
    exact bound.flip.imp fun _ _ => Eq.symm

/-- A text has exactly one split into pieces. Rewriting it fails exactly if one of its
placeholders has no value, and then the first such is named. Otherwise each placeholder
becomes the number of its name, in the order in which the names first occur, everything else
stays, and the values are those of the distinct names in that order. The result is
rewritten to itself whatever the table. -/
theorem toPositional_follows_split (sql : String) (table : Table) :
    ∃ pieces : List Lexeme, (∀ others, Splits sql.toList others ↔ others = pieces) ∧
      let names := pieces.filterMap Lexeme.name?
      ((∃ failure, toPositional sql table = .error failure) ↔
        ∃ name ∈ names, table.get? name = none) ∧
      (∀ failure, toPositional sql table = .error failure →
        ∃ name, names.find? (fun name => (table.get? name).isNone) = some name ∧
          failure = .usage (.unboundPlaceholder name)) ∧
      ∀ text values, toPositional sql table = .ok (text, values) →
        text = String.ofList (pieces.flatMap (Lexeme.renumbered names.eraseDups)) ∧
          values.map some = names.eraseDups.map table.get? ∧
          ∀ other : Table, toPositional text other = .ok (text, []) := by
  refine ⟨scan sql.toList, fun others => scan_eq_iff.symm.trans eq_comm, ?_⟩
  intro names
  rcases toPositional_cases sql table with ⟨name, first, stopped⟩ | ⟨held, values, rewritten, bound⟩
  · have noValue : table.get? name = none := by simpa using List.find?_some first
    refine ⟨⟨fun _ => ⟨name, List.mem_of_find?_eq_some first, noValue⟩, fun _ => ⟨_, stopped⟩⟩,
      fun failure failed => ⟨name, first, ?_⟩, fun text values succeeded => ?_⟩
    · rw [stopped] at failed
      exact (Except.error.inj failed).symm
    · rw [stopped] at succeeded
      cases succeeded
  · refine ⟨⟨fun ⟨failure, failed⟩ => ?_, fun ⟨name, member, noValue⟩ => ?_⟩,
      fun failure failed => ?_, fun text others succeeded => ?_⟩
    · rw [rewritten] at failed
      cases failed
    · have hasValue := held name member
      rw [noValue] at hasValue
      cases hasValue
    · rw [rewritten] at failed
      cases failed
    · rw [rewritten] at succeeded
      cases succeeded
      exact ⟨rfl, bound,
        toPositional_of_placeholderNames_eq_nil (placeholderNames_renumbered sql _)⟩

/-- A rewritten text whose pieces touch: paired colons before a placeholder, a repeated name, an
unclosed quote. -/
example : toPositional ":::a:b:a'`:c" ⟨[(":b", .int 2), (":a", .int 1)], 0⟩ =
    .ok ("::$1$2$1'`:c", [.int 1, .int 2]) := by cbv

end Rewriting

end SqlWright.Postgres
