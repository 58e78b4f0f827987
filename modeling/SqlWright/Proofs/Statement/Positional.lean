import SqlWright.Proofs.Postgres.Numbering
import SqlWright.Proofs.Statement.Readable
/-! A rendered statement with numbered placeholders. The pieces that the renderer put together
are the ones that the rewriting finds again, so each placeholder gets its own value. -/
namespace SqlWright

open Postgres (Lexeme Legible placeholderNames)

namespace Template

variable {template : Template}

/-- Every placeholder in the text of a readable template is in its table. -/
theorem Readable.exists_mem_entries (readable : template.Readable) :
    ∀ name ∈ placeholderNames template.build.sql,
      ∃ value, (":" ++ name, value) ∈ template.build.params.entries := by
  intro name member
  rw [sql_build] at member
  by_cases reserved : Placeholder.isReserved name = true
  · have numbered : name ∈ (List.range' 0 template.scalars.length).map Placeholder.serial := by
      rw [← readable.generated 0]
      exact List.mem_filter.mpr ⟨member, reserved⟩
    rw [← Placeholder.bare_numbered, ← template.generatedEntries_build] at numbered
    obtain ⟨entry, inGenerated, same⟩ := List.mem_map.mp numbered
    have inEntries := (List.mem_filter.mp inGenerated).1
    obtain ⟨bareName, colon⟩ :=
      template.sound_build.colonNamed entry.1 (List.mem_map_of_mem inEntries)
    rw [colon, Placeholder.bare_colon] at same
    refine ⟨entry.2, ?_⟩
    rw [← same, ← colon]
    exact inEntries
  · obtain ⟨value, named⟩ := readable.bound 0 name member (by simpa using reserved)
    have inNames : ":" ++ name ∈ template.build.params.names := by
      rw [params_build]
      exact Table.mem_names_bindAll_of_named named
    obtain ⟨⟨other, bound⟩, inEntries, same⟩ := List.mem_map.mp inNames
    exact ⟨bound, same ▸ inEntries⟩

theorem Readable.get?_of_mem {name : String} {value : Value} (readable : template.Readable)
    (member : name ∈ placeholderNames template.build.sql)
    (held : (":" ++ name, value) ∈ template.build.params.entries) :
    template.build.params.get? name = some value := by
  rw [sql_build] at member
  exact template.sound_build.get?_of_mem ((readable.readable 0).bare_of_mem member) held

/-- The rewriting meets no placeholder without a value, and binds each to the table's own. -/
theorem Readable.exists_toPositional_build (readable : template.Readable) :
    ∃ values : List Value,
      Postgres.toPositional template.build.sql template.build.params =
        .ok (String.ofList ((Postgres.scan template.build.sql.toList).flatMap
          (Lexeme.renumbered (placeholderNames template.build.sql).eraseDups)), values) ∧
      List.Forall₂ (fun name value => (":" ++ name, value) ∈ template.build.params.entries)
        (placeholderNames template.build.sql).eraseDups values := by
  have found : ∀ name ∈ placeholderNames template.build.sql,
      (template.build.params.get? name).isSome := by
    intro name member
    obtain ⟨value, held⟩ := readable.exists_mem_entries name member
    exact Option.isSome_iff_exists.mpr ⟨value, readable.get?_of_mem member held⟩
  obtain ⟨values, rewritten, bound⟩ := Postgres.exists_toPositional_eq found
  refine ⟨values, rewritten, ?_⟩
  have both := (List.forall₂_and_left _ _).mpr ⟨fun name => List.mem_eraseDups.mp, bound⟩
  refine both.imp ?_
  rintro name value ⟨member, isValue⟩
  obtain ⟨other, held⟩ := readable.exists_mem_entries name member
  rw [readable.get?_of_mem member held] at isValue
  exact Option.some.inj isValue ▸ held

section Unnamed

variable (unnamed : ∀ entry ∈ template.build.params.entries,
  Placeholder.isGenerated entry.1 = true)

include unnamed

/-- Without parameters of the caller the entries are the generated ones, in order. -/
theorem bare_entries :
    template.build.params.entries.map (fun entry => Placeholder.bare entry.1) =
      (List.range template.build.params.next).map Placeholder.serial := by
  have all : template.build.params.generatedEntries = template.build.params.entries :=
    List.filter_eq_self.mpr unnamed
  rw [← all, template.generatedEntries_build, Placeholder.bare_numbered, template.next_build,
    List.range_eq_range']

/-- Without parameters of the caller every placeholder is a generated one. -/
theorem Readable.placeholderNames_build (readable : template.Readable) :
    placeholderNames template.build.sql =
      (List.range template.build.params.next).map Placeholder.serial := by
  have reserved : ∀ name ∈ placeholderNames template.build.sql,
      Placeholder.isReserved name = true := by
    intro name member
    obtain ⟨value, inEntries⟩ := readable.exists_mem_entries name member
    rw [← Placeholder.isGenerated_colon]
    exact unnamed _ inEntries
  rw [← List.filter_eq_self.mpr reserved, sql_build, readable.generated, template.next_build,
    List.range_eq_range']

/-- Without parameters of the caller the values in the order of the generated names are those
of the table. -/
theorem eq_values_of_serials {values : List Value}
    (bound : List.Forall₂ (fun name value => (":" ++ name, value) ∈ template.build.params.entries)
      ((List.range template.build.params.next).map Placeholder.serial) values) :
    values = template.build.params.entries.map (·.2) := by
  refine List.right_unique_forall₂' ?_ bound ?_
  · intro name first second isFirst isSecond
    exact template.sound_build.value_unique isFirst isSecond
  · rw [← bare_entries unnamed, List.forall₂_map_left_iff, List.forall₂_map_right_iff,
      List.forall₂_same]
    intro entry held
    obtain ⟨bareName, colon⟩ :=
      template.sound_build.colonNamed entry.1 (List.mem_map_of_mem held)
    rw [colon, Placeholder.bare_colon, ← colon]
    exact held

end Unnamed

end Template

/-- Rendered SQL is rewritten without an error. It consists of placeholders and of pieces
without a colon; the generated placeholders among them are those of the counter, each once
and in order. Each placeholder becomes the number of its name, the value at that number is the
one the table holds for it, and all else stays. Where the caller has bound nothing the numbers
are those of the generated names and the values those of the table. -/
theorem Statement.exists_toPositional_render {stmt : Statement} (reachable : stmt.Reachable)
    (quoting : Postgres.isQuote stmt.style.quote = true) (plain : stmt.writtenPass .plain = true) :
    let rendered := stmt.render.1
    ∃ (pieces : List Lexeme) (names : List String) (values : List Value),
      Legible pieces ∧ (∀ piece ∈ pieces, piece.isPlaceholder = false → ':' ∉ piece.text) ∧
      rendered.sql = String.ofList (pieces.flatMap Lexeme.text) ∧
      (pieces.filterMap Lexeme.name?).filter Placeholder.isReserved =
        (List.range rendered.params.next).map Placeholder.serial ∧
      names.Nodup ∧ (∀ name, name ∈ names ↔ name ∈ pieces.filterMap Lexeme.name?) ∧
      Postgres.toPositional rendered.sql rendered.params =
        .ok (String.ofList (pieces.flatMap (Lexeme.renumbered names)), values) ∧
      List.Forall₂ (fun name value => (":" ++ name, value) ∈ rendered.params.entries)
        names values ∧
      ((∀ entry ∈ rendered.params.entries, Placeholder.isGenerated entry.1 = true) →
        names = (List.range rendered.params.next).map Placeholder.serial ∧
          values = rendered.params.entries.map (·.2) ∧
          ∀ index < rendered.params.next,
            Lexeme.renumbered names (.placeholder (Placeholder.serial index).toList) =
              '$' :: Nat.toDigits 10 (index + 1)) := by
  intro rendered
  have isBuild : rendered = stmt.template.build := reachable.render_eq_build
  rw [isBuild]
  have readable := stmt.readable_template quoting plain
  have legible : Legible (Postgres.scan stmt.template.build.sql.toList) := by
    rw [Template.sql_build]
    exact readable.readable 0
  obtain ⟨values, rewritten, bound⟩ := readable.exists_toPositional_build
  refine ⟨Postgres.scan stmt.template.build.sql.toList,
    (placeholderNames stmt.template.build.sql).eraseDups, values, legible, ?_, ?_, ?_,
    Postgres.nodup_eraseDups _, fun name => List.mem_eraseDups, rewritten, bound, ?_⟩
  · exact fun piece member => (legible.settled piece member).colon_not_mem
  · rw [Postgres.flatMap_text_scan, String.ofList_toList]
  · have generated := readable.generated 0
    rw [← Template.sql_build] at generated
    rw [stmt.template.next_build, List.range_eq_range']
    exact generated
  · intro unnamed
    have distinct : (placeholderNames stmt.template.build.sql).eraseDups =
        (List.range stmt.template.build.params.next).map Placeholder.serial := by
      rw [readable.placeholderNames_build unnamed]
      exact Postgres.eraseDups_of_nodup (Postgres.nodup_serials _)
    rw [distinct] at bound ⊢
    exact ⟨rfl, Template.eq_values_of_serials unnamed bound,
      fun index below => Postgres.renumbered_serial below⟩

/-- A fragment with a parameter next to a nested select, a statement without either, and rows of
columns, of which the later ones are bound and not written. -/
theorem Statement.exists_toPositional_of_fragment :
    let fragment : Fragment :=
      { text := "age > :min", params := ⟨[(":min", .int 18)], 0⟩, callerNamed := by decide }
    let nested : Select := { Select.draft "staff" .standard with
      filter := [.equal "name" (.value (.text "':p9"))] }
    let select : Statement := .select { Select.draft "users" .postgres with
      filter := [.raw fragment, .among "id" [.select nested]] }
    let delete : Statement := .delete { Delete.draft "users" .postgres with
      filter := [.equal "id" (.value (.int 7)), .equal "name" (.value (.text ":p0"))] }
    let insert : Statement := .insert { Insert.draft "users" .standard with
      row := .many [.columns ["id", "name"], .columns ["it's", ":p9"]] }
    select.Reachable ∧ select.writtenPass .plain = true ∧ delete.Reachable ∧
      delete.writtenPass .plain = true ∧ insert.Reachable ∧ insert.writtenPass .plain = true ∧
      (∃ text values, Postgres.toPositional select.render.1.sql select.render.1.params =
        .ok (text, values)) ∧
      (∃ text, Postgres.toPositional delete.render.1.sql delete.render.1.params =
        .ok (text, [.int 7, .text ":p0"])) ∧
      ∃ text, Postgres.toPositional insert.render.1.sql insert.render.1.params =
        .ok (text, [.text "id", .text "name", .text "it's", .text ":p9"]) := by
  intro fragment nested select delete insert
  have selectReachable : select.Reachable := Builder.Reachable.start rfl
  have deleteReachable : delete.Reachable := Builder.Reachable.start rfl
  have insertReachable : insert.Reachable := Builder.Reachable.start rfl
  have selectPlain : select.writtenPass .plain = true := by decide
  have deletePlain : delete.writtenPass .plain = true := by decide
  have insertPlain : insert.writtenPass .plain = true := by decide
  obtain ⟨_, _, values, _, _, _, _, _, _, rewritten, _⟩ :=
    Statement.exists_toPositional_render selectReachable rfl selectPlain
  obtain ⟨_, _, _, _, _, _, _, _, _, ordered, _, generated⟩ :=
    Statement.exists_toPositional_render deleteReachable rfl deletePlain
  obtain ⟨_, _, _, _, _, _, _, _, _, inRows, _, generatedInRows⟩ :=
    Statement.exists_toPositional_render insertReachable rfl insertPlain
  rw [(generated (by decide)).2.1] at ordered
  rw [(generatedInRows (by decide)).2.1] at inRows
  exact ⟨selectReachable, selectPlain, deleteReachable, deletePlain, insertReachable, insertPlain,
    ⟨_, values, rewritten⟩, ⟨_, ordered⟩, _, inRows⟩

end SqlWright
