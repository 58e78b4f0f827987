import Mathlib.Data.List.Find
import SqlWright.Proofs.Keyed.History
import SqlWright.Proofs.Placeholder.Snapshot
import SqlWright.Proofs.Statement.Lifecycle
import SqlWright.Proofs.Template.Pieces
/-! One placeholder table for a whole statement. A select that is merged leaves what writing it in
place leaves, so a rendered statement is its pieces written from left to right, and its table is
told by what they bring: a name stands where it was brought first, with the value that it was
brought with last. -/
namespace SqlWright

namespace Table

variable {table : Table} {entries : List (String × Value)} {name other : String} {value : Value}

theorem valueIn_putAt : valueIn (Keyed.putAt (fun entry => some entry.1) other (other, value)
    entries) name = if other = name then some value else valueIn entries name := by
  induction entries with
  | nil => rw [Keyed.putAt, valueIn_cons]
  | cons first rest ih =>
    unfold Keyed.putAt
    by_cases same : first.1 = other
    · rw [if_pos (congrArg some same), valueIn_cons, valueIn_cons, same]
      split_ifs <;> rfl
    · rw [if_neg (mt Option.some.inj same), valueIn_cons, valueIn_cons, ih]
      split_ifs with isFirst isOther
      · exact absurd (isFirst.trans isOther.symm) same
      · rfl
      · rfl
      · rfl

/-- Of the entries with a name the last one counts. -/
theorem valueIn_lastOfEach (added : List (String × Value)) (name : String) :
    valueIn (Keyed.lastOfEach (fun entry => some entry.1) [] added) name =
      valueIn added.reverse name := by
  induction added using List.reverseRecOn with
  | nil => rfl
  | append_singleton added entry ih =>
    rw [Keyed.lastOfEach_concat, Keyed.put, valueIn_putAt, ih, List.reverse_append]
    exact valueIn_cons.symm

/-- A table is looked into for a name by the one spelling that its names have. -/
theorem Sound.get?_eq_valueIn (sound : table.Sound) (name : String) :
    table.get? name = valueIn table.entries (":" ++ Placeholder.bare name) := by
  have sameSpelling : table.entries.find? (fun entry =>
      Placeholder.bare entry.1 = Placeholder.bare name) =
        table.entries.find? fun entry => entry.1 = ":" ++ Placeholder.bare name := by
    refine List.find?_congr fun entry member => ?_
    obtain ⟨bareName, spelled⟩ := sound.colonNamed entry.1 (List.mem_map_of_mem member)
    rw [decide_eq_decide, spelled, Placeholder.bare_colon, String.append_right_inj]
  rw [get?, sameSpelling, valueIn]

end Table

namespace Piece

/-- The entries that pieces bring to a table with this counter, in the order of the text: a scalar
under the next generated name, and the parameters of a fragment under their own names. -/
def brought : Nat → List Piece → List (String × Value)
  | _, [] => []
  | next, .text _ :: rest => brought next rest
  | next, .scalar value :: rest => (Placeholder.generated next, value) :: brought (next + 1) rest
  | next, .fragment source :: rest => source.params.entries ++ brought next rest

variable {sql : String} {table : Table}

theorem fresh_write (fresh : table.Fresh) (piece : Piece) :
    (piece.write ⟨sql, table⟩).params.Fresh := by
  cases piece with
  | text literal => exact fresh
  | scalar value => exact Template.fresh_emit (.scalar value) fresh
  | fragment source => exact Template.fresh_emit (.fragment source) fresh

theorem fresh_writeAll (fresh : table.Fresh) (pieces : List Piece) :
    (writeAll ⟨sql, table⟩ pieces).params.Fresh := by
  induction pieces generalizing sql table with
  | nil => exact fresh
  | cons piece rest ih => exact ih (fresh_write fresh piece)

/-- Pieces put what they bring into a table, one entry after the other: that of a scalar comes to
the end, because no table met on the way has its name. -/
theorem entries_writeAll (fresh : table.Fresh) (pieces : List Piece) :
    (writeAll ⟨sql, table⟩ pieces).params.entries =
      Keyed.putAll (fun entry => some entry.1) table.entries (brought table.next pieces) := by
  induction pieces generalizing sql table with
  | nil => rfl
  | cons piece rest ih =>
    have stillFresh : (piece.write ⟨sql, table⟩).params.Fresh := fresh_write fresh piece
    calc (writeAll ⟨sql, table⟩ (piece :: rest)).params.entries
        = Keyed.putAll (fun entry => some entry.1) (piece.write ⟨sql, table⟩).params.entries
            (brought (piece.write ⟨sql, table⟩).params.next rest) := ih stillFresh
      _ = Keyed.putAll (fun entry => some entry.1) table.entries
            (brought table.next (piece :: rest)) := by
          cases piece with
          | text literal => rfl
          | scalar value =>
            have new := Table.set_absent value (fresh table.next (Nat.le_refl _))
            exact congrArg (fun put => Keyed.putAll _ put (brought (table.next + 1) rest))
              (congrArg Table.entries new).symm
          | fragment source =>
            have step : table.setAll source.params.entries = { table with entries := _ } :=
              Table.setAll_eq_putAll source.params.entries
            simp only [write, brought, step, Keyed.putAll, List.foldl_append]

end Piece

namespace Statement

/-- A select merged through a fork leaves the table, and up to terminators at its end the text,
that writing it straight into the table leaves. So a rendered statement is its pieces, those of
nested selects among them, written one after the other over one table in which no name is taken
from the counter on. A name stands in the table where it was brought first, and wherever it is
used it means the value that was brought with it last. -/
theorem merging_threads_one_table :
    (∀ (select : Select) (style : Style) (table : Table), table.Fresh →
      let direct := (select.template style).emit table
      (Template.nested (select.template style)).emit table =
        (dropTerminators direct.1, direct.2)) ∧
    ∀ stmt : Statement, stmt.Reachable →
      let pieces := stmt.template.pieces
      let brought := Piece.brought 0 pieces
      stmt.render.1 = pieces.foldl Piece.write ⟨"", {}⟩ ∧
      (∀ count, ((pieces.take count).foldl Piece.write ⟨"", {}⟩).params.Fresh) ∧
      stmt.render.1.params.entries = Keyed.lastOfEach (fun entry => some entry.1) [] brought ∧
      ∀ name, stmt.render.1.params.get? name =
        Table.valueIn brought.reverse (":" ++ Placeholder.bare name) := by
  refine ⟨fun select style table fresh => (select.template style).emit_nested fresh, ?_⟩
  intro stmt reachable pieces brought
  have build := reachable.render_eq_build
  have written : stmt.render.1 = Piece.writeAll ⟨"", {}⟩ pieces :=
    build.trans stmt.template.build_eq_writeAll
  have empty : ({} : Table).Fresh := Table.sound_empty.fresh
  have entries : stmt.render.1.params.entries =
      Keyed.lastOfEach (fun entry => some entry.1) [] brought := by
    have replayed := @Keyed.lastOfEach_append _ _ _ (fun entry : String × Value => some entry.1)
      brought []
    rw [written, Piece.entries_writeAll empty]
    exact replayed.symm
  refine ⟨written, fun count => Piece.fresh_writeAll empty (pieces.take count), entries, ?_⟩
  intro name
  have sound : stmt.render.1.params.Sound := build ▸ stmt.template.sound_build
  rw [sound.get?_eq_valueIn, entries, Table.valueIn_lastOfEach]

/-- One name in an assignment, in a nested select and behind it: the last of its three values is
bound, in the place that the first one took. -/
theorem merging_threads_one_table_of_shared_name :
    let raw (text : String) (n : Int64) : Fragment :=
      { text, params := ⟨[(":bump", .int n)], 0⟩, callerNamed := by
          intro entry member
          rw [List.mem_singleton.1 member]
          exact (by decide : Placeholder.isCallerName ":bump" = true) }
    let part : Select := { Select.draft "staff" .standard with
      filter := [.raw (raw "age > :bump" 2), .equal "id" (.value (.int 7))] }
    let table : Table := ⟨[(":bump", .int 0), (":p0", .null)], 1⟩
    let stmt : Statement := .update { Update.draft "users" .standard with
      assignments := [("score", .fragment (raw ":bump + 1" 1))]
      filter := [.subSelect "id" part, .raw (raw "rank < :bump" 3)] }
    table.Fresh ∧ stmt.Reachable ∧
      ((Template.nested (part.template .standard)).emit table).2 =
        ⟨[(":bump", .int 2), (":p0", .null), (":p1", .int 7)], 2⟩ ∧
      stmt.render.1.params.entries = [(":bump", .int 3), (":p0", .int 7)] ∧
      stmt.render.1.params.get? "bump" = some (.int 3) := by
  intro raw part table stmt
  have fresh : table.Fresh := by
    have bound : table = ({} : Table).bindAll [.named ":bump" (.int 0), .scalar .null] := by decide
    rw [bound]
    refine Table.sound_empty.fresh.bindAll ?_
    have named : Placeholder.isCallerName ":bump" = true := by decide
    simp only [List.forall_mem_cons]
    exact ⟨named, trivial, by simp⟩
  have reachable : stmt.Reachable := Builder.Reachable.start rfl
  obtain ⟨merging, rendering⟩ := merging_threads_one_table
  obtain ⟨-, -, entries, value⟩ := rendering stmt reachable
  refine ⟨fresh, reachable, ?_, entries.trans (by decide), (value "bump").trans (by decide)⟩
  exact (congrArg Prod.snd (merging part .standard table fresh)).trans (by decide)

end Statement

end SqlWright
