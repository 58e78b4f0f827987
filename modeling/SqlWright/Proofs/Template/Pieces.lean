import SqlWright.Proofs.Template.Texts
/-! A template flattened to the pieces of its text, those of nested statements among them. Writing
the pieces from left to right over one table gives the text and the table of the template: a
nested statement that is written in a fork, which is then absorbed, leaves what writing it in
place leaves. -/
namespace SqlWright

/-- A piece of the text of a statement. -/
inductive Piece where
  | text (literal : String)
  | scalar (value : Value)
  | fragment (source : Fragment)

namespace Piece

/-- Write a piece behind a text and over its table: a scalar takes the next generated name, and
the parameters of a fragment take the place of those with their names or the place at the end. -/
def write (written : Rendered) : Piece → Rendered
  | .text literal => ⟨written.sql ++ literal, written.params⟩
  | .scalar value =>
    let (name, params) := written.params.allocate value
    ⟨written.sql ++ name, params⟩
  | .fragment source => ⟨written.sql ++ source.text, written.params.setAll source.params.entries⟩

def writeAll (written : Rendered) (pieces : List Piece) : Rendered := pieces.foldl write written

/-- Nothing but semicolons is written. -/
def onlyTerminators : Piece → Bool
  | .text literal => literal.toList.all (· = ';')
  | .scalar _ => false
  | .fragment source => source.text.toList.all (· = ';')

/-- The piece without the semicolons at its end. A fragment keeps its parameters. -/
def trimmed : Piece → Piece
  | .text literal => .text (dropTerminators literal)
  | .scalar value => .scalar value
  | .fragment source => .fragment { source with text := dropTerminators source.text }

/-- Pieces without the semicolons at the end of all they write. -/
def trimmedAll : List Piece → List Piece
  | [] => []
  | piece :: rest =>
    (if rest.all onlyTerminators then piece.trimmed else piece) :: trimmedAll rest

end Piece

/-- The pieces of a template in the order of its text. -/
def Template.pieces : Template → List Piece
  | .text literal => [.text literal]
  | .scalar value => [.scalar value]
  | .fragment source => [.fragment source]
  | .notice _ => []
  | .append first second => first.pieces ++ second.pieces
  | .nested body => Piece.trimmedAll body.pieces

/-- Semicolons are dropped from the second of two texts, and from the first if there is nothing
else in the second. -/
theorem dropTerminators_append_eq_ite (first second : String) :
    dropTerminators (first ++ second) = if second.toList.all (· = ';') then dropTerminators first
      else first ++ dropTerminators second := by
  apply String.toList_injective
  have emptied : (second.toList.reverse.dropWhile (· = ';')).isEmpty =
      second.toList.all (· = ';') := by
    rw [Bool.eq_iff_iff, List.isEmpty_iff, List.dropWhile_eq_nil_iff]
    simp
  simp only [dropTerminators, String.toList_append, List.reverse_append, List.dropWhile_append,
    emptied]
  split <;> simp

namespace Piece

/-- What is written is put behind the text that is there, which plays no part otherwise. -/
theorem write_behind (sql : String) (table : Table) (piece : Piece) :
    piece.write ⟨sql, table⟩ =
      ⟨sql ++ (piece.write ⟨"", table⟩).sql, (piece.write ⟨"", table⟩).params⟩ := by
  cases piece <;> simp [write]

theorem writeAll_cons (written : Rendered) (piece : Piece) (rest : List Piece) :
    writeAll written (piece :: rest) = writeAll (piece.write written) rest := rfl

theorem writeAll_append (written : Rendered) (first second : List Piece) :
    writeAll written (first ++ second) = writeAll (writeAll written first) second :=
  List.foldl_append

theorem writeAll_behind (sql : String) (table : Table) (pieces : List Piece) :
    writeAll ⟨sql, table⟩ pieces =
      ⟨sql ++ (writeAll ⟨"", table⟩ pieces).sql, (writeAll ⟨"", table⟩ pieces).params⟩ := by
  induction pieces generalizing sql table with
  | nil => simp [writeAll]
  | cons piece rest ih =>
    rw [writeAll_cons, writeAll_cons, write_behind, ih, ih (piece.write ⟨"", table⟩).sql,
      String.append_assoc]

/-- A placeholder is written for a scalar, so whether there are only semicolons can be told
without a table. -/
theorem all_writeAll (table : Table) (pieces : List Piece) :
    (writeAll ⟨"", table⟩ pieces).sql.toList.all (· = ';') = pieces.all onlyTerminators := by
  induction pieces generalizing table with
  | nil => rfl
  | cons piece rest ih =>
    have own : (piece.write ⟨"", table⟩).sql.toList.all (· = ';') = piece.onlyTerminators := by
      cases piece with
      | text literal => simp [write, onlyTerminators]
      | scalar value =>
        simp [write, onlyTerminators, Table.allocate, Placeholder.toList_generated]
      | fragment source => simp [write, onlyTerminators]
    rw [writeAll_cons, writeAll_behind, String.toList_append, List.all_append, own, ih,
      List.all_cons]

theorem write_trimmed (table : Table) (piece : Piece) : piece.trimmed.write ⟨"", table⟩ =
    ⟨dropTerminators (piece.write ⟨"", table⟩).sql, (piece.write ⟨"", table⟩).params⟩ := by
  cases piece with
  | text literal => simp [write, trimmed]
  | scalar value =>
    obtain ⟨digit, ends, other⟩ := Placeholder.getLast?_generated table.next
    have kept := dropTerminators_append "" ends other
    rw [String.append_empty, show dropTerminators "" = "" from rfl, String.append_empty] at kept
    simp [write, trimmed, Table.allocate, kept]
  | fragment source => simp [write, trimmed]

/-- Trimmed pieces write the trimmed text and leave the same table. -/
theorem writeAll_trimmedAll (table : Table) (pieces : List Piece) :
    writeAll ⟨"", table⟩ (trimmedAll pieces) = ⟨dropTerminators (writeAll ⟨"", table⟩ pieces).sql,
      (writeAll ⟨"", table⟩ pieces).params⟩ := by
  induction pieces generalizing table with
  | nil => rfl
  | cons piece rest ih =>
    have later := all_writeAll (piece.write ⟨"", table⟩).params rest
    rw [trimmedAll, writeAll_cons, writeAll_cons, writeAll_behind (piece.write ⟨"", table⟩).sql,
      dropTerminators_append_eq_ite, later]
    by_cases last : rest.all onlyTerminators = true
    · rw [if_pos last, if_pos last, write_trimmed, writeAll_behind, ih]
      have nothing := (dropTerminators_eq_empty_iff _).2 (by simpa using later.trans last)
      rw [nothing, String.append_empty]
    · rw [if_neg last, if_neg last, writeAll_behind, ih]

end Piece

namespace Template

variable {table : Table}

theorem fresh_emit (template : Template) (fresh : table.Fresh) : (template.emit table).2.Fresh := by
  rw [emit_table fresh]
  exact fresh.bindAll template.callerNamed_bindings

/-- Written in a fork that is absorbed, a statement leaves what it leaves written in place. -/
theorem emit_nested (body : Template) (fresh : table.Fresh) :
    (nested body).emit table = (dropTerminators (body.emit table).1, (body.emit table).2) := by
  have text : (body.emit table.fork).1 = (body.emit table).1 := by
    rw [text_emit, text_emit]
    rfl
  have params : ((nested body).emit table).2 = (body.emit table).2 := by
    rw [emit_table fresh, emit_table fresh, bindings]
  exact Prod.ext (congrArg dropTerminators text) params

/-- Writing a template is writing its pieces. -/
theorem writeAll_pieces (template : Template) (fresh : table.Fresh) :
    Piece.writeAll ⟨"", table⟩ template.pieces =
      ⟨(template.emit table).1, (template.emit table).2⟩ := by
  induction template generalizing table with
  | text literal => simp [emit, pieces, Piece.writeAll, Piece.write]
  | scalar value => simp [emit, pieces, Piece.writeAll, Piece.write]
  | fragment source => simp [emit, pieces, Piece.writeAll, Piece.write]
  | notice dropped => rfl
  | append first second firstIh secondIh =>
    rw [pieces, Piece.writeAll_append, firstIh fresh, Piece.writeAll_behind,
      secondIh (first.fresh_emit fresh)]
    rfl
  | nested body ih =>
    rw [pieces, Piece.writeAll_trimmedAll, ih fresh, emit_nested body fresh]

theorem build_eq_writeAll (template : Template) :
    template.build = Piece.writeAll ⟨"", {}⟩ template.pieces :=
  (template.writeAll_pieces Table.sound_empty.fresh).symm

end Template

end SqlWright
