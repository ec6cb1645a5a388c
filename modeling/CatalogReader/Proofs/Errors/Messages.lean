/-
What the messages of row errors tell. The error of a row blames a word of the row: that of its
nullability, the tag of an array's element, or the declared type. It quotes this word and names the
column, so that both are free text inside one message, and a word may well look like the naming of a
column. Still the message tells them apart: how it begins says what the word was, a quoted word can
be read back to its closing quote whatever stands behind it, and what is left is the column.
-/

import CatalogReader.Proofs.Fetching.Assembly
import CatalogReader.Proofs.Text.Unquoting

namespace CatalogReader.Catalog

open CatalogReader.Text

/-! ### What is blamed -/

/-- The parts of a row that an error may blame. -/
inductive RowPart where
  | nullability
  | element
  | type
  deriving DecidableEq, Repr

/-- The word of a row that stands in a part. -/
def RowPart.word : RowPart → CatalogRow → Option String
  | nullability, row => row.nullability
  | element, row => row.typeName
  | type, row => row.dataType

/-- What the error of a row blames: a word, the part of the row that it was, and the column. In the
catalog each of the two texts may be missing. -/
structure Blame where
  part : RowPart
  word : Option String
  column : Option String
  deriving DecidableEq, Repr

/-- The error that blames this. An error of the type is annotated with the column. -/
def Blame.error : Blame → SchemaError
  | ⟨.nullability, word, column⟩ => .invalidNullability word column
  | ⟨.element, word, column⟩ => (SchemaError.unknownArrayElement word).annotate column
  | ⟨.type, word, column⟩ => (SchemaError.unrecognizedType word).annotate column

/-- Whatever is wrong with a row, its error blames a word of the row in the row's own column. -/
theorem exists_blame {row : CatalogRow} {error : SchemaError}
    (failed : columnOfRow row = .error error) :
    ∃ part : RowPart, error = Blame.error ⟨part, part.word row, row.columnName⟩ := by
  unfold columnOfRow at failed
  split at failed
  case h_1 =>
    cases failed
    exact ⟨.nullability, rfl⟩
  case h_2 =>
    split at failed
    case h_1 reason refused =>
      cases failed
      rw [eq_of_normalizeType refused]
      split
      · exact ⟨.element, rfl⟩
      · exact ⟨.type, rfl⟩
    case h_2 => cases failed

/-! ### The parts of a message -/

/-- How messages begin that blame a part of a row. -/
def RowPart.lead : RowPart → String
  | nullability => "Unexpected is_nullable value: "
  | element => "Unknown array element type: "
  | type => "Unrecognized data type: "

/-- How messages end that name a column. A missing column is not named for the nullability. -/
def RowPart.ending : RowPart → Option String → String
  | nullability, none => ""
  | _, column => SchemaError.columnSuffix column

theorem message_error (blame : Blame) :
    blame.error.message =
      some (blame.part.lead ++ quoteOption blame.word ++ blame.part.ending blame.column) := by
  obtain ⟨part, word, column⟩ := blame
  cases part with
  | nullability =>
    cases column with
    | none => exact congrArg some String.append_empty.symm
    | some name => rfl
  | element => rfl
  | type => rfl

/-- The third letter of a message tells which part of the row it blames. -/
theorem lead_append_inj {first second : RowPart} {rest others : List Char}
    (same : first.lead.toList ++ rest = second.lead.toList ++ others) :
    first = second ∧ rest = others := by
  have third (part : RowPart) (behind : List Char) :
      (part.lead.toList ++ behind)[2]? = part.lead.toList[2]? := by
    cases part <;> rfl
  have letters : first.lead.toList[2]? = second.lead.toList[2]? := by
    rw [← third first rest, same, third]
  have alike : first = second := by
    cases first <;> cases second
    case nullability.nullability | element.element | type.type => rfl
    all_goals exact absurd letters (by decide)
  subst alike
  exact ⟨rfl, List.append_cancel_left same⟩

theorem columnSuffix_inj {first second : Option String}
    (same : SchemaError.columnSuffix first = SchemaError.columnSuffix second) : first = second := by
  have texts := congrArg String.toList same
  simp only [SchemaError.columnSuffix, String.toList_append, List.append_assoc] at texts
  exact (quoteOption_append_inj.mp (List.append_cancel_left texts)).1

theorem ending_inj {part : RowPart} {first second : Option String}
    (same : part.ending first = part.ending second) : first = second := by
  have filled (column : Option String) : SchemaError.columnSuffix column ≠ "" := by
    intro empty
    have text := congrArg String.toList empty
    simp [SchemaError.columnSuffix] at text
  cases part with
  | nullability =>
    cases first <;> cases second
    · rfl
    · exact absurd same.symm (filled _)
    · exact absurd same (filled _)
    · exact columnSuffix_inj same
  | element => exact columnSuffix_inj same
  | type => exact columnSuffix_inj same

/-! ### Messages -/

/-- The message of a row's error tells what the error blames, for whatever words and columns. Two
such errors have one message only if the same word is blamed, as the same part of a row, in the
same column; and every error that the rows of a catalog can end with is one of these. -/
theorem row_messages_tell_blame :
    (∀ first second : Blame, first.error.message = second.error.message ↔ first = second) ∧
      ∀ row error, columnOfRow row = .error error →
        ∃ part : RowPart, error = Blame.error ⟨part, part.word row, row.columnName⟩ := by
  refine ⟨fun first second => ⟨fun same => ?_, fun same => by rw [same]⟩, fun _ _ => exists_blame⟩
  rw [message_error, message_error] at same
  have texts := congrArg String.toList (Option.some.inj same)
  simp only [String.toList_append, List.append_assoc] at texts
  obtain ⟨parts, behind⟩ := lead_append_inj texts
  obtain ⟨words, endings⟩ := quoteOption_append_inj.mp behind
  rw [parts] at endings
  have columns := ending_inj (String.toList_injective endings)
  obtain ⟨part, word, column⟩ := first
  cases parts
  cases words
  cases columns
  rfl

end CatalogReader.Catalog
