/-
The column of a type error. The column is told four times: the cause names it, the details have an
entry for it, and both the message and the text that is displayed end with it. The first annotation
writes all four of them and nothing else, whatever the error was made from, and a column that is
named is not named again. So the error names the first column that it is annotated with, be its name
empty, and agrees with itself, however many annotations follow.
-/

import CatalogReader.SchemaError

namespace CatalogReader

open CatalogReader.Text

/-! ### Details -/

namespace Details

theorem get?_cons (entry : String × Json) (rest : Details) (name : String) :
    Details.get? (entry :: rest) name =
      if name = entry.1 then some entry.2 else Details.get? rest name := by
  unfold get?
  rw [List.find?_cons]
  by_cases same : name = entry.1
  · rw [if_pos same, beq_iff_eq.mpr same.symm]
    rfl
  · rw [if_neg same, beq_eq_false_iff_ne.mpr (Ne.symm same)]

/-- An entry that is set is found, and no other one is changed by it. -/
theorem get?_set (details : Details) (name other : String) (value : Json) :
    (details.set name value).get? other =
      if other = name then some value else details.get? other := by
  induction details with
  | nil => exact get?_cons (name, value) [] other
  | cons entry rest inductionHypothesis =>
    obtain ⟨first, old⟩ := entry
    rw [set]
    split
    case isTrue same =>
      subst same
      rw [get?_cons, get?_cons]
      by_cases asked : other = first
      · rw [if_pos asked, if_pos asked]
      · rw [if_neg asked, if_neg asked, if_neg asked]
    case isFalse different =>
      rw [get?_cons, get?_cons, inductionHypothesis]
      by_cases asked : other = first
      · rw [if_pos asked, if_pos asked, if_neg (asked ▸ different)]
      · rw [if_neg asked, if_neg asked]

end Details

/-! ### Errors that are annotated -/

/-- The name that a type error blames: the tag of an element or the declared type. -/
def Cause.typeName? : Cause → Option (Option String)
  | unknownArrayElement typeName _ => some typeName
  | unrecognizedType typeName _ => some typeName
  | _ => none

/-- A cause that names a column is not given another one. -/
theorem Cause.named?_of_named {cause : Cause} {name : String}
    (named : cause.columnName? = some name) (other : Option String) :
    cause.named? other = none := by
  cases cause with
  | typeNormalization _ | unknownArrayElement _ _ | unrecognizedType _ _ =>
    cases named
    rfl
  | _ => rfl

/-- A cause that is given a column keeps its kind and the name that it blames. -/
theorem Cause.kept_of_named? {cause after : Cause} {name : String}
    (named : cause.named? (some name) = some after) :
    after.columnName? = some name ∧ after.kind = cause.kind ∧
      after.typeName? = cause.typeName? := by
  unfold named? at named
  split at named
  case h_4 => cases named
  all_goals
    cases named
    exact ⟨rfl, rfl, rfl⟩

namespace SchemaError

/-- What an error of type normalization is made from: a message, a code and details, all of them
free, or the name that is no type of its sort. -/
inductive TypeComplaint where
  | general (message code : Option String) (details : Details)
  | element (tag : Option String)
  | type (declared : Option String)

/-- The error that is made. -/
def TypeComplaint.error : TypeComplaint → SchemaError
  | general message code details => .ofTypeNormalization message code details
  | element tag => .unknownArrayElement tag
  | type declared => .unrecognizedType declared

/-- An error that differs from another one by the name of a column, told in all four places. What it
displays is its message, and so does the object that stands for it. -/
structure Annotated (before : SchemaError) (name : String) (after : SchemaError) : Prop where
  column : after.cause.columnName? = some name
  entry : after.details.get? "column_name" = some (.text name)
  message : after.message = some (before.text ++ (" (column " ++ quote name ++ ")"))
  displayed : after.message = some after.display
  object : after.toJson = .object [("code", Json.ofOption before.code),
    ("message", .text after.display), ("details", .object after.details)]
  code : after.code = before.code
  others : ∀ key, key ≠ "column_name" → after.details.get? key = before.details.get? key
  kind : after.kind = before.kind
  typeName : after.cause.typeName? = before.cause.typeName?

/-- An error whose column is named is not annotated again. -/
theorem annotate_of_named {error : SchemaError} {name : String}
    (named : error.cause.columnName? = some name) (other : Option String) :
    error.annotate other = error := by
  unfold annotate
  rw [Cause.named?_of_named named]

theorem foldl_annotate_of_named {error : SchemaError} {name : String}
    (named : error.cause.columnName? = some name) (others : List String) :
    others.foldl (fun error other => error.annotate (some other)) error = error := by
  induction others with
  | nil => rfl
  | cons other rest inductionHypothesis =>
    rw [List.foldl_cons, annotate_of_named named, inductionHypothesis]

/-- The first annotation names the column in all places and keeps the rest. -/
theorem annotated_annotate {error : SchemaError} {cause : Cause} {name : String}
    (named : error.cause.named? (some name) = some cause) :
    error.Annotated name (error.annotate (some name)) := by
  obtain ⟨column, kind, typeName⟩ := Cause.kept_of_named? named
  unfold annotate
  rw [named]
  refine ⟨column, ?_, rfl, rfl, rfl, rfl, fun key other => ?_, kind, typeName⟩
  · exact (Details.get?_set _ _ _ _).trans (if_pos rfl)
  · exact (Details.get?_set _ _ _ _).trans (if_neg other)

/-- An error of type normalization, whatever it is made from, ends up as its first annotation leaves
it, with this one column in its cause, its details, its message and the text it displays, and with
all else as it was made. -/
theorem annotated_by_first_column (complaint : TypeComplaint) (first : String)
    (others : List String) :
    (first :: others).foldl (fun error name => error.annotate (some name)) complaint.error =
        complaint.error.annotate (some first) ∧
      complaint.error.Annotated first (complaint.error.annotate (some first)) := by
  have annotated : complaint.error.Annotated first (complaint.error.annotate (some first)) := by
    cases complaint <;> exact annotated_annotate rfl
  refine ⟨?_, annotated⟩
  rw [List.foldl_cons, foldl_annotate_of_named annotated.column]

end SchemaError

end CatalogReader
