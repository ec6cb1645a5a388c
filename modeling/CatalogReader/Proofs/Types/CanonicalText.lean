/-
Canonical texts as a code for types. The text of an array is that of its element and a pair of
brackets, and no canonical spelling ends in brackets. So if the name at the core of a type is
neither a spelling nor ends in brackets, the text tells the type: the brackets at its end are those
of the arrays, and in front of them stands a spelling or a name. Read as a portable type, a text is
one only if it is the spelling of one; the text of an array never is, whatever is at its core.
-/

import CatalogReader.Catalog.TypeName

namespace CatalogReader

/-! ### Brackets at the end -/

/-- A text ends in a pair of brackets, as the texts of arrays do. -/
def EndsInBrackets (text : String) : Prop := "[]".toList <:+ text.toList

instance (text : String) : Decidable (EndsInBrackets text) :=
  inferInstanceAs (Decidable ("[]".toList <:+ text.toList))

theorem endsInBrackets_append (text : String) : EndsInBrackets (text ++ "[]") := by
  unfold EndsInBrackets
  rw [String.toList_append]
  exact List.suffix_append _ _

theorem append_brackets_inj {text other : String} (same : text ++ "[]" = other ++ "[]") :
    text = other := by
  have lists := congrArg String.toList same
  rw [String.toList_append, String.toList_append] at lists
  exact String.toList_injective (List.append_cancel_right lists)

theorem PortableType.not_endsInBrackets_spelling (type : PortableType) :
    ¬EndsInBrackets type.spelling := by
  cases type <;> decide

namespace ColumnType

/-! ### Distinctive types -/

/-- A type whose name at the core, if it has one there, is neither a canonical spelling nor ends in
brackets. -/
inductive IsDistinctive : ColumnType → Prop
  | portable (type : PortableType) : IsDistinctive (portable type)
  | array {element : ColumnType} (core : IsDistinctive element) : IsDistinctive (array element)
  | other {name : String} (unportable : ∀ type : PortableType, type.spelling ≠ name)
      (unbracketed : ¬EndsInBrackets name) : IsDistinctive (other name)

theorem exists_of_text?_array {element : ColumnType} {text : String}
    (written : (array element).text? = some text) :
    ∃ inner, element.text? = some inner ∧ text = inner ++ "[]" := by
  obtain ⟨inner, found, rfl⟩ := Option.map_eq_some_iff.mp written
  exact ⟨inner, found, rfl⟩

/-- The text of an array, whatever is at its core, is no canonical spelling. -/
theorem spelling_ne_of_array {element : ColumnType} {text : String}
    (written : (array element).text? = some text) (type : PortableType) : type.spelling ≠ text := by
  obtain ⟨inner, -, rfl⟩ := exists_of_text?_array written
  intro same
  exact type.not_endsInBrackets_spelling (same ▸ endsInBrackets_append inner)

theorem IsDistinctive.exists_text {type : ColumnType} (distinctive : type.IsDistinctive) :
    ∃ text, type.text? = some text := by
  induction distinctive with
  | portable type => exact ⟨type.spelling, rfl⟩
  | array _ inductionHypothesis =>
    obtain ⟨inner, written⟩ := inductionHypothesis
    exact ⟨inner ++ "[]", congrArg (Option.map (· ++ "[]")) written⟩
  | @other name => exact ⟨name, rfl⟩

/-- Only a portable type has the text of one. -/
theorem IsDistinctive.eq_portable {type : ColumnType} (distinctive : type.IsDistinctive)
    {portable : PortableType} (written : type.text? = some portable.spelling) :
    type = .portable portable := by
  cases distinctive with
  | portable type =>
    exact congrArg _ (PortableType.spelling_injective type portable (Option.some.inj written))
  | array => exact absurd rfl (spelling_ne_of_array written portable)
  | other unportable => exact absurd (Option.some.inj written).symm (unportable portable)

/-- Only an array has a text that ends in brackets. -/
theorem IsDistinctive.eq_array {type : ColumnType} (distinctive : type.IsDistinctive)
    {inner : String} (written : type.text? = some (inner ++ "[]")) :
    ∃ element, type = .array element ∧ element.IsDistinctive ∧ element.text? = some inner := by
  cases distinctive with
  | portable type =>
    refine absurd ?_ type.not_endsInBrackets_spelling
    exact (Option.some.inj written).symm ▸ endsInBrackets_append inner
  | @array element core =>
    obtain ⟨own, found, same⟩ := exists_of_text?_array written
    exact ⟨element, rfl, core, append_brackets_inj same ▸ found⟩
  | other _ unbracketed =>
    exact absurd ((Option.some.inj written).symm ▸ endsInBrackets_append inner) unbracketed

/-- The induction peels the brackets off both texts. -/
theorem IsDistinctive.eq_of_text? {left right : ColumnType} (first : left.IsDistinctive)
    (second : right.IsDistinctive) {text : String} (one : left.text? = some text)
    (two : right.text? = some text) : left = right := by
  induction first generalizing right text with
  | portable type =>
    obtain rfl := Option.some.inj one
    exact (second.eq_portable two).symm
  | array _ inductionHypothesis =>
    obtain ⟨inner, found, rfl⟩ := exists_of_text?_array one
    obtain ⟨element, rfl, core, same⟩ := second.eq_array two
    exact congrArg ColumnType.array (inductionHypothesis core found same)
  | other unportable unbracketed =>
    obtain rfl := Option.some.inj one
    cases second with
    | portable type => exact absurd (Option.some.inj two) (unportable type)
    | array =>
      obtain ⟨inner, -, rfl⟩ := exists_of_text?_array two
      exact absurd (endsInBrackets_append inner) unbracketed
    | other => exact congrArg _ two.symm

end ColumnType

/-! ### Texts read as portable types -/

namespace Catalog

theorem parseType_eq_ok_iff {word : Option String} {type : PortableType} :
    parseType word = .ok type ↔ word = some type.spelling := by
  unfold parseType
  constructor
  · intro read
    split at read
    · cases read
    case h_2 other found =>
      obtain ⟨text, rfl, spelled⟩ := Option.bind_eq_some_iff.mp found
      cases read
      rw [PortableType.spelling_of_ofSpelling? text type spelled]
  · rintro rfl
    rw [Option.bind_some, PortableType.ofSpelling?_spelling]

theorem parseType_of_unspelled {word : Option String}
    (unspelled : ∀ type : PortableType, word ≠ some type.spelling) :
    parseType word = .error (.unrecognizedType word) := by
  cases read : parseType word with
  | ok type => exact absurd (parseType_eq_ok_iff.mp read) (unspelled type)
  | error fault =>
    unfold parseType at read
    split at read
    · exact read.symm
    · cases read

end Catalog

open Catalog

/-- The canonical text is a faithful code. Distinctive types have texts, and types with one text are
one type. The text of a portable type is read as that type, and those of the others are refused by
an error that carries them, as are those of all arrays. What is read as a type is its text. -/
theorem text_tells_type :
    (∀ type : ColumnType, type.IsDistinctive → ∃ text, type.text? = some text) ∧
      (∀ left right : ColumnType, left.IsDistinctive → right.IsDistinctive →
        left.text? = right.text? → left = right) ∧
      (∀ type : PortableType, parseType (ColumnType.portable type).text? = .ok type) ∧
      (∀ (type : ColumnType) (text : String), type.IsDistinctive →
        (∀ portable, type ≠ .portable portable) → type.text? = some text →
          parseType text = .error (.unrecognizedType text)) ∧
      (∀ (element : ColumnType) (text : String), (ColumnType.array element).text? = some text →
        parseType text = .error (.unrecognizedType text)) ∧
      ∀ (word : Option String) (type : PortableType), parseType word = .ok type →
        (ColumnType.portable type).text? = word := by
  refine ⟨fun _ distinctive => distinctive.exists_text, fun left right first second same => ?_,
    fun _ => parseType_eq_ok_iff.mpr rfl, fun type text distinctive other written => ?_,
    fun element text written => ?_, fun _ _ read => (parseType_eq_ok_iff.mp read).symm⟩
  · obtain ⟨text, written⟩ := first.exists_text
    exact first.eq_of_text? second written (same ▸ written)
  · refine parseType_of_unspelled fun portable same => other portable ?_
    exact distinctive.eq_portable (written.trans same)
  · refine parseType_of_unspelled fun portable same => ?_
    exact ColumnType.spelling_ne_of_array written portable (Option.some.inj same).symm

/-- A spelling begins with this name, but it is none: two levels of arrays over it are told from
one, and their text is refused. -/
theorem text_tells_type_timestamp :
    (ColumnType.array (.array (.other "timestamp"))).IsDistinctive ∧
      (ColumnType.array (.other "timestamp")).IsDistinctive ∧
      (ColumnType.array (.array (.other "timestamp"))).text? ≠
        (ColumnType.array (.other "timestamp")).text? ∧
      parseType "timestamp[][]" = .error (.unrecognizedType "timestamp[][]") := by
  have core : (ColumnType.other "timestamp").IsDistinctive :=
    .other (fun type => by cases type <;> decide) (by decide)
  obtain ⟨-, tells, -, refuses, -⟩ := text_tells_type
  refine ⟨core.array.array, core.array, fun same => ?_, refuses _ _ core.array.array nofun rfl⟩
  cases tells _ _ core.array.array core.array same

end CatalogReader
