/-
Types of columns from what the catalog says about them. Four rules accept declared types: the two
sentinels, the built-in types without a portable equivalent, and the canonical spellings. The words
that they accept are all different, so the order in which the rules are tried is of no consequence.
Under the sentinels the name of the underlying type counts, and nowhere else.
-/

import CatalogReader.Catalog.Conversion
import CatalogReader.Proofs.Types.CanonicalText

namespace CatalogReader.Catalog

/-! ### Rules -/

/-- The rules by which a declared type is accepted. -/
inductive TypeRule where
  /-- The type is an array. -/
  | array
  /-- A user defined the type. -/
  | userDefined
  /-- The type is built in and has no portable equivalent. -/
  | builtin
  /-- The type is portable. -/
  | canonical
  deriving DecidableEq

namespace TypeRule

/-- The declared types that a rule accepts. -/
def words : TypeRule → List String
  | array => ["ARRAY"]
  | userDefined => ["USER-DEFINED"]
  | builtin => ["interval", "name", "oid", "regclass", "regtype"]
  | canonical => PortableType.all.map PortableType.spelling

/-- No declared type is accepted by two rules. -/
theorem eq_of_mem_words {rule other : TypeRule} {word : String} (one : word ∈ rule.words)
    (two : word ∈ other.words) : rule = other := by
  have apart : ∀ found ∈ rule.words, found ∈ other.words → rule = other := by
    cases rule <;> cases other <;> decide
  exact apart word one two

theorem spelling_mem_words (type : PortableType) : type.spelling ∈ canonical.words :=
  List.mem_map_of_mem (PortableType.mem_all type)

end TypeRule

open TypeRule

/-! ### Arrays -/

theorem elementOfTag?_eq_some_iff {tag : String} {element : PortableType} :
    elementOfTag? tag = some element ↔ (tag, element) ∈ arrayElements := by
  constructor
  · intro found
    obtain ⟨⟨other, _⟩, listed, rfl⟩ := Option.map_eq_some_iff.mp found
    have same := List.find?_some listed
    obtain rfl : other = tag := beq_iff_eq.mp same
    exact List.mem_of_find?_eq_some listed
  · have every : ∀ entry ∈ arrayElements, elementOfTag? entry.1 = some entry.2 := by decide
    exact every (tag, element)

/-- Different tags stand for different elements. -/
theorem tag_eq_of_mem_arrayElements {tag other : String} {element : PortableType}
    (one : (tag, element) ∈ arrayElements) (two : (other, element) ∈ arrayElements) :
    tag = other := by
  have apart : ∀ first ∈ arrayElements, ∀ second ∈ arrayElements, first.2 = second.2 →
      first.1 = second.1 := by decide
  exact apart _ one _ two rfl

theorem normalizeType_array (name : Option String) :
    normalizeType "ARRAY" name =
      match name.bind elementOfTag? with
      | none => .error (.unknownArrayElement name)
      | some element => .ok (.array (.portable element)) := rfl

theorem normalizeType_array_eq_ok_iff {name : Option String} {type : ColumnType} :
    normalizeType "ARRAY" name = .ok type ↔
      ∃ tag element, (tag, element) ∈ arrayElements ∧ name = some tag ∧
        type = .array (.portable element) := by
  rw [normalizeType_array]
  cases found : name.bind elementOfTag? with
  | none =>
    refine ⟨nofun, ?_⟩
    rintro ⟨tag, element, listed, rfl, -⟩
    rw [Option.bind_some, elementOfTag?_eq_some_iff.mpr listed] at found
    cases found
  | some element =>
    obtain ⟨tag, rfl, listed⟩ := Option.bind_eq_some_iff.mp found
    refine ⟨fun same => ?_, ?_⟩
    · exact ⟨tag, element, elementOfTag?_eq_some_iff.mp listed, rfl, (Except.ok.inj same).symm⟩
    · rintro ⟨other, stands, inTable, same, rfl⟩
      obtain rfl := Option.some.inj same
      have again := elementOfTag?_eq_some_iff.mpr inTable
      rw [Option.some.inj (listed.symm.trans again)]

theorem normalizeType_array_of_error {name : Option String} {fault : SchemaError}
    (failed : normalizeType "ARRAY" name = .error fault) : fault = .unknownArrayElement name := by
  rw [normalizeType_array] at failed
  split at failed
  · exact (Except.error.inj failed).symm
  · cases failed

/-! ### Other declared types -/

/-- The declared type is no sentinel. -/
def Unsentineled (declared : Option String) : Prop :=
  declared ≠ some "ARRAY" ∧ declared ≠ some "USER-DEFINED"

theorem normalizeType_of_unsentineled {declared : Option String} (plain : Unsentineled declared)
    (name : Option String) :
    normalizeType declared name =
      match declared with
      | none => .error (.unrecognizedType none)
      | some word =>
        if word ∈ builtin.words then .ok (.other word)
        else (parseType word).map ColumnType.portable := by
  cases declared with
  | none => rfl
  | some word =>
    have noArray : word ≠ arraySentinel := fun same => plain.1 (congrArg some same)
    have noUser : word ≠ userDefinedSentinel := fun same => plain.2 (congrArg some same)
    unfold normalizeType parseType
    dsimp only [Option.bind_some]
    rw [if_neg noArray, if_neg noUser]
    show (if word ∈ builtin.words then _ else _) = _
    cases PortableType.ofSpelling? word <;> rfl

/-- What is accepted without a sentinel is no array and has the declared type for its text; what is
not accepted is told in the error. -/
theorem normalizeType_cases {declared : Option String} (plain : Unsentineled declared)
    (name : Option String) :
    (∃ word type, word ∈ builtin.words ++ canonical.words ∧ declared = some word ∧
        normalizeType declared name = .ok type ∧ (∀ element, type ≠ .array element) ∧
        type.text? = declared) ∨
      ((∀ word ∈ builtin.words ++ canonical.words, declared ≠ some word) ∧
        normalizeType declared name = .error (.unrecognizedType declared)) := by
  rw [normalizeType_of_unsentineled plain]
  cases declared with
  | none => exact Or.inr ⟨nofun, rfl⟩
  | some word =>
    dsimp only
    by_cases known : word ∈ builtin.words
    · rw [if_pos known]
      exact Or.inl ⟨word, _, List.mem_append_left _ known, rfl, rfl, nofun, rfl⟩
    rw [if_neg known]
    by_cases spelled : ∃ type : PortableType, type.spelling = word
    · obtain ⟨type, rfl⟩ := spelled
      rw [parseType_eq_ok_iff.mpr rfl]
      exact Or.inl ⟨_, _, List.mem_append_right _ (spelling_mem_words type), rfl, rfl, nofun, rfl⟩
    · have unspelled : word ∉ canonical.words := fun member =>
        spelled ((List.mem_map.mp member).imp fun _ => And.right)
      rw [parseType_of_unspelled fun type same => spelled ⟨type, (Option.some.inj same).symm⟩]
      refine Or.inr ⟨fun other member same => ?_, rfl⟩
      obtain rfl := Option.some.inj same
      exact (List.mem_append.mp member).elim known unspelled

/-- How a declared type is normalized. The schema of the underlying type never counts, and its name
only under the two sentinels. Arrays are of one level, over the portable type that the name is the
tag of, and different tags are those of different types; any other name is told in the error. Types
that users defined keep their name. Every other declared type is a built-in one or a canonical
spelling, and then it is the text of the column type, which is no array, or it is told in the error.
No declared type is accepted by two rules. -/
theorem normalizeType_follows_rules :
    (∀ (row : CatalogRow) (schema : Option String),
        columnOfRow { row with typeSchema := schema } = columnOfRow row) ∧
      (∀ declared name other, Unsentineled declared →
        normalizeType declared name = normalizeType declared other) ∧
      (∀ name, (∃ tag element, (tag, element) ∈ arrayElements ∧ name = some tag ∧
          normalizeType "ARRAY" name = .ok (.array (.portable element))) ∨
        ((∀ entry ∈ arrayElements, name ≠ some entry.1) ∧
          normalizeType "ARRAY" name = .error (.unknownArrayElement name))) ∧
      (∀ name other type, normalizeType "ARRAY" name = .ok type →
        normalizeType "ARRAY" other = .ok type → name = other) ∧
      (∀ name, normalizeType "USER-DEFINED" name = .ok (.other name)) ∧
      (∀ declared name, Unsentineled declared →
        (∃ word type, word ∈ builtin.words ++ canonical.words ∧ declared = some word ∧
            normalizeType declared name = .ok type ∧ (∀ element, type ≠ .array element) ∧
            type.text? = declared) ∨
          ((∀ word ∈ builtin.words ++ canonical.words, declared ≠ some word) ∧
            normalizeType declared name = .error (.unrecognizedType declared))) ∧
      ∀ (word : String) (rule other : TypeRule), word ∈ rule.words → word ∈ other.words →
        rule = other := by
  refine ⟨fun _ _ => rfl, fun declared name other plain => ?_, fun name => ?_,
    fun name other type one two => ?_, fun _ => rfl,
    fun _ name plain => normalizeType_cases plain name, fun _ _ _ => eq_of_mem_words⟩
  · rw [normalizeType_of_unsentineled plain, normalizeType_of_unsentineled plain]
  · cases read : normalizeType "ARRAY" name with
    | ok type =>
      obtain ⟨tag, element, listed, named, rfl⟩ := normalizeType_array_eq_ok_iff.mp read
      exact Or.inl ⟨tag, element, listed, named, rfl⟩
    | error fault =>
      refine Or.inr ⟨fun entry listed named => ?_, ?_⟩
      · rw [normalizeType_array_eq_ok_iff.mpr ⟨entry.1, entry.2, listed, named, rfl⟩] at read
        cases read
      · rw [normalizeType_array_of_error read]
  · obtain ⟨tag, element, listed, rfl, rfl⟩ := normalizeType_array_eq_ok_iff.mp one
    obtain ⟨second, found, among, rfl, same⟩ := normalizeType_array_eq_ok_iff.mp two
    obtain rfl : element = found := ColumnType.portable.inj (ColumnType.array.inj same)
    exact congrArg some (tag_eq_of_mem_arrayElements listed among)

/-- A type that the catalog knows and no rule accepts is refused under every name. -/
theorem normalizeType_follows_rules_money :
    Unsentineled (some "money") ∧
      (∀ name, normalizeType "money" name = .error (.unrecognizedType "money")) ∧
      normalizeType "USER-DEFINED" none = .ok (.other none) ∧ "ARRAY" ∉ canonical.words := by
  have plain : Unsentineled (some "money") := ⟨by decide, by decide⟩
  obtain ⟨-, -, -, -, kept, decided, apart⟩ := normalizeType_follows_rules
  refine ⟨plain, fun name => ?_, kept none, fun member => ?_⟩
  · rcases decided (some "money") name plain with ⟨word, -, known, same, -⟩ | ⟨-, refused⟩
    · obtain rfl := Option.some.inj same
      exact absurd known (by decide)
    · exact refused
  · cases apart "ARRAY" .array .canonical List.mem_cons_self member

end CatalogReader.Catalog
