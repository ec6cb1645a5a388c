/-
What loading the settings guarantees. Of the three sources the first one that speaks of a setting
decides: values given directly go before the environment, and the environment before the file. The
settings load when every value that is given converts, and a setting that nothing gives has its
default. Otherwise loading reports every setting that cannot be used, each once and in the order of
the settings.

A look-up is read as a relation first. Each source is a list, and the entry that counts is found by
the split of the list around it: the first entry of the direct values, the last one of a list of
variables.
-/

import CatalogReader.Proofs.Settings.Numbers
import CatalogReader.Settings.Basic

namespace CatalogReader.Settings

open CatalogReader.Text

/-! ### The entry that counts -/

/-- A word spells the variable of a setting, in small or capital letters. -/
def Spells (word : String) (name : Name) : Prop :=
  String.ofList (lower word.toList) = name.variable

instance (word : String) (name : Name) : Decidable (Spells word name) :=
  inferInstanceAs (Decidable (String.ofList (lower word.toList) = name.variable))

example : Spells "SCHEMACONV_DATABASE_URL" .databaseUrl := by decide +kernel

/-- The last of the entries that spell a setting has this value. -/
def LastSpelled {Value : Type} (entries : List (String × Value)) (name : Name) (value : Value) :
    Prop :=
  ∃ before word after, entries = before ++ (word, value) :: after ∧ Spells word name ∧
    ∀ entry ∈ after, ¬ Spells entry.1 name

section LastOf

variable {Value : Type} {entries : List (String × Value)} {name : Name}

theorem lastOf?_eq_none_iff :
    lastOf? name.variable entries = none ↔ ∀ entry ∈ entries, ¬ Spells entry.1 name := by
  simp [lastOf?, Spells]

theorem lastOf?_eq_some_iff {value : Value} :
    lastOf? name.variable entries = some value ↔ LastSpelled entries name value := by
  simp only [lastOf?, Option.map_eq_some_iff, List.find?_eq_some_iff_append, beq_iff_eq,
    Bool.not_eq_true', beq_eq_false_iff_ne]
  constructor
  · rintro ⟨⟨word, _⟩, ⟨spelled, after, before, split, others⟩, rfl⟩
    refine ⟨before.reverse, word, after.reverse, ?_, spelled, ?_⟩
    · simpa using congrArg List.reverse split
    · exact fun entry member => others entry (List.mem_reverse.1 member)
  · rintro ⟨before, word, after, rfl, spelled, others⟩
    exact ⟨(word, value), ⟨spelled, after.reverse, before.reverse, by simp,
      fun entry member => others entry (List.mem_reverse.1 member)⟩, rfl⟩

end LastOf

/-- What the sources give for a setting. A variable of the file that has no value gives nothing. -/
inductive Gives (sources : Sources) (name : Name) : Given → Prop
  | directly {value : Given} {before after : List (String × Given)}
      (split : sources.direct = before ++ (name.word, value) :: after)
      (first : ∀ entry ∈ before, entry.1 ≠ name.word) : Gives sources name value
  | byEnvironment {text : String} (undirected : ∀ entry ∈ sources.direct, entry.1 ≠ name.word)
      (last : LastSpelled sources.environment name text) : Gives sources name (.text text)
  | byFile {text : String} (undirected : ∀ entry ∈ sources.direct, entry.1 ≠ name.word)
      (unset : ∀ entry ∈ sources.environment, ¬ Spells entry.1 name)
      (last : LastSpelled sources.fileVariables name (some text)) : Gives sources name (.text text)

theorem given?_eq_some_iff {sources : Sources} {name : Name} {given : Given} :
    sources.given? name = some given ↔ Gives sources name given := by
  unfold Sources.given?
  constructor
  · intro found
    split at found
    case h_1 entry direct =>
      obtain ⟨word, value⟩ := entry
      obtain ⟨same, before, after, split, first⟩ := List.find?_eq_some_iff_append.1 direct
      cases eq_of_beq same
      cases found
      exact .directly split fun other member => by simpa using first other member
    case h_2 direct =>
      have undirected : ∀ entry ∈ sources.direct, entry.1 ≠ name.word := by simpa using direct
      split at found
      case h_1 text last =>
        cases found
        exact .byEnvironment undirected (lastOf?_eq_some_iff.1 last)
      case h_2 last =>
        obtain ⟨text, bound, rfl⟩ := Option.map_eq_some_iff.1 found
        obtain ⟨value, last', rfl⟩ := Option.bind_eq_some_iff.1 bound
        exact .byFile undirected (lastOf?_eq_none_iff.1 last) (lastOf?_eq_some_iff.1 last')
  · have unfound : (∀ entry ∈ sources.direct, entry.1 ≠ name.word) →
        (sources.direct.find? fun entry => entry.1 == name.word) = none := by
      intro undirected
      simpa using undirected
    intro gives
    cases gives with
    | @directly value before after split first =>
      rw [split, List.find?_append, List.find?_eq_none.2 (by simpa using first)]
      simp
    | byEnvironment undirected last =>
      rw [unfound undirected, lastOf?_eq_some_iff.2 last]
    | byFile undirected unset last =>
      rw [unfound undirected, lastOf?_eq_none_iff.2 unset, lastOf?_eq_some_iff.2 last]
      rfl

/-- Values that are not given directly are texts. -/
theorem Gives.isText {sources : Sources} {name : Name} {given : Given}
    (undirected : sources.direct = []) (gives : Gives sources name given) :
    ∃ text, given = .text text := by
  cases gives with
  | directly split => simp [undirected] at split
  | byEnvironment => exact ⟨_, rfl⟩
  | byFile => exact ⟨_, rfl⟩

/-! ### Values and faults -/

/-- A setting has this value: its default when nothing is given, and else what is given for it. -/
def Settles {Value : Type} (sources : Sources) (name : Name) (default : Value)
    (convert : Given → Except Defect Value) (value : Value) : Prop :=
  ((∀ given, ¬ Gives sources name given) ∧ value = default) ∨
    ∃ given, Gives sources name given ∧ convert given = .ok value

/-- The names of the settings, in their order. -/
def Name.all : List Name :=
  [.databaseUrl, .defaultSchema, .connectTimeout, .logLevel]

/-- Why a value is no good for a setting. -/
def Refuses (name : Name) (given : Given) (defect : Defect) : Prop :=
  match name with
  | .databaseUrl => given ≠ .null ∧ (∀ text, given ≠ .text text) ∧ defect = .notText
  | .connectTimeout => given ≠ .null ∧ given.asInteger = .error defect
  | .defaultSchema | .logLevel => (∀ text, given ≠ .text text) ∧ defect = .notText

/-- The message and the code of a defect tell which one it is. -/
theorem eq_of_described {one other : Defect}
    (alike : one.message = other.message ∨ one.code = other.code) : one = other := by
  rcases one with _ | _ | (_ | _ | _) <;> rcases other with _ | _ | (_ | _ | _)
  all_goals first | rfl | exact absurd alike (by decide)

theorem asText_eq_error_iff {given : Given} {defect : Defect} :
    given.asText = .error defect ↔ (∀ text, given ≠ .text text) ∧ defect = .notText := by
  cases given <;> simp [Given.asText, eq_comm]

theorem map_eq_error_iff {First Second : Type} {result : Except Defect First}
    {change : First → Second} {defect : Defect} :
    result.map change = .error defect ↔ result = .error defect := by
  cases result <;> simp [Except.map]

theorem asOptionalText_eq_error_iff {given : Given} {defect : Defect} :
    given.asOptionalText = .error defect ↔
      given ≠ .null ∧ (∀ text, given ≠ .text text) ∧ defect = .notText := by
  cases given <;> simp [Given.asOptionalText, map_eq_error_iff, asText_eq_error_iff]

theorem asOptionalInteger_eq_error_iff {given : Given} {defect : Defect} :
    given.asOptionalInteger = .error defect ↔
      given ≠ .null ∧ given.asInteger = .error defect := by
  cases given <;> simp [Given.asOptionalInteger, map_eq_error_iff]

section MapError

variable {First Second Value : Type} {result : Except First Value} {change : First → Second}

theorem mapError_eq_ok_iff {value : Value} :
    result.mapError change = .ok value ↔ result = .ok value := by
  cases result with
  | error => exact ⟨nofun, nofun⟩
  | ok other =>
    show Except.ok other = Except.ok value ↔ _
    rw [Except.ok.injEq, Except.ok.injEq]

theorem mapError_eq_error_iff {fault : Second} :
    result.mapError change = .error fault ↔
      ∃ defect, result = .error defect ∧ change defect = fault := by
  cases result with
  | error defect =>
    show Except.error (change defect) = Except.error fault ↔ _
    simp
  | ok => exact ⟨nofun, fun ⟨_, same, _⟩ => nomatch same⟩

end MapError

section Reading

variable {Value : Type} {sources : Sources} {name : Name} {default value : Value}
variable {convert : Given → Except Defect Value}

theorem read_eq_ok_iff :
    sources.read name default convert = .ok value ↔ Settles sources name default convert value := by
  simp only [Sources.read, Settles, ← given?_eq_some_iff]
  cases sources.given? name with
  | none => simp [eq_comm]
  | some given => simp [mapError_eq_ok_iff]

theorem read_eq_error_iff {fault : Fault} :
    sources.read name default convert = .error fault ↔ fault.name = name ∧
      ∃ given, Gives sources name given ∧ convert given = .error fault.defect := by
  obtain ⟨other, defect⟩ := fault
  simp only [Sources.read, ← given?_eq_some_iff]
  cases sources.given? name with
  | none => simp
  | some given =>
    simp only [mapError_eq_error_iff, Fault.mk.injEq, Option.some.injEq, exists_eq_left']
    exact ⟨fun ⟨_, refused, same, rfl⟩ => ⟨same.symm, refused⟩,
      fun ⟨same, refused⟩ => ⟨defect, refused, same.symm, rfl⟩⟩

theorem mem_faultOf_iff {result : Except Fault Value} {fault : Fault} :
    fault ∈ faultOf result ↔ result = .error fault := by
  cases result <;> simp [faultOf, eq_comm]

theorem names_faultOf_read :
    ((faultOf (sources.read name default convert)).map Fault.name).Sublist [name] := by
  cases found : sources.read name default convert with
  | ok => exact List.nil_sublist _
  | error fault =>
    obtain ⟨same, -⟩ := read_eq_error_iff.1 found
    simp [faultOf, same]

end Reading

/-- The settings load to those values that the sources settle. -/
theorem load_eq_ok_iff (sources : Sources) (settings : Settings) :
    load sources = .ok settings ↔
      Settles sources .databaseUrl none Given.asOptionalText settings.databaseUrl ∧
        Settles sources .defaultSchema "public" Given.asText settings.defaultSchema ∧
        Settles sources .connectTimeout none Given.asOptionalInteger settings.connectTimeout ∧
        Settles sources .logLevel "WARNING" Given.asText settings.logLevel := by
  obtain ⟨databaseUrl, defaultSchema, connectTimeout, logLevel⟩ := settings
  simp only [← read_eq_ok_iff, load]
  cases sources.read .databaseUrl none Given.asOptionalText <;>
    cases sources.read .defaultSchema "public" Given.asText <;>
    cases sources.read .connectTimeout none Given.asOptionalInteger <;>
    cases sources.read .logLevel "WARNING" Given.asText <;>
    simp

theorem load_eq_error_iff (sources : Sources) (faults : List Fault) :
    load sources = .error faults ↔ faults ≠ [] ∧
      faultOf (sources.read .databaseUrl none Given.asOptionalText) ++
        faultOf (sources.read .defaultSchema "public" Given.asText) ++
        faultOf (sources.read .connectTimeout none Given.asOptionalInteger) ++
        faultOf (sources.read .logLevel "WARNING" Given.asText) = faults := by
  simp only [load]
  cases sources.read .databaseUrl none Given.asOptionalText <;>
    cases sources.read .defaultSchema "public" Given.asText <;>
    cases sources.read .connectTimeout none Given.asOptionalInteger <;>
    cases sources.read .logLevel "WARNING" Given.asText <;>
    simp [faultOf]
  all_goals rintro rfl
  all_goals exact List.cons_ne_nil _ _

/-- Loading that fails reports each setting whose value is refused, once and in order. -/
theorem faults_of_load {sources : Sources} {faults : List Fault}
    (failed : load sources = .error faults) :
    faults ≠ [] ∧ (faults.map Fault.name).Sublist Name.all ∧
      ∀ fault, fault ∈ faults ↔
        ∃ given, Gives sources fault.name given ∧ Refuses fault.name given fault.defect := by
  obtain ⟨some, rfl⟩ := (load_eq_error_iff sources faults).1 failed
  refine ⟨some, ?_, ?_⟩
  · simp only [List.map_append]
    exact ((names_faultOf_read.append names_faultOf_read).append names_faultOf_read).append
      names_faultOf_read
  · rintro ⟨name, defect⟩
    simp only [List.mem_append, mem_faultOf_iff, read_eq_error_iff, asText_eq_error_iff,
      asOptionalText_eq_error_iff, asOptionalInteger_eq_error_iff]
    cases name <;> simp [Refuses]

/-- Without direct values only the timeout can fail, as a text that is no integer. -/
theorem faults_of_load_undirected {sources : Sources} {faults : List Fault}
    (undirected : sources.direct = []) (failed : load sources = .error faults) :
    ∃ text fault, Gives sources .connectTimeout (.text text) ∧ integerOfText text = .error fault ∧
      faults = [⟨.connectTimeout, .badInteger fault⟩] := by
  obtain ⟨some, inOrder, members⟩ := faults_of_load failed
  have timeout : ∀ fault ∈ faults, ∃ text reason, Gives sources .connectTimeout (.text text) ∧
      integerOfText text = .error reason ∧ fault = ⟨.connectTimeout, .badInteger reason⟩ := by
    rintro ⟨name, defect⟩ member
    obtain ⟨given, gives, refuses⟩ := (members _).1 member
    obtain ⟨text, rfl⟩ := gives.isText undirected
    cases name with
    | databaseUrl => exact absurd rfl (refuses.2.1 text)
    | defaultSchema | logLevel => exact absurd rfl (refuses.1 text)
    | connectTimeout =>
      obtain ⟨reason, read, rfl⟩ := mapError_eq_error_iff.1 refuses.2
      exact ⟨text, reason, gives, read, rfl⟩
  cases faults with
  | nil => exact absurd rfl some
  | cons first others =>
    obtain ⟨text, reason, gives, read, rfl⟩ := timeout first List.mem_cons_self
    cases others with
    | nil => exact ⟨text, reason, gives, read, rfl⟩
    | cons second others =>
      obtain ⟨_, _, _, _, rfl⟩ := timeout second (List.mem_cons_of_mem _ List.mem_cons_self)
      have distinct := inOrder.nodup (by decide)
      simp at distinct

/-! ### What decides -/

/-- Only what the sources give for the settings matters. -/
theorem load_congr {first second : Sources}
    (alike : ∀ name given, Gives first name given ↔ Gives second name given) :
    load first = load second := by
  have same : ∀ name, first.given? name = second.given? name := by
    intro name
    refine Option.ext fun given => ?_
    rw [given?_eq_some_iff, given?_eq_some_iff]
    exact alike name given
  simp only [load, Sources.read, same]

/-- Variables with the same values, whose names are the same but for the case of letters. -/
def Respelled (first second : List (String × String)) : Prop :=
  (first.map fun entry => (lower entry.1.toList, entry.2)) =
    second.map fun entry => (lower entry.1.toList, entry.2)

/-- The case of letters in the names of the environment does not matter. With a file it does, since
the references of the file go by the names as they are. -/
theorem load_of_respelled (direct : List (String × Given)) {first second : List (String × String)}
    (alike : Respelled first second) :
    load ⟨direct, first, none⟩ = load ⟨direct, second, none⟩ := by
  have found : ∀ (name : String) (entries : List (String × String)), lastOf? name entries =
      (((entries.map fun entry => (lower entry.1.toList, entry.2)).reverse.find? fun entry =>
        String.ofList entry.1 == name).map Prod.snd) := by
    intro name entries
    rw [← List.map_reverse, List.find?_map, Option.map_map]
    rfl
  have same : ∀ name, lastOf? name first = lastOf? name second := fun name => by
    rw [found, found, alike]
  refine load_congr fun name given => ?_
  simp only [← given?_eq_some_iff, Sources.given?, Sources.fileVariables, same]

/-! ### Settings that are read back -/

/-- The value of a setting, as it is given directly. -/
def givenOf (settings : Settings) : Name → Given
  | .databaseUrl => settings.databaseUrl.elim .null .text
  | .defaultSchema => .text settings.defaultSchema
  | .connectTimeout => settings.connectTimeout.elim .null .integer
  | .logLevel => .text settings.logLevel

/-- Values that are given directly load as they are, whatever the environment and the file hold. -/
theorem load_of_directly (settings : Settings) (others : List (String × Given))
    (environment : List (String × String)) (file : Option String) :
    load ⟨(Name.all.map fun name => (name.word, givenOf settings name)) ++ others, environment,
      file⟩ = .ok settings := by
  have given : ∀ name, Sources.given? ⟨(Name.all.map fun name =>
      (name.word, givenOf settings name)) ++ others, environment, file⟩ name =
        some (givenOf settings name) := by
    intro name
    cases name <;> rfl
  simp only [load, Sources.read, given]
  obtain ⟨databaseUrl, defaultSchema, connectTimeout, logLevel⟩ := settings
  cases databaseUrl <;> cases connectTimeout <;> rfl

/-- The text of a setting, as a variable holds it. A setting without a value has none. -/
def textOf (settings : Settings) : Name → Option String
  | .databaseUrl => settings.databaseUrl
  | .defaultSchema => some settings.defaultSchema
  | .connectTimeout => settings.connectTimeout.map toString
  | .logLevel => some settings.logLevel

/-- The timeout of some settings, if they have one, is not too long to be read. -/
def HasShortTimeout (settings : Settings) : Prop :=
  ∀ seconds ∈ settings.connectTimeout, (toString seconds).length ≤ mostCharacters

/-- Settings load from their own texts. -/
theorem load_of_texts {sources : Sources} {settings : Settings} (short : HasShortTimeout settings)
    (given : ∀ name, sources.given? name = (textOf settings name).map .text) :
    load sources = .ok settings := by
  simp only [load, Sources.read, given]
  obtain ⟨databaseUrl, defaultSchema, connectTimeout, logLevel⟩ := settings
  cases connectTimeout with
  | none => cases databaseUrl <;> rfl
  | some seconds =>
    have read := integerOfText_toString (short seconds rfl)
    have converted : (Given.text (toString seconds)).asOptionalInteger = .ok (some seconds) := by
      show (((integerOfText (toString seconds)).mapError Defect.badInteger).map some) = _
      rw [read]
      rfl
    have timeout : (textOf ⟨databaseUrl, defaultSchema, some seconds, logLevel⟩
        .connectTimeout).map Given.text = some (.text (toString seconds)) := rfl
    rw [timeout]
    dsimp only
    rw [converted]
    cases databaseUrl <;> rfl

/-- Values under the words of the settings, as some spelling has them. -/
def spelledOut {Value : Type} (spelling : Name → String) (values : Name → Option Value) :
    List (String × Value) :=
  Name.all.filterMap fun name => (values name).map (spelling name, ·)

theorem eq_of_spells {word : String} {one other : Name} (first : Spells word one)
    (second : Spells word other) : one = other := by
  have same : one.variable = other.variable := first.symm.trans second
  revert same
  cases one <;> cases other <;> decide

theorem mem_spelledOut_iff {Value : Type} {spelling : Name → String} {values : Name → Option Value}
    {entry : String × Value} : entry ∈ spelledOut spelling values ↔
      ∃ name, spelling name = entry.1 ∧ values name = some entry.2 := by
  obtain ⟨word, value⟩ := entry
  have all : ∀ name, name ∈ Name.all := fun name => by cases name <;> decide
  simp only [spelledOut, List.mem_filterMap, all, true_and, Option.map_eq_some_iff, Prod.mk.injEq]
  exact exists_congr fun name =>
    ⟨fun ⟨_, found, same, rfl⟩ => ⟨same, found⟩, fun ⟨same, found⟩ => ⟨value, found, same, rfl⟩⟩

theorem map_spelledOut {First Second : Type} (spelling : Name → String)
    (values : Name → Option First) (change : First → Second) :
    ((spelledOut spelling values).map fun entry => (entry.1, change entry.2)) =
      spelledOut spelling fun name => (values name).map change := by
  simp only [spelledOut, List.map_filterMap, Option.map_map]
  rfl

theorem nodup_spelledOut {Value : Type} {spelling : Name → String}
    (spelled : ∀ name, Spells (spelling name) name) (values : Name → Option Value) :
    ((spelledOut spelling values).map Prod.fst).Nodup := by
  have distinct : Name.all.Nodup := by decide
  rw [List.Nodup, List.pairwise_map, spelledOut, List.pairwise_filterMap]
  refine distinct.imp fun {one other} different => ?_
  intro first held second held' same
  obtain ⟨_, _, rfl⟩ := Option.map_eq_some_iff.1 held
  obtain ⟨_, _, rfl⟩ := Option.map_eq_some_iff.1 held'
  have same : spelling one = spelling other := same
  exact different (eq_of_spells (spelled one) (same ▸ spelled other))

/-- Each setting is found under its word. -/
theorem lastOf?_spelledOut {Value : Type} {spelling : Name → String}
    (spelled : ∀ name, Spells (spelling name) name) (values : Name → Option Value) (name : Name) :
    lastOf? name.variable (spelledOut spelling values) = values name := by
  have only : ∀ entry ∈ spelledOut spelling values, Spells entry.1 name →
      values name = some entry.2 := by
    intro entry member spells
    obtain ⟨other, word, value⟩ := mem_spelledOut_iff.1 member
    have same : other = name := eq_of_spells (spelled other) (word ▸ spells)
    exact same ▸ value
  cases found : lastOf? name.variable (spelledOut spelling values) with
  | some value =>
    obtain ⟨before, word, after, split, spells, -⟩ := lastOf?_eq_some_iff.1 found
    exact (only (word, value) (by simp [split]) spells).symm
  | none =>
    cases held : values name with
    | none => rfl
    | some value =>
      exact absurd (spelled name) (lastOf?_eq_none_iff.1 found (spelling name, value)
        (mem_spelledOut_iff.2 ⟨name, rfl, held⟩))

theorem lastOf?_append_of_silent {Value : Type} {name : Name} {others : List (String × Value)}
    (silent : ∀ entry ∈ others, ¬ Spells entry.1 name) (entries : List (String × Value)) :
    lastOf? name.variable (others ++ entries) = lastOf? name.variable entries := by
  have none : lastOf? name.variable others = none := lastOf?_eq_none_iff.2 silent
  unfold lastOf? at none ⊢
  rw [List.reverse_append, List.find?_append, Option.map_eq_none_iff.1 none, Option.or_none]

/-- Settings are read back from variables of the environment, in any spelling and behind any
variables. -/
theorem load_of_environment {spelling : Name → String}
    (spelled : ∀ name, Spells (spelling name) name) {settings : Settings}
    (short : HasShortTimeout settings) {others : List (String × String)}
    (silent : ∀ name, ∀ entry ∈ others, ¬ Spells entry.1 name) :
    load ⟨[], others ++ spelledOut spelling (textOf settings), none⟩ = .ok settings := by
  refine load_of_texts short fun name => ?_
  have last : lastOf? name.variable (others ++ spelledOut spelling (textOf settings)) =
      textOf settings name := by
    rw [lastOf?_append_of_silent (silent name), lastOf?_spelledOut spelled]
  simp only [Sources.given?, List.find?_nil, last, Sources.fileVariables]
  cases textOf settings name <;> rfl

example (settings : Settings) (short : HasShortTimeout settings) :
    load ⟨[], spelledOut Name.variable (textOf settings), none⟩ = .ok settings :=
  @load_of_environment Name.variable (fun name => by cases name <;> decide +kernel) settings short
    [] fun _ _ member => nomatch member

end CatalogReader.Settings
