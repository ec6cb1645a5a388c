/-
Two lists of arguments whose database URLs differ in their passwords only. A URL is given behind the
option for it, behind the equals sign of its long name, or right behind its letter. Such lists are
read the same way, as the same command, and what they ask for differs in the URL at most.
-/

import CatalogReader.CommandLine.Arguments
import CatalogReader.Proofs.Credentials.Alike

namespace CatalogReader.CommandLine

/-! ### Alike arguments -/

/-- The option whose value is the next argument, after one argument more. -/
def pendingAfter (pending : Option OptionName) (argument : String) : Option OptionName :=
  match pending, tokenOf? argument with
  | none, some (.options _ next) => next
  | _, _ => none

/-- Arguments that differ in the passwords of database URLs only, from a place on at which the value
of an option may be due. -/
inductive AlikeArguments : Option OptionName → List String → List String → Prop
  | nil (pending : Option OptionName) : AlikeArguments pending [] []
  | ended (positionals : List String) :
      AlikeArguments none ("--" :: positionals) ("--" :: positionals)
  | same {pending : Option OptionName} {argument : String} {first second : List String}
      (goesOn : pending = none → argument ≠ "--")
      (others : AlikeArguments (pendingAfter pending argument) first second) :
      AlikeArguments pending (argument :: first) (argument :: second)
  | value {firstUrl secondUrl : String} {first second : List String}
      (alike : Url.Alike firstUrl secondUrl) (others : AlikeArguments none first second) :
      AlikeArguments (some .url) (firstUrl :: first) (secondUrl :: second)
  | word {firstUrl secondUrl : String} {first second : List String}
      (alike : Url.Alike firstUrl secondUrl) (others : AlikeArguments none first second) :
      AlikeArguments none (("--url=" ++ firstUrl) :: first) (("--url=" ++ secondUrl) :: second)
  | letters {flags : List Char} {firstUrl secondUrl : String} {first second : List String}
      (verbose : ∀ flag ∈ flags, flag = 'v') (given : firstUrl.toList ≠ [] ∧ secondUrl.toList ≠ [])
      (alike : Url.Alike firstUrl secondUrl) (others : AlikeArguments none first second) :
      AlikeArguments none
        (String.ofList ('-' :: (flags ++ 'u' :: firstUrl.toList)) :: first)
        (String.ofList ('-' :: (flags ++ 'u' :: secondUrl.toList)) :: second)

/-- Command lines that differ in the passwords of database URLs only. -/
inductive AlikeCommandLines : List String → List String → Prop
  | same (arguments : List String) : AlikeCommandLines arguments arguments
  | table {first second : List String} (alike : AlikeArguments none first second) :
      AlikeCommandLines ("table" :: first) ("table" :: second)
  | ended {first second : List String} (alike : AlikeArguments none first second) :
      AlikeCommandLines ("--" :: "table" :: first) ("--" :: "table" :: second)

/-! ### Options -/

/-- Options with their values that differ in the password of a URL at most. -/
inductive AlikeGiven : OptionName × String → OptionName × String → Prop
  | same (entry : OptionName × String) : AlikeGiven entry entry
  | url {first second : String} (alike : Url.Alike first second) :
      AlikeGiven (.url, first) (.url, second)

/-- What is parsed alike: the values of URLs differ at most. -/
structure Parsed.Alike (first second : Parsed) : Prop where
  given : List.Forall₂ AlikeGiven first.given second.given
  positionals : first.positionals = second.positionals

theorem rel_map {First Second FirstValue SecondValue : Type} {related : First → Second → Prop}
    {relatedValues : FirstValue → SecondValue → Prop} {first : Option First}
    {second : Option Second} {firstMap : First → FirstValue} {secondMap : Second → SecondValue}
    (rel : Option.Rel related first second)
    (maps : ∀ {one other}, related one other → relatedValues (firstMap one) (secondMap other)) :
    Option.Rel relatedValues (first.map firstMap) (second.map secondMap) := by
  cases rel with
  | none => exact .none
  | some alike => exact .some (maps alike)

theorem alikeGiven_refl (given : List (OptionName × String)) :
    List.Forall₂ AlikeGiven given given :=
  List.forall₂_same.mpr fun entry _ => .same entry

theorem tokenOf?_word (url : String) :
    tokenOf? ("--url=" ++ url) = some (.options [(.url, url)] none) := by
  unfold tokenOf?
  rw [String.toList_append]
  show tokenOfWord? ("url=".toList ++ url.toList) = _
  unfold tokenOfWord?
  have cut : Text.cutFirst? '=' ("url=".toList ++ url.toList) = some ("url".toList, url.toList) :=
    (Text.cutFirst?_eq_some_iff '=' _ _ _).mpr ⟨rfl, by decide⟩
  rw [cut]
  show some (Token.options [(OptionName.url, String.ofList url.toList)] none) = _
  rw [String.ofList_toList]

theorem tokenOfLetters?_url {flags url : List Char} (verbose : ∀ flag ∈ flags, flag = 'v')
    (given : url ≠ []) :
    tokenOfLetters? (flags ++ 'u' :: url) =
      some (.options (flags.map (fun _ => (.verbose, "")) ++ [(.url, String.ofList url)])
        none) := by
  induction flags with
  | nil =>
    cases url with
    | nil => exact absurd rfl given
    | cons first others => rfl
  | cons flag others inductionHypothesis =>
    have letter := verbose flag List.mem_cons_self
    subst letter
    have later :=
      inductionHypothesis fun flag member => verbose flag (List.mem_cons_of_mem _ member)
    have known : OptionName.ofLetter? 'v' = some .verbose := rfl
    have plain : ¬OptionName.verbose.takesValue = true := Bool.false_ne_true
    rw [List.cons_append, tokenOfLetters?, known]
    simp only [if_neg plain, later]
    rfl

theorem tokenOf?_letters {flags : List Char} {url : String} (verbose : ∀ flag ∈ flags, flag = 'v')
    (given : url.toList ≠ []) :
    tokenOf? (String.ofList ('-' :: (flags ++ 'u' :: url.toList))) =
      some (.options (flags.map (fun _ => (.verbose, "")) ++ [(.url, url)]) none) := by
  have letters := tokenOfLetters?_url verbose given
  rw [String.ofList_toList] at letters
  unfold tokenOf?
  rw [String.toList_ofList]
  cases flags with
  | nil => exact letters
  | cons flag others =>
    have letter := verbose flag List.mem_cons_self
    subst letter
    exact letters

/-! ### Parsing -/

/-- Alike arguments are parsed alike. -/
theorem parse?_of_alike {pending : Option OptionName} {first second : List String}
    (alike : AlikeArguments pending first second) :
    Option.Rel Parsed.Alike (parse? pending first) (parse? pending second) := by
  induction alike with
  | nil pending =>
    cases pending with
    | none => exact .some ⟨.nil, rfl⟩
    | some name => exact .none
  | ended positionals => exact .some ⟨.nil, rfl⟩
  | @same pending argument first second goesOn _ inductionHypothesis =>
    cases pending with
    | some name =>
      rw [parse?, parse?]
      exact rel_map inductionHypothesis fun parsed =>
        ⟨.cons (.same _) parsed.given, parsed.positionals⟩
    | none =>
      rw [parse?, parse?]
      simp only [if_neg (goesOn rfl)]
      unfold pendingAfter at inductionHypothesis
      cases token : tokenOf? argument with
      | none => exact .none
      | some kind =>
        rw [token] at inductionHypothesis
        cases kind with
        | positional =>
          exact rel_map inductionHypothesis fun parsed =>
            ⟨parsed.given, congrArg (argument :: ·) parsed.positionals⟩
        | options given next =>
          exact rel_map inductionHypothesis fun parsed =>
            ⟨List.rel_append (alikeGiven_refl given) parsed.given, parsed.positionals⟩
  | value alike _ inductionHypothesis =>
    rw [parse?, parse?]
    exact rel_map inductionHypothesis fun parsed =>
      ⟨.cons (.url alike) parsed.given, parsed.positionals⟩
  | @word firstUrl secondUrl first second alike _ inductionHypothesis =>
    have goesOn (url : String) : "--url=" ++ url ≠ "--" := by
      intro ended
      have token := tokenOf?_word url
      rw [ended] at token
      cases token
    rw [parse?, parse?]
    simp only [if_neg (goesOn _), tokenOf?_word]
    exact rel_map inductionHypothesis fun parsed =>
      ⟨.cons (.url alike) parsed.given, parsed.positionals⟩
  | @letters flags firstUrl secondUrl first second verbose given alike _ inductionHypothesis =>
    have goesOn {url : String} (given : url.toList ≠ []) :
        String.ofList ('-' :: (flags ++ 'u' :: url.toList)) ≠ "--" := by
      intro ended
      have token := tokenOf?_letters verbose given
      rw [ended] at token
      cases token
    rw [parse?, parse?]
    simp only [if_neg (goesOn given.1), if_neg (goesOn given.2), tokenOf?_letters verbose given.1,
      tokenOf?_letters verbose given.2]
    exact rel_map inductionHypothesis fun parsed =>
      ⟨List.rel_append (List.rel_append (alikeGiven_refl _) (.cons (.url alike) .nil)) parsed.given,
        parsed.positionals⟩

/-! ### Commands -/

/-- Requests that differ in the password of the URL only. -/
structure Request.Alike (first second : Request) : Prop where
  url : Option.Rel Url.Alike first.url second.url
  hidden : { first with url := none } = { second with url := none }

/-- Commands that differ in the password of a URL only. -/
inductive Command.Alike : Command → Command → Prop
  | same (command : Command) : Alike command command
  | table {first second : Request} (alike : first.Alike second) :
      Alike (.table first) (.table second)

theorem find?_of_alike {first second : List (OptionName × String)}
    (alike : List.Forall₂ AlikeGiven first second) (name : OptionName) :
    Option.Rel AlikeGiven (first.find? fun entry => entry.1 == name)
      (second.find? fun entry => entry.1 == name) := by
  induction alike with
  | nil => exact .none
  | @cons firstEntry secondEntry _ _ head _ inductionHypothesis =>
    have names : firstEntry.1 = secondEntry.1 := by
      cases head <;> rfl
    rw [List.find?_cons, List.find?_cons, ← names]
    cases firstEntry.1 == name with
    | true => exact .some head
    | false => exact inductionHypothesis

/-- The last values of an option differ only if the option is the one for the URL. -/
theorem Parsed.Alike.last? {first second : Parsed} (alike : first.Alike second)
    (name : OptionName) :
    (name ≠ .url → first.last? name = second.last? name) ∧
      Option.Rel Url.Alike (first.last? name) (second.last? name) := by
  have found := find?_of_alike (List.rel_reverse alike.given) name
  unfold Parsed.last?
  generalize atFirst : first.given.reverse.find? (fun entry => entry.1 == name) = firstEntry
    at found
  generalize second.given.reverse.find? (fun entry => entry.1 == name) = secondEntry at found
  cases found with
  | none => exact ⟨fun _ => rfl, .none⟩
  | some alike =>
    cases alike with
    | same entry => exact ⟨fun _ => rfl, .some (Or.inl rfl)⟩
    | url urls =>
      refine ⟨fun other => ?_, .some urls⟩
      have same := List.find?_some atFirst
      exact absurd (beq_iff_eq.mp same).symm other

theorem request?_of_alike {first second : Parsed} (alike : first.Alike second) :
    Option.Rel Request.Alike first.request? second.request? := by
  have last (name : OptionName) (other : name ≠ .url) := (alike.last? name).1 other
  have url := (alike.last? .url).2
  have format : first.format? = second.format? := by
    unfold Parsed.format?
    rw [last .format (by decide)]
  unfold Parsed.request?
  rw [format, alike.positionals, last .output (by decide), last .schema (by decide),
    last .verbose (by decide)]
  split
  · split
    · exact .some ⟨url, rfl⟩
    · exact .none
  · exact .none

theorem tableCommand?_of_alike {first second : List String}
    (alike : AlikeArguments none first second) :
    Option.Rel Command.Alike (tableCommand? first) (tableCommand? second) := by
  have parsed := parse?_of_alike alike
  unfold tableCommand?
  generalize parse? none first = firstParsed at parsed ⊢
  generalize parse? none second = secondParsed at parsed ⊢
  cases parsed with
  | none => exact .none
  | some alike => exact rel_map (request?_of_alike alike) .table

/-- Alike command lines stand for alike commands. -/
theorem command?_of_alike {first second : List String} (alike : AlikeCommandLines first second) :
    Option.Rel Command.Alike (command? first) (command? second) := by
  cases alike with
  | same =>
    cases command? first with
    | none => exact .none
    | some command => exact .some (.same command)
  | table alike => exact tableCommand?_of_alike alike
  | ended alike => exact tableCommand?_of_alike alike

end CatalogReader.CommandLine
