/-
What the program says in a colour, and the forms of a table. Both are marked up with texts from
outside in them, so both may fail. Neither does where no tag begins in these texts: a message is
printed, an error with all it says, and a table is shown in any form or written to a file, or the
command says why it was not.
-/

import CatalogReader.CommandLine.Run
import CatalogReader.Proofs.Fetching.FullRows
import CatalogReader.Proofs.Layout.Wrapping
import CatalogReader.Proofs.Markup.Summaries

namespace CatalogReader.CommandLine

open CatalogReader.Layout CatalogReader.Markup CatalogReader.Text

variable {console : Console}

/-! ### What is said -/

/-- What the command says in a colour is printed, if no tag begins in it. -/
theorem exitPrinting_of_free (sofar : Sofar) (code : Nat) {color : MessageColor}
    {opening closing : String} {lead tail : List Char}
    (frames : color.Frames opening closing lead tail) {text : String}
    (free : holdsTag text.toList = false) :
    ∃ shown, sofar.exitPrinting console code (opening ++ text ++ closing) =
        (sofar.print shown).exit code ∧
      (2 ≤ console.width → isVerbatim console.emoji (lead ++ text.toList ++ tail) = true →
        ∃ lines, shown = String.ofList (Console.endLines lines) ∧
          Wraps lines (untabbed (lead ++ text.toList ++ tail))) := by
  obtain ⟨shown, printed, whole⟩ := frames.printed free console
  refine ⟨shown, ?_, whole⟩
  unfold Sofar.exitPrinting
  rw [printed]

theorem printed_of_refused {text : String} {fault : Fault}
    (refused : Markup.render console.emoji text.toList = .error fault) :
    console.printed text = .error fault := by
  unfold Console.printed
  rw [refused]
  rfl

theorem exitPrinting_of_error {text : String} {fault : Fault}
    (refused : console.printed text = .error fault) (sofar : Sofar) (code : Nat) :
    sofar.exitPrinting console code text = sofar.escape (.markup fault) := by
  unfold Sofar.exitPrinting
  rw [refused]

/-- An error of reading a schema whose message holds no tag is printed, with all it says if it is
verbatim, and the exit code is 1. -/
theorem fail_schema (sofar : Sofar) {error : SchemaError}
    (free : holdsTag error.text.toList = false) :
    (sofar.fail console (.schema error)).exitCode = 1 ∧
      (sofar.fail console (.schema error)).escaped = none ∧
      (2 ≤ console.width → isVerbatim console.emoji error.text.toList = true → ∃ lines,
        (sofar.fail console (.schema error)).output =
            sofar.output ++ String.ofList (Console.endLines lines) ∧
          Wraps lines (untabbed ("Error: ".toList ++ error.text.toList))) := by
  have frames : MessageColor.red.Frames "[red]Error: " "[/red]" "Error: ".toList [] :=
    ⟨rfl, rfl, by decide, by decide⟩
  have lead : isVerbatim console.emoji ("Error: ".toList ++ error.text.toList) =
      isVerbatim console.emoji error.text.toList :=
        @isVerbatim_label _ "Error".toList (by decide) (fun _ => rfl) _
  obtain ⟨shown, printed, whole⟩ := @exitPrinting_of_free console sofar 1 _ _ _ _ _ frames _ free
  rw [List.append_nil, lead] at whole
  unfold Sofar.fail
  dsimp only
  rw [printed]
  refine ⟨rfl, rfl, fun wide verbatim => ?_⟩
  obtain ⟨lines, rfl, wrapped⟩ := whole wide verbatim
  exact ⟨lines, rfl, wrapped⟩

/-- What escapes from a failure is the failure itself, unless it is an error of reading a schema. -/
theorem escaped_fail_iff (sofar : Sofar) {failure : Failure}
    (free : ∀ error, failure = .schema error → holdsTag error.text.toList = false)
    (other : Failure) :
    (sofar.fail console failure).escaped = some other ↔
      failure = other ∧ ∀ error, other ≠ .schema error := by
  by_cases schema : ∃ error, failure = .schema error
  · obtain ⟨error, rfl⟩ := schema
    rw [(fail_schema sofar (free error rfl)).2.1]
    exact ⟨nofun, fun ⟨same, plain⟩ => absurd same.symm (plain error)⟩
  · have plain (error : SchemaError) : failure ≠ .schema error := fun same => schema ⟨error, same⟩
    have escapes : sofar.fail console failure = sofar.escape failure := by
      cases failure with
      | schema error => exact absurd rfl (plain error)
      | _ => rfl
    rw [escapes]
    show some failure = some other ↔ _
    rw [Option.some.injEq]
    exact ⟨fun same => ⟨same, same ▸ plain⟩, fun same => same.1⟩

/-- What is said about a threshold that is not known is printed. -/
theorem logThreshold_of_free {verbose : Bool} {level : String}
    (free : verbose = false → threshold? level = none → holdsTag (quote level).toList = false) :
    ∃ known, logThreshold console verbose level = .ok known := by
  unfold logThreshold
  split
  · exact ⟨_, rfl⟩
  case isFalse quiet =>
    split
    · exact ⟨_, rfl⟩
    case h_2 unknown =>
      have frames : MessageColor.yellow.Frames "[yellow]Unknown log level "
          ", using WARNING[/yellow]" "Unknown log level ".toList ", using WARNING".toList :=
        ⟨rfl, rfl, by decide, by decide⟩
      obtain ⟨shown, printed, -⟩ :=
        frames.printed (free (Bool.eq_false_iff.mpr quiet) unknown) console
      rw [printed]
      exact ⟨_, rfl⟩

/-! ### Files -/

theorem ne_other_of_locateFrom {files : FileTree} {directory : Place}
    {components : List (List Char)} {fault : FileFault}
    (failed : files.locateFrom directory components = .error fault) (reason : String) :
    fault ≠ .other reason := by
  induction components generalizing directory with
  | nil =>
    cases failed
    exact nofun
  | cons component rest inductionHypothesis =>
    unfold FileTree.locateFrom at failed
    split at failed
    · exact inductionHypothesis failed
    · split at failed
      · cases failed
        exact nofun
      · dsimp only at failed
        split at failed
        · exact inductionHypothesis failed
        all_goals cases failed
        all_goals exact nofun

/-- The reasons why a file cannot be written are known texts without brackets. -/
theorem reason_of_write {files : FileTree} {path : Path} {text : String} {fault : FileFault}
    (failed : files.write path text = .error fault) :
    '[' ∉ fault.reason.toList ∧ ']' ∉ fault.reason.toList := by
  have known (reason : String) : fault ≠ .other reason := by
    unfold FileTree.write at failed
    cases located : files.locate path with
    | ok place =>
      rw [located] at failed
      cases failed
    | error found =>
      rw [located] at failed
      obtain rfl := Except.error.inj failed
      unfold FileTree.locate at located
      split at located
      · cases located
        exact nofun
      · exact ne_other_of_locateFrom located reason
  cases fault with
  | other reason => exact absurd rfl (known reason)
  | notFound | isDirectory | notDirectory | nameTooLong => decide

/-! ### What is shown -/

theorem escaped_exitPrinting (sofar : Sofar) (code : Nat) {color : MessageColor}
    {opening closing : String} {lead tail : List Char}
    (frames : color.Frames opening closing lead tail) {text : String}
    (free : holdsTag text.toList = false) :
    (sofar.exitPrinting console code (opening ++ text ++ closing)).escaped = none := by
  obtain ⟨shown, printed, -⟩ := @exitPrinting_of_free console sofar code _ _ _ _ _ frames _ free
  rw [printed]
  rfl

/-- What is said about a file holds no tag if the path of the file holds none. -/
theorem escaped_afterWriting (sofar : Sofar) {path : Path} (table : Table)
    (free : holdsTag path.toText.toList = false) {fault : Option FileFault}
    (plain : ∀ found, fault = some found →
      '[' ∉ found.reason.toList ∧ ']' ∉ found.reason.toList) :
    (afterWriting console sofar path table fault).escaped = none := by
  cases fault with
  | none =>
    have frames : MessageColor.green.Frames "[green]Wrote " "[/green]" "Wrote ".toList [] :=
      ⟨rfl, rfl, by decide, by decide⟩
    have unmarked : holdsTag
        (toString table.columns.length ++ " columns to " ++ path.toText).toList = false := by
      rw [String.toList_append, String.toList_append]
      refine holdsTag_append_left (fun member => ?_) free
      rcases List.mem_append.mp member with inCount | inWords
      · have digits : (toString table.columns.length).toList =
            Nat.toDigits 10 table.columns.length := String.toList_ofList
        exact Summary.notMem_toDigits (by decide) _ (digits ▸ inCount)
      · exact absurd inWords (by decide)
    have said := @escaped_exitPrinting console sofar 0 _ _ _ _ _ frames _ unmarked
    simp only [← String.append_assoc] at said
    exact said
  | some found =>
    have frames : MessageColor.red.Frames "[red]Error writing " "[/red]"
        "Error writing ".toList [] := ⟨rfl, rfl, by decide, by decide⟩
    obtain ⟨opening, closing⟩ := plain found rfl
    have unmarked : holdsTag (path.toText ++ (": " ++ found.reason)).toList = false := by
      rw [String.toList_append, String.toList_append]
      refine holdsTag_append (leavesOpen_of_notMem ?_) free (holdsTag_of_notMem ?_)
      · exact List.not_mem_append (by decide) closing
      · exact List.not_mem_append (by decide) opening
    have said := @escaped_exitPrinting console sofar 1 _ _ _ _ _ frames _ unmarked
    simp only [← String.append_assoc] at said
    exact said

variable {request : Request} {table : Table}

/-- A table whose columns can be shown, and in whose summary no tag begins if one is asked for. -/
structure Presentable (request : Request) (table : Table) : Prop where
  showable : ∀ column ∈ table.columns, column.IsShowable
  reference : request.format = .summary → request.output = none → table.columns.isEmpty = true →
    holdsTag request.reference.toList = false
  name : request.format = .summary → holdsTag table.name.toList = false
  columns : request.format = .summary → ∀ column ∈ table.columns, ∀ name,
    column.name = some name → holdsTag name.toList = false
  types : request.format = .summary → ∀ column ∈ table.columns, ∀ type,
    column.type.text? = some type → holdsTag type.toList = false

theorem Presentable.lines (presentable : Presentable request table)
    (asked : request.format = .summary) (emoji : EmojiTable) (width : Nat) :
    ∃ found, Summary.lines emoji width table = .ok found := by
  obtain ⟨types, typed, texts⟩ := exists_mapM fun column member =>
    (Option.isSome_iff_exists.mp (presentable.showable column member).type).imp fun type typed =>
      And.intro typed typed
  refine Summary.lines_of_unmarked emoji width typed ⟨presentable.name asked, ?_, ?_⟩
  · intro column member
    obtain ⟨name, named⟩ :=
      Option.isSome_iff_exists.mp (presentable.showable column member).name
    rw [named]
    exact presentable.columns asked column member name named
  · intro type member
    obtain ⟨column, inTable, typed⟩ := texts type member
    exact presentable.types asked column inTable type typed

/-- Any form of a presentable table has a text. -/
theorem Presentable.render (presentable : Presentable request table) :
    ∃ text, render console request.format table = .ok text := by
  unfold CommandLine.render
  cases asked : request.format with
  | summary =>
    obtain ⟨found, shown⟩ := presentable.lines asked console.emoji Summary.fileWidth
    dsimp only
    unfold Summary.render
    rw [shown]
    exact ⟨_, rfl⟩
  | json =>
    have read : ∀ column ∈ table.columns, ∃ found, column.toJson? = pure found ∧ True := by
      intro column member
      obtain ⟨type, typed⟩ := Option.isSome_iff_exists.mp (presentable.showable column member).type
      unfold Column.toJson?
      rw [typed]
      exact ⟨_, rfl, trivial⟩
    obtain ⟨members, shown, -⟩ := exists_mapM read
    dsimp only
    unfold Table.renderJson Table.toJson?
    rw [shown]
    exact ⟨_, rfl⟩
  | selectList =>
    have read : ∀ column ∈ table.columns, ∃ found, column.name = pure found ∧ True := by
      intro column member
      obtain ⟨name, named⟩ := Option.isSome_iff_exists.mp (presentable.showable column member).name
      exact ⟨name, named, trivial⟩
    obtain ⟨names, shown, -⟩ := exists_mapM read
    dsimp only
    unfold Table.selectList
    rw [shown]
    exact ⟨_, rfl⟩

/-- Nothing escapes from showing a presentable table, also where its file cannot be written. -/
theorem escaped_showPlan (sofar : Sofar) (presentable : Presentable request table)
    (free : ∀ path, request.output = some path → holdsTag path.toText.toList = false)
    (files : FileTree) :
    ((showPlan console sofar request table).runOn files).1.escaped = none := by
  unfold showPlan
  split
  case isTrue asked =>
    unfold summaryPlan
    split
    case isTrue empty =>
      have frames : MessageColor.yellow.Frames "[yellow]No columns found for " "[/yellow]"
          "No columns found for ".toList [] := ⟨rfl, rfl, by decide, by decide⟩
      exact escaped_exitPrinting sofar 0 frames (presentable.reference asked.1 asked.2 empty)
    case isFalse =>
      obtain ⟨found, shown⟩ := presentable.lines asked.1 console.emoji console.width
      unfold consoleSummary
      rw [shown]
      rfl
  case isFalse =>
    obtain ⟨text, shown⟩ := @Presentable.render console _ _ presentable
    rw [shown]
    dsimp only
    cases asked : request.output with
    | none => rfl
    | some path =>
      dsimp only [Plan.runOn]
      cases written : files.write path (text ++ "\n") with
      | error fault =>
        refine escaped_afterWriting sofar table (free path asked) fun found same => ?_
        obtain rfl := Option.some.inj same
        exact reason_of_write written
      | ok after => exact escaped_afterWriting sofar table (free path asked) nofun

end CatalogReader.CommandLine
