/-
The report of the settings. Its lines are printed one after the other, each with its own markup, and
an output can be cut into its lines again, so the report is the one that is meant if and only if
each of its lines is shown as it is. The URL in it is the redacted one, which is legible where the
URL is.
-/

import CatalogReader.CommandLine.Run
import CatalogReader.Proofs.Layout.Fitting
import CatalogReader.Proofs.Layout.Marks
import CatalogReader.Proofs.Markup.Summaries
import CatalogReader.Proofs.Markup.Verbatim
import CatalogReader.Proofs.Url.Characters

namespace CatalogReader.CommandLine

open CatalogReader.Layout CatalogReader.Markup CatalogReader.Text

/-! ### One line -/

/-- A text as the only line of what is printed. -/
def lineOf (text : List Char) : String := String.ofList (Console.endLines [text])

/-- A text that is legible and that one line of a console has room for. -/
structure FitsLine (console : Console) (text : String) : Prop where
  legible : IsLegible text.toList
  wide : console.width ≠ 0
  room : text.length ≤ console.width

variable {console : Console}

/-- What is printed of a text are the lines of what it shows. -/
theorem exists_of_printed {text shown : String} (wide : console.width ≠ 0)
    (printed : console.printed text = .ok shown) :
    ∃ rendered, Markup.render console.emoji text.toList = .ok rendered ∧
      shown = String.ofList
        (Console.endLines (wrap .natural .fold console.width rendered.text)) := by
  cases read : Markup.render console.emoji text.toList with
  | error fault =>
    unfold Console.printed at printed
    rw [read] at printed
    cases printed
  | ok rendered =>
    refine ⟨rendered, rfl, ?_⟩
    rw [Console.printed_eq_of_render read, if_neg wide, Rendered.lines] at printed
    split at printed
    · cases printed
    · exact (Except.ok.inj printed).symm

namespace FitsLine

variable {text : String} (fits : FitsLine console text)
include fits

theorem wrap_of_sublist {part : List Char} (kept : part.Sublist text.toList) :
    wrap .natural .fold console.width part = [part] :=
  wrap_of_fits .natural .fold (fits.legible.of_sublist kept)
    (kept.length_le.trans (String.length_toList ▸ fits.room))

theorem printed_of_plain (plain : IsPlain console.emoji text.toList) :
    console.printed text = .ok (lineOf text.toList) := by
  rw [Console.printed_eq_of_render (render_of_plain fits.legible plain), if_neg fits.wide,
    Rendered.lines_of_spans_eq_nil, fits.wrap_of_sublist (List.Sublist.refl _)]
  rfl

/-- A text whose first line is the text itself is plain: the line has all its colons. -/
theorem plain_of_first {rendered : Rendered} {others : List (List Char)}
    (read : Markup.render console.emoji text.toList = .ok rendered)
    (lines : wrap .natural .fold console.width rendered.text = text.toList :: others) :
    IsPlain console.emoji text.toList := by
  have kept := count_wrap_le (by decide : ':' ∉ drawn) .natural .fold console.width rendered.text
  rw [lines, List.flatten_cons, List.count_append] at kept
  have part := text_render_sublist read (Nat.le_of_add_right_le kept)
  rw [fits.wrap_of_sublist part] at lines
  obtain ⟨shown, spans⟩ := rendered
  obtain rfl : shown = text.toList := (List.cons.inj lines).1
  exact isPlain_of_render fits.legible read

end FitsLine

/-! ### All lines -/

/-- Lines as they are printed one after the other. -/
def linesOf (lines : List String) : String :=
  String.ofList (Console.endLines (lines.map String.toList))

/-- What is printed stays in front of what is printed later. -/
theorem exists_output_printLines (sofar : Sofar) (lines : List (Except Failure String)) :
    ∃ more, (printLines console sofar lines).output = sofar.output ++ more := by
  induction lines generalizing sofar with
  | nil => exact ⟨"", String.append_empty.symm⟩
  | cons line rest inductionHypothesis =>
    unfold printLines
    cases shownLine console line with
    | error failure => exact ⟨"", String.append_empty.symm⟩
    | ok shown =>
      obtain ⟨more, printed⟩ := inductionHypothesis (sofar.print shown)
      exact ⟨shown ++ more, by rw [← String.append_assoc]; exact printed⟩

theorem toList_lineOf (text : List Char) : (lineOf text).toList = text ++ ['\n'] := by
  unfold lineOf Console.endLines
  rw [String.toList_ofList, List.flatMap_singleton]

theorem linesOf_cons (line : String) (rest : List String) :
    linesOf (line :: rest) = lineOf line.toList ++ linesOf rest := by
  unfold linesOf lineOf Console.endLines
  rw [← String.ofList_append, List.map_cons, List.flatMap_cons, List.flatMap_singleton]

theorem print_append (sofar : Sofar) (first second : String) :
    sofar.print (first ++ second) = (sofar.print first).print second := by
  unfold Sofar.print
  rw [String.append_assoc]

/-- The first of some lines of an output is known from what stands in front of it. -/
theorem eq_of_endLines_append {front more others : String} {first second : List Char}
    {rest : List (List Char)} (one : '\n' ∉ first) (two : '\n' ∉ second)
    (same : front ++ String.ofList (Console.endLines (first :: rest)) ++ more =
      front ++ (lineOf second ++ others)) : first = second := by
  have texts := congrArg String.toList same
  simp only [String.toList_append, List.append_assoc, toList_lineOf, String.toList_ofList,
    Console.endLines, List.flatMap_cons] at texts
  have lines := congrArg (pieces '\n') (List.append_cancel_left texts)
  simp only [List.singleton_append, pieces_append_cons one, pieces_append_cons two] at lines
  exact (List.cons.inj lines).1

theorem shownLine_ok (line : String) :
    shownLine console (.ok line) = (console.printed line).mapError Failure.markup := rfl

/-- Lines that fit are printed as they are if and only if they are plain. -/
theorem printLines_eq_iff {lines : List String} (fits : ∀ line ∈ lines, FitsLine console line)
    (sofar : Sofar) :
    printLines console sofar (lines.map .ok) = (sofar.print (linesOf lines)).exit 0 ↔
      ∀ line ∈ lines, IsPlain console.emoji line.toList := by
  induction lines generalizing sofar with
  | nil =>
    refine ⟨fun _ => nofun, fun _ => ?_⟩
    show sofar.exit 0 = (sofar.print "").exit 0
    unfold Sofar.print
    rw [String.append_empty]
  | cons line rest inductionHypothesis =>
    obtain ⟨here, later⟩ := List.forall_mem_cons.mp fits
    rw [List.forall_mem_cons, List.map_cons, linesOf_cons]
    unfold printLines
    by_cases plain : IsPlain console.emoji line.toList
    · rw [shownLine_ok, here.printed_of_plain plain, print_append]
      exact (inductionHypothesis later (sofar.print _)).trans (and_iff_right plain).symm
    · refine ⟨fun printed => absurd ?_ plain, fun all => absurd all.1 plain⟩
      cases read : console.printed line with
      | error fault =>
        rw [shownLine_ok, read] at printed
        cases congrArg Ending.escaped printed
      | ok shown =>
        obtain ⟨rendered, rendering, rfl⟩ := exists_of_printed here.wide read
        rw [shownLine_ok, read] at printed
        obtain ⟨more, output⟩ := @exists_output_printLines console
          (sofar.print (String.ofList
            (Console.endLines (wrap .natural .fold console.width rendered.text))))
          (rest.map .ok)
        have same := output.symm.trans (congrArg Ending.output printed)
        cases lines : wrap .natural .fold console.width rendered.text with
        | nil => exact absurd lines (wrap_ne_nil _ _ _ _)
        | cons first others =>
          rw [lines] at same
          have unbroken : '\n' ∉ first := notMem_of_mem_wrap (lines ▸ List.mem_cons_self)
          obtain rfl : first = line.toList := eq_of_endLines_append unbroken
            (here.legible.notMem (Or.inl (by decide))) same
          exact here.plain_of_first rendering lines

/-! ### The report -/

/-- The URL as it is reported: without its passwords, or a note that there is none. -/
def reportedUrl (settings : Settings) : Except Url.Fault String :=
  match nonEmpty? settings.databaseUrl with
  | none => .ok "Not set"
  | some url => Url.redact url

/-- The timeout as it is reported. -/
def reportedTimeout (settings : Settings) : String :=
  match settings.connectTimeout with
  | none => "Driver default"
  | some seconds => if seconds = 0 then "Driver default" else toString seconds

/-- The lines about the settings, below the heading. -/
def settingLines (settings : Settings) (url : String) : List String :=
  ["  Database URL: " ++ url, "  Default Schema: " ++ settings.defaultSchema,
    "  Connect Timeout: " ++ reportedTimeout settings, "  Log Level: " ++ settings.logLevel]

theorem forall_settingLines_iff {settings : Settings} {url : String} {Holds : List Char → Prop} :
    (∀ line ∈ settingLines settings url, Holds line.toList) ↔
      Holds ("  Database URL: ".toList ++ url.toList) ∧
      Holds ("  Default Schema: ".toList ++ settings.defaultSchema.toList) ∧
      Holds ("  Connect Timeout: ".toList ++ (reportedTimeout settings).toList) ∧
      Holds ("  Log Level: ".toList ++ settings.logLevel.toList) := by
  simp only [settingLines, List.forall_mem_cons, String.toList_append, List.not_mem_nil,
    false_implies, implies_true, and_true]

/-- The lines of the report. -/
def reportLines (settings : Settings) (url : String) : List String :=
  "Current Configuration" :: settingLines settings url

/-- What the command is to print about the settings. -/
def report (settings : Settings) (url : String) : String :=
  linesOf (reportLines settings url)

theorem settingsLines_eq {settings : Settings} {url : String}
    (reported : reportedUrl settings = .ok url) :
    settingsLines settings =
      .ok "[bold]Current Configuration[/bold]" :: (settingLines settings url).map .ok := by
  unfold reportedUrl at reported
  unfold settingsLines
  cases given : nonEmpty? settings.databaseUrl with
  | none =>
    rw [given] at reported
    cases reported
    rfl
  | some text =>
    rw [given] at reported
    dsimp only at reported ⊢
    rw [reported]
    rfl

theorem pieces_of_tag {emoji : EmojiTable} {rendering next : Rendering} {text : List Char}
    {rest : List Piece} (read : rendering.tag text = .ok next) :
    rendering.pieces emoji (.tag text :: rest) = next.pieces emoji rest := by
  rw [Rendering.pieces, read]

theorem pieces_plain (emoji : EmojiTable) (rendering : Rendering) (text : List Char)
    (rest : List Piece) :
    rendering.pieces emoji (.plain text :: rest) =
      (rendering.append (shownPlain emoji text)).pieces emoji rest := by
  rw [Rendering.pieces]

/-- The heading is printed without its tags. -/
theorem printed_heading (room : "Current Configuration".length ≤ console.width) :
    console.printed "[bold]Current Configuration[/bold]" =
      .ok (lineOf "Current Configuration".toList) := by
  have read : Markup.render console.emoji "[bold]Current Configuration[/bold]".toList =
      .ok ⟨"Current Configuration".toList, [⟨0, 21, "bold".toList⟩]⟩ := by
    have uncoded : shownPlain console.emoji "Current Configuration".toList =
        "Current Configuration".toList := shownPlain_of_verbatim (isVerbatim_iff.mpr
          ⟨by decide, EmojiTable.holdsCode_of_notMem (by decide)⟩)
    have pieces : piecesOf "[bold]Current Configuration[/bold]".toList =
        [.tag "bold".toList, .plain "Current Configuration".toList, .tag "/bold".toList] := by
      decide +kernel
    have opened : Rendering.start.tag "bold".toList =
        .ok ⟨[], [], [⟨"bold".toList, none, 0⟩]⟩ := rfl
    have closed : Rendering.tag ⟨"Current Configuration".toList, [], [⟨"bold".toList, none, 0⟩]⟩
        "/bold".toList = .ok ⟨"Current Configuration".toList, [⟨0, 21, "bold".toList⟩], []⟩ := rfl
    unfold Markup.render
    rw [if_pos (by decide), pieces, pieces_of_tag opened, pieces_plain, uncoded,
      Rendering.append, List.nil_append, pieces_of_tag closed]
    rfl
  have sound : ∀ span ∈ [Span.mk 0 21 "bold".toList], isFlawed span = false := by decide +kernel
  have wide : console.width ≠ 0 := Nat.ne_of_gt (Nat.lt_of_lt_of_le (by decide) room)
  have fits : FitsLine console "Current Configuration" := ⟨by decide, wide, room⟩
  rw [Console.printed_eq_of_render read, if_neg wide, Rendered.lines_of_unflawed sound,
    fits.wrap_of_sublist (List.Sublist.refl _)]
  rfl

theorem reportedTimeout_sound (settings : Settings) :
    IsLegible (reportedTimeout settings).toList ∧ '[' ∉ (reportedTimeout settings).toList ∧
      ':' ∉ (reportedTimeout settings).toList := by
  have default : IsLegible "Driver default".toList ∧ '[' ∉ "Driver default".toList ∧
      ':' ∉ "Driver default".toList := by decide
  unfold reportedTimeout
  split
  · exact default
  case h_2 seconds given =>
    split
    · exact default
    · have legible := isLegible_toDigits seconds.natAbs
      have minus : IsLegible ['-'] := by decide
      rcases toList_toString_int seconds with ⟨-, digits⟩ | ⟨-, digits⟩ <;> rw [digits]
      · exact ⟨legible, Summary.notMem_toDigits (by decide) _,
          Summary.notMem_toDigits (by decide) _⟩
      · exact ⟨minus.append legible,
          List.not_mem_cons_of_ne_of_not_mem (by decide) (Summary.notMem_toDigits (by decide) _),
          List.not_mem_cons_of_ne_of_not_mem (by decide) (Summary.notMem_toDigits (by decide) _)⟩

/-- The heading is printed, and then the lines about the settings. -/
theorem run_of_reported (server : Server) (files : FileTree) {arguments : List String}
    (asked : command? arguments = some .config) {settings : Settings} {url : String}
    (reported : reportedUrl settings = .ok url)
    (room : "Current Configuration".length ≤ console.width) :
    run console server settings files arguments =
      (printLines console (Sofar.nothing.print (lineOf "Current Configuration".toList))
        ((settingLines settings url).map .ok), files) := by
  unfold run plan
  rw [asked]
  dsimp only
  rw [settingsLines_eq reported, printLines, shownLine_ok, printed_heading room]
  rfl

theorem forall_plain_iff {settings : Settings} {url : String} :
    (∀ line ∈ settingLines settings url, IsPlain console.emoji line.toList) ↔
      IsPlain console.emoji url.toList ∧ IsPlain console.emoji settings.defaultSchema.toList ∧
        IsPlain console.emoji settings.logLevel.toList := by
  obtain ⟨-, bracket, colon⟩ := reportedTimeout_sound settings
  have plainTimeout : IsPlain console.emoji (reportedTimeout settings).toList :=
    isPlain_of_notMem bracket colon
  have labels (text : List Char) :
      (IsPlain console.emoji ("  Database URL: ".toList ++ text) ↔ IsPlain console.emoji text) ∧
      (IsPlain console.emoji ("  Default Schema: ".toList ++ text) ↔ IsPlain console.emoji text) ∧
      (IsPlain console.emoji ("  Connect Timeout: ".toList ++ text) ↔ IsPlain console.emoji text) ∧
      (IsPlain console.emoji ("  Log Level: ".toList ++ text) ↔ IsPlain console.emoji text) :=
    ⟨@isPlain_label_iff _ "  Database URL".toList (by decide) (by decide) (by decide) text,
      @isPlain_label_iff _ "  Default Schema".toList (by decide) (by decide) (by decide) text,
      @isPlain_label_iff _ "  Connect Timeout".toList (by decide) (by decide) (by decide) text,
      @isPlain_label_iff _ "  Log Level".toList (by decide) (by decide) (by decide) text⟩
  rw [forall_settingLines_iff, (labels _).1, (labels _).2.1, (labels _).2.2.1, (labels _).2.2.2]
  exact ⟨fun all => ⟨all.1, all.2.1, all.2.2.2⟩,
    fun all => ⟨all.1, all.2.1, plainTimeout, all.2.2⟩⟩

section

variable (server : Server) (files : FileTree) {arguments : List String}
  (asked : command? arguments = some .config) {settings : Settings}
  (schema : IsLegible settings.defaultSchema.toList) (level : IsLegible settings.logLevel.toList)
include asked schema level

theorem run_eq_report_iff {url : String} (reported : reportedUrl settings = .ok url)
    (legible : IsLegible url.toList)
    (room : ∀ line ∈ reportLines settings url, line.length ≤ console.width) :
    run console server settings files arguments = (⟨0, report settings url, "", [], none⟩, files) ↔
      IsPlain console.emoji url.toList ∧ IsPlain console.emoji settings.defaultSchema.toList ∧
        IsPlain console.emoji settings.logLevel.toList := by
  obtain ⟨headed, room⟩ := List.forall_mem_cons.mp room
  have fits : ∀ line ∈ settingLines settings url, FitsLine console line := by
    have all : ∀ line ∈ settingLines settings url, IsLegible line.toList :=
      forall_settingLines_iff.mpr ⟨.append (by decide) legible, .append (by decide) schema,
        .append (by decide) (reportedTimeout_sound settings).1, .append (by decide) level⟩
    have wide : console.width ≠ 0 := Nat.ne_of_gt (Nat.lt_of_lt_of_le (by decide) headed)
    exact fun line member => ⟨all line member, wide, room line member⟩
  have whole : (⟨0, report settings url, "", [], none⟩ : Ending) =
      ((Sofar.nothing.print (lineOf "Current Configuration".toList)).print
        (linesOf (settingLines settings url))).exit 0 := by
    rw [report, reportLines, linesOf_cons, ← print_append]
    unfold Sofar.print Sofar.nothing Sofar.exit
    rw [String.empty_append]
  rw [run_of_reported server files asked reported headed, whole, Prod.mk.injEq, eq_self, and_true,
    printLines_eq_iff fits, forall_plain_iff]

/-- The command that shows the settings reports them as they are, on a console that has room for
each line, if and only if the redacted URL, the schema and the log level are plain: no tag begins in
them, none of their opening brackets stands behind a backslash, and they hold no code of an emoji
that the console knows. -/
theorem config_reports_iff (console : Console)
    (accepted : ∀ url, nonEmpty? settings.databaseUrl = some url →
      IsLegible url.toList ∧ ∃ parts, Url.ofText url.toList = .ok parts) :
    ∃ url, reportedUrl settings = .ok url ∧
      ((∀ line ∈ reportLines settings url, line.length ≤ console.width) →
        (run console server settings files arguments =
            (⟨0, report settings url, "", [], none⟩, files) ↔
          IsPlain console.emoji url.toList ∧ IsPlain console.emoji settings.defaultSchema.toList ∧
            IsPlain console.emoji settings.logLevel.toList)) := by
  have reported : ∃ url, reportedUrl settings = .ok url ∧ IsLegible url.toList := by
    unfold reportedUrl
    cases given : nonEmpty? settings.databaseUrl with
    | none => exact ⟨"Not set", rfl, by decide⟩
    | some text =>
      obtain ⟨legible, parts, read⟩ := accepted text given
      exact ⟨_, Url.redact_of_read read, Url.isLegible_redact legible (Url.redact_of_read read)⟩
  obtain ⟨url, reported, legible⟩ := reported
  exact ⟨url, reported, run_eq_report_iff server files asked schema level reported legible⟩

end

/-- Settings with a URL, and the defaults for the others. -/
def settingsAt (url : String) : Settings :=
  { databaseUrl := some url }

theorem config_reports_iff_address :
    reportedUrl (settingsAt "postgres://bob:secret@[::1]/db") = .ok "postgres://bob:***@[::1]/db" ∧
      run emojiConsole Server.empty (settingsAt "postgres://bob:secret@[::1]/db") .empty
        ["config"] =
          (⟨0, report (settingsAt "postgres://bob:secret@[::1]/db") "postgres://bob:***@[::1]/db",
            "", [], none⟩, .empty) := by
  have redacted : Url.redact "postgres://bob:secret@[::1]/db" =
      .ok "postgres://bob:***@[::1]/db" := by decide +kernel
  have shown : reportedUrl (settingsAt "postgres://bob:secret@[::1]/db") =
      .ok "postgres://bob:***@[::1]/db" := redacted
  obtain ⟨url, reported, exactly⟩ := config_reports_iff Server.empty .empty
    (by decide +kernel : command? ["config"] = some .config)
    (by decide : IsLegible (settingsAt "postgres://bob:secret@[::1]/db").defaultSchema.toList)
    (by decide) emojiConsole fun url given => by
      cases given
      exact ⟨by decide, Url.exists_of_redact redacted⟩
  cases shown.symm.trans reported
  exact ⟨shown, (exactly (by decide)).mpr ⟨by decide, by decide, by decide⟩⟩

/-- An address of version six that begins with a letter is a tag, and is not shown. -/
theorem config_loses_address :
    reportedUrl (settingsAt "postgres://bob@[fe80::1]/db") = .ok "postgres://bob@[fe80::1]/db" ∧
      (∀ line ∈ reportLines (settingsAt "postgres://bob@[fe80::1]/db")
        "postgres://bob@[fe80::1]/db", line.length ≤ emojiConsole.width) ∧
      run emojiConsole Server.empty (settingsAt "postgres://bob@[fe80::1]/db") .empty ["config"] ≠
        (⟨0, report (settingsAt "postgres://bob@[fe80::1]/db") "postgres://bob@[fe80::1]/db",
          "", [], none⟩, .empty) := by
  have shown : reportedUrl (settingsAt "postgres://bob@[fe80::1]/db") =
      .ok "postgres://bob@[fe80::1]/db" := by decide +kernel
  have room : ∀ line ∈ reportLines (settingsAt "postgres://bob@[fe80::1]/db")
      "postgres://bob@[fe80::1]/db", line.length ≤ emojiConsole.width := by decide
  refine ⟨shown, room, fun exactly => ?_⟩
  have plain := (run_eq_report_iff Server.empty .empty
    (by decide +kernel : command? ["config"] = some .config)
    (by decide : IsLegible (settingsAt "postgres://bob@[fe80::1]/db").defaultSchema.toList)
    (by decide) shown (by decide) room).mp exactly
  exact absurd plain.1.untagged (by decide)

end CatalogReader.CommandLine
