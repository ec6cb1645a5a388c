/-
The log, as `_configure_logging` sets it up. Records have a level and a source, and a log shows the
records that reach its threshold. The threshold is given by a word that names a level in any mix of
small letters and capitals.
-/

import CatalogReader.Text.LetterCase

namespace CatalogReader

open CatalogReader.Text

/-- The levels of records. -/
inductive LogLevel where
  | debug
  | warning
  deriving DecidableEq, Repr

namespace LogLevel

/-- How grave a level is. -/
def severity : LogLevel → Nat
  | debug => 10
  | warning => 30

/-- The word for a level. -/
def word : LogLevel → String
  | debug => "DEBUG"
  | warning => "WARNING"

end LogLevel

/-- Where records come from. -/
inductive LogSource where
  /-- The reader's dealings with the driver. -/
  | connection
  /-- The making of tables from rows. -/
  | table
  deriving DecidableEq, Repr

/-- The name of a source. -/
def LogSource.name : LogSource → String
  | connection => "schemaconv_cli.database.postgres"
  | table => "schemaconv_cli.database.base"

/-- A record of the log. -/
structure LogRecord where
  level : LogLevel
  source : LogSource
  message : String
  deriving DecidableEq, Repr

namespace LogRecord

/-- The line of a record. -/
def line (entry : LogRecord) : String :=
  entry.level.word ++ " " ++ entry.source.name ++ ": " ++ entry.message

end LogRecord

/-! ### Thresholds -/

/-- The words that name thresholds. -/
def thresholdWords : List (String × Nat) :=
  [("CRITICAL", 50), ("FATAL", 50), ("ERROR", 40), ("WARN", 30), ("WARNING", 30), ("INFO", 20),
    ("DEBUG", 10), ("NOTSET", 0)]

/-- The threshold that a word names. -/
def threshold? (word : String) : Option Nat :=
  let capitals := String.ofList (upper word.toList)
  (thresholdWords.find? fun entry => entry.1 == capitals).map Prod.snd

/-- The text of a log at a threshold, with a line feed after each line. -/
def shownLog (threshold : Nat) (entries : List LogRecord) : String :=
  String.join ((entries.filter fun entry => threshold ≤ entry.level.severity).map fun entry =>
    entry.line ++ "\n")

end CatalogReader
