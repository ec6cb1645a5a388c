/-
The settings of a run, by the rules of pydantic-settings for the class `Settings`, and the search
for its environment file in `_find_env_file`. A setting is given directly, by a variable of the
environment, by a variable of an environment file, or not at all; the first of these that applies
decides, even when its value is no good. Names of variables are compared without regard to small and
capital letters.
-/

import CatalogReader.Settings.EnvFile
import CatalogReader.Settings.Number
import CatalogReader.Text.LetterCase

namespace CatalogReader

open CatalogReader.Text

/-- The settings of a run. -/
structure Settings where
  databaseUrl : Option String := none
  defaultSchema : String := "public"
  connectTimeout : Option Int := none
  logLevel : String := "WARNING"
  deriving DecidableEq, Repr

namespace Settings

/-- The names of the settings. -/
inductive Name where
  | databaseUrl
  | defaultSchema
  | connectTimeout
  | logLevel
  deriving DecidableEq, Repr

/-- The word for a setting. -/
def Name.word : Name → String
  | databaseUrl => "database_url"
  | defaultSchema => "default_schema"
  | connectTimeout => "connect_timeout"
  | logLevel => "log_level"

/-- The variable that holds a setting, in small letters. -/
def Name.variable (name : Name) : String :=
  "schemaconv_" ++ name.word

/-! ### Values -/

/-- A value as it is given. -/
inductive Given where
  | null
  | bool (value : Bool)
  | integer (value : Int)
  /-- A number with a point and so many decimal places behind it. -/
  | decimal (digits : Int) (places : Nat)
  | text (value : String)
  /-- A value with parts. -/
  | composite
  deriving DecidableEq, Repr

/-- What is wrong with a value. -/
inductive Defect where
  | notText
  | notInteger
  | badInteger (fault : IntegerFault)
  deriving DecidableEq, Repr

/-- The code of a defect. -/
def Defect.code : Defect → String
  | notText => "string_type"
  | notInteger => "int_type"
  | badInteger .fractional => "int_from_float"
  | badInteger .unreadable => "int_parsing"
  | badInteger .tooLarge => "int_parsing_size"

/-- The message of a defect. -/
def Defect.message : Defect → String
  | notText => "Input should be a valid string"
  | notInteger => "Input should be a valid integer"
  | badInteger .fractional =>
    "Input should be a valid integer, got a number with a fractional part"
  | badInteger .unreadable =>
    "Input should be a valid integer, unable to parse string as an integer"
  | badInteger .tooLarge =>
    "Unable to parse input string as an integer, exceeded maximum size"

/-- A value as a text. -/
def Given.asText : Given → Except Defect String
  | text value => .ok value
  | _ => .error .notText

/-- A value as a text that may be null. -/
def Given.asOptionalText : Given → Except Defect (Option String)
  | null => .ok none
  | value => value.asText.map some

/-- A value as an integer. -/
def Given.asInteger : Given → Except Defect Int
  | bool value => .ok (if value then 1 else 0)
  | integer value => .ok value
  | decimal digits places => (integerOfDecimal digits places).mapError .badInteger
  | text value => (integerOfText value).mapError .badInteger
  | _ => .error .notInteger

/-- A value as an integer that may be null. -/
def Given.asOptionalInteger : Given → Except Defect (Option Int)
  | null => .ok none
  | value => value.asInteger.map some

/-! ### Sources -/

/-- Where settings come from: values given directly, the environment, and the text of an environment
file. -/
structure Sources where
  direct : List (String × Given)
  environment : List (String × String)
  file : Option String

/-- The value of the last entry with a name in small letters. -/
def lastOf? {Value : Type} (name : String) (entries : List (String × Value)) : Option Value :=
  (entries.reverse.find? fun entry => String.ofList (lower entry.1.toList) == name).map Prod.snd

/-- The variables that the file binds. -/
def Sources.fileVariables (sources : Sources) : List (String × Option String) :=
  match sources.file with
  | none => []
  | some file => EnvFile.boundVariables sources.environment file

/-- The value that is given for a setting. -/
def Sources.given? (sources : Sources) (name : Name) : Option Given :=
  match sources.direct.find? fun entry => entry.1 == name.word with
  | some entry => some entry.2
  | none =>
    match lastOf? name.variable sources.environment with
    | some value => some (.text value)
    | none => ((lastOf? name.variable sources.fileVariables).bind id).map Given.text

/-- A setting that cannot be used, and why. -/
structure Fault where
  name : Name
  defect : Defect
  deriving DecidableEq, Repr

/-- The value of a setting, which has a default. -/
def Sources.read {Value : Type} (sources : Sources) (name : Name) (default : Value)
    (convert : Given → Except Defect Value) : Except Fault Value :=
  match sources.given? name with
  | none => .ok default
  | some given => (convert given).mapError fun defect => ⟨name, defect⟩

/-- The fault of a result that has one. -/
def faultOf {Value : Type} : Except Fault Value → List Fault
  | .error fault => [fault]
  | .ok _ => []

/-- The settings from their sources, or all faults in the order of the settings. -/
def load (sources : Sources) : Except (List Fault) Settings :=
  let unset : Settings := {}
  let databaseUrl := sources.read .databaseUrl unset.databaseUrl Given.asOptionalText
  let defaultSchema := sources.read .defaultSchema unset.defaultSchema Given.asText
  let connectTimeout := sources.read .connectTimeout unset.connectTimeout Given.asOptionalInteger
  let logLevel := sources.read .logLevel unset.logLevel Given.asText
  match databaseUrl, defaultSchema, connectTimeout, logLevel with
  | .ok databaseUrl, .ok defaultSchema, .ok connectTimeout, .ok logLevel =>
    .ok { databaseUrl, defaultSchema, connectTimeout, logLevel }
  | _, _, _, _ =>
    .error (faultOf databaseUrl ++ faultOf defaultSchema ++ faultOf connectTimeout ++
      faultOf logLevel)

/-! ### The environment file -/

/-- The places of an environment file, the first one first: the working directory, the home
directory and the directory of the program. -/
def filePlaces (home program : String) : List String :=
  [".env", home ++ "/.schemaconv/.env", program ++ "/.env"]

/-- The first place at which there is an environment file. -/
def findFile? (home program : String) (present : List String) : Option String :=
  (filePlaces home program).find? present.contains

end Settings

end CatalogReader
