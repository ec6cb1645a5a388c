/-
What the database driver, psycopg2, raises. Most kinds belong to the family of database errors;
warnings and errors of the running program do not, and nothing may treat them as a failure of the
database.
-/

namespace CatalogReader

/-- The kinds of faults a driver raises. -/
inductive FaultKind where
  | error
  | interface
  | database
  | operational
  | programming
  | data
  | internal
  | notSupported
  | integrity
  | warning
  | runtime
  deriving DecidableEq, Repr

/-- Whether a kind belongs to the family of database errors. -/
def FaultKind.isDatabaseError : FaultKind → Bool
  | warning | runtime => false
  | _ => true

/-- A fault with the text the driver gives it. -/
structure DriverFault where
  kind : FaultKind
  message : String
  deriving DecidableEq, Repr

/-- Whether a fault is a database error. -/
def DriverFault.isDatabaseError (fault : DriverFault) : Bool :=
  fault.kind.isDatabaseError

end CatalogReader
