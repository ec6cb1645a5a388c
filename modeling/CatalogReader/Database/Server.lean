/-
A database server as its driver, psycopg2, shows it: the tables of its catalog, and the calls that
fail at present. What a reader asks of the driver is recorded as events.
-/

import CatalogReader.Catalog.Row
import CatalogReader.Catalog.TableName
import CatalogReader.Database.Fault

namespace CatalogReader

/-- The calls of a driver that may fail. -/
inductive DriverCall where
  | connect
  | cursor
  | execute
  | fetch
  | close
  deriving DecidableEq, Repr

/-- A table of the catalog and the records that describe its columns. -/
structure CatalogTable where
  name : TableName
  records : List CatalogRecord
  deriving DecidableEq, Repr

/-- A server: the tables of its catalog and the fault of each call that fails. -/
structure Server where
  tables : List CatalogTable
  fault : DriverCall → Option DriverFault

/-- A change of a server. -/
inductive ServerChange where
  | tables (tables : List CatalogTable)
  | fault (call : DriverCall) (fault : Option DriverFault)
  deriving DecidableEq, Repr

namespace Server

/-- A server with an empty catalog and no faults. -/
def empty : Server := ⟨[], fun _ => none⟩

/-- A server that refuses connections. -/
def unreachable : Server :=
  ⟨[], fun call => if call = .connect then some ⟨.operational, "connection refused"⟩ else none⟩

/-- The server after a change. -/
def change (server : Server) : ServerChange → Server
  | .tables tables => { server with tables }
  | .fault call fault =>
    { server with fault := fun other => if other = call then fault else server.fault other }

/-- The server after changes in their order. -/
def changes (server : Server) (changes : List ServerChange) : Server :=
  changes.foldl change server

/-- The records of the first table of a name. -/
def records (server : Server) (name : TableName) : List CatalogRecord :=
  ((server.tables.find? fun table => table.name == name).map CatalogTable.records).getD []

end Server

/-- What a driver was asked to do. -/
inductive Event where
  /-- A connection was asked for, and was opened or not. -/
  | connect (url : String) (timeout : Option Int) (opened : Bool)
  /-- The catalog was queried for a table. -/
  | execute (name : TableName)
  /-- The cursor of a query was given back. -/
  | cursorClosed
  /-- A connection was given back, and was closed or not. -/
  | close (closed : Bool)
  deriving DecidableEq, Repr

/-- Whether an event opened a connection. -/
def Event.opens : Event → Bool
  | connect _ _ opened => opened
  | _ => false

/-- Whether an event closed a connection. -/
def Event.closes : Event → Bool
  | close closed => closed
  | _ => false

end CatalogReader
