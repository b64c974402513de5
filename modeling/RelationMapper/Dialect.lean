import RelationMapper.Fault
import RelationMapper.Value.Keyed

/-!
# Dialects

The databases that are supported, and where they differ: the quote around texts, the settings that a connection needs,
and what an engine is created with. How statements differ is said where statements are written.
-/

namespace RelationMapper

/-- A supported database. -/
inductive Dialect where
  | mysql
  | sqlite
deriving DecidableEq

namespace Dialect

/-- The name of a dialect. -/
def name : Dialect → String
  | .mysql => "mysql"
  | .sqlite => "sqlite"

/-- All dialects. -/
def all : List Dialect := [.mysql, .sqlite]

/-- The names of all dialects. -/
def available : List String := all.map name

/-- The dialect of a name. -/
def ofName? (s : String) : Option Dialect := all.find? (·.name == s)

/-- The dialect of a name that has to be supported. -/
def ofName (s : String) : Except BadValue Dialect :=
  match ofName? s with
  | some d => .ok d
  | none => .error (.unsupportedDialect s available)

/-- A name leads back to its dialect. -/
theorem ofName?_name (d : Dialect) : ofName? d.name = some d := by cases d <;> decide

/-- The quote around texts. -/
def quote : Dialect → String
  | .mysql => "\""
  | .sqlite => "'"

/-- The settings that have to be given. -/
def required : Dialect → List String
  | .mysql => ["hostname", "username", "database"]
  | .sqlite => ["database"]

/-- The arguments that an engine of the dialect is created with. A connection of SQLite may be used from any thread. -/
def engineArguments : Dialect → Fields
  | .mysql => [("connect_args", .record [("charset", .text "utf8mb4")])]
  | .sqlite => [("connect_args", .record [("check_same_thread", .bool false)])]

end Dialect

end RelationMapper
