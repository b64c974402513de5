import RelationMapper.Dialect
import RelationMapper.Plan

/-!
# Statements

Every statement that is sent to a database, as data: a `Statement` says which table it is about and under which
conditions, and `Statement.text` writes it. Values appear in statements as literals only. Statements of callers are
sent as they are.
-/

namespace RelationMapper

/-- A condition on a column of a table: it equals a literal, or it is among several. -/
inductive Condition where
  | equals (table column literal : String)
  | among (table column : String) (literals : List String)
deriving DecidableEq

/-- A condition in writing. -/
def Condition.text : Condition → String
  | .equals table column literal => table ++ "." ++ column ++ " = " ++ literal
  | .among table column literals => table ++ "." ++ column ++ " IN (" ++ ", ".intercalate literals ++ ")"

/-- A literal that is assigned to a column. -/
structure Assignment where
  column : String
  literal : String
deriving DecidableEq

/-- An assignment in writing. -/
def Assignment.text (a : Assignment) : String := a.column ++ " = " ++ a.literal

namespace Wording

/-- Conditions that all have to hold. -/
def conjunction (conditions : List String) : String := " AND ".intercalate conditions

/-- The clause that restricts a statement; without conditions there is none. -/
def restriction (conditions : List String) : String :=
  if conditions.isEmpty then "" else "\nWHERE " ++ conjunction conditions

def select (plan : JoinPlan) (conditions : List String) (ending : Option String) : String :=
  "SELECT\n    " ++ ", \n    ".intercalate plan.selected ++ "\nFROM " ++ plan.table ++
    String.join (plan.joins.map ("\n" ++ ·)) ++ restriction conditions ++
    match ending with
    | some s => if s.isEmpty then "" else "\n" ++ s
    | none => ""

def selectKeys (table key : String) (conditions : List String) : String :=
  "SELECT " ++ table ++ "." ++ key ++ " AS " ++ key ++ " FROM " ++ table ++ restriction conditions

def selectMax (table column : String) (conditions : List String) : String :=
  "SELECT MAX(" ++ table ++ "." ++ column ++ ") AS " ++ column ++ " FROM " ++ table ++ restriction conditions

def nextKey (table key : String) : String := "SELECT MAX(" ++ key ++ ") AS id_max FROM " ++ table

def insert (table : String) (columns literals : List String) : String :=
  "INSERT INTO " ++ table ++ " (" ++ ", ".intercalate columns ++ ") VALUES (" ++ ", ".intercalate literals ++ ")"

def update (table : String) (assignments conditions : List String) : String :=
  "UPDATE " ++ table ++ " SET " ++ ", ".intercalate assignments ++ restriction conditions

def delete (table : String) (conditions : List String) : String := "DELETE FROM " ++ table ++ restriction conditions

def createTable (table : String) (columns : List (String × String)) : String :=
  "CREATE TABLE IF NOT EXISTS " ++ table ++ " (" ++
    ", ".intercalate (columns.map fun (name, type) => name ++ " " ++ type) ++ ")"

/-- Deletes the records of a related table whose owners meet a condition. MySQL joins the two tables, SQLite selects the
owners' keys. -/
def cascade (dialect : Dialect) (child owner key condition : String) : String :=
  match dialect with
  | .mysql =>
    "DELETE " ++ child ++ " FROM " ++ child ++ " INNER JOIN " ++ owner ++ " ON " ++ owner ++ "." ++ key ++ " = " ++
      child ++ "." ++ key ++ " WHERE " ++ condition
  | .sqlite =>
    "DELETE FROM " ++ child ++ " WHERE " ++ child ++ "." ++ key ++ " IN (SELECT " ++ owner ++ "." ++ key ++ " FROM " ++
      owner ++ " WHERE " ++ condition ++ ")"

/-- Asks for the columns of a table. The table's name is a text, in the quotes of the dialect. -/
def columnsOf (dialect : Dialect) (table : String) : String :=
  let name := textLiteral dialect.quote table
  match dialect with
  | .mysql =>
    "\nSELECT COLUMN_NAME, DATA_TYPE, CHARACTER_MAXIMUM_LENGTH\nFROM INFORMATION_SCHEMA.COLUMNS\nWHERE TABLE_NAME = " ++
      name ++ "\nAND TABLE_SCHEMA = DATABASE()\nORDER BY ORDINAL_POSITION\n"
  | .sqlite => "SELECT name, type FROM pragma_table_info(" ++ name ++ ") ORDER BY cid"

end Wording

/-- A statement. -/
inductive Statement where
  | columnsOf (dialect : Dialect) (table : String)
  | createTable (table : String) (columns : List (String × String))
  | select (plan : JoinPlan) (conditions : List Condition) (ending : Option String)
  | selectKeys (table key : String) (conditions : List Condition)
  | selectMax (table column : String) (conditions : List Condition)
  | nextKey (table key : String)
  | insert (table : String) (columns literals : List String)
  | update (table : String) (assignments : List Assignment) (conditions : List Condition)
  | delete (table : String) (conditions : List Condition)
  | cascade (dialect : Dialect) (child owner key : String) (conditions : List Condition)
  /-- A statement of the caller. -/
  | given (text : String)
deriving DecidableEq

namespace Statement

/-- A statement in writing. -/
def text : Statement → String
  | .columnsOf dialect table => Wording.columnsOf dialect table
  | .createTable table columns => Wording.createTable table columns
  | .select plan conditions ending => Wording.select plan (conditions.map (·.text)) ending
  | .selectKeys table key conditions => Wording.selectKeys table key (conditions.map (·.text))
  | .selectMax table column conditions => Wording.selectMax table column (conditions.map (·.text))
  | .nextKey table key => Wording.nextKey table key
  | .insert table columns literals => Wording.insert table columns literals
  | .update table assignments conditions =>
    Wording.update table (assignments.map (·.text)) (conditions.map (·.text))
  | .delete table conditions => Wording.delete table (conditions.map (·.text))
  | .cascade dialect child owner key conditions =>
    Wording.cascade dialect child owner key (Wording.conjunction (conditions.map (·.text)))
  | .given text => text

end Statement

end RelationMapper
