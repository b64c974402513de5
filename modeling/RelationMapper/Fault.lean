import RelationMapper.Number.Numeral
import RelationMapper.TypeSpec.Parser
import RelationMapper.Value.Display

/-!
# Faults

Everything that can go wrong, as causes. `Fault.message` words each of them; a cause carries what its words need and no
words of its own, except for a text that is no moment: why it is none is for the reader of moments to say.

Faults of the library are about a declared type, a value that does not fit its column (`Mismatch`), an operation that
is used wrongly (`Misuse`), a schema that is not valid (`SchemaFlaw`) or a setting that cannot be used (`BadValue`). The
drivers and callbacks that the library runs raise faults of their own (`ForeignError`); these pass through unchanged.
-/

namespace RelationMapper

open Number

/-- A value that does not fit where it is stored or read. -/
inductive Mismatch where
  | notFinite (x : Binary64)
  | strangeType (name : String)
  | notPrimitive (declared : String)
  | incompatible (name : String) (expected : ColumnType) (accepted : List ColumnType)
  | notBool (shown : String)
  | notMap (table : String)
  | notArray (name table : String)
  | isArray (name table : String)

namespace Mismatch

def message : Mismatch → String
  | .notFinite x => "non-finite number " ++ x.text ++ " cannot be stored"
  | .strangeType name => "unsupported value type " ++ name
  | .notPrimitive declared => "'" ++ declared ++ "' is not a primitive column type"
  | .incompatible name expected accepted =>
    "'" ++ name ++ "' expected value to be type '" ++ expected.name ++ "' but got '" ++
      " or ".intercalate (accepted.map (·.name)) ++ "' instead."
  | .notBool shown => "not a bool: " ++ shown
  | .notMap table => "expected a mapping as entry for table '" ++ table ++ "'"
  | .notArray name table => "expected array for value '" ++ name ++ "' in table '" ++ table ++ "'"
  | .isArray name table => "expected not array for value '" ++ name ++ "' in table '" ++ table ++ "'"

end Mismatch

/-- The operations on rows that change a table. -/
inductive RowChange where
  | insert
  | update
  | delete

/-- The name under which callers know an operation. -/
def RowChange.name : RowChange → String
  | .insert => "insert_into()"
  | .update => "update()"
  | .delete => "delete_from()"

/-- An operation that is used wrongly. -/
inductive Misuse where
  | unknownProperty (name table : String)
  | filterOnRelation (name table : String)
  | maxOfRelation (name table : String)
  | keyWritten (key table : String)
  | noEntry (operation : RowChange)
  | noFilter (operation : RowChange)
  | emptyFilter
  | undeclaredTable (name : String)

namespace Misuse

def message : Misuse → String
  | .unknownProperty name table =>
    "cannot get property type of '" ++ name ++ "' because it is not in table '" ++ table ++ "'"
  | .filterOnRelation name table => "cannot filter '" ++ table ++ "' on relation property '" ++ name ++ "'"
  | .maxOfRelation name table => "cannot select max of relation property '" ++ table ++ "." ++ name ++ "'"
  | .keyWritten key table =>
    "cannot write key '" ++ key ++ "' of table '" ++ table ++ "', keys are assigned on insert"
  | .noEntry operation => "'entry' clause not provided in " ++ operation.name
  | .noFilter operation => "'where' clause not provided in " ++ operation.name
  | .emptyFilter => "'where' clause must not be empty."
  | .undeclaredTable name => "table '" ++ name ++ "' is not declared"

end Misuse

/-- What is wrong with the type of a property. -/
inductive PropertyFlaw where
  | unreadable (e : DeclarationError)
  | noPrecision
  | precision
  | primitiveArray
  | unknownType (base : String)
  | notArray
  | noForeignKey (related key : String)

namespace PropertyFlaw

def message : PropertyFlaw → String
  | .unreadable e => e.message
  | .noPrecision => "varchar precision is required"
  | .precision => "unexpected precision value (only varchars can have precision)"
  | .primitiveArray => "array of primitives not supported"
  | .unknownType base => "unknown type '" ++ base ++ "'"
  | .notArray => "1-1 fail: non-primitives as non-arrays are not supported"
  | .noForeignKey related key =>
    "1-M fail: table '" ++ related ++ "' must contain 'int " ++ key ++ "' as property"

end PropertyFlaw

/-- What is wrong with a schema, in itself or against the database. -/
inductive SchemaFlaw where
  | duplicateProperty (table name : String)
  | missingKey (table key : String)
  | keyType (table key actual : String)
  | missingColumn (table name : String)
  | columnType (table name declared actual : String)
  | tableName (name : String)
  | keyName (name : String)
  | propertyName (name : String)
  | duplicateTable (name : String)
  | duplicateKey (name : String)
  | cycle (owner dependent : String)
  | property (table name : String) (flaw : PropertyFlaw)
  | unsupportedRelation (table name declared : String)
  | unknownRelated (base table : String)

namespace SchemaFlaw

def message : SchemaFlaw → String
  | .duplicateProperty table name => "cannot have duplicate property names: '" ++ table ++ "." ++ name ++ "'"
  | .missingKey table key => "cannot find '" ++ table ++ "." ++ key ++ "' in database."
  | .keyType table key actual =>
    "schema '" ++ table ++ "." ++ key ++ "' has type 'int' but in db it has type '" ++ actual ++ "'"
  | .missingColumn table name => "cannot find schema row '" ++ table ++ "." ++ name ++ "' in database."
  | .columnType table name declared actual =>
    "'" ++ table ++ "." ++ name ++ "' has type '" ++ declared ++ "' but in db it has type '" ++ actual ++ "'"
  | .tableName name =>
    "table name " ++ name ++ " must not contain any special characters. Use CamelCase for table names."
  | .keyName name =>
    "table key name " ++ name ++ " must not contain any special characters. Use pascalCase for table key values."
  | .propertyName name =>
    "property " ++ name ++ " must not contain any special characters. Use pascalCase for property names."
  | .duplicateTable name => "duplicate table name " ++ name
  | .duplicateKey name => "duplicate table key name " ++ name
  | .cycle owner dependent => "dependency detected! " ++ owner ++ " and " ++ dependent
  | .property table name flaw => "type error '" ++ table ++ "." ++ name ++ "': " ++ flaw.message
  | .unsupportedRelation table name declared =>
    "cannot plan '" ++ table ++ "." ++ name ++ "': unsupported relation '" ++ declared ++ "'"
  | .unknownRelated base table => "unknown type '" ++ base ++ "' in table '" ++ table ++ "'"

end SchemaFlaw

/-- A setting or number that cannot be used. -/
inductive BadValue where
  | unknownOptions (names : List String)
  | unsupportedDriver (available : List String)
  | unsupportedDialect (name : String) (available : List String)
  | missingOptions (dialect : String) (names : List String)
  | notInteger (shown : String)
  | tooManyDigits (digits : Nat)
  | tooLongToWrite
  | undefinedToInteger
  | offsetTooLong
  | tooManyItems
  | tooFewItems (given : Nat)

namespace BadValue

def message : BadValue → String
  | .unknownOptions names => "Unknown options: " ++ shownTexts names
  | .unsupportedDriver available => "drivername must be one of: " ++ shownTexts available
  | .unsupportedDialect name available =>
    "Unsupported dialect: " ++ name ++ ". Available: " ++ shownTexts available
  | .missingOptions dialect names => "Missing required options for " ++ dialect ++ ": " ++ shownTexts names
  | .notInteger shown => "invalid literal for int() with base 10: " ++ shown
  | .tooManyDigits digits => DeclarationError.tooManyDigits digits
  | .tooLongToWrite =>
    "Exceeds the limit (" ++ Nat.repr Text.digitLimit ++
      " digits) for integer string conversion; use sys.set_int_max_str_digits() to increase the limit"
  | .undefinedToInteger => "cannot convert float NaN to integer"
  | .offsetTooLong =>
    "offset must be a timedelta strictly between -timedelta(hours=24) and timedelta(hours=24)."
  | .tooManyItems => "too many values to unpack (expected 2)"
  | .tooFewItems given => "not enough values to unpack (expected 2, got " ++ Nat.repr given ++ ")"

end BadValue

/-- The kinds of error that drivers and callbacks raise. The first word names the layer that raises it: one of the two
database drivers, the engine above them, or neither. -/
inductive ForeignKind where
  | sqliteAny
  | sqliteIntegrity
  | sqliteOperational
  | sqliteInterface
  | mysqlOperational
  | mysqlInterface
  | mysqlProgramming
  | engineOperational
  | engineInterface
  | engineIntegrity
  | value
  | usage
  | runtime
  | schema
deriving DecidableEq

namespace ForeignKind

/-- Whether an error comes from a database driver or the engine. -/
def isDriver : ForeignKind → Bool
  | .value | .usage | .runtime | .schema => false
  | _ => true

/-- Whether an error says that the connection failed, so that trying again may help. -/
def isConnection : ForeignKind → Bool
  | .sqliteOperational | .sqliteInterface | .mysqlOperational | .mysqlInterface | .engineOperational
  | .engineInterface => true
  | _ => false

/-- Whether an error of one kind is also one of another: every error of the SQLite driver is a general one, and wrong
usage is a wrong value. -/
def isA (kind general : ForeignKind) : Bool :=
  kind == general ||
    match general with
    | .sqliteAny => kind == .sqliteIntegrity || kind == .sqliteOperational || kind == .sqliteInterface
    | .value => kind == .usage
    | _ => false

end ForeignKind

/-- An error raised by a driver or a callback. -/
structure ForeignError where
  kind : ForeignKind
  message : String
deriving DecidableEq

/-- Everything that can go wrong. -/
inductive Fault where
  | declaration (e : DeclarationError)
  | mismatch (e : Mismatch)
  | misuse (e : Misuse)
  | schema (e : SchemaFlaw)
  | badValue (e : BadValue)
  /-- A text that is not read as a moment, in the words of the reader. -/
  | badMoment (message : String)
  /-- A name that a record does not have. -/
  | missingName (name : String)
  | foreign (e : ForeignError)
  /-- Bytes that are no text. -/
  | notText
  /-- A value of a type that an operation does not work on. -/
  | wrongType
  /-- A value without the part that an operation asks for. -/
  | noSuchPart
  /-- A number too large for its type. -/
  | overflow
  /-- A caller that would wait for its own validation to end. -/
  | waitsForItself

namespace Fault

/-- The fault in words; empty for those that need none. -/
def message : Fault → String
  | .declaration e => e.message
  | .mismatch e => e.message
  | .misuse e => e.message
  | .schema e => e.message
  | .badValue e => e.message
  | .badMoment message => message
  | .missingName name => Text.quoted name
  | .foreign e => e.message
  | .notText | .wrongType | .noSuchPart | .overflow | .waitsForItself => ""

/-- Whether a fault comes from a database driver or the engine. -/
def isDriver : Fault → Bool
  | .foreign e => e.kind.isDriver
  | _ => false

/-- Whether a fault says that the connection failed. -/
def isConnection : Fault → Bool
  | .foreign e => e.kind.isConnection
  | _ => false

end Fault

/-- A computation that reads and changes a state and may end in a fault; the changes made before a fault stay. -/
abbrev Act (σ : Type) := ExceptT Fault (StateM σ)

namespace Act

variable {σ α : Type}

/-- A result or fault that does not concern the state. -/
def lift (r : Except Fault α) : Act σ α := ExceptT.mk (pure r)

/-- What a computation ends with; the fault is an answer here. -/
def outcome (act : Act σ α) : Act σ (Except Fault α) := ExceptT.lift act.run

/-- The result and the state after a computation. -/
def runFrom (act : Act σ α) (s : σ) : Except Fault α × σ := StateT.run act.run s

end Act

end RelationMapper
