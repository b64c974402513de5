import RelationMapper.Dialect

/-!
# Options

What a connection needs to know. Options are given by name, and every name that is not given has a default. They have to
name a supported database, a port that is an integer or absent, and all that the database requires.

Options come from named values, from options that exist already, or from environment variables; `Options.load` joins
these ways. A file of variables fills in what the environment does not set. How rows are loaded is one of the two ways that
come with the library: a function that a caller gives instead is not described here.
-/

namespace RelationMapper

open Number

/-- What is made of the rows that a statement of the caller answers: a list of records, or a frame of columns. Functions that a
caller brings along to make something else of them are left out. -/
inductive Loader where
  | records
  | frame
deriving DecidableEq

/-- The settings of a connection. -/
structure Options where
  dialect : Dialect
  hostname : Value
  username : Value
  password : Value
  database : Value
  port : Option Int
  timeout : Value
  strict : Value
  loader : Loader

namespace Loader

/-- The name of a loader. -/
def name : Loader → String
  | .records => "records"
  | .frame => "frame"

/-- The loader that a value names. Whatever does not name the frame stands for the list of records, also where a caller gives a
function of its own. -/
def ofValue (v : Value) : Loader := if v.isText Loader.frame.name then .frame else .records

end Loader

/-- The names of all options and their defaults. -/
def optionDefaults : Fields :=
  [("drivername", .text "mysql"), ("hostname", .null), ("username", .null), ("password", .null), ("database", .null),
    ("port", .int 3306), ("timeout", .int 0), ("strict_consistency", .bool true), ("data_loader", .null)]

/-- The greatest number of characters that a message about integers shows of a value. -/
def shownLimit : Nat := 200

/-- The text of a value in a message about integers: of bytes no more than the limit are shown, and of what is shown no
more than the limit stays. -/
def shortened (v : Value) : String :=
  let part : Value := match v with
    | .bytes b => .bytes (b.take shownLimit)
    | v => v
  String.ofList (part.shown.toList.take shownLimit)

/-- Reads an integer from characters; the value is the one they are part of. -/
def readIntOf (v : Value) (cs : List Char) : Except Fault Int :=
  match readInt cs with
  | .ok n => .ok n
  | .error .malformed => .error (.badValue (.notInteger (shortened v)))
  | .error (.tooLong digits) => .error (.badValue (.tooManyDigits digits))

/-- The characters that bytes stand for; a byte beyond ASCII stands for none. -/
def asciiOf (bytes : List UInt8) : List Char :=
  bytes.map fun b => if b < 0x80 then Char.ofNat b.toNat else '\ufffd'

/-- A value as an integer. A floating point number loses its fraction, and a text is read. -/
def Value.toInt : Value → Except Fault Int
  | .bool b => .ok b.toNat
  | .int n => .ok n
  | .real x =>
    if x.isFinite then .ok x.truncate
    else if x.isNaN then .error (.badValue .undefinedToInteger)
    else .error .overflow
  | .text s => readIntOf (.text s) s.toList
  | .bytes b | .buffer b => readIntOf (.bytes b) (asciiOf b)
  | _ => .error .wrongType

namespace Options

/-- The value of an option among named values. -/
def given (fields : Fields) (name : String) : Value :=
  ((fields.get? name).or (optionDefaults.get? name)).getD .null

/-- The dialect that a driver name stands for. -/
def readDialect (v : Value) : Except Fault Dialect :=
  match v with
  | .text s =>
    match Dialect.ofName? s with
    | some d => .ok d
    | none => .error (.badValue (.unsupportedDriver Dialect.available))
  | v => .error (if v.isKey then .badValue (.unsupportedDriver Dialect.available) else .wrongType)

/-- The port that a value stands for; null stands for none. -/
def readPort : Value → Except Fault (Option Int)
  | .null => .ok none
  | v => v.toInt.map some

/-- Options from named values. Names that are no options are refused. -/
def ofFields (fields : Fields) : Except Fault Options := do
  if fields.any fun (name, _) => !optionDefaults.has name then throw .wrongType
  let dialect ← readDialect (given fields "drivername")
  let port ← readPort (given fields "port")
  let missing := dialect.required.filter fun name => !(given fields name).isTruthy
  if !missing.isEmpty then throw (.badValue (.missingOptions dialect.name missing))
  return {
    dialect, port
    hostname := given fields "hostname"
    username := given fields "username"
    password := given fields "password"
    database := given fields "database"
    timeout := given fields "timeout"
    strict := given fields "strict_consistency"
    loader := .ofValue (given fields "data_loader") }

/-- Options as named values. -/
def toFields (o : Options) : Fields :=
  [("drivername", .text o.dialect.name), ("hostname", o.hostname), ("username", o.username), ("password", o.password),
    ("database", o.database), ("port", (o.port.map .int).getD .null), ("timeout", o.timeout),
    ("strict_consistency", o.strict), ("data_loader", .text o.loader.name)]

/-- Options with some of them replaced. -/
def replace (o : Options) (changes : Fields) : Except Fault Options := ofFields (o.toFields.setAll changes)

end Options

end RelationMapper
