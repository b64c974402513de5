import RelationMapper.Options
import RelationMapper.Text.Percent

/-!
# Connection addresses

The address of a database: a driver, perhaps a user with a password, a host, a port and a database, and parameters. In
writing, user and password are percent-encoded, a host with colons stands in square brackets, and parameters are
encoded with a plus sign for a space.
-/

namespace RelationMapper

open Number Text

/-- An address. -/
structure Url where
  driver : String
  username : Option String
  password : Value
  host : Option String
  port : Option Int
  database : Option String
  /-- The parameters, by name. -/
  query : List (String × String)

namespace Url

/-- A text, or none for null; nothing else can be part of an address. -/
def textPart : Value → Except Fault (Option String)
  | .null => .ok none
  | .text s => .ok (some s)
  | _ => .error .wrongType

/-- The address that options stand for. SQLite needs the database alone; a port of zero and a timeout of nothing are left
out. -/
def ofOptions (o : Options) : Except Fault Url := do
  match o.dialect with
  | .mysql =>
    let query := if o.timeout.isTruthy then [("connect_timeout", o.timeout.spelled)] else []
    let username ← textPart o.username
    let host ← textPart o.hostname
    let port := if o.port = some 0 then none else o.port
    let database ← textPart o.database
    return ⟨"mysql+pymysql", username, o.password, host, port, database, query⟩
  | .sqlite => return ⟨"sqlite", none, .null, none, none, ← textPart o.database, []⟩

/-- A user or password in an address. -/
def encodePart (s : String) : String := String.ofList (percentEncode [' ', '+'] s.toList)

/-- A name or value of a parameter in an address. -/
def encodeParameter (s : String) : String :=
  String.ofList ((percentEncode [' '] s.toList).map fun c => if c = ' ' then '+' else c)

/-- The user and password in front of a host. -/
def credentials (u : Url) : String :=
  match u.username with
  | none => ""
  | some name =>
    let password := match u.password with
      | .null => ""
      | v => ":" ++ encodePart v.spelled
    encodePart name ++ password ++ "@"

/-- An address in writing. -/
def text (u : Url) : String :=
  let host := (u.host.map fun h => if h.toList.contains ':' then "[" ++ h ++ "]" else h).getD ""
  let port := (u.port.map fun p => ":" ++ intText p).getD ""
  let database := (u.database.map ("/" ++ ·)).getD ""
  let parameters := u.query.map fun (name, value) => encodeParameter name ++ "=" ++ encodeParameter value
  u.driver ++ "://" ++ u.credentials ++ host ++ port ++ database ++
    if parameters.isEmpty then "" else "?" ++ "&".intercalate parameters

end Url

end RelationMapper
