import RelationMapper.Options
import RelationMapper.Text.Blank

/-!
# Options from the environment

Some options can be set by environment variables. A file of variables, one `NAME=value` a line, is read first: it sets
the variables that the environment does not have. Which file that is depends on the stage: `.env`, or `.env.` and the
name of the stage. An empty variable sets no option. The variables for stage and driver carry the name of the
application.

How the text of a file is read is up to the surroundings. `readVariables` reads files of plain lines: a number sign behind
a blank begins a comment, and the word `export` may stand in front of a name.
-/

namespace RelationMapper

open Text

/-- Variables and their values; the first value of a name counts. -/
abbrev Variables := List (String × String)

/-- What surrounds an application: its name, the environment variables, the files of its directory by name, and how the
variables of a file are read from its text. The environment is at hand then, since values may refer to it. -/
structure Surroundings where
  application : String
  environment : Variables
  files : List (String × String)
  readFile : Variables → String → Variables

/-- The options that variables set, in order. -/
def optionVariables (application : String) : List (String × String) :=
  [("hostname", "MYSQL_HOSTNAME"), ("database", "MYSQL_DBNAME"), ("username", "MYSQL_USER"), ("port", "MYSQL_PORT"),
    ("password", "MYSQL_PASS"), ("drivername", application ++ "_DRIVERNAME")]

/-- The variable that names the stage. -/
def stageVariable (application : String) : String := application ++ "_ENV"

/-- A value without the comment behind it. -/
def withoutComment : List Char → List Char
  | [] => []
  | c :: rest => if isBlank c && (rest.dropWhile isBlank).head? == some '#' then [] else c :: withoutComment rest

/-- A name without the word that may stand in front of it. -/
def withoutExport (name : List Char) : List Char :=
  match "export".toList.isPrefixOf name, name.drop "export".length with
  | true, c :: rest => if isBlank c then trim rest else name
  | _, _ => name

/-- The variable that a line of a file sets: blanks around name and value do not count, and a line without an equals sign
or with a number sign in front sets none. -/
def readVariable? (line : List Char) : Option (String × String) :=
  let line := trim line
  match line.dropWhile (· != '=') with
  | _ :: value =>
    let name := withoutExport (trim (line.takeWhile (· != '=')))
    if name.isEmpty || name.head? == some '#' then none
    else some (String.ofList name, String.ofList (withoutComment (trim value)))
  | [] => none

/-- Splits a text into lines, which a line feed or a carriage return ends. -/
def splitLines (cs : List Char) : List (List Char) :=
  cs.foldr (fun c lines =>
    if c = '\n' ∨ c = '\r' then [] :: lines
    else match lines with
      | line :: rest => (c :: line) :: rest
      | [] => [[c]]) [[]]

/-- The variables of a file of plain lines; the last value of a name stands first. -/
def readVariables (text : String) : Variables := ((splitLines text.toList).filterMap readVariable?).reverse

namespace Surroundings

/-- The file that is read when none is named. -/
def defaultFile (s : Surroundings) : String :=
  let stage := (s.environment.lookup (stageVariable s.application)).getD ""
  if stage.isEmpty then ".env" else ".env." ++ stage

/-- The name that a path gives to a file of the directory itself. Steps to that same directory may stand in front of it;
a path that starts at the root, leaves the directory or names no file gives none. -/
def fileName? (path : String) : Option String :=
  let steps := path.splitOn "/"
  match steps.dropLast, steps.getLast? with
  | "" :: _, _ => none
  | before, some name =>
    let staysHere := before.all fun step => step == "" || step == "."
    if staysHere && name ∉ ["", ".", ".."] then some name else none
  | _, none => none

/-- The environment, and after it the variables of the file that a path leads to, if it exists. -/
def variablesWith (s : Surroundings) (path : String) : Variables :=
  s.environment ++ (((fileName? path).bind fun name => s.files.lookup name).map (s.readFile s.environment)).getD []

/-- The options that the variables set. -/
def optionFields (s : Surroundings) (file : String) : Fields :=
  (optionVariables s.application).filterMap fun (option, name) =>
    match (s.variablesWith file).lookup name with
    | some value => if value.isEmpty then none else some (option, .text value)
    | none => none

end Surroundings

namespace Options

/-- Options from the environment and a file of variables, with some of them replaced. -/
def ofEnvironment (s : Surroundings) (file : Option String) (changes : Fields) : Except Fault Options :=
  ofFields ((s.optionFields (file.getD s.defaultFile)).setAll changes)

/-- Where options come from. -/
inductive Source where
  | existing (o : Options)
  | fields (named : Fields)
  | environment

/-- The named values of a source. -/
def Source.named : Source → Fields
  | .fields named => named
  | .existing _ | .environment => []

/-- The given names that are no options, each once, in order. -/
def unknownNames (fields : Fields) : List String :=
  ((fields.map (·.1)).filter fun name => !optionDefaults.has name).eraseDups.mergeSort (· ≤ ·)

/-- Loads options from a source, with some of them replaced. Existing options without a change stay the same. -/
def load (s : Surroundings) (source : Source) (changes : Fields) : Except Fault Options := do
  let unknown := unknownNames (changes ++ source.named)
  if !unknown.isEmpty then throw (.badValue (.unknownOptions unknown))
  match source with
  | .existing o => if changes.isEmpty then return o else o.replace changes
  | .fields named => ofFields (named.setAll changes)
  | .environment => ofEnvironment s none changes

end Options

end RelationMapper
