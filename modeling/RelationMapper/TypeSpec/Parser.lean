import RelationMapper.Text.Digit
import RelationMapper.TypeSpec
import RelationMapper.TypeSpec.Token

/-!
# Reading a declared type

A declared type is a name, then perhaps a number in round brackets, then perhaps a pair of square brackets. Of the
column types only `varchar` may have a number. `TypeSpec.parse` reads a text of this form; otherwise it names the first
token that does not fit and what could have stood there.
-/

namespace RelationMapper

/-- What could have stood in place of a token. -/
inductive Expected where
  | baseName
  | number
  | roundClose
  | squareClose
  | anyOpen
  | squareOpen
  | nothing
deriving DecidableEq

/-- What could have stood in place of a token, in words. -/
def Expected.words : Expected → String
  | .baseName => "datatype"
  | .number => "int"
  | .roundClose => "')'"
  | .squareClose => "']'"
  | .anyOpen => "'(' or '['"
  | .squareOpen => "'['"
  | .nothing => "end of input"

/-- Why a declared type cannot be read. -/
inductive DeclarationError where
  /-- A token that does not fit, or none where the text ended too early. -/
  | unexpected (expected : Expected) (token : Option String) (text : String)
  /-- A number on a column type that takes none. -/
  | precisionOn (base digits text : String)
  /-- A number with more digits than are read. -/
  | precisionTooLong (digits : Nat)
deriving DecidableEq

namespace DeclarationError

/-- The token at which reading stopped; none at the end of the text. -/
def token? : DeclarationError → Option String
  | .unexpected _ token _ => token
  | .precisionOn _ digits _ => some digits
  | .precisionTooLong _ => none

/-- The text that was read. -/
def text? : DeclarationError → Option String
  | .unexpected _ _ text | .precisionOn _ _ text => some text
  | .precisionTooLong _ => none

/-- A number of too many digits, in words. -/
def tooManyDigits (digits : Nat) : String :=
  "Exceeds the limit (" ++ Nat.repr Text.digitLimit ++ " digits) for integer string conversion: value has " ++
    Nat.repr digits ++ " digits; use sys.set_int_max_str_digits() to increase the limit"

/-- The reason in words. -/
def message : DeclarationError → String
  | .unexpected expected token text =>
    let got := (token.map fun t => "'" ++ t ++ "'").getD "end of input"
    "parse_type() expected " ++ expected.words ++ " but got " ++ got ++ " instead. type: " ++ text
  | .precisionOn base _ text =>
    "parse_type() unexpected precision on '" ++ base ++ "' (only varchar can have precision). type: " ++ text
  | .precisionTooLong digits => tooManyDigits digits

end DeclarationError

namespace TypeSpec

/-- Whether a base name may have a precision: table names may, and of the column types `varchar`. -/
def takesPrecision (base : String) : Bool :=
  match ColumnType.ofName? base with
  | some t => t == .varchar
  | none => true

/-- Reads the base name. -/
def readBase (text : String) : List String → Except DeclarationError (String × List String)
  | [] => .error (.unexpected .baseName none text)
  | token :: rest =>
    if isBracketToken token then .error (.unexpected .baseName (some token) text) else .ok (token, rest)

/-- Reads the closing bracket of a precision. -/
def readRoundClose (text : String) : List String → Except DeclarationError (List String)
  | [] => .error (.unexpected .roundClose none text)
  | token :: rest => if token = ")" then .ok rest else .error (.unexpected .roundClose (some token) text)

/-- Reads the number of a precision and its closing bracket. -/
def readNumber (text base : String) : List String → Except DeclarationError (Nat × List String)
  | [] => .error (.unexpected .number none text)
  | token :: rest => do
    if !Text.isNumber token.toList then throw (.unexpected .number (some token) text)
    if !takesPrecision base then throw (.precisionOn base token text)
    if Text.digitLimit < token.length then throw (.precisionTooLong token.length)
    return (Text.readNat token.toList, ← readRoundClose text rest)

/-- Reads a precision, if there is one. -/
def readPrecision (text base : String) : List String → Except DeclarationError (Option Nat × List String)
  | [] => .ok (none, [])
  | token :: rest =>
    if token = "(" then do
      let (n, rest) ← readNumber text base rest
      return (some n, rest)
    else .ok (none, token :: rest)

/-- Reads the mark of an array, if there is one. -/
def readArray (text : String) : List String → Except DeclarationError (Bool × List String)
  | [] => .ok (false, [])
  | token :: rest =>
    if token = "[" then
      match rest with
      | [] => .error (.unexpected .squareClose none text)
      | close :: rest =>
        if close = "]" then .ok (true, rest) else .error (.unexpected .squareClose (some close) text)
    else .ok (false, token :: rest)

/-- What could have followed a type that is complete. -/
def expectedAfter (precision : Option Nat) (isArray : Bool) : Expected :=
  if isArray then .nothing else if precision.isSome then .squareOpen else .anyOpen

/-- Reads a declared type. -/
def parse (text : String) : Except DeclarationError TypeSpec := do
  let (base, rest) ← readBase text (tokenize text)
  let (precision, rest) ← readPrecision text base rest
  let (isArray, rest) ← readArray text rest
  match rest with
  | [] => return ⟨base, precision, isArray⟩
  | token :: _ => throw (.unexpected (expectedAfter precision isArray) (some token) text)

end TypeSpec

end RelationMapper
