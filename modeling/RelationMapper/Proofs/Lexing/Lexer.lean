import RelationMapper.Dialect

/-!
# Tokens of a statement

How a database takes a statement apart, as far as the databases agree on it: words, signed numbers, quoted strings and symbols,
with blanks and comments between them. A quoted string ends at the first quote that is not doubled, and MySQL takes whatever
follows a backslash in it as part of it.

A text is read character by character (`lexFrom`): a character goes on with what is being read, or ends it and starts something
new. What a text is read as can therefore be said piece by piece (`ReadsOn`, `lexFrom_append`).
-/

namespace RelationMapper.Lexing

/-- A token, with the characters it was read from. -/
inductive Token where
  /-- A name or a keyword. -/
  | word (text : List Char)
  /-- A number with its sign. -/
  | number (text : List Char)
  /-- A quoted string with its quotes. -/
  | string (text : List Char)
  /-- A name in quotes of its own kind. -/
  | quotedName (text : List Char)
  | symbol (c : Char)
  /-- What breaks off: an open quote or comment, or an exponent without digits. -/
  | broken (text : List Char)
deriving DecidableEq

namespace Token

/-- The characters of a token. -/
def text : Token → List Char
  | .word text | .number text | .string text | .quotedName text | .broken text => text
  | .symbol c => [c]

/-- Whether a token stands for a value on its own: nothing, the current time, a number or a string. -/
def IsLiteral : Token → Prop
  | .word text => text = "NULL".toList ∨ text = "CURRENT_TIMESTAMP".toList
  | .number _ | .string _ => True
  | _ => False

end Token

/-- How far the reading of a number has come. -/
inductive NumberPart where
  | whole
  | fraction
  /-- After the letter of the exponent. -/
  | mark
  /-- After the sign of the exponent. -/
  | sign
  | exponent
deriving DecidableEq

namespace NumberPart

/-- Where the reading of a number goes on to with a character, if the character belongs to it. -/
def next? (part : NumberPart) (c : Char) : Option NumberPart :=
  match part with
  | .whole =>
    if c.isDigit then some .whole else if c = '.' then some .fraction else if c = 'e' ∨ c = 'E' then some .mark else none
  | .fraction => if c.isDigit then some .fraction else if c = 'e' ∨ c = 'E' then some .mark else none
  | .mark => if c.isDigit then some .exponent else if c = '-' ∨ c = '+' then some .sign else none
  | .sign | .exponent => if c.isDigit then some .exponent else none

/-- What was read as a number when it ends. -/
def token (part : NumberPart) (read : List Char) : Token :=
  match part with
  | .whole | .fraction | .exponent => .number read
  | .mark | .sign => .broken read

end NumberPart

/-- What is being read. -/
inductive Scan where
  | between
  | word (read : List Char)
  /-- A sign, which a number may follow. -/
  | sign (c : Char)
  | number (part : NumberPart) (read : List Char)
  | quoted (quote : Char) (read : List Char)
  /-- In quotes, after a backslash. -/
  | escaped (quote : Char) (read : List Char)
  /-- After a quote that ends the string unless it is doubled. -/
  | closing (quote : Char) (read : List Char)
  | slash
  | lineComment
  | blockComment
  /-- In a comment, after an asterisk. -/
  | asterisk
deriving DecidableEq

/-- Whether a character can stand in a word. -/
def isWordChar (c : Char) : Bool := c.isAlphanum || c == '_' || c == '$' || 0x80 ≤ c.toNat

/-- Whether a character is a quote. -/
def isQuote (c : Char) : Bool := c == '\'' || c == '"' || c == '`'

/-- Whether something between these quotes is a string, and not a name. -/
def quotesString (d : Dialect) (quote : Char) : Bool := quote == '\'' || (quote == '"' && d == .mysql)

/-- Begins to read something with its first character. -/
def start (d : Dialect) (c : Char) : List Token × Scan :=
  if c.isWhitespace then ([], .between)
  else if isQuote c then ([], .quoted c [c])
  else if c.isDigit then ([], .number .whole [c])
  else if isWordChar c then ([], .word [c])
  else if c = '-' ∨ c = '+' then ([], .sign c)
  else if c = '/' then ([], .slash)
  else if c = '#' ∧ d = .mysql then ([], .lineComment)
  else ([.symbol c], .between)

/-- How reading goes on with a character; it does not if the character ends what is being read. Two dashes begin a comment
whatever follows them. -/
def goOn? (d : Dialect) (scan : Scan) (c : Char) : Option Scan :=
  match scan with
  | .between => none
  | .word read => if isWordChar c then some (.word (read ++ [c])) else none
  | .sign s =>
    if c.isDigit then some (.number .whole [s, c]) else if s = '-' ∧ c = '-' then some .lineComment else none
  | .number part read => (part.next? c).map fun part => .number part (read ++ [c])
  | .quoted quote read =>
    if c = quote then some (.closing quote (read ++ [c]))
    else if c = '\\' ∧ quotesString d quote ∧ d = .mysql then some (.escaped quote (read ++ [c]))
    else some (.quoted quote (read ++ [c]))
  | .escaped quote read => some (.quoted quote (read ++ [c]))
  | .closing quote read => if c = quote then some (.quoted quote (read ++ [c])) else none
  | .slash => if c = '*' then some .blockComment else none
  | .lineComment => some (if c = '\n' then .between else .lineComment)
  | .blockComment => some (if c = '*' then .asterisk else .blockComment)
  | .asterisk => some (if c = '/' then .between else if c = '*' then .asterisk else .blockComment)

/-- What was read when it ends. -/
def ended (d : Dialect) : Scan → List Token
  | .between | .lineComment => []
  | .word read => [.word read]
  | .sign s => [.symbol s]
  | .number part read => [part.token read]
  | .closing quote read => [if quotesString d quote then .string read else .quotedName read]
  | .quoted _ read | .escaped _ read => [.broken read]
  | .slash => [.symbol '/']
  | .blockComment | .asterisk => [.broken []]

/-- Reads a character: the tokens that end before it or with it, and what is being read after it. -/
def step (d : Dialect) (scan : Scan) (c : Char) : List Token × Scan :=
  match goOn? d scan c with
  | some scan => ([], scan)
  | none => (ended d scan ++ (start d c).1, (start d c).2)

/-- The tokens of a text, some of which may have been begun before it. -/
def lexFrom (d : Dialect) : Scan → List Char → List Token
  | scan, [] => ended d scan
  | scan, c :: cs => (step d scan c).1 ++ lexFrom d (step d scan c).2 cs

/-- The tokens of a text. -/
def tokens (d : Dialect) (s : String) : List Token := lexFrom d .between s.toList

example : tokens .sqlite "A.b = -1.5e+16 AND 'it''s -- %'" =
    [.word ['A'], .symbol '.', .word ['b'], .symbol '=', .number "-1.5e+16".toList, .word "AND".toList,
      .string "'it''s -- %'".toList] := by
  decide

/-! ## Reading on -/

variable {d : Dialect} {a b c : Scan} {xs ys : List Char}

/-- From one state a text is read on to another, and no token ends in it. -/
def ReadsOn (d : Dialect) (a : Scan) (xs : List Char) (b : Scan) : Prop :=
  ∀ rest, lexFrom d a (xs ++ rest) = lexFrom d b rest

namespace ReadsOn

theorem nil : ReadsOn d a [] a := fun _ => rfl

theorem trans (h : ReadsOn d a xs b) (h' : ReadsOn d b ys c) : ReadsOn d a (xs ++ ys) c := by
  intro rest
  rw [List.append_assoc, h, h']

/-- A character that goes on with what is being read is read on. -/
theorem one {x : Char} (h : goOn? d a x = some b) : ReadsOn d a [x] b := by
  intro rest
  rw [List.cons_append, List.nil_append, lexFrom, step, h]
  rfl

theorem cons {x : Char} (h : goOn? d a x = some b) (h' : ReadsOn d b xs c) : ReadsOn d a (x :: xs) c :=
  (one h).trans h'

/-- A first character that begins something is read on from between tokens. -/
theorem begin {x : Char} (h : start d x = ([], a)) (h' : ReadsOn d a xs b) : ReadsOn d .between (x :: xs) b := by
  intro rest
  rw [List.cons_append, lexFrom, step]
  change (start d x).1 ++ lexFrom d (start d x).2 (xs ++ rest) = _
  rw [h]
  exact h' rest

end ReadsOn

/-- What is being read ends before a character that does not go on with it. -/
theorem lexFrom_ended (h : ∀ x ∈ xs.head?, goOn? d a x = none) : lexFrom d a xs = ended d a ++ lexFrom d .between xs := by
  cases xs with
  | nil =>
    change ended d a = ended d a ++ []
    rw [List.append_nil]
  | cons x xs =>
    rw [lexFrom, lexFrom, step, step, h x rfl]
    exact List.append_assoc _ _ _

end RelationMapper.Lexing
