import RelationMapper.Text.Blank

/-!
# Tokens of a declared type

Blank characters separate tokens, each of the six brackets is a token of its own, and every other run of characters is
one token.
-/

namespace RelationMapper.TypeSpec

/-- The brackets. -/
def brackets : List Char := ['(', ')', '[', ']', '\x7b', '\x7d']

/-- Whether a character is a bracket. -/
def isBracket (c : Char) : Bool := brackets.contains c

/-- Whether a token is a bracket. -/
def isBracketToken (token : String) : Bool := brackets.any fun c => token == c.toString

/-- The token of a run of characters, given last character first; an empty run is no token. -/
def runToken (run : List Char) : List String := if run.isEmpty then [] else [String.ofList run.reverse]

/-- The tokens of the rest of a text, after a run of characters that belong to no token yet, given last first. -/
def tokensAfter (run : List Char) : List Char → List String
  | [] => runToken run
  | c :: rest =>
    if Text.isBlank c then runToken run ++ tokensAfter [] rest
    else if isBracket c then runToken run ++ c.toString :: tokensAfter [] rest
    else tokensAfter (c :: run) rest

/-- The tokens of a text, from left to right. -/
def tokenize (text : String) : List String := tokensAfter [] text.toList

end RelationMapper.TypeSpec
