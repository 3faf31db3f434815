import SpatialSql.Binary64.Text
import SpatialSql.Geometry.Coordinate
import SpatialSql.Text.Blank
import SpatialSql.Text.CaseFold
/-!
# Tokens of well-known text

Words, numbers, parentheses and commas, with white space between them.  A run of letters, digits
and signs is one token: a number when it begins as one, otherwise a keyword, whose case does not
matter.
-/

namespace SpatialSql.Wkt

inductive Token where
  | word (text : String)
  | number (x : Binary64)
  | leftParen
  | rightParen
  | comma
  deriving DecidableEq

def Token.describe : Token → String
  | .word text => "Word(\"" ++ text ++ "\")"
  | .number x => "Number(" ++ x.literal ++ ")"
  | .leftParen => "LParen"
  | .rightParen => "RParen"
  | .comma => "Comma"

/-- Collections may be nested this deep below the outermost geometry. -/
def maxDepth : Nat := 64

inductive Fault where
  | unexpectedCharacter (c : Char) (offset : Nat)
  | invalidNumber (word : String)
  | endOfText
  | expected (wanted found : Token)
  | expectedTag (found : Token)
  | unknownTag (tag : String)
  | expectedSeparator (found : Token)
  | ordinateCount (found wanted : Nat)
  | notARing (fault : RingFault)
  | tooDeep
  | trailing (found : Token)
  deriving DecidableEq

def Fault.message : Fault → String
  | .unexpectedCharacter c offset =>
    "unexpected character '" ++ String.singleton c ++ "' at offset " ++ toString offset
  | .invalidNumber word => "invalid number '" ++ word ++ "'"
  | .endOfText => "unexpected end of text"
  | .expected wanted found => "expected " ++ wanted.describe ++ ", found " ++ found.describe
  | .expectedTag found => "expected a geometry tag, found " ++ found.describe
  | .unknownTag tag => "unknown geometry tag " ++ tag
  | .expectedSeparator found => "expected ',' or ')', found " ++ found.describe
  | .ordinateCount found wanted =>
    "coordinate has " ++ toString found ++ " ordinates, expected " ++ toString wanted
  | .notARing fault => "Invalid operation: " ++ fault.message
  | .tooDeep => "geometry collections nested deeper than " ++ toString maxDepth
  | .trailing found => "unexpected trailing " ++ found.describe

/-! ## Reading tokens -/

def startsNumber (c : Char) : Bool := c.isDigit || c == '-' || c == '+' || c == '.'

def startsWord (c : Char) : Bool := c.isAlphanum || startsNumber c

/-- An underscore continues a word but does not start one. -/
def continuesWord (c : Char) : Bool := startsWord c || c == '_'

/-- Whether a word is to be read as a number; of the names of numbers only that of NaN is. -/
def isNumeric (word : List Char) : Bool :=
  match word with
  | c :: _ => startsNumber c || word.map Char.toLower == ['n', 'a', 'n']
  | [] => false

def ofWord (word : List Char) : Except Fault Token :=
  if isNumeric word then
    match Binary64.read word with
    | .ok x => .ok (.number x)
    | .error _ => .error (.invalidNumber (String.ofList word))
  else .ok (.word (Text.upper (String.ofList word)))

/-- The token of the run collected so far, last character first. -/
def closeRun (run : List Char) : Except Fault (List Token) :=
  if run.isEmpty then .ok [] else (ofWord run.reverse).map ([·])

/-- The token of a character outside of words; white space has none. -/
def ofSymbol (c : Char) (offset : Nat) : Except Fault (List Token) :=
  if Text.isBlankChar c then .ok []
  else if c = '(' then .ok [.leftParen]
  else if c = ')' then .ok [.rightParen]
  else if c = ',' then .ok [.comma]
  else .error (.unexpectedCharacter c offset)

/-- The tokens of a text that goes on with `text`, inside a word if `run` is not empty.  `offset`
counts the bytes before `text`. -/
def tokensFrom : (run : List Char) → (offset : Nat) → (text : List Char) →
    Except Fault (List Token)
  | run, _, [] => closeRun run
  | run, offset, c :: rest =>
    if (if run.isEmpty then startsWord c else continuesWord c) then
      tokensFrom (c :: run) (offset + c.utf8Size) rest
    else do
      let before ← closeRun run
      let here ← ofSymbol c offset
      let behind ← tokensFrom [] (offset + c.utf8Size) rest
      return before ++ here ++ behind

def tokens (text : String) : Except Fault (List Token) := tokensFrom [] 0 text.toList

end SpatialSql.Wkt
