import SpatialSql.Sql
/-!
# Tokens of a statement

How SQL divides a text: blanks part tokens and mean nothing, a quoted text goes on to the quote
that stands alone, and every other token is as long as its characters allow.  A point belongs to
a number only if a digit follows it.
-/

namespace SpatialSql.Sql

inductive Token where
  /-- A quoted text, by its quote and what it says. -/
  | quoted (quote : Char) (text : String)
  | number (digits : String)
  | word (letters : String)
  | operator (signs : String)
  | mark (c : Char)
  deriving DecidableEq

namespace Token

def name (text : String) : Token := quoted '"' text

def string (text : String) : Token := quoted '\'' text

def opening : Token := mark '('

def closing : Token := mark ')'

end Token

def groupTokens (tokens : List Token) : List Token := .opening :: (tokens ++ [.closing])

def memberTokens (receiver : List Token) (function : String) (arguments : List Token) :
    List Token :=
  receiver ++ .mark '.' :: .word function :: groupTokens arguments

def isQuote (c : Char) : Bool := c == '"' || c == '\''

def isMark (c : Char) : Bool := c == '(' || c == ')' || c == '.' || c == ','

def isWordChar (c : Char) : Bool := c.isAlphanum || c == '_'

/-- Whether a character can stand in an operator: any that stands nowhere else. -/
def isSign (c : Char) : Bool := !(c.isWhitespace || isQuote c || isMark c || isWordChar c)

/-! ## Reading a text -/

/-- What a quoted text says and what stands behind it, given the text behind its first quote. -/
def unquote (quote : Char) : List Char → Option (List Char × List Char)
  | [] => none
  | [c] => if c = quote then some ([], []) else none
  | c :: next :: rest =>
    if c ≠ quote then (unquote quote (next :: rest)).map fun read => (c :: read.1, read.2)
    else if next = quote then (unquote quote rest).map fun read => (quote :: read.1, read.2)
    else some ([], next :: rest)

def fraction : List Char → List Char
  | '.' :: rest =>
    let digits := rest.takeWhile Char.isDigit
    if digits = [] then [] else '.' :: digits
  | _ => []

def exponentSign : List Char → List Char
  | c :: _ => if c = '-' ∨ c = '+' then [c] else []
  | [] => []

def exponent : List Char → List Char
  | e :: rest =>
    let sign := exponentSign rest
    let digits := (rest.drop sign.length).takeWhile Char.isDigit
    if (e = 'e' ∨ e = 'E') ∧ digits ≠ [] then e :: (sign ++ digits) else []
  | [] => []

def numeral (text : List Char) : List Char :=
  let whole := text.takeWhile Char.isDigit
  let mantissa := whole ++ fraction (text.drop whole.length)
  mantissa ++ exponent (text.drop mantissa.length)

/-- The token that a text begins with, if it is not quoted, and the characters of the token. -/
def bareToken (c : Char) (rest : List Char) : Token × List Char :=
  if c.isDigit then
    let digits := numeral (c :: rest)
    (.number (String.ofList digits), digits)
  else if isWordChar c then
    let letters := c :: rest.takeWhile isWordChar
    (.word (String.ofList letters), letters)
  else if isMark c then (.mark c, [c])
  else
    let signs := c :: rest.takeWhile isSign
    (.operator (String.ofList signs), signs)

theorem length_unquote {quote : Char} {text body tail : List Char}
    (h : unquote quote text = some (body, tail)) : tail.length < text.length := by
  fun_induction unquote quote text generalizing body with
  | case1 => cases h
  | case2 =>
    cases h
    simp
  | case3 => cases h
  | case4 c next rest _ ih =>
    obtain ⟨read, hread, heq⟩ := Option.map_eq_some_iff.1 h
    cases heq
    have := ih hread
    rw [List.length_cons]
    omega
  | case5 c rest _ ih =>
    obtain ⟨read, hread, heq⟩ := Option.map_eq_some_iff.1 h
    cases heq
    have := ih hread
    simp only [List.length_cons]
    omega
  | case6 c next rest =>
    cases h
    simp

/-- The tokens of a text; none if a quote is left open. -/
def lex : List Char → Option (List Token)
  | [] => some []
  | c :: rest =>
    if c.isWhitespace then lex rest
    else if isQuote c then
      match _hread : unquote c rest with
      | none => none
      | some (body, tail) => (lex tail).map (.quoted c (String.ofList body) :: ·)
    else
      let token := bareToken c rest
      (lex (rest.drop (token.2.length - 1))).map (token.1 :: ·)
termination_by text => text.length
decreasing_by
  · simp
  · have := length_unquote _hread
    rw [List.length_cons]
    omega
  · rw [List.length_drop, List.length_cons]
    omega

end SpatialSql.Sql
