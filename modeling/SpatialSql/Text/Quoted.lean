/-!
# Quoted text

A text between quotes writes each quote in it twice.  The quoted texts of a statement are read
back by taking quotes in pairs until one stands alone.
-/

namespace SpatialSql.Text

/-- Writes each `quote` twice. -/
def double (quote : Char) : List Char → List Char
  | [] => []
  | c :: rest => if c = quote then c :: c :: double quote rest else c :: double quote rest

def quoted (quote : Char) (text : String) : String :=
  String.ofList (quote :: (double quote text.toList ++ [quote]))

/-- What the quoted texts in a text say, in order.  The argument before the text is the body of
the quoted text that goes on there, last character first.  One without a closing quote ends with
the text. -/
def quotedParts (quote : Char) : Option (List Char) → List Char → List String
  | none, [] => []
  | some body, [] => [String.ofList body.reverse]
  | none, c :: rest => quotedParts quote (if c = quote then some [] else none) rest
  | some body, [c] => [String.ofList (if c = quote then body else c :: body).reverse]
  | some body, c :: next :: rest =>
    if c ≠ quote then quotedParts quote (some (c :: body)) (next :: rest)
    else if next = quote then quotedParts quote (some (quote :: body)) rest
    else String.ofList body.reverse :: quotedParts quote none (next :: rest)

end SpatialSql.Text
