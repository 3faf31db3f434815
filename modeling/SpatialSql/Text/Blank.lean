/-!
# White space

The Unicode property `White_Space`, and the texts made of it alone.
-/

namespace SpatialSql.Text

/-- The ranges of code points with the property `White_Space`. -/
def blankRanges : List (Nat × Nat) :=
  [(0x9, 0xd), (0x20, 0x20), (0x85, 0x85), (0xa0, 0xa0), (0x1680, 0x1680), (0x2000, 0x200a),
    (0x2028, 0x2029), (0x202f, 0x202f), (0x205f, 0x205f), (0x3000, 0x3000)]

def isBlankChar (c : Char) : Bool :=
  blankRanges.any fun (low, high) => decide (low ≤ c.toNat ∧ c.toNat ≤ high)

def trimStart (text : List Char) : List Char := text.dropWhile isBlankChar

def trim (text : List Char) : List Char := (trimStart (trimStart text).reverse).reverse

/-- A text of white space alone; the empty text is one. -/
def isBlank (text : String) : Bool := text.toList.all isBlankChar

end SpatialSql.Text
