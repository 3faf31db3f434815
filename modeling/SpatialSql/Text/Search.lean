/-!
# Search in text
-/

namespace SpatialSql.Text

def occursAt (part : List Char) : List Char → Bool
  | [] => part.isEmpty
  | c :: rest => part.isPrefixOf (c :: rest) || occursAt part rest

/-- Whether one text is a part of another; the empty text is a part of every text. -/
def occursIn (part text : String) : Bool := occursAt part.toList text.toList

def startsWith (start text : String) : Bool := start.toList.isPrefixOf text.toList

end SpatialSql.Text
