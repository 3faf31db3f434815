/-!
# Letter case

Only the ASCII letters have a case here: type names, schema names and keywords are compared
without looking further.
-/

namespace SpatialSql.Text

def upper (text : String) : String := String.ofList (text.toList.map Char.toUpper)

def lower (text : String) : String := String.ofList (text.toList.map Char.toLower)

/-- Equality without regard to the case of ASCII letters. -/
def eqFolded (a b : String) : Bool := lower a == lower b

theorem eqFolded_iff {a b : String} : eqFolded a b = true ↔ lower a = lower b := beq_iff_eq

theorem eqFolded_self (a : String) : eqFolded a a = true := beq_self_eq_true _

theorem eqFolded_congr {a b : String} (h : eqFolded a b = true) (c : String) :
    eqFolded a c = eqFolded b c := by
  rw [eqFolded, eqFolded, eqFolded_iff.1 h]

end SpatialSql.Text
