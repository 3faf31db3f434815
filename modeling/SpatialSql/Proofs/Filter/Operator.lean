import SpatialSql.Filter.Operator
/-!
# Spellings of operators

The function that decides a relation bears its name, and the two containments have each other's when
the operands change places.  The sign of a comparison is put together from the signs of the orders
that it admits, so that no two comparisons are written alike.
-/

namespace SpatialSql.Filter

/-- Spellings by which all can be told apart in a list are of one each. -/
theorem eq_of_find? {α : Type} {all : List α} {spelling : α → String}
    (hfind : ∀ a, all.find? (fun other => spelling other == spelling a) = some a) {a b : α}
    (h : spelling a = spelling b) : a = b := by
  have hfound := hfind a
  rw [h, hfind b] at hfound
  exact (Option.some.inj hfound).symm

namespace Relation

theorem converse_converse (op : Relation) : op.converse.converse = op := by cases op <;> rfl

theorem name_injective {a b : Relation} (h : a.name = b.name) : a = b := by
  have hfind (op : Relation) : all.find? (fun other => other.name == op.name) = some op := by
    cases op <;> decide +kernel
  exact eq_of_find? hfind h

/-- The relation whose test takes the place of another one's. -/
def tested : Relation → Relation
  | .boundingBox => .intersects
  | op => op

theorem function?_eq (op : Relation) :
    op.function? =
      if supportedRelations.contains op then some ("ST_" ++ op.tested.name) else none := by
  cases op <;> rfl

theorem function?_converse (op : Relation) :
    op.converse.function? = op.function?.map fun function =>
      if function = "ST_Within" then "ST_Contains"
      else if function = "ST_Contains" then "ST_Within"
      else function := by
  cases op <;> decide +kernel

theorem tested_eq_of_function? {a b : Relation} {function : String}
    (ha : a.function? = some function) (hb : b.function? = some function) :
    a.tested = b.tested := by
  have hnamed (op : Relation) (h : op.function? = some function) :
      "ST_" ++ op.tested.name = function := by
    rw [function?_eq] at h
    split at h
    · exact Option.some.inj h
    · cases h
  have heq : "ST_" ++ a.tested.name = "ST_" ++ b.tested.name :=
    (hnamed a ha).trans (hnamed b hb).symm
  rw [← String.toList_inj, String.toList_append, String.toList_append, List.append_right_inj,
    String.toList_inj] at heq
  exact name_injective heq

end Relation

namespace Comparison

/-- The orders of the two operands in which a comparison holds.  A pattern is no matter of order. -/
def orders : Comparison → List Ordering
  | .equal => [.eq]
  | .notEqual => [.lt, .gt]
  | .less => [.lt]
  | .lessEqual => [.lt, .eq]
  | .greater => [.gt]
  | .greaterEqual => [.gt, .eq]
  | .like => []

def sign : Ordering → Char
  | .lt => '<'
  | .eq => '='
  | .gt => '>'

theorem sql_eq_signs {op : Comparison} (hlike : op ≠ .like) :
    op.sql = String.ofList (op.orders.map sign) := by
  cases op with
  | like => exact absurd rfl hlike
  | _ => rfl

theorem sql_injective {a b : Comparison} (h : a.sql = b.sql) : a = b := by
  have hfind (op : Comparison) : all.find? (fun other => other.sql == op.sql) = some op := by
    cases op <;> decide +kernel
  exact eq_of_find? hfind h

end Comparison

end SpatialSql.Filter
