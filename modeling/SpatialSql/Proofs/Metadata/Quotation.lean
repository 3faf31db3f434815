import SpatialSql.Proofs.Metadata.Lookup
/-!
# Names in statements

What is quoted in a statement is read back as it was before, whatever characters are in it, as long
as something stands between one quoted text and the next.  In every statement about a column
something does, and the three names of the column are all that is quoted.
-/

namespace SpatialSql.Metadata

open Catalog (ColumnKey)

theorem not_mem_fieldClause {field : String} (h : '\'' ∉ field.toList) :
    '\'' ∉ (fieldClause field).toList := by
  have hfront : '\'' ∉ "SELECT ".toList := by decide
  have hview : '\'' ∉ (" FROM ".toList ++ viewName.toList ++ " WHERE SCHEMA_NAME=".toList) := by
    decide
  rw [fieldClause, String.toList_append, String.toList_append, String.toList_append,
    String.toList_append]
  simp only [List.mem_append, not_or] at hview ⊢
  exact ⟨⟨⟨⟨hfront, h⟩, hview.1.1⟩, hview.1.2⟩, hview.2⟩

def extentClause : String := "SELECT ST_AsText(ST_force_2d(ST_Envelope(ST_Estimated_Extent("

theorem toList_extentStatement_eq_interleaved (key : ColumnKey) :
    (extentStatement key).toList =
      (Text.interleaved '\'' [(extentClause, key.schema), (", ", key.table), (", ", key.column)]
        "))))").toList := by
  show (extentClause ++ Sql.string key.schema ++ ", " ++ Sql.string key.table ++ ", "
    ++ Sql.string key.column ++ "))))").toList = _
  rw [Text.toList_interleaved_cons, Text.toList_interleaved_cons, Text.toList_interleaved_cons]
  simp only [String.toList_append, List.append_assoc]
  rfl

theorem quotedParts_extentStatement (key : ColumnKey) :
    Text.quotedParts '\'' none (extentStatement key).toList =
      [key.schema, key.table, key.column] := by
  have hcomma : '\'' ∉ ", ".toList := by decide
  have hcomma_ne : ", " ≠ "" := by decide
  rw [toList_extentStatement_eq_interleaved]
  refine Text.quotedParts_interleaved (List.forall_mem_cons.2 ⟨?_, ?_⟩) (by decide) ?_
  · show '\'' ∉ extentClause.toList
    decide
  · exact List.forall_mem_cons.2 ⟨hcomma, List.forall_mem_singleton.2 hcomma⟩
  · exact List.forall_mem_cons.2 ⟨hcomma_ne, List.forall_mem_singleton.2 hcomma_ne⟩

/-- What is quoted in a text is recovered exactly, if nothing else in it has a quote and something
stands between one quoted text and the next; in particular the names in every statement about a
column. -/
theorem quoted_names_are_recovered (parts : List (String × String)) (ending : String)
    (hparts : ∀ part ∈ parts, '\'' ∉ part.1.toList) (hending : '\'' ∉ ending.toList)
    (hbetween : ∀ part ∈ parts.tail, part.1 ≠ "") (key : ColumnKey) :
    Text.quotedParts '\'' none (Text.interleaved '\'' parts ending).toList = parts.map Prod.snd ∧
      (∀ field, '\'' ∉ field.toList →
        Text.quotedParts '\'' none (fieldStatement field key).toList =
          [key.schema, key.table, key.column]) ∧
      Text.quotedParts '\'' none (kindStatement key).toList =
        [key.schema, key.table, key.column] ∧
      Text.quotedParts '\'' none (sridStatement key).toList =
        [key.schema, key.table, key.column] ∧
      Text.quotedParts '\'' none (extentStatement key).toList =
        [key.schema, key.table, key.column] := by
  have hfield (field : String) (h : '\'' ∉ field.toList) :
      Text.quotedParts '\'' none (fieldStatement field key).toList =
        [key.schema, key.table, key.column] :=
    quotedParts_fieldStatement key (not_mem_fieldClause h)
  exact ⟨Text.quotedParts_interleaved hparts hending hbetween, hfield,
    hfield "DATA_TYPE_NAME" (by decide), hfield "SRS_ID" (by decide),
    quotedParts_extentStatement key⟩

def quotingParts : List (String × String) :=
  [("", "'"), (", ", ""), (" AND ", "''='"), (" ", "O'Hara")]

theorem quoted_names_are_recovered_quoting :
    Text.quotedParts '\'' none (Text.interleaved '\'' quotingParts ")").toList =
        ["'", "", "''='", "O'Hara"] ∧
      Text.quotedParts '\'' none (sridStatement quotingColumn).toList =
        ["O'Hara", "' OR ''='", "SELECT SRS_ID"] := by
  obtain ⟨hparts, -, -, hsrid, -⟩ := quoted_names_are_recovered quotingParts ")"
    (by decide) (by decide) (by decide) quotingColumn
  exact ⟨hparts, hsrid⟩

end SpatialSql.Metadata
