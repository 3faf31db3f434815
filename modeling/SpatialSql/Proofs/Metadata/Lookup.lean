import SpatialSql.Proofs.Catalog.History
import SpatialSql.Proofs.Metadata.Session
import SpatialSql.Proofs.Text.Quoted
/-!
# Lookups in a catalog in memory

What is asked about a column travels as a statement, with the three names of the column in quotes.
The catalog reads the names back whatever is in them, and tells from the statement which question
it is.  It looks for the mark of a question about an extent in the whole statement, so that a name
with that mark in it turns any question into one about the extent.
-/

namespace SpatialSql

namespace Catalog

/-- What a statement about an extent is known by. -/
def Memory.extentMark : String := "ST_Estimated_Extent"

def ColumnKey.isMarked (key : ColumnKey) : Bool :=
  [key.schema, key.table, key.column].any (Text.occursIn Memory.extentMark)

def Memory.told (sql : String) (r : Registration) : Except Error (List Row) :=
  if Text.startsWith "SELECT SRS_ID" sql then .ok (single "SRS_ID" (.int64 r.srid))
  else if Text.startsWith "SELECT DATA_TYPE_NAME" sql then
    .ok (single "DATA_TYPE_NAME" (.text r.typeName))
  else .error (unexpected sql)

end Catalog

namespace Metadata

open Catalog (ColumnKey Memory Registration)
open Catalog.Memory (Change Stands setBy_register setBy_setExtent single told)

/-! ## Statements for one field -/

def fieldClause (field : String) : String :=
  "SELECT " ++ field ++ " FROM " ++ viewName ++ " WHERE SCHEMA_NAME="

theorem toList_fieldStatement (field : String) (key : ColumnKey) :
    (fieldStatement field key).toList =
      (fieldClause field).toList ++ ((Sql.string key.schema).toList ++
        (" AND TABLE_NAME=".toList ++ ((Sql.string key.table).toList ++
          (" AND COLUMN_NAME=".toList ++ ((Sql.string key.column).toList ++ []))))) := by
  show (fieldClause field ++ Sql.string key.schema ++ " AND TABLE_NAME=" ++ Sql.string key.table
    ++ " AND COLUMN_NAME=" ++ Sql.string key.column).toList = _
  simp only [String.toList_append, List.append_assoc, List.append_nil]

theorem toList_fieldStatement_eq_interleaved (field : String) (key : ColumnKey) :
    (fieldStatement field key).toList =
      (Text.interleaved '\'' [(fieldClause field, key.schema), (" AND TABLE_NAME=", key.table),
        (" AND COLUMN_NAME=", key.column)] "").toList := by
  rw [toList_fieldStatement, Text.toList_interleaved_cons, Text.toList_interleaved_cons,
    Text.toList_interleaved_cons]
  rfl

section

variable {field : String} (key : ColumnKey)

theorem quotedParts_fieldStatement (hfield : '\'' ∉ (fieldClause field).toList) :
    Text.quotedParts '\'' none (fieldStatement field key).toList =
      [key.schema, key.table, key.column] := by
  rw [toList_fieldStatement_eq_interleaved]
  refine Text.quotedParts_interleaved (List.forall_mem_cons.2 ⟨hfield, ?_⟩) (by decide) ?_
  · exact List.forall_mem_cons.2 ⟨show '\'' ∉ " AND TABLE_NAME=".toList by decide,
      List.forall_mem_singleton.2 (show '\'' ∉ " AND COLUMN_NAME=".toList by decide)⟩
  · exact List.forall_mem_cons.2 ⟨show " AND TABLE_NAME=" ≠ "" by decide,
      List.forall_mem_singleton.2 (show " AND COLUMN_NAME=" ≠ "" by decide)⟩

theorem subject?_fieldStatement (hfield : '\'' ∉ (fieldClause field).toList) :
    Memory.subject? (fieldStatement field key) = some key := by
  rw [Memory.subject?, quotedParts_fieldStatement key hfield]

theorem occursIn_fieldStatement
    (hfield : Text.occursIn Memory.extentMark (fieldClause field) = false) :
    Text.occursIn Memory.extentMark (fieldStatement field key) = key.isMarked := by
  have hquote : '\'' ∉ Memory.extentMark.toList := by decide
  rw [Text.occursIn] at hfield ⊢
  rw [toList_fieldStatement]
  simp only [Sql.string, Text.occursAt_append_quoted hquote, hfield, Bool.false_or]
  rw [show Text.occursAt Memory.extentMark.toList " AND TABLE_NAME=".toList = false by decide,
    show Text.occursAt Memory.extentMark.toList " AND COLUMN_NAME=".toList = false by decide,
    show Text.occursAt Memory.extentMark.toList [] = false by decide]
  simp [ColumnKey.isMarked, Text.occursIn]

theorem startsWith_fieldStatement {start : String} {starts : Bool}
    (hstarts : ∀ rest, start.toList.isPrefixOf ((fieldClause field).toList ++ rest) = starts) :
    Text.startsWith start (fieldStatement field key) = starts := by
  rw [Text.startsWith, toList_fieldStatement, hstarts]

end

/-! ## Answers -/

@[simp] theorem sridOfAnswer_int64 (name : String) (raw : Int64) :
    sridOfAnswer (.ok (single name (.int64 raw))) = foldSrid raw := rfl

@[simp] theorem sridOfAnswer_text (name text : String) :
    sridOfAnswer (.ok (single name (.text text))) = defaultSrid := rfl

@[simp] theorem sridOfAnswer_nil : sridOfAnswer (.ok []) = defaultSrid := rfl

@[simp] theorem kindOfAnswer_text (name text : String) :
    kindOfAnswer (.ok (single name (.text text))) = Geometry.Kind.ofNative? text := rfl

@[simp] theorem kindOfAnswer_nil : kindOfAnswer (.ok []) = none := rfl

theorem told_srid (key : ColumnKey) (r : Registration) :
    told (fieldStatement "SRS_ID" key) r = .ok (single "SRS_ID" (.int64 r.srid)) :=
  if_pos (startsWith_fieldStatement key fun _ => rfl)

theorem told_kind (key : ColumnKey) (r : Registration) :
    told (fieldStatement "DATA_TYPE_NAME" key) r =
      .ok (single "DATA_TYPE_NAME" (.text r.typeName)) := by
  have hother : Text.startsWith "SELECT SRS_ID" (fieldStatement "DATA_TYPE_NAME" key) = false :=
    startsWith_fieldStatement key fun _ => rfl
  have hstarts :
      Text.startsWith "SELECT DATA_TYPE_NAME" (fieldStatement "DATA_TYPE_NAME" key) = true :=
    startsWith_fieldStatement key fun _ => rfl
  rw [told, if_neg (Bool.eq_false_iff.1 hother), if_pos hstarts]

theorem answer_fieldStatement {m : Memory} (hanswers : m.failing = false) (field : String)
    (hquote : '\'' ∉ (fieldClause field).toList)
    (hmark : Text.occursIn Memory.extentMark (fieldClause field) = false) (key : ColumnKey) :
    m.answer (fieldStatement field key) =
      if key.isMarked then
        .ok ((m.extents.lookup key).elim [] fun extent => single "EXTENT" (.text extent))
      else (m.registrations.lookup key).elim (.ok []) (told (fieldStatement field key)) := by
  have hmarked : Text.occursIn "ST_Estimated_Extent" (fieldStatement field key) = key.isMarked :=
    occursIn_fieldStatement key hmark
  have hsubject : Memory.subject? (fieldStatement field key) = some key :=
    subject?_fieldStatement key hquote
  rw [Memory.answer, hanswers, hsubject]
  simp only [hmarked, Bool.false_eq_true, if_false]
  split
  · cases m.extents.lookup key <;> rfl
  · cases m.registrations.lookup key with
    | none => rfl
    | some r => simp only [Option.elim_some, told]

structure Resolves (m : Memory) (key : ColumnKey) (reference : Int32)
    (kind : Option Geometry.Kind) : Prop where
  srid : (srid m.probe key).value = reference
  subtype : (subtype m.probe key).value = kind

/-- The reference system is that of the registration.  The text of an extent is no number, and is
taken for the name of a type. -/
theorem resolves_memory {m : Memory} (hanswers : m.failing = false) (key : ColumnKey) :
    Resolves m key
      (if key.isMarked then defaultSrid
        else (m.registrations.lookup key).elim defaultSrid fun r => foldSrid r.srid)
      (if key.isMarked then (m.extents.lookup key).bind Geometry.Kind.ofNative?
        else (m.registrations.lookup key).bind fun r => Geometry.Kind.ofNative? r.typeName) where
  srid := by
    show sridOfAnswer (m.answer (sridStatement key)) = _
    simp only [sridStatement,
      answer_fieldStatement hanswers "SRS_ID" (by decide) (by decide)]
    cases key.isMarked <;> cases m.extents.lookup key <;> cases m.registrations.lookup key <;>
      simp [told_srid]
  subtype := by
    show kindOfAnswer (m.answer (kindStatement key)) = _
    simp only [kindStatement,
      answer_fieldStatement hanswers "DATA_TYPE_NAME" (by decide) (by decide)]
    cases key.isMarked <;> cases m.extents.lookup key <;> cases m.registrations.lookup key <;>
      simp [told_kind]

/-! ## Lookups after any history -/

theorem keyOf_of_not_blank (d : Dialect) {schema : String} (hschema : Text.isBlank schema = false)
    (table column : String) : d.keyOf (some schema) table column = ⟨schema, table, column⟩ := by
  rw [Dialect.keyOf, Settings.schemaOr, if_neg (Bool.eq_false_iff.1 hschema)]

/-- A lookup finds what stands registered of the column with the names it is given, whatever
characters are in them, and the default where nothing stands.  A name with the mark of an extent in
it is the exception: then the extent is all that is looked for. -/
theorem lookups_find_what_stands (changes : List Change) (d : Dialect)
    (schema table column : String) (hschema : Text.isBlank schema = false)
    (hanswers : (Memory.run changes).failing = false) :
    let m := Memory.run changes
    let key : ColumnKey := ⟨schema, table, column⟩
    let asked := d.keyOf (some schema) table column
    (key.isMarked = false →
      (∀ r, Stands changes (.register key) r →
        Resolves m asked (foldSrid r.srid) (Geometry.Kind.ofNative? r.typeName)) ∧
      ((∀ r, ¬ Stands changes (.register key) r) → Resolves m asked defaultSrid none)) ∧
    (key.isMarked = true →
      (∀ extent, Stands changes (.setExtent key) extent →
        Resolves m asked defaultSrid (Geometry.Kind.ofNative? extent)) ∧
      ((∀ extent, ¬ Stands changes (.setExtent key) extent) →
        Resolves m asked defaultSrid none)) := by
  intro m key asked
  have hkey : asked = key := keyOf_of_not_blank d hschema table column
  have hresolves := resolves_memory hanswers key
  rw [hkey]
  constructor
  · intro hplain
    simp only [hplain, Bool.false_eq_true, if_false] at hresolves
    constructor
    · intro r hstands
      have hfound : m.registrations.lookup key = some r :=
        (setBy_register key).run_eq_some_iff.2 hstands
      simpa only [m, hfound, Option.elim_some, Option.bind_some] using hresolves
    · intro hnothing
      have hnone : m.registrations.lookup key = none :=
        (setBy_register key).run_eq_none_iff.2 hnothing
      simpa only [m, hnone, Option.elim_none, Option.bind_none] using hresolves
  · intro hmarked
    simp only [hmarked, if_true] at hresolves
    constructor
    · intro extent hstands
      have hfound : m.extents.lookup key = some extent :=
        (setBy_setExtent key).run_eq_some_iff.2 hstands
      simpa only [m, hfound, Option.bind_some] using hresolves
    · intro hnothing
      have hnone : m.extents.lookup key = none :=
        (setBy_setExtent key).run_eq_none_iff.2 hnothing
      simpa only [m, hnone, Option.bind_none] using hresolves

/-! ## Names that look like statements -/

def quotingColumn : ColumnKey := ⟨"O'Hara", "' OR ''='", "SELECT SRS_ID"⟩

def markedColumn : ColumnKey := ⟨"GIS", "ST_Estimated_Extent", "SHAPE"⟩

def flaggedPolygon : Registration := ⟨"ST_POLYGON", 1000003857⟩

def plainPoint : Registration := ⟨"ST_POINT", 3857⟩

/-- Both columns are registered, one of them again after a clear, and the other has an extent. -/
def namingHistory : List Change :=
  [.register quotingColumn plainPoint, .clear, .register quotingColumn flaggedPolygon,
    .register markedColumn plainPoint, .setExtent markedColumn "POINT (1 2)"]

theorem lookups_find_what_stands_quoting :
    let m := Memory.run namingHistory
    let d := Dialect.ofSettings .default
    Resolves m (d.keyOf (some "O'Hara") "' OR ''='" "SELECT SRS_ID") 3857 (some .polygon) ∧
      Resolves m (d.keyOf (some "O'Hara") "' OR ''='" "SELECT") 4326 none ∧
      Resolves m (d.keyOf (some "GIS") "ST_Estimated_Extent" "SHAPE") 4326 none := by
  intro m d
  have hregistered : Stands namingHistory (.register quotingColumn) flaggedPolygon :=
    (setBy_register quotingColumn).run_eq_some_iff.1 (by decide +kernel)
  have hunknown : ∀ r, ¬ Stands namingHistory (.register ⟨"O'Hara", "' OR ''='", "SELECT"⟩) r :=
    (setBy_register _).run_eq_none_iff.1 (by decide +kernel)
  have hextent : Stands namingHistory (.setExtent markedColumn) "POINT (1 2)" :=
    (setBy_setExtent markedColumn).run_eq_some_iff.1 (by decide +kernel)
  have hquoting := lookups_find_what_stands namingHistory d "O'Hara" "' OR ''='" "SELECT SRS_ID"
    (by decide) rfl
  have hother := lookups_find_what_stands namingHistory d "O'Hara" "' OR ''='" "SELECT"
    (by decide) rfl
  have hmarked := lookups_find_what_stands namingHistory d "GIS" "ST_Estimated_Extent" "SHAPE"
    (by decide) rfl
  have hpolygon := (hquoting.1 (by decide)).1 flaggedPolygon hregistered
  have hpoint := (hmarked.2 (by decide)).1 "POINT (1 2)" hextent
  rw [show foldSrid flaggedPolygon.srid = 3857 by decide +kernel,
    show Geometry.Kind.ofNative? flaggedPolygon.typeName = some .polygon by decide +kernel]
    at hpolygon
  rw [show Geometry.Kind.ofNative? "POINT (1 2)" = none by decide +kernel] at hpoint
  exact ⟨hpolygon, (hother.1 (by decide)).2 hunknown, hpoint⟩

/-- A registration that stands and is not found, for the name of its table. -/
theorem not_every_lookup_finds_what_stands :
    let changes := [Change.register markedColumn plainPoint]
    let asked := (Dialect.ofSettings .default).keyOf (some "GIS") "ST_Estimated_Extent" "SHAPE"
    Stands changes (.register markedColumn) plainPoint ∧
      (foldSrid plainPoint.srid = 3857 ∧
        Geometry.Kind.ofNative? plainPoint.typeName = some .point) ∧
      Resolves (Memory.run changes) asked 4326 none :=
  ⟨⟨[], [], rfl, nofun⟩, ⟨by decide +kernel, by decide +kernel⟩,
    by decide +kernel, by decide +kernel⟩

end Metadata

end SpatialSql
