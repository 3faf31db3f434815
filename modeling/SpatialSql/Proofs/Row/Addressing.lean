import SpatialSql.Proofs.Association
import SpatialSql.Proofs.Outcome
import SpatialSql.Row
/-!
# Addressing the cells of a row

A row is what the cells that were set have made of it.  Its columns stand in the order in which
their names were first set.  A position finds the same cell as the name of the column there, a name
finds what it was set to last, and only a name that no column has is looked for without regard to
case.  What a typed reader answers depends on the cell that is found alone.
-/

namespace SpatialSql.Row

/-! ## What was set -/

theorem setsInPlace_setCell : SetsInPlace setCell where
  nil _ _ := rfl
  cons _ _ _ _ := rfl

def SetLast (cells : List (String × Scalar)) (name : String) (value : Scalar) : Prop :=
  ∃ before behind, cells = before ++ (name, value) :: behind ∧ ∀ cell ∈ behind, cell.1 ≠ name

variable {cells : List (String × Scalar)} {name : String} {value : Scalar}

theorem setLast_iff : SetLast cells name value ↔ cells.reverse.lookup name = some value := by
  rw [List.lookup_eq_some_iff]
  constructor
  · rintro ⟨before, behind, rfl, hbehind⟩
    refine ⟨behind.reverse, before.reverse, by simp, fun cell hcell => ?_⟩
    exact bne_iff_ne.2 (hbehind cell (List.mem_reverse.1 hcell)).symm
  · rintro ⟨behind, before, hcells, hbehind⟩
    refine ⟨before.reverse, behind.reverse, ?_, fun cell hcell => ?_⟩
    · rw [← List.reverse_reverse cells, hcells]
      simp
    · exact (bne_iff_ne.1 (hbehind cell (List.mem_reverse.1 hcell))).symm

theorem cells_ofCells (cells : List (String × Scalar)) :
    (ofCells cells).cells =
      cells.foldl (fun cells cell => setCell cell.1 cell.2 cells) [] :=
  (List.foldl_hom Row.cells fun _ _ => rfl).symm

theorem columns_ofCells (cells : List (String × Scalar)) :
    (ofCells cells).columns = (cells.map Prod.fst).eraseDups := by
  rw [columns, cells_ofCells]
  exact setsInPlace_setCell.keys_foldl cells

theorem nodup_columns_ofCells (cells : List (String × Scalar)) :
    (ofCells cells).columns.Nodup := by
  have hempty : (([] : List (String × Scalar)).map Prod.fst).Nodup := List.nodup_nil
  rw [columns, cells_ofCells]
  exact setsInPlace_setCell.nodup_keys_foldl hempty cells

theorem lookup_cells_ofCells (cells : List (String × Scalar)) (name : String) :
    (ofCells cells).cells.lookup name = cells.reverse.lookup name := by
  rw [cells_ofCells]
  exact (setsInPlace_setCell.lookup_foldl name cells []).trans (Option.or_none)

theorem mem_columns_iff {row : Row} :
    name ∈ row.columns ↔ (row.cells.lookup name).isSome = true := mem_keys_iff

/-! ## What is found -/

theorem get?_named (row : Row) (name : String) :
    row.get? (.named name) =
      (row.cells.lookup name).or
        ((row.columns.find? (Text.eqFolded · name)).bind fun column =>
          row.cells.lookup column) := by
  show ((row.cells.find? fun cell => cell.1 == name).or
    (row.cells.find? fun cell => Text.eqFolded cell.1 name)).map Prod.snd = _
  rw [Option.map_or, map_snd_find?_key,
    map_snd_find?_fst (fun column => Text.eqFolded column name)]
  rfl

theorem get?_position {row : Row} (hcolumns : row.columns.Nodup) (i : Nat) :
    row.get? (.position i) = row.columns[i]?.bind fun column => row.cells.lookup column :=
  map_snd_getElem? hcolumns i

theorem get_eq_ok_iff {row : Row} {column : ColumnRef} :
    row.get column = .ok value ↔ row.get? column = some value := by
  rw [get]
  cases row.get? column <;> simp

theorem get_eq_error_iff {row : Row} {column : ColumnRef} :
    row.get column = .error (.missing column) ↔ row.get? column = none := by
  rw [get]
  cases row.get? column <;> simp

/-- How the cells of a row are addressed that was made by setting some cells. -/
structure IsAddressed (row : Row) (cells : List (String × Scalar)) : Prop where
  /-- The names, in the order in which they were first set. -/
  columns : row.columns = (cells.map Prod.fst).eraseDups
  nodup : row.columns.Nodup
  /-- A position finds what the name of the column there finds. -/
  position : ∀ i < row.size, ∃ name value, row.columns[i]? = some name ∧
    row.get (.position i) = .ok value ∧ row.get (.named name) = .ok value
  beyond : ∀ i, row.size ≤ i → row.get (.position i) = .error (.missing (.position i))
  named : ∀ name value, SetLast cells name value → row.get (.named name) = .ok value
  /-- A name that was never set finds the first column with that name in another case. -/
  folded : ∀ name column, (∀ value, ¬ SetLast cells name value) →
    row.columns.find? (Text.eqFolded · name) = some column →
      ∃ value, SetLast cells column value ∧ row.get (.named name) = .ok value
  missing : ∀ name, (∀ column ∈ row.columns, Text.eqFolded column name = false) →
    row.get (.named name) = .error (.missing (.named name))

theorem lookup_eq_none_of_not_setLast (h : ∀ value, ¬ SetLast cells name value) :
    (ofCells cells).cells.lookup name = none := by
  rw [lookup_cells_ofCells, Option.eq_none_iff_forall_ne_some]
  exact fun value hvalue => h value (setLast_iff.2 hvalue)

theorem isAddressed_ofCells (cells : List (String × Scalar)) :
    IsAddressed (ofCells cells) cells := by
  have hnodup := nodup_columns_ofCells cells
  have hsize : (ofCells cells).size = (ofCells cells).columns.length := (List.length_map _).symm
  refine ⟨columns_ofCells cells, hnodup, fun i hi => ?_, fun i hi => ?_, fun name value hset => ?_,
    fun name column hnew hcolumn => ?_, fun name hnone => ?_⟩
  · rw [hsize] at hi
    have hname : (ofCells cells).columns[i]? = some (ofCells cells).columns[i] :=
      List.getElem?_eq_getElem hi
    obtain ⟨value, hvalue⟩ :=
      Option.isSome_iff_exists.1 (mem_columns_iff.1 (List.getElem_mem hi))
    refine ⟨_, value, hname, ?_, ?_⟩
    · rw [get_eq_ok_iff, get?_position hnodup, hname, Option.bind_some, hvalue]
    · rw [get_eq_ok_iff, get?_named, hvalue, Option.some_or]
  · rw [hsize] at hi
    rw [get_eq_error_iff, get?_position hnodup, List.getElem?_eq_none hi, Option.bind_none]
  · rw [setLast_iff, ← lookup_cells_ofCells] at hset
    rw [get_eq_ok_iff, get?_named, hset, Option.some_or]
  · obtain ⟨value, hvalue⟩ :=
      Option.isSome_iff_exists.1 (mem_columns_iff.1 (List.mem_of_find?_eq_some hcolumn))
    refine ⟨value, ?_, ?_⟩
    · rwa [setLast_iff, ← lookup_cells_ofCells]
    · rw [get_eq_ok_iff, get?_named, lookup_eq_none_of_not_setLast hnew, Option.none_or, hcolumn,
        Option.bind_some, hvalue]
  · have hfold : (ofCells cells).columns.find? (Text.eqFolded · name) = none := by
      simpa using hnone
    have hexact : (ofCells cells).cells.lookup name = none := by
      rw [← Option.not_isSome_iff_eq_none, ← mem_columns_iff]
      intro hmem
      have hself := hnone name hmem
      rw [Text.eqFolded_self] at hself
      cases hself
    rw [get_eq_error_iff, get?_named, hexact, hfold]
    rfl

/-! ## What is read -/

/-- What a typed reader makes of a cell, when `holds` says which cells hold which values. -/
structure Reads (holds : Scalar → α → Prop) (cell : Except Fault Scalar)
    (result : Except Fault (Option α)) : Prop where
  null : cell = .ok .null → result = .ok none
  value : ∀ value a, cell = .ok value → holds value a → result = .ok (some a)
  mismatch : ∀ value, cell = .ok value → value ≠ .null → (∀ a, ¬ holds value a) →
    ∃ fault, result = .error fault ∧ fault.toError.kind = .invalidDataType
  missing : ∀ fault, cell = .error fault → result = .error fault

theorem reads_getAs {holds : Scalar → α → Prop} {read : Scalar → Option α}
    (hread : ∀ value a, holds value a ↔ read value = some a) (hnull : read .null = none)
    (row : Row) (column : ColumnRef) (wanted : String) :
    Reads holds (row.get column) (row.getAs column wanted read) := by
  unfold getAs
  refine ⟨fun hcell => ?_, fun value a hcell hvalue => ?_, fun value hcell hne hnone => ?_,
    fun fault hcell => ?_⟩
  · rw [hcell]
    rfl
  · rw [hcell, ok_bind]
    rw [hread] at hvalue
    split
    · rw [hnull] at hvalue
      cases hvalue
    · rw [hvalue]
      rfl
  · rw [hcell, ok_bind]
    have hother : read value = none :=
      Option.eq_none_iff_forall_ne_some.2 fun a ha => hnone a ((hread value a).2 ha)
    split
    · exact absurd rfl hne
    · rw [hother]
      exact ⟨_, rfl, rfl⟩
  · rw [hcell]
    rfl

/-- The integer in a cell, which is widened if it has 32 bits. -/
def HoldsInteger : Scalar → Int64 → Prop
  | .int32 m, n => m.toInt = n.toInt
  | .int64 m, n => m = n
  | _, _ => False

theorem holdsInteger_iff (value : Scalar) (n : Int64) :
    HoldsInteger value n ↔ value.integer? = some n := by
  cases value with
  | int32 m =>
    rw [HoldsInteger, Scalar.integer?, Option.some_inj, ← Int64.toInt_inj, Int32.toInt_toInt64]
  | int64 m => rw [HoldsInteger, Scalar.integer?, Option.some_inj]
  | _ => exact ⟨nofun, nofun⟩

theorem eq_bytes_iff (value : Scalar) (bs : List UInt8) :
    value = .bytes bs ↔ value.bytes? = some bs := by
  cases value <;> simp [Scalar.bytes?]

theorem eq_text_iff (value : Scalar) (s : String) : value = .text s ↔ value.text? = some s := by
  cases value <;> simp [Scalar.text?]

/-- Whatever cells were set, and however often their names were repeated or spelled in another
case, the row addresses its cells consistently, and its typed readers agree with the cell that is
found. -/
theorem cells_are_addressed_consistently (cells : List (String × Scalar)) :
    IsAddressed (ofCells cells) cells ∧
      (∀ column, (Fault.missing column).toError.kind = .catalog) ∧
      ∀ column,
        let cell := (ofCells cells).get column
        Reads (fun value bs => value = .bytes bs) cell ((ofCells cells).bytes column) ∧
          Reads (fun value s => value = .text s) cell ((ofCells cells).text column) ∧
          Reads HoldsInteger cell ((ofCells cells).integer column) := by
  refine ⟨isAddressed_ofCells cells, fun column => rfl, fun column => ⟨?_, ?_, ?_⟩⟩
  · exact reads_getAs eq_bytes_iff rfl (ofCells cells) column "bytes"
  · exact reads_getAs eq_text_iff rfl (ofCells cells) column "string"
  · exact reads_getAs holdsInteger_iff rfl (ofCells cells) column "integer"

def repeatedCells : List (String × Scalar) :=
  [("ID", .int32 7), ("id", .text "x"), ("ID", .int32 8)]

theorem cells_are_addressed_consistently_repeated :
    let row := ofCells repeatedCells
    row.columns = ["ID", "id"] ∧ row.get (.named "id") = .ok (.text "x") ∧
      (row.get (.named "Id") = .ok (.int32 8) ∧ row.integer (.named "Id") = .ok (some 8)) ∧
      ∃ fault, row.bytes (.named "Id") = .error fault ∧ fault.toError.kind = .invalidDataType := by
  intro row
  obtain ⟨haddressed, -, hreaders⟩ := cells_are_addressed_consistently repeatedCells
  have hlast : SetLast repeatedCells "ID" (.int32 8) := setLast_iff.2 (by decide)
  have hother : SetLast repeatedCells "id" (.text "x") := setLast_iff.2 (by decide)
  have hnew : ∀ value, ¬ SetLast repeatedCells "Id" value := by
    intro value hset
    have hlookup : repeatedCells.reverse.lookup "Id" = none := by decide
    rw [setLast_iff, hlookup] at hset
    cases hset
  obtain ⟨value, hvalue, hcell⟩ := haddressed.folded "Id" "ID" hnew (by decide)
  obtain rfl : value = .int32 8 :=
    Option.some_inj.1 ((setLast_iff.1 hvalue).symm.trans (setLast_iff.1 hlast))
  obtain ⟨hbytes, -, hinteger⟩ := hreaders (.named "Id")
  refine ⟨haddressed.columns.trans (by decide), haddressed.named "id" _ hother,
    ⟨hcell, hinteger.value _ 8 hcell rfl⟩, hbytes.mismatch _ hcell nofun nofun⟩

end SpatialSql.Row
