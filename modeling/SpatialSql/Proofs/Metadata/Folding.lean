import SpatialSql.Proofs.Metadata.Session
/-!
# Folding reference systems

The catalog tells a reference system in 64 bits, and what is answered has 32.  A number with the
rounding flag is reduced by it, and any other is kept.  All that comes out of this fits but for the
numbers below the least one of 32 bits, which have no flag to lose and lose their upper half.
-/

namespace SpatialSql.Metadata

open Catalog (Probe)

/-- What folding is meant to make of a number that the catalog tells. -/
structure IsFolded (raw : Int64) (folded : Int32) : Prop where
  unflagged : folded.toInt < roundingFlag
  congruent : folded.toInt % roundingFlag = raw.toInt % roundingFlag
  kept : raw.toInt < roundingFlag → folded.toInt = raw.toInt
  stable : foldSrid folded.toInt64 = folded

variable {raw : Int64}

theorem toInt_foldSrid_of_flagged (h : roundingFlag ≤ raw.toInt) :
    (foldSrid raw).toInt = raw.toInt % roundingFlag := by
  have hnonneg : 0 ≤ raw.toInt % roundingFlag := Int.emod_nonneg _ (by decide)
  have hlt : raw.toInt % roundingFlag < roundingFlag := Int.emod_lt_of_pos _ (by decide)
  rw [foldSrid, if_pos h, Int32.toInt_ofInt]
  simp only [roundingFlag] at hnonneg hlt ⊢
  show Int.bmod _ 0x100000000 = _
  apply Int.bmod_eq_of_le
  · omega
  · omega

theorem toInt_foldSrid_of_unflagged (h : raw.toInt < roundingFlag) :
    (foldSrid raw).toInt = raw.toInt.bmod 0x100000000 := by
  rw [foldSrid, if_neg (by omega), Int32.toInt_ofInt]

theorem foldSrid_toInt64 {srid : Int32} (h : srid.toInt < roundingFlag) :
    foldSrid srid.toInt64 = srid := by
  rw [foldSrid, Int32.toInt_toInt64, if_neg (by omega), Int32.ofInt_toInt]

/-- A number that fits into 32 bits once its flag is off is folded as it should be. -/
theorem isFolded_of_le (h : -0x80000000 ≤ raw.toInt) : IsFolded raw (foldSrid raw) := by
  by_cases hflag : roundingFlag ≤ raw.toInt
  · have hvalue := toInt_foldSrid_of_flagged hflag
    have hlt : (foldSrid raw).toInt < roundingFlag := by
      rw [hvalue]
      exact Int.emod_lt_of_pos _ (by decide)
    refine ⟨hlt, ?_, fun hkept => absurd hflag (by omega), foldSrid_toInt64 hlt⟩
    rw [hvalue, Int.emod_emod]
  · have hlt : raw.toInt < roundingFlag := by omega
    have hvalue : (foldSrid raw).toInt = raw.toInt := by
      rw [toInt_foldSrid_of_unflagged hlt]
      apply Int.bmod_eq_of_le
      · omega
      · simp only [roundingFlag] at hlt
        omega
    exact ⟨hvalue ▸ hlt, by rw [hvalue], fun _ => hvalue, foldSrid_toInt64 (hvalue ▸ hlt)⟩

theorem isFolded_iff : IsFolded raw (foldSrid raw) ↔ -0x80000000 ≤ raw.toInt := by
  refine ⟨fun hfolded => ?_, isFolded_of_le⟩
  by_cases hflag : roundingFlag ≤ raw.toInt
  · simp only [roundingFlag] at hflag
    omega
  · -- a number that is kept is one of 32 bits
    have hleast := (foldSrid raw).le_toInt
    rwa [hfolded.kept (by omega)] at hleast

theorem value_srid {probe : Probe} {key : Catalog.ColumnKey} {row : Row} {rows : List Row}
    (hrow : probe.query (sridStatement key) = .ok (row :: rows))
    (hcell : row.integer (.position 0) = .ok (some raw)) :
    (srid probe key).value = foldSrid raw := by
  show sridOfAnswer (probe.query (sridStatement key)) = _
  simp only [hrow, sridOfAnswer, hcell]

/-- Whatever integer the catalog has for a column, the reference system answered has no rounding
flag, is congruent to the integer, is the integer itself if that has no flag, and is not changed by
folding again; all this exactly if the integer is not below those of 32 bits.  Of one that is, the
lower 32 bits are answered. -/
theorem srid_folds_what_fits (d : Dialect) (probe : Probe) (schema : Option String)
    (table column : String) (row : Row) (rows : List Row) (raw : Int64)
    (hrow : probe.query (sridStatement (d.keyOf schema table column)) = .ok (row :: rows))
    (hcell : row.integer (.position 0) = .ok (some raw)) :
    let folded := (srid probe (d.keyOf schema table column)).value
    (IsFolded raw folded ↔ -0x80000000 ≤ raw.toInt) ∧
      (raw.toInt < -0x80000000 → folded.toInt = raw.toInt.bmod 0x100000000) := by
  intro folded
  have hvalue : folded = foldSrid raw := value_srid hrow hcell
  rw [hvalue]
  refine ⟨isFolded_iff, fun hlow => ?_⟩
  apply toInt_foldSrid_of_unflagged
  simp only [roundingFlag]
  omega

def numberedCatalog (raw : Int64) : Probe :=
  ⟨fun _ => .ok [Row.ofCells [("SRS_ID", .int64 raw)]], fun _ _ _ => .ok []⟩

theorem srid_folds_what_fits_extremes :
    let key := (Dialect.ofSettings .default).keyOf none "ROADS" "SHAPE"
    IsFolded 9223372036854775807 (srid (numberedCatalog 9223372036854775807) key).value ∧
      IsFolded (-2147483648) (srid (numberedCatalog (-2147483648)) key).value := by
  have hgreatest := srid_folds_what_fits (.ofSettings .default)
    (numberedCatalog 9223372036854775807) none "ROADS" "SHAPE" _ _ 9223372036854775807 rfl rfl
  have hleast := srid_folds_what_fits (.ofSettings .default)
    (numberedCatalog (-2147483648)) none "ROADS" "SHAPE" _ _ (-2147483648) rfl rfl
  exact ⟨hgreatest.1.2 (by decide), hleast.1.2 (by decide)⟩

/-- A number far below zero comes out above the flag, and folding that again changes it. -/
theorem not_every_srid_is_folded :
    let folded :=
      (srid (numberedCatalog (-3000000000)) ((Dialect.ofSettings .default).keyOf none "ROADS"
        "SHAPE")).value
    folded = 1294967296 ∧ ¬ folded.toInt < roundingFlag ∧
      folded.toInt ≠ (-3000000000 : Int64).toInt ∧ foldSrid folded.toInt64 ≠ folded ∧
      ¬ IsFolded (-3000000000) folded := by
  have hvalue : (srid (numberedCatalog (-3000000000)) ((Dialect.ofSettings .default).keyOf none
      "ROADS" "SHAPE")).value = 1294967296 := rfl
  rw [hvalue]
  exact ⟨rfl, by decide, by decide, by decide, fun h => absurd h.unflagged (by decide)⟩

end SpatialSql.Metadata
