import Mathlib.Logic.Function.Iterate
import SpatialSql.Proofs.Wkt.Rewriting
import SpatialSql.Proofs.Wkt.Unambiguity
import SpatialSql.Proofs.Wkt.Written
/-!
# Writing and reading again

What is written is read as what the text keeps.  A geometry in which nothing is left out comes back
as it is, and what comes back is written as the same text unless something left out told two
dimensions from three.
-/

namespace SpatialSql.Wkt

theorem read_of_derives {text : String} {g : Geometry}
    (h : Derives (@Derivation.tokens (maxDepth + 1)) Derivation.geometry text g) :
    read text = .ok g := by
  obtain ⟨t, ht, hvalue⟩ := h
  rw [read, ht.tokens_eq, ok_bind, ofTokens_eq_ok_iff]
  exact ⟨t, rfl, hvalue⟩

theorem read_write_legible {g : Geometry} (hrings : g.HasRings) (hdepth : g.depth ≤ maxDepth)
    (hspelled : ∀ c ∈ g.legible.coordinates, c.IsSpelled) : read (write g) = .ok g.legible :=
  read_of_derives (derives_write g maxDepth hdepth hrings hspelled)

/-! ## Geometries that come back -/

theorem isSpelled_of_isFinite {c : Coordinate} (hc : c.IsFinite) : c.IsSpelled := by
  have hinfinity : Binary64.infinity.isFinite = false := by decide
  have hne {x : Binary64} (hx : x.isFinite = true) : x ≠ .infinity := by
    rintro rfl
    rw [hinfinity] at hx
    cases hx
  exact ⟨hne hc.1, hne hc.2.1, fun z hz => hne (hc.2.2 z hz)⟩

/-- A geometry with finite ordinates comes back with every bit when its parts are regular: each
that is no collection is in two or in three dimensions throughout, polygons have an exterior or no
rings at all, and where there are members one of them is not empty. -/
theorem read_write_exactly (g : Geometry) (hrings : g.HasRings) (hdepth : g.depth ≤ maxDepth)
    (hfinite : ∀ c ∈ g.coordinates, c.IsFinite) (hregular : ∀ p ∈ g.parts, p.IsRegular) :
    read (write g) = .ok g := by
  have hlegible : g.legible = g := g.legible_eq hfinite hregular
  have hspelled : ∀ c ∈ g.legible.coordinates, c.IsSpelled := by
    rw [hlegible]
    exact fun c hc => isSpelled_of_isFinite (hfinite c hc)
  have hread := read_write_legible hrings hdepth hspelled
  rwa [hlegible] at hread

def variedGeometry : Geometry :=
  let negZero : Binary64 := .ofParts true 0
  let square (z : Option Binary64) : Path :=
    [⟨.zero, .zero, z⟩, ⟨.zero, ⟨1⟩, z⟩, ⟨⟨0x7fefffffffffffff⟩, ⟨1⟩, z⟩, ⟨.zero, negZero, z⟩]
  let height : Option Binary64 := some ⟨0xbff3c0ca428c59fb⟩
  .collection [.point none, .polygon [], .linearRing (square height), .polygon [square none, []],
    .multiPoint [none, some ⟨negZero, ⟨0x3fb999999999999a⟩, height⟩, none],
    .collection [.collection [], .multiLineString [[], square none], .lineString []],
    .multiPolygon [[], [square height, [], square height]]]

def deepGeometry : Geometry := Nat.iterate (fun g => .collection [g]) 62 variedGeometry

theorem read_write_exactly_varied :
    deepGeometry.HasRings ∧ deepGeometry.depth = maxDepth ∧
      (∀ c ∈ deepGeometry.coordinates, c.IsFinite) ∧ (∀ p ∈ deepGeometry.parts, p.IsRegular) ∧
      read (write deepGeometry) = .ok deepGeometry := by
  have h : deepGeometry.HasRings ∧ deepGeometry.depth = maxDepth ∧
      (∀ c ∈ deepGeometry.coordinates, c.IsFinite) ∧ ∀ p ∈ deepGeometry.parts, p.IsRegular := by
    decide +kernel
  obtain ⟨hrings, hdepth, hfinite, hregular⟩ := h
  refine ⟨hrings, hdepth, hfinite, hregular, ?_⟩
  exact read_write_exactly deepGeometry hrings (Nat.le_of_eq hdepth) hfinite hregular

/-! ## Texts that come back -/

/-- Unless positive infinity is written, every text that is written is read, as what it keeps of
the geometry; and that is written as the same text when the parts are stable. -/
theorem write_read_keeps (g : Geometry) (hrings : g.HasRings) (hdepth : g.depth ≤ maxDepth)
    (hspelled : ∀ c ∈ g.legible.coordinates, c.IsSpelled) :
    read (write g) = .ok g.legible ∧
      ((∀ p ∈ g.parts, IsStable p) → write g.legible = write g) :=
  ⟨read_write_legible hrings hdepth hspelled, write_legible g⟩

def wildGeometry : Geometry :=
  let ring : Path :=
    [⟨.zero, .zero, none⟩, ⟨.zero, ⟨1⟩, none⟩, ⟨⟨1⟩, ⟨1⟩, none⟩, ⟨.zero, .zero, none⟩]
  .collection [.point (some ⟨⟨0x7ff0000000000001⟩, .negInfinity, none⟩),
    .lineString [⟨.zero, ⟨1⟩, some .infinity⟩, ⟨⟨1⟩, .zero, none⟩, ⟨⟨2⟩, .zero, some .nan⟩],
    .multiPoint [none, none], .collection [.polygon [[], []]], .multiPolygon [[[]], [ring, []]]]

theorem write_read_keeps_wild :
    wildGeometry.HasRings ∧ wildGeometry.depth ≤ maxDepth ∧
      (∀ c ∈ wildGeometry.legible.coordinates, c.IsSpelled) ∧
      (∀ p ∈ wildGeometry.parts, IsStable p) ∧
      read (write wildGeometry) = .ok wildGeometry.legible ∧
      write wildGeometry.legible = write wildGeometry := by
  have h : wildGeometry.HasRings ∧ wildGeometry.depth ≤ maxDepth ∧
      (∀ c ∈ wildGeometry.legible.coordinates, c.IsSpelled) ∧
      ∀ p ∈ wildGeometry.parts, IsStable p := by decide +kernel
  obtain ⟨hrings, hdepth, hspelled, hstable⟩ := h
  have hkeeps := write_read_keeps wildGeometry hrings hdepth hspelled
  exact ⟨hrings, hdepth, hspelled, hstable, hkeeps.1, hkeeps.2 hstable⟩

def ComesBack (g : Geometry) : Prop := ∃ g', read (write g) = .ok g' ∧ write g' = write g

def blankHeight : Geometry := .point (some ⟨.zero, .zero, some .nan⟩)

def hollowPolygon : Geometry :=
  let c : Coordinate := ⟨.zero, .zero, some .zero⟩
  .polygon [[], [c, c, c, c]]

def boundlessPoint : Geometry := .point (some ⟨.infinity, .zero, none⟩)

/-- Not every geometry comes back: reading drops a height that is NaN and a hole that is not
written, and with them a tag of three dimensions; it refuses positive infinity. -/
theorem not_every_text_comes_back :
    (blankHeight.HasRings ∧ blankHeight.depth ≤ maxDepth ∧ ¬ComesBack blankHeight) ∧
      (hollowPolygon.HasRings ∧ hollowPolygon.depth ≤ maxDepth ∧ ¬ComesBack hollowPolygon) ∧
      (boundlessPoint.HasRings ∧ boundlessPoint.depth ≤ maxDepth ∧ ¬ComesBack boundlessPoint) := by
  -- what is read is what the text keeps, and for the first two that has another tag
  have hchanged {g : Geometry} (hread : read (write g) = .ok g.legible)
      (hwrite : write g.legible ≠ write g) : ¬ComesBack g := by
    rintro ⟨g', hread', hwrite'⟩
    rw [hread] at hread'
    cases hread'
    exact hwrite hwrite'
  refine ⟨⟨by decide +kernel, by decide +kernel, ?_⟩, ⟨by decide +kernel, by decide +kernel, ?_⟩,
    by decide +kernel, by decide +kernel, ?_⟩
  · apply hchanged
    · exact read_write_legible (by decide +kernel) (by decide +kernel) (by decide +kernel)
    · decide +kernel
  · apply hchanged
    · exact read_write_legible (by decide +kernel) (by decide +kernel) (by decide +kernel)
    · decide +kernel
  · rintro ⟨g', hread, -⟩
    have hrefused : (read (write boundlessPoint)).toOption = none := by decide +kernel
    rw [hread] at hrefused
    cases hrefused

end SpatialSql.Wkt
