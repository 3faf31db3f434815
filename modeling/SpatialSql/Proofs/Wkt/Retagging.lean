import SpatialSql.Proofs.Geometry.Normal
import SpatialSql.Proofs.Text.Replacement
import SpatialSql.Proofs.Wkt.Spelling
/-!
# The tag of linear rings

A geometry and its form without linear rings have the same text but for the tags of the rings.
Nothing else in a text looks like that tag.
-/

namespace SpatialSql.Wkt

/-- Replacing the tag of linear rings by that of line strings makes one text of the other. -/
def Retags (text text' : String) : Prop :=
  Text.Replaces "LINEARRING".toList "LINESTRING".toList text.toList text'.toList

theorem Retags.append {a a' b b' : String} (ha : Retags a a') (hb : Retags b b') :
    Retags (a ++ b) (a' ++ b') := by
  unfold Retags
  rw [String.toList_append, String.toList_append]
  exact Text.Replaces.append ha hb

theorem retags_of_not_mem {text : String} (h : 'L' ∉ text.toList) : Retags text text :=
  Text.replaces_of_not_mem h

/-! ## Texts without a tag -/

theorem retags_list {items : List α} {write write' : α → String}
    (h : ∀ a ∈ items, Retags (write a) (write' a)) :
    Retags (writeList (items.map write)) (writeList (items.map write')) := by
  have hitems : Retags (", ".intercalate (items.map write))
      (", ".intercalate (items.map write')) := by
    induction items with
    | nil => exact Text.replaces_nil
    | cons first items ih =>
      rw [List.forall_mem_cons] at h
      cases items with
      | nil =>
        simp only [List.map_cons, List.map_nil, String.intercalate_singleton]
        exact h.1
      | cons second items =>
        have hrest := ih h.2
        simp only [List.map_cons, String.intercalate_cons_cons] at hrest ⊢
        exact (h.1.append (retags_of_not_mem (by decide))).append hrest
  exact ((retags_of_not_mem (by decide)).append hitems).append (retags_of_not_mem (by decide))

theorem retags_plain (x : Binary64) : Retags x.plain x.plain := by
  have hsigned {text : String} (h : 'L' ∉ text.toList) :
      Retags (x.signed text) (x.signed text) := by
    unfold Binary64.signed
    split
    · exact (retags_of_not_mem (by decide)).append (retags_of_not_mem h)
    · exact retags_of_not_mem h
  unfold Binary64.plain
  split
  · exact retags_of_not_mem (by decide)
  · split
    · exact hsigned (by decide)
    · apply hsigned
      intro hmem
      rw [String.toList_ofList] at hmem
      obtain hdigit | hpoint := Binary64.isDigit_or_point_positional _ _ hmem
      · exact absurd hdigit (by decide)
      · exact absurd hpoint (by decide)

theorem retags_coordinate (z : Bool) (c : Coordinate) :
    Retags (writeCoordinate z c) (writeCoordinate z c) := by
  have hblank : Retags " " " " := retags_of_not_mem (by decide)
  have hplane := ((retags_plain c.x).append hblank).append (retags_plain c.y)
  unfold writeCoordinate
  cases z with
  | false => exact hplane.append Text.replaces_nil
  | true => exact hplane.append (hblank.append (retags_plain _))

theorem retags_empty : Retags "EMPTY" "EMPTY" := retags_of_not_mem (by decide)

theorem retags_point (z : Bool) (p : Point) : Retags (writePoint z p) (writePoint z p) := by
  cases p with
  | none => exact retags_empty
  | some c =>
    exact ((retags_of_not_mem (by decide)).append (retags_coordinate z c)).append
      (retags_of_not_mem (by decide))

theorem retags_path (z : Bool) (path : Path) : Retags (writePath z path) (writePath z path) := by
  unfold writePath
  split
  · exact retags_empty
  · exact retags_list fun c _ => retags_coordinate z c

theorem retags_polygon (z : Bool) (rings : Polygon) :
    Retags (writePolygon z rings) (writePolygon z rings) := by
  unfold writePolygon
  split
  · exact retags_empty
  · exact retags_list fun ring _ => retags_path z ring

/-! ## Geometries -/

theorem retags_tag (g : Geometry) : Retags (tagOf g) (tagOf g.withoutRings) := by
  have hclear : ∀ tag ∈ keywords, tag ≠ "LINEARRING" →
      Text.isClear "LINEARRING".toList tag.toList = true := by
    decide +kernel
  cases g with
  | linearRing path => exact Text.replaces_part (by decide)
  | _ => exact Text.replaces_of_isClear (hclear _ (tagOf_mem_keywords _) (by simp [tagOf]))

theorem retags_framed {g : Geometry}
    (hbody : Retags (writeBody g (isSpatial g)) (writeBody g.withoutRings (isSpatial g))) :
    Retags (write g) (write g.withoutRings) := by
  have hspatial : isSpatial g.withoutRings = isSpatial g := by
    rw [isSpatial, isSpatial, Geometry.coordinates_withoutRings]
  have hdimensions : Retags (if isSpatial g then " Z" else "")
      (if isSpatial g then " Z" else "") := by
    apply retags_of_not_mem
    cases isSpatial g <;> decide
  rw [write_eq_framed, write_eq_framed, framed, framed, hspatial, Geometry.isEmpty_withoutRings]
  refine (((retags_tag g).append hdimensions).append (retags_of_not_mem (by decide))).append ?_
  split
  · exact retags_empty
  · exact hbody

mutual

theorem retags_write : (g : Geometry) → Retags (write g) (write g.withoutRings)
  | .collection members => by
    apply retags_framed
    rw [writeBody, Geometry.withoutRings, writeBody, Geometry.membersWithoutRings_eq_map,
      writeMembers_eq_map, writeMembers_eq_map, List.map_map]
    exact retags_list (retags_members members)
  | .point p => retags_framed (retags_point _ p)
  | .lineString path | .linearRing path => retags_framed (retags_path _ path)
  | .polygon rings => retags_framed (retags_polygon _ rings)
  | .multiPoint points => retags_framed (retags_list fun p _ => retags_point _ p)
  | .multiLineString paths => retags_framed (retags_list fun path _ => retags_path _ path)
  | .multiPolygon polygons => retags_framed (retags_list fun rings _ => retags_polygon _ rings)

theorem retags_members : (gs : List Geometry) →
    ∀ g ∈ gs, Retags (write g) (write g.withoutRings)
  | [] => nofun
  | g :: rest => List.forall_mem_cons.2 ⟨retags_write g, retags_members rest⟩

end

theorem write_withoutRings (g : Geometry) :
    write g.withoutRings = Text.replaceAll "LINEARRING" "LINESTRING" (write g) :=
  (retags_write g).replaceAll_eq.symm

end SpatialSql.Wkt
