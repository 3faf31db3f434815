import Mathlib.Algebra.BigOperators.Ring.List
import Mathlib.Algebra.Ring.Nat
import SpatialSql.Proofs.Wkb.Foresight
import SpatialSql.Proofs.Wkb.Reencoding
import SpatialSql.Proofs.Wkb.Reservation
/-!
# The check of counts

The check of a count against the bytes that are left is no part of the format: what is accepted,
and as what, does not depend on it.  It bounds the space that is reserved, and what is accepted
is bounded by its bytes anyway.
-/

namespace SpatialSql.Wkb

/-! ## Coordinates and bytes -/

theorem Each.sum_le {item : Spelling α} {w : α → Nat}
    (hw : ∀ used a, item used a → w a ≤ used.length) {used : List UInt8} {as : List α}
    (h : Each item used as) : (as.map w).sum ≤ used.length := by
  induction h with
  | nil => exact Nat.le_refl 0
  | cons hfirst _ ih =>
    have hle := hw _ _ hfirst
    rw [List.map_cons, List.sum_cons, List.length_append]
    omega

theorem sixteen_mul_length_flatMap (parts : α → List Coordinate) (as : List α) :
    16 * (as.flatMap parts).length = (as.map fun a => 16 * (parts a).length).sum := by
  rw [List.length_flatMap, List.sum_map_mul_left]

theorem IsPath.sixteen_mul_le {h : Header} {used : List UInt8} {path : Path}
    (hpath : IsPath h used path) : 16 * path.length ≤ used.length := by
  obtain @⟨used, _, -, heach⟩ := hpath
  have hle : path.length * 16 ≤ used.length := heach.length_le fun used c hc => by
    rw [hc.length_eq, coordinateSize]
    omega
  rw [List.length_append]
  omega

theorem IsPolygon.sixteen_mul_le {h : Header} {used : List UInt8} {rings : Polygon}
    (hrings : IsPolygon h used rings) : 16 * rings.flatten.length ≤ used.length := by
  obtain @⟨used, _, -, heach⟩ := hrings
  have hle := heach.sum_le (w := fun ring => 16 * ring.length) fun _ _ hring =>
    hring.1.sixteen_mul_le
  rw [← List.flatMap_id, sixteen_mul_length_flatMap, List.length_append]
  exact Nat.le_trans hle (Nat.le_add_left _ _)

theorem IsGeometry.sixteen_mul_le {lenient : Bool} {levels : Nat} {used : List UInt8}
    {g : Geometry} {srid : Option Int32} (hg : IsGeometry lenient levels used g srid) :
    16 * g.coordinates.length ≤ used.length := by
  induction levels generalizing used g srid with
  | zero => cases hg
  | succ levels ih =>
    have hmembers {used : List UInt8} {gs : List Geometry} (h : IsMembers lenient levels used gs) :
        16 * (gs.flatMap Geometry.coordinates).length ≤ used.length := by
      rw [sixteen_mul_length_flatMap]
      exact (isMembers_iff_each.1 h).sum_le fun used g hg => ih hg.choose_spec
    obtain ⟨heading, -, hbody⟩ := hg
    rw [List.length_append]
    cases hbody with
    | @point _ _ _ p _ hp =>
      have hle := hp.sixteen_le
      have hlength : p.toList.length ≤ 1 := by cases p <;> simp
      rw [Geometry.coordinates]
      omega
    | lineString _ hpath =>
      have hle := hpath.sixteen_mul_le
      rw [Geometry.coordinates]
      omega
    | polygon _ hrings =>
      have hle := hrings.sixteen_mul_le
      rw [Geometry.coordinates]
      omega
    | multiPoint _ _ h | multiLineString _ _ h | multiPolygon _ _ h =>
      have hle := hmembers h
      rw [List.flatMap_map] at hle
      rw [List.length_append]
      refine Nat.le_trans ?_ (Nat.le_add_left _ _)
      refine Nat.le_trans ?_ (Nat.le_add_left _ _)
      simpa [Geometry.coordinates] using hle
    | collection _ _ h =>
      have hle := hmembers h
      rw [Geometry.coordinates, Geometry.memberCoordinates_eq_flatMap, List.length_append]
      omega

/-- The check of counts is safe and never wrong.  Decoding accepts the same without it and gives the
same.  Whatever the check refuses is too short for any geometry that begins like it, and is refused
without the check, where bytes run out or for an earlier fault; every other refusal is the same.
The sizes that are reckoned with are never more than what is taken.  No space is reserved that the
bytes at hand do not cover, and what is accepted has no more coordinates than they can hold. -/
theorem count_check_decides_nothing (bytes : List UInt8) :
    decodeBy count bytes = decode bytes ∧
    (∀ x, decodeUnchecked bytes = .ok x ↔ decode bytes = .ok x) ∧
    (∀ fault, decode bytes = .error fault → decodeUnchecked bytes = .error fault ∨
      fault.IsCount ∧
        ((∃ item, decodeUnchecked bytes = .error (.endOfInput item)) ∨
          ∀ more, ∃ fault', decodeUnchecked (bytes ++ more) = .error fault') ∧
        ∀ more x rest, geometryBy declared (maxDepth + 1) (bytes ++ more) = .ok (x, rest) →
          rest.length < more.length) ∧
    ((∀ h c rest, coordinate h bytes = .ok (c, rest) →
        coordinateSize h + rest.length ≤ bytes.length) ∧
      (∀ h index path rest, ring h index bytes = .ok (path, rest) →
        4 + rest.length ≤ bytes.length) ∧
      ∀ levels x rest, geometry levels bytes = .ok (x, rest) →
        leastMemberSize + rest.length ≤ bytes.length) ∧
    (∀ r ∈ decodedReservations bytes, r.number * r.size ≤ r.left ∧ r.left ≤ bytes.length) ∧
    ∀ g srid, decode bytes = .ok (g, srid) →
      16 * g.coordinates.length ≤ bytes.length ∧ g.nesting ≤ maxDepth := by
  have hcases := decodeUnchecked_cases bytes
  refine ⟨by rw [decodeBy_count], fun x => ?_, fun fault hdecode => ?_, ⟨?_, ?_, ?_⟩, ?_, ?_⟩
  · obtain hsame | ⟨fault, hdecode, -, hrefused, -⟩ := hcases
    · rw [hsame]
    · rw [hdecode]
      refine ⟨fun hunchecked => ?_, nofun⟩
      obtain ⟨item, hend⟩ | hmore := hrefused
      · rw [hend] at hunchecked
        cases hunchecked
      · obtain ⟨fault', hfault⟩ := hmore []
        rw [List.append_nil, hunchecked] at hfault
        cases hfault
  · obtain hsame | ⟨fault', hdecode', hcount, hrefused, hlonger⟩ := hcases
    · exact .inl (hsame.trans hdecode)
    · rw [hdecode, Except.error.injEq] at hdecode'
      subst hdecode'
      exact .inr ⟨hcount, hrefused, hlonger⟩
  · intro h c rest
    exact (accepts_coordinate h).size_le fun _ _ hc => Nat.le_of_eq hc.length_eq.symm
  · intro h index path rest
    exact (accepts_ring h index).size_le fun _ _ hring => hring.1.four_le
  · intro levels x rest
    exact (accepts_geometry levels).size_le fun _ _ hg => hg.leastMemberSize_le
  · exact isCovered_reservations (maxDepth + 1) bytes
  · intro g srid hdecode
    have hg := decode_eq_ok_iff_isGeometry.1 hdecode
    exact ⟨hg.sixteen_mul_le, Nat.le_of_lt_succ hg.fits.nesting_lt⟩

def shortBytes : List UInt8 :=
  [0, 0x40, 0, 0, 3, 0, 0, 0, 2, 0, 0, 0, 0, 0, 0, 0, 4, 1, 2, 3, 4, 5, 6, 7]

theorem count_check_decides_nothing_both :
    ((∃ g srid, decode mixedBytes = .ok (g, srid) ∧ 16 * g.coordinates.length ≤ 51) ∧
      (⟨2, 9, 38⟩ : Reservation) ∈ decodedReservations mixedBytes ∧ 2 * 9 ≤ 38 ∧ 38 ≤ 51) ∧
    (decode shortBytes = .error (.countTooLarge .coordinate 4 96 7) ∧
      decodeUnchecked shortBytes ≠ decode shortBytes ∧
      ∀ more x rest, geometryBy declared (maxDepth + 1) (shortBytes ++ more) = .ok (x, rest) →
        rest.length < more.length) := by
  have haccepted : decode mixedBytes = .ok (.collection
      [.point (some ⟨⟨0x3ff0000000000000⟩, ⟨0x8000000000000000⟩, none⟩), .lineString []],
      some (-1)) := rfl
  have hreserved : (⟨2, 9, 38⟩ : Reservation) ∈ decodedReservations mixedBytes := by
    decide +kernel
  have hrefused : decode shortBytes = .error (.countTooLarge .coordinate 4 96 7) := rfl
  have hunchecked : decodeUnchecked shortBytes = .error (.endOfInput .ordinate) := rfl
  have hmixed := count_check_decides_nothing mixedBytes
  have hshort := (count_check_decides_nothing shortBytes).2.2.1 _ hrefused
  rw [hunchecked] at hshort
  refine ⟨⟨⟨_, _, haccepted, (hmixed.2.2.2.2.2 _ _ haccepted).1⟩, hreserved, ?_⟩, hrefused, ?_, ?_⟩
  · exact hmixed.2.2.2.2.1 _ hreserved
  · rw [hunchecked, hrefused]
    decide
  · obtain hsame | hcount := hshort
    · cases hsame
    · exact hcount.2.2

end SpatialSql.Wkb
