import Mathlib.Tactic.ByContra
import SpatialSql.Proofs.Wkb.Decoding
import SpatialSql.Proofs.Wkb.Steadiness
/-!
# Where a geometry ends

The bytes of a geometry tell where it ends.  With more behind them they are refused for these, and
what they begin with is refused for what is missing.
-/

namespace SpatialSql.Wkb

/-- Whether a fault says that there are too few bytes, for what is read or for a count. -/
def Fault.isShortage : Fault → Bool
  | .endOfInput _ | .countTooLarge _ _ _ _ => true
  | .unknownByteOrder _ _ | .unknownTypeCode _ | .notARing _ _ | .wrongMember _ _ | .tooDeep
  | .trailing _ => false

theorem steady_count (order : ByteOrder) (size : Nat) (what : Item) :
    Steady (·.isShortage = true) (count order size what) := by
  have hword : Steady (·.isShortage = true) (word order 4 what) :=
    steady_word (fun _ => rfl) order 4 what
  constructor
  · intro bytes rest number more hread
    rw [count_eq_ok_iff] at hread ⊢
    refine ⟨hword.ok more hread.1, ?_⟩
    rw [List.length_append]
    omega
  · intro bytes fault more hread hshortage
    obtain hvalue | ⟨number, left, -, rfl⟩ := count_eq_error hread
    · obtain ⟨fault', hmore⟩ := hword.error more hvalue hshortage
      exact ⟨fault', by rw [count, hmore, error_bind]⟩
    · exact absurd rfl hshortage

theorem steady_geometry (levels : Nat) : Steady (·.isShortage = true) (geometry levels) := by
  rw [← geometryBy_count]
  exact steady_geometryBy steady_count (fun _ => rfl) levels

theorem decode_append {bytes more : List UInt8} {x : Geometry × Option Int32}
    (hdecode : decode bytes = .ok x) (hmore : more ≠ []) :
    decode (bytes ++ more) = .error (.trailing more.length) := by
  have hread : geometry (maxDepth + 1) (bytes ++ more) = .ok (x, more) :=
    (accepts_geometry (maxDepth + 1)).complete more (decode_eq_ok_iff_isGeometry.1 hdecode)
  cases more with
  | nil => exact absurd rfl hmore
  | cons b more =>
    rw [decode, hread]
    rfl

theorem decode_initial {initial more : List UInt8} {x : Geometry × Option Int32}
    (hdecode : decode (initial ++ more) = .ok x) (hmore : more ≠ []) :
    ∃ fault, decode initial = .error fault ∧ fault.isShortage = true := by
  have hwhole : geometry (maxDepth + 1) (initial ++ more) = .ok (x, []) := by
    have hread := (accepts_geometry (maxDepth + 1)).complete []
      (decode_eq_ok_iff_isGeometry.1 hdecode)
    rwa [List.append_nil] at hread
  cases hread : geometry (maxDepth + 1) initial with
  | ok y =>
    have hrest := (steady_geometry (maxDepth + 1)).ok more hread
    rw [hwhole, Except.ok.injEq, Prod.mk.injEq] at hrest
    exact absurd (List.append_eq_nil_iff.1 hrest.2.symm).2 hmore
  | error fault =>
    refine ⟨fault, by rw [decode, hread, error_bind], ?_⟩
    by_contra hshortage
    obtain ⟨fault', hfault⟩ := (steady_geometry (maxDepth + 1)).error more hread hshortage
    rw [hwhole] at hfault
    cases hfault

theorem message_trailing (size left : Nat) :
    Fault.message size (.trailing left) =
      toString left ++ " trailing bytes after geometry of " ++ toString (size - left)
        ++ " bytes" := rfl

/-- Bytes that are accepted tell where they end.  With more behind them they are refused for these,
and whatever they begin with is refused for what is missing, both times as malformed. -/
theorem decode_delimits_itself (bytes : List UInt8) (g : Geometry) (srid : Option Int32)
    (hdecode : decode bytes = .ok (g, srid)) :
    (∀ more, more ≠ [] → decode (bytes ++ more) = .error (.trailing more.length) ∧
      Fault.toFailure (bytes ++ more).length (.trailing more.length) = .malformedWireFormat
        (toString more.length ++ " trailing bytes after geometry of " ++ toString bytes.length
          ++ " bytes")) ∧
    ∀ initial, initial <+: bytes → initial ≠ bytes → ∃ fault, decode initial = .error fault ∧
      fault.isShortage = true ∧ fault.toFailure initial.length =
        .malformedWireFormat (fault.message initial.length) := by
  constructor
  · intro more hmore
    have hsize : (bytes ++ more).length - more.length = bytes.length := by
      rw [List.length_append, Nat.add_sub_cancel]
    refine ⟨decode_append hdecode hmore, ?_⟩
    rw [toFailure_eq_malformed, message_trailing, hsize]
  · rintro initial ⟨more, rfl⟩ hproper
    have hmore : more ≠ [] := by
      rintro rfl
      exact hproper (List.append_nil initial).symm
    obtain ⟨fault, hfault, hshortage⟩ := decode_initial hdecode hmore
    exact ⟨fault, hfault, hshortage, toFailure_eq_malformed initial.length fault⟩

/-- The bytes of a collection in two byte orders, twice, and without the count at their end. -/
theorem decode_delimits_itself_mixed :
    (∃ g srid, decode mixedBytes = .ok (g, srid)) ∧
      decode (mixedBytes ++ mixedBytes) = .error (.trailing 51) ∧
      ∃ fault, decode (mixedBytes.take 47) = .error fault ∧ fault.isShortage = true := by
  have hdecode : decode mixedBytes = .ok (.collection
      [.point (some ⟨⟨0x3ff0000000000000⟩, ⟨0x8000000000000000⟩, none⟩), .lineString []],
      some (-1)) := rfl
  have hends := decode_delimits_itself mixedBytes _ _ hdecode
  have hnonempty : mixedBytes ≠ [] := by decide
  have hproper : mixedBytes.take 47 ≠ mixedBytes := by decide
  obtain ⟨fault, hfault, hshortage, -⟩ :=
    hends.2 (mixedBytes.take 47) (List.take_prefix 47 mixedBytes) hproper
  have hlength : mixedBytes.length = 51 := rfl
  refine ⟨⟨_, _, hdecode⟩, ?_, fault, hfault, hshortage⟩
  rw [← hlength]
  exact (hends.1 mixedBytes hnonempty).1

end SpatialSql.Wkb
