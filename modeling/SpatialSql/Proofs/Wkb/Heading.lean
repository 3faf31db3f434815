import SpatialSql.Proofs.Wkb.Grammar
import SpatialSql.Proofs.Wkb.Word
/-!
# Type codes and their parts

A code below `2 ^ 32` is a type code exactly when it is put together from a kind, thousands and
flags; the bit without a meaning may be set in any of them.
-/

namespace SpatialSql.Geometry.Kind

theorem code_le (kind : Kind) : kind.code ≤ 7 := by
  cases kind <;> decide

theorem ofCode?_code {kind : Kind} (hkind : kind ≠ .generic) : ofCode? kind.code = some kind := by
  cases kind with
  | generic => exact absurd rfl hkind
  | _ => rfl

theorem eq_code_of_ofCode? {n : Nat} {kind : Kind} (h : ofCode? n = some kind) :
    n = kind.code ∧ kind ≠ .generic := by
  unfold ofCode? at h
  split at h <;> cases h <;> exact ⟨rfl, by decide⟩

end SpatialSql.Geometry.Kind

namespace SpatialSql.Wkb

namespace Heading

def base (h : Heading) : Nat := h.kind.code + 1000 * h.thousands

theorem base_lt (h : Heading) : h.base < 4000 := by
  have hcode := h.kind.code_le
  have hthousands := h.thousands_le
  unfold base
  omega

theorem code_eq (h : Heading) :
    h.code = h.base + 2 ^ 28 * h.reserved.toNat + 2 ^ 29 * h.srid.isSome.toNat
      + 2 ^ 30 * h.mFlagged.toNat + 2 ^ 31 * h.zFlagged.toNat := rfl

section Parts

variable (h : Heading)

theorem code_mod : h.code % 0x10000000 = h.base := by
  have hbase := h.base_lt
  rw [code_eq]
  omega

theorem code_div_zFlag : h.code / zFlag = h.zFlagged.toNat := by
  have hbase := h.base_lt
  have hm := h.mFlagged.toNat_lt
  have hs := h.srid.isSome.toNat_lt
  have hr := h.reserved.toNat_lt
  rw [code_eq]
  unfold zFlag
  omega

theorem code_div_mFlag : h.code / mFlag = h.mFlagged.toNat + 2 * h.zFlagged.toNat := by
  have hbase := h.base_lt
  have hs := h.srid.isSome.toNat_lt
  have hr := h.reserved.toNat_lt
  rw [code_eq]
  unfold mFlag
  omega

theorem code_div_sridFlag : h.code / sridFlag =
    h.srid.isSome.toNat + 2 * (h.mFlagged.toNat + 2 * h.zFlagged.toNat) := by
  have hbase := h.base_lt
  have hr := h.reserved.toNat_lt
  rw [code_eq]
  unfold sridFlag
  omega

theorem code_div_reservedFlag : h.code / reservedFlag = h.reserved.toNat
    + 2 * (h.srid.isSome.toNat + 2 * (h.mFlagged.toNat + 2 * h.zFlagged.toNat)) := by
  have hbase := h.base_lt
  rw [code_eq]
  unfold reservedFlag
  omega

theorem code_lt : h.code < 256 ^ 4 := by
  have hbase := h.base_lt
  have hz := h.zFlagged.toNat_lt
  have hm := h.mFlagged.toNat_lt
  have hs := h.srid.isSome.toNat_lt
  have hr := h.reserved.toNat_lt
  rw [code_eq]
  omega

end Parts

private theorem toNat_beq_one (b : Bool) (n : Nat) : ((b.toNat + 2 * n) % 2 == 1) = b := by
  cases b <;> simp

theorem reserved_eq (h : Heading) : h.reserved = (h.code / reservedFlag % 2 == 1) := by
  rw [code_div_reservedFlag, toNat_beq_one]

theorem ofNat?_code (h : Heading) :
    TypeCode.ofNat? h.code =
      some ⟨h.kind, h.toHeader.z, h.toHeader.m, h.srid.isSome⟩ := by
  have hcode := h.kind.code_le
  have hthousands := h.thousands_le
  have hdims : h.base / 1000 = h.thousands := by
    unfold base
    omega
  have hkind : h.base % 1000 = h.kind.code := by
    unfold base
    omega
  have hz : (h.zFlagged.toNat % 2 == 1) = h.zFlagged := toNat_beq_one h.zFlagged 0
  unfold TypeCode.ofNat?
  simp only [code_mod, hdims, hkind, code_div_zFlag, code_div_mFlag, code_div_sridFlag,
    if_neg (Nat.not_lt.2 hthousands), Geometry.Kind.ofCode?_code h.concrete, Option.map_some,
    toNat_beq_one, hz, toHeader]

theorem exists_of_ofNat? (order : ByteOrder) {code : Nat} (hcode : code < 256 ^ 4)
    {type : TypeCode} (h : TypeCode.ofNat? code = some type) {srid : Option Int32}
    (hsrid : srid.isSome = type.hasSrid) :
    ∃ heading : Heading, heading.code = code ∧
      heading.toHeader = ⟨order, type.kind, type.z, type.m, srid⟩ := by
  unfold TypeCode.ofNat? at h
  simp only at h
  split at h
  · cases h
  · rename_i hdims
    obtain ⟨kind, hkind, rfl⟩ := Option.map_eq_some_iff.1 h
    obtain ⟨hkind, hconcrete⟩ := Geometry.Kind.eq_code_of_ofCode? hkind
    simp only at hsrid
    refine ⟨⟨order, kind, code % 0x10000000 / 1000, code / zFlag % 2 == 1, code / mFlag % 2 == 1,
      srid, code / reservedFlag % 2 == 1, hconcrete, by omega⟩, ?_, rfl⟩
    have hbit (n : Nat) : (n % 2 == 1).toNat = n % 2 := by
      rcases Nat.mod_two_eq_zero_or_one n with hn | hn <;> rw [hn] <;> rfl
    -- The four flags are the binary digits of what is above the base.
    have hr : code / reservedFlag = code / 0x10000000 := rfl
    have hs : code / sridFlag = code / 0x10000000 / 2 :=
      (Nat.div_div_eq_div_mul code 0x10000000 2).symm
    have hm : code / mFlag = code / 0x10000000 / 2 / 2 := by
      simp only [Nat.div_div_eq_div_mul]
      rfl
    have hz : code / zFlag = code / 0x10000000 / 2 / 2 / 2 := by
      simp only [Nat.div_div_eq_div_mul]
      rfl
    have hdigits : code / 0x10000000 < 16 := by omega
    rw [code_eq]
    simp only [base, hsrid, hbit, hz, hm, hs, hr, ← hkind]
    omega

end Heading

end SpatialSql.Wkb
