import SpatialSql.Proofs.Text.LetterCase
import SpatialSql.Text.Hex
/-!
# Hexadecimal text read back

A text is read as some bytes exactly if it is their digits in whatever case.  Digits are ASCII, so
that the code units of a text are digits exactly if its characters are; any other character spoils
the text, however many code units it takes.
-/

namespace SpatialSql.Text.Hex

def digits : List Char := lowerDigits ++ upperDigits

def IsHex (text : String) : Prop := text.length % 2 = 0 ∧ text.toList.all digits.contains = true

instance (text : String) : Decidable (IsHex text) := inferInstanceAs (Decidable (_ ∧ _))

/-! ## Code units -/

def codes (cs : List Char) : List UInt8 := cs.flatMap String.utf8EncodeChar

theorem codes_cons (c : Char) (cs : List Char) :
    codes (c :: cs) = String.utf8EncodeChar c ++ codes cs := List.flatMap_cons

theorem data_toUTF8 (text : String) : text.toUTF8.data.toList = codes text.toList := by
  have htext : text.toUTF8 = (String.ofList text.toList).toByteArray := by
    rw [String.ofList_toList, String.toUTF8]
  rw [htext, String.toByteArray_ofList, List.utf8Encode, List.toList_data_toByteArray, codes]

theorem utf8ByteSize_eq (text : String) : text.utf8ByteSize = (codes text.toList).length := by
  rw [← data_toUTF8]
  rfl

theorem encode_of_mem_digits {c : Char} (h : c ∈ digits) :
    String.utf8EncodeChar c = [UInt8.ofNat c.toNat] ∧
      digitValue? (UInt8.ofNat c.toNat) = some (UInt8.ofNat (lowerDigits.idxOf c.toLower)) := by
  have hencode : digits.all (fun c => String.utf8EncodeChar c == [UInt8.ofNat c.toNat]) = true := by
    decide +kernel
  have hvalue : digits.all (fun c => digitValue? (UInt8.ofNat c.toNat) ==
      some (UInt8.ofNat (lowerDigits.idxOf c.toLower))) = true := by decide +kernel
  exact ⟨eq_of_beq (List.all_eq_true.1 hencode c h), eq_of_beq (List.all_eq_true.1 hvalue c h)⟩

theorem isSome_digitValue? {code : UInt8} (h : (digitValue? code).isSome = true) :
    code.toNat < 0x80 ∧ Char.ofNat code.toNat ∈ digits := by
  have hall : (List.range 0x100).all (fun n => !(digitValue? (UInt8.ofNat n)).isSome ||
      decide (n < 0x80) && digits.contains (Char.ofNat n)) = true := by decide +kernel
  have hcode := List.all_eq_true.1 hall code.toNat (List.mem_range.2 code.toNat_lt)
  simpa [h] using hcode

/-- A character that is not ASCII begins with a code unit that is not. -/
theorem head_encode {c : Char} (h : ¬ c.toNat ≤ 0x7f) :
    ∃ first rest, String.utf8EncodeChar c = first :: rest ∧ 0x80 ≤ first.toNat := by
  have hlead (n lead : Nat) (hlead : 0x80 ≤ lead) (hbyte : n + lead < 0x100) :
      0x80 ≤ (UInt8.ofNat (n + lead)).toNat := by
    rw [UInt8.toNat_ofNat', Nat.mod_eq_of_lt hbyte]
    omega
  rw [String.utf8EncodeChar]
  simp only [show ¬ c.val.toNat ≤ 127 from h, if_false]
  split
  · exact ⟨_, _, rfl, hlead _ _ (by omega) (by omega)⟩
  · split
    · exact ⟨_, _, rfl, hlead _ _ (by omega) (by omega)⟩
    · exact ⟨_, _, rfl, hlead _ _ (by omega) (by omega)⟩

theorem mem_digits_of_encode {c : Char}
    (h : ∀ code ∈ String.utf8EncodeChar c, (digitValue? code).isSome = true) : c ∈ digits := by
  by_cases hascii : c.toNat ≤ 0x7f
  · have hencode : String.utf8EncodeChar c = [UInt8.ofNat c.toNat] := if_pos hascii
    rw [hencode, List.forall_mem_singleton] at h
    have hvalue : (UInt8.ofNat c.toNat).toNat = c.toNat := by
      rw [UInt8.toNat_ofNat', Nat.mod_eq_of_lt (by omega)]
    have hdigit := (isSome_digitValue? h).2
    rwa [hvalue, Char.ofNat_toNat] at hdigit
  · obtain ⟨first, rest, hencode, hfirst⟩ := head_encode hascii
    rw [hencode, List.forall_mem_cons] at h
    have hlt := (isSome_digitValue? h.1).1
    omega

theorem length_codes {cs : List Char} (h : ∀ c ∈ cs, c ∈ digits) :
    (codes cs).length = cs.length := by
  induction cs with
  | nil => rfl
  | cons c cs ih =>
    rw [List.forall_mem_cons] at h
    rw [codes_cons, (encode_of_mem_digits h.1).1, List.singleton_append, List.length_cons, ih h.2,
      List.length_cons]

/-! ## Pairs of digits -/

theorem unpack_fault_iff (units : List UInt8) (position : Nat) :
    (unpack units position).2 = none ↔
      units.length % 2 = 0 ∧ ∀ code ∈ units, (digitValue? code).isSome = true := by
  fun_induction unpack units position with
  | case1 high low rest position _ _ hlow hhigh _ _ hrest ih =>
    rw [hrest] at ih
    simp only [ih, List.length_cons, List.forall_mem_cons, hhigh, hlow, Option.isSome_some,
      true_and, Nat.add_mod_right, Nat.add_assoc]
  | case2 high low rest position hhigh => simp [hhigh]
  | case3 high low rest position _ hlow _ => simp [hlow]
  | case4 position code => simp
  | case5 position => simp

def pair (b : UInt8) : List Char :=
  [lowerDigits.getD (b.toNat / 16) '0', lowerDigits.getD (b.toNat % 16) '0']

theorem mem_digits_iff {c : Char} :
    c ∈ digits ↔ ∃ n < 16, c.toLower = lowerDigits.getD n '0' := by
  have hvalue : digits.all (fun c => decide (lowerDigits.idxOf c.toLower < 16) &&
      c.toLower == lowerDigits.getD (lowerDigits.idxOf c.toLower) '0') = true := by decide +kernel
  have hdigit : (List.range 16).all (fun n => digits.contains (lowerDigits.getD n '0') &&
      digits.contains (lowerDigits.getD n '0').toUpper) = true := by decide +kernel
  constructor
  · intro hc
    have hbounds := List.all_eq_true.1 hvalue c hc
    rw [Bool.and_eq_true, decide_eq_true_eq, beq_iff_eq] at hbounds
    exact ⟨_, hbounds⟩
  · rintro ⟨n, hn, hc⟩
    have hcases := List.all_eq_true.1 hdigit n (List.mem_range.2 hn)
    rw [Bool.and_eq_true, List.contains_iff_mem, List.contains_iff_mem, ← hc] at hcases
    obtain hself | hself := eq_toLower_or_eq_toUpper c
    · exact hself ▸ hcases.1
    · exact hself ▸ hcases.2

theorem encode_of_toLower {c : Char} {n : Nat} (hn : n < 16)
    (hc : c.toLower = lowerDigits.getD n '0') :
    ∃ code, String.utf8EncodeChar c = [code] ∧ digitValue? code = some (UInt8.ofNat n) := by
  have hindex : (List.range 16).all (fun n => lowerDigits.idxOf (lowerDigits.getD n '0') == n) =
      true := by decide +kernel
  obtain ⟨hencode, hvalue⟩ := encode_of_mem_digits (mem_digits_iff.2 ⟨n, hn, hc⟩)
  have hn' := eq_of_beq (List.all_eq_true.1 hindex n (List.mem_range.2 hn))
  rw [hc, hn'] at hvalue
  exact ⟨_, hencode, hvalue⟩

theorem unpack_codes {cs : List Char} {bytes : List UInt8}
    (h : cs.map Char.toLower = bytes.flatMap pair) (position : Nat) :
    unpack (codes cs) position = (bytes, none) := by
  induction bytes generalizing cs position with
  | nil =>
    rw [List.flatMap_nil, List.map_eq_nil_iff] at h
    rw [h]
    rfl
  | cons b rest ih =>
    rw [List.flatMap_cons, pair, List.cons_append, List.cons_append, List.nil_append,
      List.map_eq_cons_iff] at h
    obtain ⟨high, cs, rfl, hhigh, h⟩ := h
    obtain ⟨low, cs, rfl, hlow, h⟩ := List.map_eq_cons_iff.1 h
    have hb : b.toNat < 256 := b.toNat_lt
    obtain ⟨highCode, hhighCode, hhighValue⟩ := encode_of_toLower (by omega) hhigh
    obtain ⟨lowCode, hlowCode, hlowValue⟩ := encode_of_toLower (by omega) hlow
    have hbyte : 16 * UInt8.ofNat (b.toNat / 16) + UInt8.ofNat (b.toNat % 16) = b := by
      apply UInt8.toNat_inj.1
      simp only [UInt8.toNat_add, UInt8.toNat_mul, UInt8.toNat_ofNat', UInt8.reduceToNat]
      omega
    rw [codes_cons, codes_cons, hhighCode, hlowCode, List.singleton_append, List.singleton_append,
      unpack, hhighValue, hlowValue]
    simp only [ih h, hbyte]

theorem exists_pairs : (cs : List Char) → cs.length % 2 = 0 → (∀ c ∈ cs, c ∈ digits) →
    ∃ bytes : List UInt8, cs.map Char.toLower = bytes.flatMap pair
  | [], _, _ => ⟨[], rfl⟩
  | [_], heven, _ => by cases heven
  | high :: low :: rest, heven, hdigits => by
    rw [List.forall_mem_cons, List.forall_mem_cons] at hdigits
    obtain ⟨hhigh, hlow, hrest⟩ := hdigits
    simp only [List.length_cons, Nat.add_assoc, Nat.add_mod_right] at heven
    obtain ⟨bytes, hbytes⟩ := exists_pairs rest heven hrest
    obtain ⟨h, hh, hhigh⟩ := mem_digits_iff.1 hhigh
    obtain ⟨l, hl, hlow⟩ := mem_digits_iff.1 hlow
    have hbyte : (UInt8.ofNat (16 * h + l)).toNat = 16 * h + l := by
      rw [UInt8.toNat_ofNat', Nat.mod_eq_of_lt (by omega)]
    have hhalves : (16 * h + l) / 16 = h ∧ (16 * h + l) % 16 = l := by omega
    refine ⟨UInt8.ofNat (16 * h + l) :: bytes, ?_⟩
    rw [List.flatMap_cons, pair, hbyte, hhalves.1, hhalves.2, List.map_cons, List.map_cons, hhigh,
      hlow, hbytes]
    rfl

theorem forall_digits {cs : List Char} {bytes : List UInt8}
    (h : cs.map Char.toLower = bytes.flatMap pair) :
    cs.length = 2 * bytes.length ∧ ∀ c ∈ cs, c ∈ digits := by
  constructor
  · rw [← List.length_map Char.toLower, h, List.length_flatMap]
    simp [pair, Nat.mul_comm]
  · intro c hc
    have hlower : c.toLower ∈ bytes.flatMap pair := h ▸ List.mem_map_of_mem hc
    obtain ⟨b, -, hb⟩ := List.mem_flatMap.1 hlower
    have hlt : b.toNat < 256 := b.toNat_lt
    rw [pair, List.mem_pair] at hb
    obtain hb | hb := hb
    · exact mem_digits_iff.2 ⟨b.toNat / 16, by omega, hb⟩
    · exact mem_digits_iff.2 ⟨b.toNat % 16, by omega, hb⟩

/-! ## Texts -/

theorem lower_eq_encode_iff {text : String} {bytes : List UInt8} :
    lower text = encode bytes ↔ text.toList.map Char.toLower = bytes.flatMap pair :=
  String.ofList_inj

theorem isHex_iff {text : String} : IsHex text ↔ ∃ bytes, lower text = encode bytes := by
  simp only [IsHex, ← String.length_toList, List.all_eq_true, List.contains_iff_mem,
    lower_eq_encode_iff]
  constructor
  · rintro ⟨heven, hdigits⟩
    exact exists_pairs text.toList heven hdigits
  · rintro ⟨bytes, h⟩
    obtain ⟨hlength, hdigits⟩ := forall_digits h
    exact ⟨by omega, hdigits⟩

theorem unpackText_of_lower {text : String} {bytes : List UInt8} (h : lower text = encode bytes) :
    unpackText text = (bytes, none) ∧ text.utf8ByteSize = 2 * bytes.length := by
  rw [lower_eq_encode_iff] at h
  obtain ⟨hlength, hdigits⟩ := forall_digits h
  have hcodes : (codes text.toList).length = 2 * bytes.length := by
    rw [length_codes hdigits, hlength]
  refine ⟨?_, by rw [utf8ByteSize_eq, hcodes]⟩
  rw [unpackText, data_toUTF8, if_neg (by omega), unpack_codes h]

theorem exists_fault_of_not_isHex {text : String} (h : ¬ IsHex text) :
    ∃ fault, (unpackText text).2 = some fault := by
  rw [← Option.isSome_iff_exists, Option.isSome_iff_ne_none]
  intro hnone
  apply h
  rw [unpackText, data_toUTF8] at hnone
  by_cases hodd : (codes text.toList).length % 2 = 1
  · simp [hodd] at hnone
  · simp only [hodd, if_false, unpack_fault_iff] at hnone
    have hdigits (c : Char) (hc : c ∈ text.toList) : c ∈ digits := mem_digits_of_encode
      fun code hcode => hnone.2 code (List.mem_flatMap.2 ⟨c, hc, hcode⟩)
    refine ⟨?_, List.all_eq_true.2 fun c hc => List.contains_iff_mem.2 (hdigits c hc)⟩
    rw [← String.length_toList, ← length_codes hdigits]
    exact hnone.1

end SpatialSql.Text.Hex
