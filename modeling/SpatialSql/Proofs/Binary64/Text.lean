import SpatialSql.Binary64.Text
import SpatialSql.Proofs.Binary64.Shortest
/-!
# Written numbers read back

The positional text of a finite double is read as that double, with the sign of a zero.
-/

namespace SpatialSql.Binary64

/-! ## Parts -/

theorem ofParts_parts (x : Binary64) : ofParts x.isNegative x.magnitude = x := by
  have hlt : x.bits.toNat < 2 ^ 64 := x.bits.toNat_lt
  have hsum : (if x.isNegative then 0x8000000000000000 else 0) + x.magnitude = x.bits.toNat := by
    unfold isNegative Binary64.magnitude
    by_cases hsign : 0x8000000000000000 ≤ x.bits.toNat
    · simp only [hsign, decide_true, if_true]
      omega
    · simp only [hsign, decide_false, Bool.false_eq_true, if_false]
      omega
  rw [ofParts, hsum, UInt64.ofNat_toNat]

/-! ## Numerals -/

theorem takeWhile_isDigit_append {digits : List Char} (h : ∀ c ∈ digits, c.isDigit = true)
    (rest : List Char) (hrest : ∀ c ∈ rest.head?, c.isDigit = false) :
    (digits ++ rest).takeWhile Char.isDigit = digits ∧
      (digits ++ rest).dropWhile Char.isDigit = rest := by
  rw [List.takeWhile_append_of_pos h, List.dropWhile_append_of_pos h]
  cases rest with
  | nil => simp
  | cons c rest => simp [hrest c rfl]

theorem readNumeral_whole {digits : List Char} (hne : digits ≠ [])
    (h : ∀ c ∈ digits, c.isDigit = true) :
    readNumeral digits = .ok (Decimal.magnitude ⟨Nat.ofDigitChars 10 digits 0, 0⟩) := by
  have hsplit := takeWhile_isDigit_append h [] (by simp)
  rw [List.append_nil] at hsplit
  simp only [readNumeral, hsplit, List.append_nil, hne, if_false, readExponent]
  rfl

theorem readNumeral_fraction {whole digits : List Char} (hne : whole ≠ [])
    (hwhole : ∀ c ∈ whole, c.isDigit = true) (hdigits : ∀ c ∈ digits, c.isDigit = true) :
    readNumeral (whole ++ '.' :: digits) =
      .ok (Decimal.magnitude ⟨Nat.ofDigitChars 10 (whole ++ digits) 0, -digits.length⟩) := by
  have hfirst := takeWhile_isDigit_append hwhole ('.' :: digits) (by simp)
  have hsecond := takeWhile_isDigit_append hdigits [] (by simp)
  rw [List.append_nil] at hsecond
  have hboth : whole ++ digits ≠ [] := List.append_ne_nil_of_left_ne_nil hne digits
  simp only [readNumeral, hfirst, hsecond, hboth, if_false, readExponent]
  rfl

theorem isDigit_digits (d : Decimal) : ∀ c ∈ d.digits, c.isDigit = true := fun _ hc =>
  Nat.isDigit_of_mem_toDigits (by decide) (by decide) hc

theorem isDigit_zeros (count : Nat) : ∀ c ∈ List.replicate count '0', c.isDigit = true := by
  intro c hc
  rw [(List.mem_replicate.1 hc).2]
  rfl

theorem isDigit_append {front back : List Char} (hfront : ∀ c ∈ front, c.isDigit = true)
    (hback : ∀ c ∈ back, c.isDigit = true) : ∀ c ∈ front ++ back, c.isDigit = true := by
  intro c hc
  exact (List.mem_append.1 hc).elim (hfront c) (hback c)

theorem readNumeral_positional (d : Decimal) : readNumeral d.positional = .ok d.magnitude := by
  have hne : d.digits ≠ [] := Nat.toDigits_ne_nil
  have hvalue := d.ofDigitChars_digits
  unfold Decimal.positional
  simp only
  split
  · rename_i hplaces
    have hdigits := isDigit_append (isDigit_digits d) (isDigit_zeros d.exponent.toNat)
    rw [readNumeral_whole (List.append_ne_nil_of_left_ne_nil hne _) hdigits,
      Nat.ofDigitChars_append, hvalue, Decimal.ofDigitChars_zeros]
    refine congrArg Except.ok (Decimal.magnitude_congr ?_)
    simp [hplaces]
  · split
    · rename_i hplaces hlength
      have hzeros := isDigit_zeros ((-d.exponent).toNat - d.digits.length)
      have hzero : ∀ c ∈ ['0'], c.isDigit = true := by simp
      have hread := readNumeral_fraction (List.cons_ne_nil '0' []) hzero
        (isDigit_append hzeros (isDigit_digits d))
      have hexponent : -((List.replicate ((-d.exponent).toNat - d.digits.length) '0' ++
          d.digits).length : Int) = d.exponent := by
        simp only [List.length_append, List.length_replicate]
        omega
      have hcoefficient : Nat.ofDigitChars 10 (['0'] ++ (List.replicate
          ((-d.exponent).toNat - d.digits.length) '0' ++ d.digits)) 0 = d.coefficient := by
        rw [List.singleton_append, Nat.ofDigitChars_cons, Nat.ofDigitChars_append,
          Decimal.ofDigitChars_zeros]
        simpa using hvalue
      rw [hexponent, hcoefficient] at hread
      exact hread
    · rename_i hplaces hlength
      have hwhole : d.digits.take (d.digits.length - (-d.exponent).toNat) ≠ [] := by
        rw [← List.length_pos_iff, List.length_take]
        omega
      have hread := readNumeral_fraction hwhole
        (fun c hc => isDigit_digits d c (List.mem_of_mem_take hc))
        (fun c (hc : c ∈ d.digits.drop (d.digits.length - (-d.exponent).toNat)) =>
          isDigit_digits d c (List.mem_of_mem_drop hc))
      have hexponent : -((d.digits.drop (d.digits.length - (-d.exponent).toNat)).length : Int) =
          d.exponent := by
        rw [List.length_drop]
        omega
      rw [List.take_append_drop, hvalue, hexponent] at hread
      exact hread

/-! ## Texts of doubles -/

theorem isDigit_or_point_positional (d : Decimal) :
    ∀ c ∈ d.positional, c.isDigit = true ∨ c = '.' := by
  have hdigits := isDigit_digits d
  intro c hc
  unfold Decimal.positional at hc
  simp only at hc
  split at hc
  · exact .inl (isDigit_append hdigits (isDigit_zeros _) c hc)
  · split at hc
    · simp only [List.mem_cons] at hc
      rcases hc with rfl | rfl | hc
      · exact .inl rfl
      · exact .inr rfl
      · exact .inl (isDigit_append (isDigit_zeros _) hdigits c hc)
    · rw [List.mem_append, List.mem_cons] at hc
      rcases hc with hc | rfl | hc
      · exact .inl (hdigits c (List.mem_of_mem_take hc))
      · exact .inr rfl
      · exact .inl (hdigits c (List.mem_of_mem_drop hc))

theorem head_positional (d : Decimal) :
    ∃ c rest, d.positional = c :: rest ∧ c.isDigit = true := by
  have hne : d.digits ≠ [] := Nat.toDigits_ne_nil
  obtain ⟨c, rest, hcons⟩ := List.exists_cons_of_ne_nil hne
  have hc : c.isDigit = true := isDigit_digits d c (by rw [hcons]; exact List.mem_cons_self)
  unfold Decimal.positional
  simp only
  split
  · exact ⟨c, _, by rw [hcons, List.cons_append], hc⟩
  · split
    · exact ⟨'0', _, rfl, rfl⟩
    · rename_i hplaces hlength
      obtain ⟨more, hmore⟩ : ∃ more, d.digits.length - (-d.exponent).toNat = more + 1 :=
        ⟨d.digits.length - (-d.exponent).toNat - 1, by omega⟩
      rw [hmore, hcons, List.take_succ_cons, List.cons_append]
      exact ⟨c, _, rfl, hc⟩

theorem toLower_of_isDigit {c : Char} (h : c.isDigit = true) : c.toLower = c := by
  have hnine : '9'.val.toNat = 57 := rfl
  have hletter : 'A'.val.toNat = 65 := rfl
  simp only [Char.isDigit, Bool.and_eq_true, decide_eq_true_eq, ge_iff_le,
    UInt32.le_iff_toNat_le] at h
  unfold Char.toLower
  rw [dif_neg]
  rintro ⟨hupper, -⟩
  rw [ge_iff_le, UInt32.le_iff_toNat_le] at hupper
  omega

theorem splitSign_of_isDigit {c : Char} {rest : List Char} (h : c.isDigit = true) :
    splitSign (c :: rest) = (false, c :: rest) := by
  unfold splitSign
  split
  · rename_i heq
    cases heq
    cases h
  · rename_i heq
    cases heq
    cases h
  · rfl

theorem readMagnitude_positional (d : Decimal) :
    readMagnitude d.positional = .ok d.magnitude := by
  obtain ⟨c, rest, hcons, hc⟩ := head_positional d
  have hlowered (first : Char) (more : List Char) (hfirst : first.isDigit = false) :
      d.positional.map Char.toLower ≠ first :: more := by
    rw [hcons, List.map_cons, toLower_of_isDigit hc]
    rintro ⟨⟩
    rw [hc] at hfirst
    cases hfirst
  have hinf := hlowered 'i' ['n', 'f'] rfl
  have hinfinity := hlowered 'i' ['n', 'f', 'i', 'n', 'i', 't', 'y'] rfl
  have hnan := hlowered 'n' ['a', 'n'] rfl
  unfold readMagnitude
  simp only
  refine (if_neg (not_or.2 ⟨hinf, hinfinity⟩)).trans ?_
  exact (if_neg hnan).trans (readNumeral_positional d)

theorem plain_of_isFinite {x : Binary64} (h : x.isFinite = true) : x.plain.toList =
    if x.isNegative then '-' :: (Decimal.shortest x.magnitude).positional
    else (Decimal.shortest x.magnitude).positional := by
  have hmagnitude : x.magnitude < infiniteMagnitude := by simpa [isFinite] using h
  have hnan : ¬x.isNaN = true := by
    simp only [isNaN, decide_eq_true_eq]
    omega
  have hinfinite : ¬x.isInfinite = true := by
    simp only [isInfinite, beq_iff_eq]
    omega
  rw [plain, if_neg hnan, if_neg hinfinite, signed]
  split
  · simp
  · exact String.toList_ofList

theorem read_plain {x : Binary64} (h : x.isFinite = true) : read x.plain.toList = .ok x := by
  have hmagnitude : x.magnitude < infiniteMagnitude := by simpa [isFinite] using h
  obtain ⟨c, rest, hcons, hc⟩ := head_positional (Decimal.shortest x.magnitude)
  have hread := readMagnitude_positional (Decimal.shortest x.magnitude)
  rw [Decimal.magnitude_shortest hmagnitude] at hread
  have hparts := ofParts_parts x
  rw [plain_of_isFinite h]
  cases hsign : x.isNegative with
  | false =>
    rw [hsign] at hparts
    rw [if_neg Bool.false_ne_true, read, if_neg (by rw [hcons]; exact List.cons_ne_nil _ _)]
    rw [hcons] at hread ⊢
    simp only [splitSign_of_isDigit hc, hread, Except.map, hparts]
  | true =>
    rw [hsign] at hparts
    rw [if_pos rfl, read, if_neg (List.cons_ne_nil _ _)]
    simp only [splitSign, hread, Except.map, hparts]

end SpatialSql.Binary64
