import SpatialSql.Proofs.Outcome
import SpatialSql.Proofs.Wkb.Heading
/-!
# What the readers accept

Each reader takes from the front of the bytes exactly what its grammar derives, and gives what the
bytes spell.  The check of a count against the bytes that are left never decides: it only refuses
counts whose items could not be there.
-/

namespace SpatialSql.Wkb

/-- A reader and the grammar of what it reads. -/
structure Accepts (reader : Reader α) (spelling : Spelling α) : Prop where
  sound : ∀ {bytes rest : List UInt8} {a : α}, reader bytes = .ok (a, rest) →
    ∃ used, spelling used a ∧ bytes = used ++ rest
  complete : ∀ {used : List UInt8} {a : α} (rest : List UInt8), spelling used a →
    reader (used ++ rest) = .ok (a, rest)

theorem Accepts.congr {reader : Reader α} {spelling other : Spelling α}
    (h : Accepts reader spelling) (heq : ∀ used a, spelling used a ↔ other used a) :
    Accepts reader other where
  sound := by
    intro bytes rest a hread
    obtain ⟨used, hused, hbytes⟩ := h.sound hread
    exact ⟨used, (heq used a).1 hused, hbytes⟩
  complete := fun rest hused => h.complete rest ((heq _ _).2 hused)

theorem accepts_build {reader : Reader α} {spelling : Spelling α} (h : Accepts reader spelling)
    (f : α → Geometry) :
    Accepts (build f reader) fun used g => ∃ a, spelling used a ∧ g = f a where
  sound := by
    intro bytes rest g hread
    simp only [build, bind_eq_ok] at hread
    obtain ⟨⟨a, rest⟩, ha, hread⟩ := hread
    cases hread
    obtain ⟨used, hused, rfl⟩ := h.sound ha
    exact ⟨used, ⟨a, hused, rfl⟩, rfl⟩
  complete := by
    rintro used _ rest ⟨a, hused, rfl⟩
    rw [build, h.complete rest hused]
    rfl

/-! ## Words and headers -/

theorem accepts_word (order : ByteOrder) (width : Nat) (item : Item) :
    Accepts (word order width item) fun used value =>
      value < 256 ^ width ∧ used = order.encode value width where
  sound := by
    intro bytes rest value hread
    unfold word at hread
    simp only at hread
    split at hread
    · cases hread
    · rename_i hlength
      cases hread
      have htake : (bytes.take width).length = width := by
        rw [List.length_take] at hlength ⊢
        omega
      have hlt := order.decode_lt (bytes.take width)
      have hencode := order.encode_decode (bytes.take width)
      rw [htake] at hlt hencode
      exact ⟨bytes.take width, ⟨hlt, hencode.symm⟩, (List.take_append_drop width bytes).symm⟩
  complete := by
    rintro _ value rest ⟨hvalue, rfl⟩
    have hlength := order.length_encode value width
    unfold word
    rw [List.take_left' hlength, List.drop_left' hlength, if_neg (by omega),
      order.decode_encode hvalue]

theorem accepts_byteOrder : Accepts byteOrder fun used order => used = [order.marker] where
  sound := by
    intro bytes rest order hread
    unfold byteOrder at hread
    split at hread
    · cases hread
    · rename_i marker rest'
      split at hread
      · rename_i order' horder
        cases hread
        rw [ByteOrder.ofMarker?_eq_some_iff] at horder
        exact ⟨[order.marker], rfl, by rw [horder]; rfl⟩
      · cases hread
  complete := by
    rintro _ order rest rfl
    have horder : ByteOrder.ofMarker? order.marker = some order :=
      ByteOrder.ofMarker?_eq_some_iff.2 rfl
    simp [byteOrder, horder]

theorem toInt32_toUInt32_ofNat {n : Nat} (hn : n < 256 ^ 4) :
    (UInt32.ofNat n).toInt32.toUInt32.toNat = n := by
  rw [UInt32.toUInt32_toInt32, UInt32.toNat_ofNat']
  exact Nat.mod_eq_of_lt hn

theorem accepts_srid (order : ByteOrder) (hasSrid : Bool) :
    Accepts (srid order hasSrid) fun used srid =>
      srid.isSome = hasSrid ∧ used = sridBytes order srid where
  sound := by
    intro bytes rest srid hread
    cases hasSrid with
    | false =>
      cases hread
      exact ⟨[], ⟨rfl, rfl⟩, rfl⟩
    | true =>
      simp only [Wkb.srid, if_true, bind_eq_ok] at hread
      obtain ⟨⟨value, rest⟩, hword, hread⟩ := hread
      cases hread
      obtain ⟨used, ⟨hvalue, rfl⟩, rfl⟩ := (accepts_word order 4 .srid).sound hword
      exact ⟨_, ⟨rfl, by rw [sridBytes, toInt32_toUInt32_ofNat hvalue]⟩, rfl⟩
  complete := by
    rintro _ srid rest ⟨rfl, rfl⟩
    cases srid with
    | none => rfl
    | some srid =>
      have hlt : srid.toUInt32.toNat < 256 ^ 4 := srid.toUInt32.toNat_lt
      have hword := (accepts_word order 4 .srid).complete rest ⟨hlt, rfl⟩
      have hback : (UInt32.ofNat srid.toUInt32.toNat).toInt32 = srid := by
        rw [UInt32.ofNat_toNat, Int32.toInt32_toUInt32]
      simp only [Wkb.srid, sridBytes, Option.isSome_some, if_true, hword, ok_bind, hback]
      rfl

theorem accepts_header :
    Accepts header fun used h => ∃ heading : Heading, heading.bytes = used ∧
      heading.toHeader = h where
  sound := by
    intro bytes rest h hread
    simp only [header, bind_eq_ok] at hread
    obtain ⟨⟨order, rest₁⟩, horder, ⟨code, rest₂⟩, hcode, hread⟩ := hread
    obtain ⟨_, rfl, rfl⟩ := accepts_byteOrder.sound horder
    obtain ⟨_, ⟨hlt, rfl⟩, rfl⟩ := (accepts_word order 4 .typeCode).sound hcode
    simp only at hread
    split at hread
    · cases hread
    · rename_i type htype
      rw [bind_eq_ok] at hread
      obtain ⟨⟨srid, rest₃⟩, hsrid, hread⟩ := hread
      obtain ⟨used, ⟨hsome, hused⟩, rfl⟩ := (accepts_srid order type.hasSrid).sound hsrid
      cases hread
      obtain ⟨heading, hcode, hheader⟩ := Heading.exists_of_ofNat? order hlt htype hsome
      refine ⟨heading.bytes, ⟨heading, rfl, hheader⟩, ?_⟩
      have horder : heading.order = order := congrArg Header.order hheader
      have hsrid : heading.srid = srid := congrArg Header.srid hheader
      simp [Heading.bytes, hcode, horder, hsrid, hused]
  complete := by
    rintro _ _ rest ⟨heading, rfl, rfl⟩
    have horder := accepts_byteOrder.complete
      (heading.order.encode heading.code 4 ++ (sridBytes heading.order heading.srid ++ rest))
      (a := heading.order) rfl
    have hcode := (accepts_word heading.order 4 .typeCode).complete
      (sridBytes heading.order heading.srid ++ rest) ⟨heading.code_lt, rfl⟩
    have hsrid := (accepts_srid heading.order heading.srid.isSome).complete rest ⟨rfl, rfl⟩
    have hbytes : heading.bytes ++ rest = [heading.order.marker] ++ (heading.order.encode
        heading.code 4 ++ (sridBytes heading.order heading.srid ++ rest)) := by
      simp [Heading.bytes]
    rw [hbytes, header, horder]
    simp only [ok_bind, hcode, heading.ofNat?_code, hsrid]
    rfl

/-! ## Counts -/

theorem count_eq_ok_iff {order : ByteOrder} {size number : Nat} {what : Item}
    {bytes rest : List UInt8} :
    count order size what bytes = .ok (number, rest) ↔
      word order 4 what bytes = .ok (number, rest) ∧ number * size ≤ rest.length := by
  rw [count, bind_eq_ok]
  constructor
  · rintro ⟨⟨value, left⟩, hword, hcheck⟩
    simp only at hcheck
    by_cases hroom : left.length < value * size
    · rw [if_pos hroom] at hcheck
      cases hcheck
    · rw [if_neg hroom] at hcheck
      cases hcheck
      exact ⟨hword, Nat.not_lt.1 hroom⟩
  · rintro ⟨hword, hroom⟩
    exact ⟨(number, rest), hword, if_neg (Nat.not_lt.2 hroom)⟩

theorem count_eq_error {order : ByteOrder} {size : Nat} {what : Item} {bytes : List UInt8}
    {fault : Fault} (hread : count order size what bytes = .error fault) :
    word order 4 what bytes = .error fault ∨
      ∃ number left : Nat, left < number * size ∧
        fault = .countTooLarge what number (number * size) left := by
  cases hword : word order 4 what bytes with
  | error first =>
    rw [count, hword] at hread
    cases hread
    exact .inl rfl
  | ok x =>
    obtain ⟨number, left⟩ := x
    simp only [count, hword, ok_bind] at hread
    by_cases hroom : left.length < number * size
    · rw [if_pos hroom] at hread
      cases hread
      exact .inr ⟨number, left.length, hroom, rfl⟩
    · rw [if_neg hroom] at hread
      cases hread

end SpatialSql.Wkb
