import SpatialSql.Geometry.Equality
import SpatialSql.Proofs.Text.Hex
import SpatialSql.Wkb.Codec
/-!
# Geometries in cells

What is read of a cell is decided by the cell.  A codec unpacks text in its buffer, but what the
buffer held before, be it an encoding or the rest of a text that was given up, is gone by then; and
the digits of some bytes are read as the bytes themselves are.
-/

namespace SpatialSql.Wkb

inductive Codec.Call where
  | encode (g : Geometry) (srid : Option Int32)
  | decode (bytes : List UInt8)
  | read (row : Row) (column : ColumnRef)

namespace Codec

/-- The codec behind a call, whether that failed or not.  Decoding leaves it alone. -/
def after (codec : Codec) : Call → Codec
  | .encode g srid => codec.encode g srid
  | .decode _ => codec
  | .read row column => (codec.read row column).2

def run (codec : Codec) (calls : List Call) : Codec := calls.foldl after codec

/-! ## What a cell is read as -/

/-- The digits of some bytes fill the buffer with these bytes, and no zero is left. -/
theorem unpack_of_lower (codec : Codec) {text : String} {bytes : List UInt8}
    (h : Text.lower text = Text.Hex.encode bytes) :
    codec.unpack text = (.ok (), { codec with buffer := bytes }) := by
  obtain ⟨hunpack, hsize⟩ := Text.Hex.unpackText_of_lower h
  have hfull : text.utf8ByteSize / 2 - bytes.length = 0 := by omega
  simp only [unpack, hunpack, hfull, List.replicate_zero, List.append_nil]

section

variable (codec codec' : Codec) {row row' : Row} {column : ColumnRef} {text : String}
  {bytes : List UInt8}

theorem read_congr (h : row.get column = row'.get column) :
    (codec.read row column).1 = (codec'.read row' column).1 := by
  rw [read, read, h]
  cases row'.get column with
  | error fault => rfl
  | ok value =>
    cases value with
    | text text =>
      simp only [unpack]
      cases (Text.Hex.unpackText text).2 <;> rfl
    | _ => rfl

theorem read_null (h : row.get column = .ok .null) : (codec.read row column).1 = .ok none := by
  rw [read, h]

theorem read_bytes (h : row.get column = .ok (.bytes bytes)) :
    (codec.read row column).1 = decodeCell column bytes := by
  rw [read, h]

theorem read_text (h : row.get column = .ok (.text text))
    (hhex : Text.lower text = Text.Hex.encode bytes) :
    (codec.read row column).1 = decodeCell column bytes := by
  rw [read, h]
  simp only [unpack_of_lower codec hhex]

theorem read_of_not_isHex (h : row.get column = .ok (.text text)) (hhex : ¬ Text.Hex.IsHex text) :
    ∃ fault, (codec.read row column).1 = .error (.notHex column fault) := by
  obtain ⟨fault, hfault⟩ := Text.Hex.exists_fault_of_not_isHex hhex
  refine ⟨fault, ?_⟩
  rw [read, h]
  simp only [unpack, hfault]

end

theorem decodeCell_eq_ok_iff {column : ColumnRef} {bytes : List UInt8} {g : Option Geometry} :
    decodeCell column bytes = .ok g ↔ ∃ g' srid, g = some g' ∧ decode bytes = .ok (g', srid) := by
  rw [decodeCell]
  cases hdecode : decode bytes with
  | error fault => simp
  | ok result =>
    obtain ⟨g', srid⟩ := result
    simp [eq_comm]

/-- Whatever was asked of two codecs before, they read equal cells equally.  Bytes are a geometry
exactly if they are decoded, and then that geometry, and their digits in whatever case are read as
they are, faults and their wording included.  A null is no geometry.  A text is an even number of
digits, and then those of some bytes, or else it is refused with the name of its column. -/
theorem read_sees_cell_alone (codec codec' : Codec) (calls calls' : List Call) (row row' : Row)
    (column : ColumnRef) :
    let outcome := ((codec.run calls).read row column).1
    let outcome' := ((codec'.run calls').read row' column).1
    (row.get column = row'.get column → outcome = outcome') ∧
    (∀ bytes, row.get column = .ok (.bytes bytes) →
      (∀ g, outcome = .ok g ↔ ∃ g' srid, g = some g' ∧ decode bytes = .ok (g', srid)) ∧
      ∀ text, row'.get column = .ok (.text text) → Text.lower text = Text.Hex.encode bytes →
        outcome' = outcome) ∧
    (row.get column = .ok .null → outcome = .ok none) ∧
    ∀ text, row.get column = .ok (.text text) →
      (Text.Hex.IsHex text →
        ∃ bytes, Text.lower text = Text.Hex.encode bytes ∧ outcome = decodeCell column bytes) ∧
      (¬ Text.Hex.IsHex text →
        ∃ fault : Text.Hex.Fault, outcome.mapError CellFault.toFailure =
          .error (.malformedWireFormat
            ("column " ++ column.toText ++ " holds invalid hex: " ++ fault.message))) := by
  intro outcome outcome'
  refine ⟨read_congr _ _, fun bytes hbytes => ?_, read_null _,
    fun text htext => ⟨fun hhex => ?_, fun hhex => ?_⟩⟩
  · have houtcome : outcome = decodeCell column bytes := read_bytes _ hbytes
    refine ⟨fun g => ?_, fun text htext hhex => ?_⟩
    · rw [houtcome, decodeCell_eq_ok_iff]
    · have houtcome' : outcome' = decodeCell column bytes := read_text _ htext hhex
      rw [houtcome, houtcome']
  · obtain ⟨bytes, hbytes⟩ := Text.Hex.isHex_iff.1 hhex
    exact ⟨bytes, hbytes, read_text _ htext hbytes⟩
  · obtain ⟨fault, hfault⟩ := read_of_not_isHex (codec.run calls) htext hhex
    have houtcome : outcome = .error (.notHex column fault) := hfault
    refine ⟨fault, ?_⟩
    rw [houtcome]
    rfl

def pointBytes : List UInt8 :=
  [1, 1, 0, 0, 0, 0, 0, 0, 0, 0, 0, 0xf0, 0x3f, 0, 0, 0, 0, 0, 0, 0, 0x40]

def onePoint : Geometry := .point (some (.planar ⟨0x3ff0000000000000⟩ ⟨0x4000000000000000⟩))

def binaryRow : Row := .ofCells [("ID", .int64 7), ("Shape", .bytes pointBytes)]

def hexRow : Row := .ofCells [("SHAPE", .text "0101000000000000000000f03F0000000000000040")]

/-- The second byte of the text is no digit, nor ASCII. -/
def spoiltRow : Row := .ofCells [("SHAPE", .text "01é0")]

def spoilingCalls : List Call :=
  [.encode (.collection []) (some 4326), .decode [1], .read spoiltRow (.position 0)]

theorem read_sees_cell_alone_spoilt :
    let reads (row : Row) := ((Codec.default.run spoilingCalls).read row (.named "shape")).1
    let unused (row : Row) := ((ofOrder .bigEndian).read row (.named "shape")).1
    (binaryRow.get (.named "shape") = .ok (.bytes pointBytes) ∧
      hexRow.get (.named "shape") = .ok (.text "0101000000000000000000f03F0000000000000040")) ∧
    unused binaryRow = .ok (some onePoint) ∧
    reads hexRow = unused binaryRow ∧ reads binaryRow = unused binaryRow ∧
    reads (.ofCells [("SHAPE", .null)]) = .ok none ∧
    ∃ fault : Text.Hex.Fault, (reads spoiltRow).mapError CellFault.toFailure =
      .error (.malformedWireFormat ("column shape holds invalid hex: " ++ fault.message)) := by
  intro reads unused
  have hbinary : binaryRow.get (.named "shape") = .ok (.bytes pointBytes) := rfl
  have hhex : hexRow.get (.named "shape") =
      .ok (.text "0101000000000000000000f03F0000000000000040") := rfl
  have hsame := read_sees_cell_alone (ofOrder .bigEndian) .default [] spoilingCalls binaryRow
    hexRow (.named "shape")
  have hspoilt (row row' : Row) := read_sees_cell_alone .default (ofOrder .bigEndian)
    spoilingCalls [] row row' (.named "shape")
  obtain ⟨hpoint, htext⟩ := hsame.2.1 _ hbinary
  refine ⟨⟨hbinary, hhex⟩, (hpoint _).2 ⟨_, none, rfl, ?_⟩, htext _ hhex ?_,
    (hspoilt binaryRow binaryRow).1 rfl, (hspoilt _ binaryRow).2.2.1 rfl,
    ((hspoilt spoiltRow binaryRow).2.2.2 "01é0" rfl).2 ?_⟩
  · decide +kernel
  · decide +kernel
  · decide +kernel

end Codec

end SpatialSql.Wkb
