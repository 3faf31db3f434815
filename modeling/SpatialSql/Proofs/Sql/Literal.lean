import SpatialSql.Proofs.Sql.Numeral
/-!
# Literals

The tokens of values, and that the literal of a value is read as them in either syntax.
-/

namespace SpatialSql.Sql

def LiteralSyntax.tokens (style : LiteralSyntax) : Scalar → List Token
  | .null => [.word "NULL"]
  | .bool b => [.word (if b then "TRUE" else "FALSE")]
  | .int32 n => signedNumber (toString n.toInt)
  | .int64 n => signedNumber (toString n.toInt)
  | .double x => if x.isFinite then signedNumber x.literal else [.word "NULL"]
  | .text s => [.string s]
  | .bytes bs =>
    match style with
    | .ansi => [.word "X", .string (Text.Hex.encodeUpper bs)]
    | .escaped => [.string ("\\x" ++ Text.Hex.encode bs)]
  | .date d => [.string d.toText]
  | .time t => [.string t.toText]
  | .timestamp t => [.string (t.toText " ")]
  | .uuid u => [.string u.toText]

theorem double_of_not_mem {quote : Char} {text : List Char} (h : quote ∉ text) :
    Text.double quote text = text := by
  induction text with
  | nil => rfl
  | cons c text ih =>
    rw [List.mem_cons, not_or] at h
    rw [Text.double, if_neg (Ne.symm h.1), ih h.2]

theorem quoted_of_not_mem {text : String} (h : '\'' ∉ text.toList) :
    string text = "'" ++ text ++ "'" := by
  rw [← String.toList_inj, string, Text.quoted, double_of_not_mem h]
  simp

theorem not_mem_encodeWith {c : Char} {alphabet : List Char} (h : c ∉ alphabet) (hc : c ≠ '0')
    (bs : List UInt8) : c ∉ (Text.Hex.encodeWith alphabet bs).toList := by
  have hdigit (i : Nat) : c ≠ alphabet.getD i '0' := by
    rw [List.getD_eq_getElem?_getD]
    cases hi : alphabet[i]? with
    | none => exact hc
    | some d =>
      rintro rfl
      exact h (List.mem_of_getElem? hi)
  rw [Text.Hex.encodeWith, String.toList_ofList, List.mem_flatMap]
  rintro ⟨b, -, hb⟩
  simp only [List.mem_cons, List.not_mem_nil, or_false] at hb
  exact hb.elim (hdigit _) (hdigit _)

theorem reads_bytes (style : LiteralSyntax) (bs : List UInt8) :
    Reads (style.bytes bs) (style.tokens (.bytes bs)) := by
  cases style with
  | ansi =>
    have hplain : '\'' ∉ (Text.Hex.encodeUpper bs).toList :=
      not_mem_encodeWith (by decide) (by decide) bs
    have hsplit : LiteralSyntax.ansi.bytes bs = "X" ++ string (Text.Hex.encodeUpper bs) := by
      rw [quoted_of_not_mem hplain, ← String.append_assoc,
        ← String.append_assoc]
      rfl
    intro rest hrest
    rw [hsplit, String.toList_append]
    have hword : Scans "X".toList [.word "X"]
        ((string (Text.Hex.encodeUpper bs)).toList ++ rest) := by
      apply scans_word (by decide)
      intro c hc
      rw [string, Text.quoted, String.toList_ofList] at hc
      cases hc
      decide
    exact hword.append (reads_string _ rest hrest)
  | escaped =>
    have hplain : '\'' ∉ ("\\x" ++ Text.Hex.encode bs).toList := by
      rw [String.toList_append, List.mem_append, not_or]
      exact ⟨by decide, not_mem_encodeWith (by decide) (by decide) bs⟩
    have hsplit : LiteralSyntax.escaped.bytes bs = string ("\\x" ++ Text.Hex.encode bs) := by
      rw [quoted_of_not_mem hplain, ← String.append_assoc]
      rfl
    rw [hsplit]
    exact reads_string _

theorem reads_literal (style : LiteralSyntax) (value : Scalar) :
    Reads (style.literal value) (style.tokens value) := by
  have hword (text : String) (h : isWord text = true) : Reads text [.word text] :=
    reads_word h
  cases value with
  | null => exact hword "NULL" (by decide)
  | bool b =>
    cases b with
    | false => exact hword "FALSE" (by decide)
    | true => exact hword "TRUE" (by decide)
  | int32 n => exact reads_signedNumber (isSigned_int n.toInt)
  | int64 n => exact reads_signedNumber (isSigned_int n.toInt)
  | double x =>
    rw [LiteralSyntax.literal, LiteralSyntax.tokens]
    split
    · rename_i hfinite
      exact reads_signedNumber (isSigned_literal hfinite)
    · exact hword "NULL" (by decide)
  | text s => exact reads_string s
  | bytes bs => exact reads_bytes style bs
  | date d => exact reads_string d.toText
  | time t => exact reads_string t.toText
  | timestamp t => exact reads_string (t.toText " ")
  | uuid u => exact reads_string u.toText

end SpatialSql.Sql
