import Mathlib.Data.List.Forall2
import SpatialSql.Proofs.Sql.Scanning
/-!
# Fragments of statements

Texts that are read as the same tokens wherever they stand, as long as nothing runs into them
from behind, and how they are put together.
-/

namespace SpatialSql.Sql

/-- A text is read as tokens in front of everything that it does not run into. -/
def Reads (text : String) (tokens : List Token) : Prop :=
  ∀ rest, isApart rest = true → Scans text.toList tokens rest

section Tokens

theorem reads_quoted {quote : Char} (hquote : isQuote quote = true) (said : String) :
    Reads (Text.quoted quote said) [.quoted quote said] := by
  intro rest hrest
  apply scans_quoted hquote
  intro hhead
  have hkind := head_of_isApart hrest quote hhead
  rw [hquote] at hkind
  cases hkind.1

theorem reads_name (text : String) : Reads (identifier text) [.name text] :=
  reads_quoted rfl text

theorem reads_string (text : String) : Reads (string text) [.string text] :=
  reads_quoted rfl text

theorem reads_word {text : String} (h : isWord text = true) : Reads text [.word text] := by
  intro rest hrest
  exact scans_word h fun c hc => (head_of_isApart hrest c hc).2.1

theorem reads_operator {text : String} (h : isOperator text = true) :
    Reads text [.operator text] := by
  intro rest hrest
  exact scans_operator h fun c hc => (head_of_isApart hrest c hc).2.2

theorem reads_number {text : String} (h : IsNumeral text.toList) : Reads text [.number text] :=
  fun _ hrest => scans_number h hrest

end Tokens

section Composition

variable {text more : String} {tokens others : List Token}

theorem Reads.append (h : Reads text tokens) (hmore : Reads more others)
    (hapart : isApart more.toList = true) (hne : more ≠ "") :
    Reads (text ++ more) (tokens ++ others) := by
  intro rest hrest
  have hnil : more.toList ≠ [] := by simpa using hne
  rw [String.toList_append]
  exact (h _ (isApart_append rest hapart hnil)).append (hmore rest hrest)

theorem Reads.blank (h : Reads text tokens) : Reads (" " ++ text) tokens := by
  intro rest hrest
  rw [String.toList_append]
  exact scans_blank.append (h rest hrest)

theorem Reads.after_mark {mark : String} {c : Char} (hmark : mark.toList = [c])
    (hc : isMark c = true) (h : Reads text tokens) :
    Reads (mark ++ text) (.mark c :: tokens) := by
  intro rest hrest
  rw [String.toList_append, hmark]
  exact (scans_mark hc).append (h rest hrest)

theorem Reads.spaced {sign : String} {token : Token} (h : Reads text tokens)
    (hsign : Reads sign [token]) (hmore : Reads more others) :
    Reads (text ++ (" " ++ sign ++ " ") ++ more) (tokens ++ token :: others) := by
  have hassoc : text ++ (" " ++ sign ++ " ") ++ more = text ++ (" " ++ sign ++ (" " ++ more)) := by
    simp only [String.append_assoc]
  have hbehind : Reads (" " ++ sign ++ (" " ++ more)) ([token] ++ others) := by
    apply hsign.blank.append hmore.blank
    · simp [isApart]
    · simp
  rw [hassoc]
  apply h.append hbehind
  · simp [isApart]
  · simp

theorem Reads.enclosed (h : Reads text tokens) :
    Reads ("(" ++ text ++ ")") (groupTokens tokens) := by
  intro rest hrest
  rw [String.toList_append, String.toList_append, List.append_assoc]
  exact (scans_mark rfl).append ((h _ rfl).append (scans_mark rfl))

theorem Reads.call {function : String} (hfunction : isWord function = true)
    (h : Reads text tokens) :
    Reads (function ++ "(" ++ text ++ ")") (.word function :: groupTokens tokens) := by
  intro rest hrest
  have hassoc : function ++ "(" ++ text ++ ")" = function ++ ("(" ++ text ++ ")") := by
    simp only [String.append_assoc]
  rw [hassoc, String.toList_append]
  have hword : Scans function.toList [.word function] (("(" ++ text ++ ")").toList ++ rest) := by
    apply scans_word hfunction
    intro c hc
    rw [String.toList_append, String.toList_append] at hc
    cases hc
    rfl
  exact hword.append (h.enclosed rest hrest)

theorem Reads.member {receiver function : String} {front : List Token}
    (hreceiver : Reads receiver front) (hfunction : isWord function = true)
    (h : Reads text tokens) : Reads (receiver ++ "." ++ function ++ "(" ++ text ++ ")")
      (memberTokens front function tokens) := by
  have hassoc : receiver ++ "." ++ function ++ "(" ++ text ++ ")"
      = receiver ++ ("." ++ (function ++ "(" ++ text ++ ")")) := by
    simp only [String.append_assoc]
  have hcall : Reads ("." ++ (function ++ "(" ++ text ++ ")"))
      (.mark '.' :: .word function :: groupTokens tokens) := by
    intro rest hrest
    rw [String.toList_append]
    exact (scans_mark rfl).append (h.call hfunction rest hrest)
  rw [hassoc]
  apply hreceiver.append hcall
  · -- The name of the function is no digit of a fraction.
    obtain ⟨c, letters, heq, hdigit, -⟩ := head_of_isWord hfunction
    simp [heq, hdigit, isApart]
  · simp

theorem Reads.intercalate {word : String} (hword : isWord word = true) {texts : List String}
    {parts : List (List Token)} (h : List.Forall₂ Reads texts parts) (hne : texts ≠ []) :
    Reads ((" " ++ word ++ " ").intercalate texts) ([Token.word word].intercalate parts) := by
  induction h with
  | nil => exact absurd rfl hne
  | cons hfirst hrest ih =>
    rename_i first part texts parts
    cases hrest with
    | nil =>
      rw [String.intercalate_singleton, List.intercalate_singleton]
      exact hfirst
    | cons hsecond hrest =>
      rw [String.intercalate_cons_cons, List.intercalate_cons_cons, List.append_assoc]
      exact hfirst.spaced (reads_word hword) (ih (List.cons_ne_nil _ _))

end Composition

end SpatialSql.Sql
