import SpatialSql.Proofs.Sql.Token
/-!
# Exchanged tokens

Tokens in which one token is exchanged for another at some places and nothing else differs.
-/

namespace SpatialSql.Sql

/-- The second tokens are the first with `a` exchanged for `b` at `n` places. -/
inductive Exchange (a b : Token) : (n : Nat) → List Token → List Token → Prop
  | nil : Exchange a b 0 [] []
  | kept {n : Nat} {tokens others : List Token} (t : Token) :
    Exchange a b n tokens others → Exchange a b n (t :: tokens) (t :: others)
  | exchanged {n : Nat} {tokens others : List Token} :
    Exchange a b n tokens others → Exchange a b (n + 1) (a :: tokens) (b :: others)

namespace Exchange

variable {a b : Token} {n m : Nat} {tokens others more moreOthers : List Token}

theorem length_eq (h : Exchange a b n tokens others) : others.length = tokens.length := by
  induction h with
  | nil => rfl
  | kept t _ ih => rw [List.length_cons, List.length_cons, ih]
  | exchanged _ ih => rw [List.length_cons, List.length_cons, ih]

theorem none (tokens : List Token) : Exchange a b 0 tokens tokens := by
  induction tokens with
  | nil => exact .nil
  | cons t tokens ih => exact .kept t ih

theorem append (h : Exchange a b n tokens others) (hmore : Exchange a b m more moreOthers) :
    Exchange a b (n + m) (tokens ++ more) (others ++ moreOthers) := by
  induction h with
  | nil =>
    rw [Nat.zero_add]
    exact hmore
  | kept t _ ih => exact .kept t ih
  | exchanged _ ih =>
    rw [Nat.add_right_comm]
    exact .exchanged ih

theorem one : Exchange a b 1 [a] [b] := .exchanged .nil

theorem before (tokens : List Token) (h : Exchange a b n more moreOthers) :
    Exchange a b n (tokens ++ more) (tokens ++ moreOthers) := by
  have := (none tokens).append h
  rwa [Nat.zero_add] at this

theorem behind (h : Exchange a b n tokens others) (more : List Token) :
    Exchange a b n (tokens ++ more) (others ++ more) := h.append (none more)

theorem group (h : Exchange a b n tokens others) :
    Exchange a b n (groupTokens tokens) (groupTokens others) := .kept .opening (h.behind [.closing])

theorem memberArgument (receiver : List Token) (function : String)
    (h : Exchange a b n tokens others) :
    Exchange a b n (memberTokens receiver function tokens)
      (memberTokens receiver function others) :=
  before receiver (.kept _ (.kept _ h.group))

theorem memberReceiver (function : String) (arguments : List Token)
    (h : Exchange a b n tokens others) :
    Exchange a b n (memberTokens tokens function arguments)
      (memberTokens others function arguments) :=
  h.behind _

theorem intercalate (separator : List Token) (front back : List (List Token))
    (h : Exchange a b n tokens others) :
    Exchange a b n (separator.intercalate (front ++ tokens :: back))
      (separator.intercalate (front ++ others :: back)) := by
  induction front with
  | nil =>
    cases back with
    | nil =>
      rw [List.nil_append, List.nil_append, List.intercalate_singleton,
        List.intercalate_singleton]
      exact h
    | cons part back =>
      rw [List.nil_append, List.nil_append, List.intercalate_cons_cons,
        List.intercalate_cons_cons]
      exact (h.behind _).behind _
  | cons part front ih =>
    have hne (tokens : List Token) : front ++ tokens :: back ≠ [] := by simp
    rw [List.cons_append, List.cons_append, List.intercalate_cons_of_ne_nil (hne tokens),
      List.intercalate_cons_of_ne_nil (hne others)]
    exact before _ ih

end Exchange

end SpatialSql.Sql
