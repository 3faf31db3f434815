import SpatialSql.Proofs.Filter.Compilation
/-!
# Writing filters onto a buffer

A filter that is written piece by piece behind what a buffer holds, up to the first condition that
SQL cannot express.  What was written before that condition stays in the buffer.  The text and the
fault are those of compiling, which hands out nothing before the whole text is there.
-/

namespace SpatialSql.Filter

/-- Appends to a buffer, and may stop at a condition that SQL cannot express. -/
abbrev Writing := ExceptT Unsupported (StateM String)

namespace Writing

def put (text : String) : Writing Unit := modify (· ++ text)

mutual

/-- Writes a filter.  A condition without parts is written whole or not at all. -/
def filter (c : Compiler) : Predicate → Writing Unit
  | .all (p :: rest) => do
    put "("
    filter c p
    behind c " AND " rest
    put ")"
  | .any (p :: rest) => do
    put "("
    filter c p
    behind c " OR " rest
    put ")"
  | .not child => do
    put "NOT ("
    filter c child
    put ")"
  | p => do put (← liftExcept (c.compile p))
termination_by structural p => p

/-- Writes further filters, a joiner before each. -/
def behind (c : Compiler) (joiner : String) : List Predicate → Writing Unit
  | [] => pure ()
  | p :: rest => do
    put joiner
    filter c p
    behind c joiner rest
termination_by structural ps => ps

end

/-- How the writing ends, and what the buffer holds then. -/
def onto (w : Writing Unit) (buffer : String) : Except Unsupported Unit × String := w.run buffer

theorem onto_bind (w : Writing Unit) (next : Unit → Writing Unit) (buffer : String) :
    (w >>= next).onto buffer =
      match w.onto buffer with
      | (.ok (), written) => (next ()).onto written
      | (.error fault, written) => (.error fault, written) := by
  rw [onto, ExceptT.run_bind]
  show StateT.bind w.run _ buffer = _
  unfold StateT.bind onto
  show (match w.run buffer with | (outcome, written) => _) = _
  rcases w.run buffer with ⟨_ | _, written⟩ <;> rfl

/-! ## What is written -/

/-- The writing appends a text, or ends with a fault behind some part of one. -/
def Renders (w : Writing Unit) : Except Unsupported String → Prop
  | .ok text => ∀ buffer, w.onto buffer = (.ok (), buffer ++ text)
  | .error fault => ∀ buffer, ∃ text, w.onto buffer = (.error fault, buffer ++ text)

theorem renders_put (text : String) : Renders (put text) (.ok text) := fun _ => rfl

theorem renders_pure : Renders (pure ()) (.ok "") := by
  intro buffer
  rw [String.append_empty]
  rfl

theorem renders_lift (result : Except Unsupported String) :
    Renders (do put (← liftExcept result)) result := by
  cases result with
  | ok text => exact fun _ => rfl
  | error fault =>
    intro buffer
    refine ⟨"", ?_⟩
    rw [String.append_empty]
    rfl

def concat (a b : Except Unsupported String) : Except Unsupported String := do
  let first ← a
  let second ← b
  return first ++ second

/-- The second writing is not begun when the first ends with a fault. -/
theorem Renders.andThen {first second : Writing Unit} {a b : Except Unsupported String}
    (hfirst : Renders first a) (hsecond : Renders second b) :
    Renders (do first; second) (concat a b) := by
  cases a with
  | error fault =>
    intro buffer
    obtain ⟨text, htext⟩ := hfirst buffer
    exact ⟨text, by rw [onto_bind, htext]⟩
  | ok text =>
    cases b with
    | error fault =>
      intro buffer
      obtain ⟨part, hpart⟩ := hsecond (buffer ++ text)
      refine ⟨text ++ part, ?_⟩
      rw [onto_bind, hfirst buffer, ← String.append_assoc]
      exact hpart
    | ok further =>
      intro buffer
      rw [onto_bind, hfirst buffer, ← String.append_assoc]
      exact hsecond (buffer ++ text)

def further (joiner : String) (conditions : List String) : String :=
  String.join (conditions.map (joiner ++ ·))

theorem further_cons (joiner first : String) (others : List String) :
    further joiner (first :: others) = joiner ++ first ++ further joiner others := by
  rw [further, List.map_cons, String.join_cons, ← further]

theorem intercalate_cons (joiner first : String) (others : List String) :
    joiner.intercalate (first :: others) = first ++ further joiner others := by
  induction others generalizing first with
  | nil =>
    rw [String.intercalate_singleton, further, List.map_nil, String.join_nil, String.append_empty]
  | cons second others ih =>
    rw [String.intercalate_cons_cons, ih, further_cons, String.append_assoc, String.append_assoc]

/-! ## What is compiled, piece by piece -/

theorem compileAll_joined (c : Compiler) (joiner : String) (p : Predicate) (rest : List Predicate) :
    (c.compileAll (p :: rest)).map (Compiler.joined joiner) =
      concat (.ok "(") (concat (c.compile p)
        (concat ((c.compileAll rest).map (further joiner)) (.ok ")"))) := by
  rw [Compiler.compileAll]
  cases c.compile p with
  | error fault => rfl
  | ok first =>
    cases c.compileAll rest with
    | error fault => rfl
    | ok others =>
      show Except.ok (Compiler.joined joiner (first :: others)) = Except.ok _
      rw [Compiler.joined, intercalate_cons]
      simp only [String.append_assoc]

theorem compileAll_further (c : Compiler) (joiner : String) (p : Predicate)
    (rest : List Predicate) : (c.compileAll (p :: rest)).map (further joiner) =
      concat (.ok joiner) (concat (c.compile p) ((c.compileAll rest).map (further joiner))) := by
  rw [Compiler.compileAll]
  cases c.compile p with
  | error fault => rfl
  | ok first =>
    cases c.compileAll rest with
    | error fault => rfl
    | ok others =>
      show Except.ok (further joiner (first :: others)) = Except.ok _
      rw [further_cons, String.append_assoc]

theorem compile_not (c : Compiler) (child : Predicate) :
    c.compile (.not child) = concat (.ok "NOT (") (concat (c.compile child) (.ok ")")) := by
  rw [Compiler.compile]
  cases c.compile child with
  | error fault => rfl
  | ok sql =>
    show Except.ok ("NOT (" ++ sql ++ ")") = Except.ok _
    rw [String.append_assoc]

theorem renders_joined {c : Compiler} {joiner : String} {p : Predicate} {rest : List Predicate}
    (hfirst : Renders (filter c p) (c.compile p))
    (hrest : Renders (behind c joiner rest) ((c.compileAll rest).map (further joiner))) :
    Renders (do put "("; filter c p; behind c joiner rest; put ")")
      ((c.compileAll (p :: rest)).map (Compiler.joined joiner)) := by
  rw [compileAll_joined]
  exact (renders_put "(").andThen (hfirst.andThen (hrest.andThen (renders_put ")")))

mutual

theorem renders_filter (c : Compiler) : (p : Predicate) → Renders (filter c p) (c.compile p)
  | .all (p :: rest) => renders_joined (renders_filter c p) (renders_behind c " AND " rest)
  | .any (p :: rest) => renders_joined (renders_filter c p) (renders_behind c " OR " rest)
  | .not child => by
    rw [compile_not]
    exact (renders_put "NOT (").andThen ((renders_filter c child).andThen (renders_put ")"))
  | .all [] | .any [] | .everything | .nothing | .compare _ _ _ | .isNull _ | .relation _ _ _ _
  | .distance _ _ _ _ _ | .related _ _ _ => renders_lift _

theorem renders_behind (c : Compiler) (joiner : String) : (ps : List Predicate) →
    Renders (behind c joiner ps) ((c.compileAll ps).map (further joiner))
  | [] => renders_pure
  | p :: rest => by
    rw [compileAll_further]
    exact (renders_put joiner).andThen ((renders_filter c p).andThen (renders_behind c joiner rest))

end

end Writing

end SpatialSql.Filter
