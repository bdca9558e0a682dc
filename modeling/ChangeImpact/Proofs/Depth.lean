import ChangeImpact.Proofs.Part

/-!
# Depth and nesting

A traversal of a script goes as deep as its tree, `Part.depth`.  Operators of one strength and set operations put their
operands together from the left, so a row of operands makes a tree as deep as the row is long, although no operand is
nested in another one.  `Part.nesting` counts such a row as one level, and `Part.rowLength` is the length of the row
that ends in a part.  No tree is deeper than its nesting times its longest row: `Part.depth_le`.
-/

namespace ChangeImpact.Extraction

open Sql

/-- The largest of the numbers, or zero. -/
def most (ns : List Nat) : Nat :=
  ns.foldr max 0

theorem most_le_iff {ns : List Nat} {b : Nat} : most ns ≤ b ↔ ∀ n ∈ ns, n ≤ b := by
  induction ns with
  | nil => simp [most]
  | cons n ns ih => rw [List.forall_mem_cons, ← ih, most, List.foldr_cons, Nat.max_le, most]

theorem le_most {ns : List Nat} {n : Nat} (h : n ∈ ns) : n ≤ most ns :=
  most_le_iff.1 (Nat.le_refl _) n h

/-- The expression joins operands, the first of which may join operands itself. -/
def joinsOperands : Expr → Bool
  | .binary _ _ _ => true
  | .group (_ :: _ :: _) => true
  | _ => false

namespace Part

/-- Combines what is computed for the parts inside of a part. -/
def fold {α : Type} (f : Part → List α → α) (p : Part) : α :=
  f p (p.parts.attach.map fun q => q.1.fold f)
termination_by sizeOf p
decreasing_by exact allBelow_parts p q.1 q.2

theorem fold_eq {α : Type} (f : Part → List α → α) (p : Part) : p.fold f = f p (p.parts.map (fold f)) := by
  have hattach : p.parts.attach.map (fun q => q.1.fold f) = p.parts.map (fold f) := List.attach_map_val ..
  rw [fold, hattach]

/-- The number of parts on the longest way into the tree. -/
def depth : Part → Nat :=
  fold fun _ depths => most depths + 1

/-- The part puts operands together from the left. -/
def isRow : Part → Bool
  | .body (.combine _ _) => true
  | .on e => joinsOperands e
  | .expr e => joinsOperands e
  | _ => false

/-- The number of levels of a tree, where the operands in a row are on one level. -/
def nesting : Part → Nat :=
  fold fun p levels => if p.isRow then max (levels.headD 0) (most levels.tail + 1) else most levels + 1

/-- The number of operands in the row that ends in a part. -/
def rowLength : Part → Nat :=
  fold fun p lengths => if p.isRow then lengths.headD 0 + 1 else 1

/-- The length of the longest row in a tree. -/
def longestRow : Part → Nat :=
  fold fun p lengths => max p.rowLength (most lengths)

variable {p q : Part} {n : Nat}

theorem depth_eq (p : Part) : p.depth = most (p.parts.map depth) + 1 :=
  fold_eq _ p

theorem nesting_eq (p : Part) :
    p.nesting = if p.isRow then max ((p.parts.map nesting).headD 0) (most (p.parts.map nesting).tail + 1)
      else most (p.parts.map nesting) + 1 :=
  fold_eq _ p

theorem rowLength_eq (p : Part) :
    p.rowLength = if p.isRow then (p.parts.map rowLength).headD 0 + 1 else 1 :=
  fold_eq _ p

theorem longestRow_eq (p : Part) : p.longestRow = max p.rowLength (most (p.parts.map longestRow)) :=
  fold_eq _ p

theorem rowLength_le_longestRow (p : Part) : p.rowLength ≤ p.longestRow := by
  rw [p.longestRow_eq]
  exact Nat.le_max_left ..

theorem longestRow_le_of_mem (h : q ∈ p.parts) : q.longestRow ≤ p.longestRow := by
  rw [p.longestRow_eq]
  exact Nat.le_trans (le_most (List.mem_map_of_mem h)) (Nat.le_max_right ..)

theorem rowLength_pos (p : Part) : 0 < p.rowLength := by
  rw [p.rowLength_eq]
  split <;> omega

/-- What stands inside is one level further in, unless it is the first operand of a row. -/
theorem nesting_cases (h : q ∈ p.parts) :
    q.nesting + 1 ≤ p.nesting ∨ q.nesting ≤ p.nesting ∧ q.rowLength + 1 = p.rowLength := by
  rw [p.nesting_eq, p.rowLength_eq]
  cases hrow : p.isRow with
  | false => exact .inl (Nat.succ_le_succ (le_most (List.mem_map_of_mem h)))
  | true =>
    cases hparts : p.parts with
    | nil =>
      rw [hparts] at h
      cases h
    | cons first others =>
      rw [hparts] at h
      rcases List.mem_cons.1 h with rfl | h
      · exact .inr ⟨Nat.le_max_left .., rfl⟩
      · exact .inl (Nat.le_trans (Nat.succ_le_succ (le_most (List.mem_map_of_mem h))) (Nat.le_max_right ..))

theorem nesting_pos (p : Part) : 0 < p.nesting := by
  rw [p.nesting_eq]
  split <;> omega

/-- A tree with rows up to a length is at most as deep as its nesting, counted in rows of this length, where the row
that ends in the tree itself counts as it is. -/
theorem depth_add_le {length : Nat} (h : p.longestRow ≤ length) :
    p.depth + length ≤ p.nesting * length + p.rowLength := by
  induction p using Part.induction with
  | step p ih =>
    have hinner : ∀ q ∈ p.parts, q.depth + 1 + length ≤ p.nesting * length + p.rowLength := by
      intro q hq
      have hlongest : q.longestRow ≤ length := Nat.le_trans (longestRow_le_of_mem hq) h
      have hdepth : q.depth + length ≤ q.nesting * length + q.rowLength := ih q hq hlongest
      rcases nesting_cases hq with hnesting | ⟨hnesting, hrow⟩
      · have hlevel : (q.nesting + 1) * length ≤ p.nesting * length := Nat.mul_le_mul_right _ hnesting
        have hshort : q.rowLength ≤ length := Nat.le_trans q.rowLength_le_longestRow hlongest
        have hpos := p.rowLength_pos
        rw [Nat.add_mul, Nat.one_mul] at hlevel
        omega
      · have hlevel : q.nesting * length ≤ p.nesting * length := Nat.mul_le_mul_right _ hnesting
        omega
    have hself : 1 + length ≤ p.nesting * length + p.rowLength := by
      have hlevel : 1 * length ≤ p.nesting * length := Nat.mul_le_mul_right _ p.nesting_pos
      have hpos := p.rowLength_pos
      omega
    have hmost : most (p.parts.map depth) ≤ p.nesting * length + p.rowLength - length - 1 := by
      refine most_le_iff.2 (List.forall_mem_map.2 fun q hq => ?_)
      have hq := hinner q hq
      omega
    rw [p.depth_eq]
    omega

/-- No tree is deeper than its nesting times its longest row. -/
theorem depth_le (p : Part) : p.depth ≤ p.nesting * p.longestRow := by
  have hdepth : p.depth + p.longestRow ≤ p.nesting * p.longestRow + p.rowLength := depth_add_le (Nat.le_refl _)
  have hrow := p.rowLength_le_longestRow
  omega

/-! ### Bounds on the nesting -/

theorem nesting_le_of_mem (h : q ∈ p.parts) : q.nesting ≤ p.nesting := by
  rcases nesting_cases h with hnesting | ⟨hnesting, _⟩
  · omega
  · exact hnesting

theorem nesting_le_succ (h : ∀ q ∈ p.parts, q.nesting ≤ n) : p.nesting ≤ n + 1 := by
  have hmost {ns : List Nat} (hns : ∀ m ∈ ns, m ∈ p.parts.map nesting) : most ns ≤ n :=
    most_le_iff.2 fun m hm => by
      obtain ⟨q, hq, rfl⟩ := List.mem_map.1 (hns m hm)
      exact h q hq
  rw [p.nesting_eq]
  split
  · refine Nat.max_le.2 ⟨?_, Nat.succ_le_succ (hmost fun m hm => List.mem_of_mem_tail hm)⟩
    cases hparts : p.parts with
    | nil => exact Nat.zero_le _
    | cons first others => exact Nat.le_succ_of_le (h first (hparts ▸ List.mem_cons_self))
  · exact Nat.succ_le_succ (hmost fun _ hm => hm)

/-- The first operand of a row may be nested as deeply as the row. -/
theorem nesting_le_of_isRow {first : Part} {others : List Part} (hrow : p.isRow) (hparts : p.parts = first :: others)
    (hfirst : first.nesting ≤ n + 1) (hothers : ∀ q ∈ others, q.nesting ≤ n) : p.nesting ≤ n + 1 := by
  rw [p.nesting_eq, if_pos hrow, hparts]
  exact Nat.max_le.2 ⟨hfirst, Nat.succ_le_succ (most_le_iff.2 (List.forall_mem_map.2 hothers))⟩

/-- A predicate is nested like any expression. -/
theorem nesting_on (e : Expr) : (Part.on e).nesting = (Part.expr e).nesting := by
  rw [nesting_eq, nesting_eq]
  rfl

end Part

end ChangeImpact.Extraction
