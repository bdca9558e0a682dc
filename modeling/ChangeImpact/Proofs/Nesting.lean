import ChangeImpact.Proofs.Nesting.Statement
import ChangeImpact.Proofs.Parallel.Script
import ChangeImpact.Proofs.Run

/-!
# The nesting limit and the depth of scripts

The limit on nesting bounds the nesting of every tree that is read, by six levels for each level of the limit, but not
its depth, which grows with the rows of operands in the text: `depth_le_of_ofTokens`.  A sum in which nothing is nested
is as deep as it is long (`ofTokens_returnSum`), so that no bound on the limit alone is one on the depth
(`depth_unbounded`).
-/

namespace ChangeImpact.Sql

open ChangeImpact.Extraction

theorem NestedStatement.of_ofTokens {ts : Tokens} {script : Script} (h : Script.ofTokens ts = .ok script) :
    ∀ s ∈ script.statements, NestedStatement (6 * maxNesting) s :=
  (Grammar.NestsWithin.ofLevels maxNesting).statements [] ts _ (Script.ofTokens_eq_ok_iff.1 h).1

/-- Every script that is read is nested at most six times as deeply as the limit says, and no tree in it is deeper than
this many rows of the length of its longest row. -/
theorem depth_le_of_ofTokens {ts : Tokens} {script : Script} (h : Script.ofTokens ts = .ok script) :
    ∀ s ∈ script.statements, (Part.statement s).nesting ≤ 6 * maxNesting ∧
      (Part.statement s).depth ≤ 6 * maxNesting * (Part.statement s).longestRow := by
  intro s hs
  have hnesting : (Part.statement s).nesting ≤ 6 * maxNesting := NestedStatement.of_ofTokens h s hs
  exact ⟨hnesting, Nat.le_trans (Part.statement s).depth_le (Nat.mul_le_mul_right _ hnesting)⟩

/-! ### A long sum -/

/-- `+ 1` so many times. -/
def addends : Nat → Tokens
  | 0 => []
  | n + 1 => ⟨.symbol "+", 1⟩ :: ⟨.literal, 1⟩ :: addends n

/-- `RETURN 1 + 1 + … + 1` -/
def returnSum (n : Nat) : Tokens :=
  ⟨.word "RETURN" false, 1⟩ :: ⟨.literal, 1⟩ :: addends n

/-- The expression with so many summands behind it. -/
def sumFrom (e : Expr) : Nat → Expr
  | 0 => e
  | n + 1 => sumFrom (.binary e .other .literal) n

namespace Grammar

open ChangeImpact.Sql.Parser

variable (inner : Grammar) (n : Nat)

theorem run_signedExpr :
    (signedExpr inner).run (⟨.literal, 1⟩ :: addends n) = ⟨.ok .literal, addends n, [], 0⟩ := by
  cases n <;> rfl

theorem arithmetic?_plus (ts : Tokens) : arithmetic? (⟨.symbol "+", 1⟩ :: ⟨.literal, 1⟩ :: ts) = some (0, .other) := by
  have hplus : arithmeticSymbols.contains "+" := by decide
  show (if arithmeticSymbols.contains "+" && true then some (0, Operator.other) else none) = some (0, .other)
  rw [hplus]
  rfl

/-- The loop over operators reads all summands, and puts each of them behind what was read before. -/
theorem loopRun_addends (e : Expr) :
    loopRun arithmetic? (fun left op => do return .binary left op (← signedExpr inner)) e (addends n) =
      ⟨.ok (sumFrom e n), [], [], 0⟩ := by
  induction n generalizing e with
  | zero => rw [addends, loopRun, sumFrom]
  | succ n ih =>
    have hbody : (do return .binary e .other (← signedExpr inner) : Parser Expr).run (⟨.literal, 1⟩ :: addends n) =
        ⟨.ok (.binary e .other .literal), addends n, [], 0⟩ :=
      run_bind_of_ok (run_signedExpr inner n)
    rw [addends, loopRun, arithmetic?_plus]
    simp only [List.drop_zero, hbody, ih]
    rfl

theorem run_additive : (additive inner).run (⟨.literal, 1⟩ :: addends n) = ⟨.ok (sumFrom .literal n), [], [], 0⟩ :=
  (run_bind_of_ok (run_signedExpr inner n)).trans (loopRun_addends inner n .literal)

/-- Behind the sum nothing is left for the operators that bind less. -/
theorem run_disjunction :
    (disjunction inner).run (⟨.literal, 1⟩ :: addends n) = ⟨.ok (sumFrom .literal n), [], [], 0⟩ := by
  have hcomparison : (comparison inner).run (⟨.literal, 1⟩ :: addends n) = ⟨.ok (sumFrom .literal n), [], [], 0⟩ :=
    run_bind_loop_of_ok (run_additive inner n)
  have hnegated : (negatedExpr inner).run (⟨.literal, 1⟩ :: addends n) = ⟨.ok (sumFrom .literal n), [], [], 0⟩ := by
    have hnot : (acceptKeyword "NOT").run (⟨.literal, 1⟩ :: addends n) =
        ⟨.ok false, ⟨.literal, 1⟩ :: addends n, [], 0⟩ := rfl
    exact (run_bind_of_ok hnot).trans hcomparison
  exact run_bind_loop_of_ok (run_bind_loop_of_ok hnegated)

theorem run_anyStatement (levels : Nat) :
    (anyStatement (ofLevels (levels + 1))).run (returnSum n) =
      ⟨.ok (some (.evaluate [sumFrom .literal n])), [], [], 0⟩ := by
  have hreturn : (returnStatement (ofLevels (levels + 1))).run (returnSum n) =
      ⟨.ok (.evaluate [sumFrom .literal n]), [], [], 0⟩ := by
    have hskip : (skip 1).run (returnSum n) = ⟨.ok (), ⟨.literal, 1⟩ :: addends n, [], 0⟩ := rfl
    have hlook : (look Tokens.atBoundary).run (⟨.literal, 1⟩ :: addends n) =
        ⟨.ok false, ⟨.literal, 1⟩ :: addends n, [], 0⟩ := rfl
    have hexpr : (ofLevels (levels + 1)).expr.run (⟨.literal, 1⟩ :: addends n) =
        ⟨.ok (sumFrom .literal n), [], [], 0⟩ := run_disjunction (ofLevels levels) n
    exact (run_bind_of_ok hskip).trans ((run_bind_of_ok hlook).trans (run_bind_of_ok hexpr))
  have hkeyword : keywordStatement (ofLevels (levels + 1)) (Text.asciiUpper "RETURN") =
      some <$> returnStatement (ofLevels (levels + 1)) := by
    have hupper : Text.asciiUpper "RETURN" = "RETURN" := by decide +kernel
    rw [hupper]
    simp [keywordStatement]
  have hpeek : peek.run (returnSum n) = ⟨.ok (some (.word "RETURN" false)), returnSum n, [], 0⟩ := rfl
  refine (run_bind_of_ok hpeek).trans ?_
  dsimp only
  rw [hkeyword]
  exact run_bind_of_ok hreturn

/-- Nothing is left behind the last statement. -/
theorem statements_run_of_ok_nil {inner : Grammar} {t : Token} {tail : Tokens} {a : Option Statement} {ns : List Note}
    {count : Nat} (h : inner.statement.run (t :: tail) = ⟨.ok a, [], ns, count⟩) :
    (statements inner []).run (t :: tail) = ⟨.ok a.toList, [], ns, count⟩ := by
  have hprogress : Parser.progress (t :: tail) [] = [] := if_pos (Nat.succ_pos _)
  rw [statements_run_of_ok h, hprogress, statements_run_nil]
  simp [Except.map]

end Grammar

/-- A sum is read whatever its length. -/
theorem ofTokens_returnSum (n : Nat) :
    Script.ofTokens (returnSum n) = .ok ⟨[.evaluate [sumFrom .literal n]], [], 0⟩ := by
  have hstatement : (Grammar.ofLevels maxNesting).statement.run (returnSum n) =
      ⟨.ok (some (.evaluate [sumFrom .literal n])), [], [], 0⟩ := Grammar.run_anyStatement n 126
  have hstatements : (Grammar.statements (.ofLevels maxNesting) []).run (returnSum n) =
      ⟨.ok [.evaluate [sumFrom .literal n]], [], [], 0⟩ := Grammar.statements_run_of_ok_nil hstatement
  refine Script.ofTokens_eq_ok_iff.2 ?_
  rw [hstatements]
  exact ⟨rfl, rfl, rfl⟩

/-- A further summand makes a sum one level deeper. -/
theorem depth_binary_literal (e : Expr) (op : Operator) :
    (Part.expr (.binary e op .literal)).depth = (Part.expr e).depth + 1 := by
  have hliteral : (Part.expr .literal).depth = 1 := Part.depth_eq _
  have hpos : 0 < (Part.expr e).depth := by
    rw [Part.depth_eq]
    exact Nat.succ_pos _
  rw [Part.depth_eq]
  show most [(Part.expr e).depth, (Part.expr .literal).depth] + 1 = (Part.expr e).depth + 1
  simp only [most, List.foldr_cons, List.foldr_nil, hliteral]
  omega

theorem depth_sumFrom (e : Expr) (n : Nat) : (Part.expr (sumFrom e n)).depth = (Part.expr e).depth + n := by
  induction n generalizing e with
  | zero => rfl
  | succ n ih => rw [sumFrom, ih, depth_binary_literal, Nat.add_assoc, Nat.add_comm 1]

theorem lt_depth_returnSum (n : Nat) : n < (Part.statement (.evaluate [sumFrom .literal n])).depth := by
  rw [Part.depth_eq]
  show n < most [(Part.expr (sumFrom .literal n)).depth] + 1
  simp only [most, List.foldr_cons, List.foldr_nil, depth_sumFrom]
  omega

/-- A short sum is within the bounds. -/
theorem depth_le_returnSum :
    let s : Statement := .evaluate [sumFrom .literal 3]
    Script.ofTokens (returnSum 3) = .ok ⟨[s], [], 0⟩ ∧ (Part.statement s).nesting ≤ 6 * maxNesting ∧
      (Part.statement s).depth ≤ 6 * maxNesting * (Part.statement s).longestRow := by
  intro s
  have hread : Script.ofTokens (returnSum 3) = .ok ⟨[s], [], 0⟩ := ofTokens_returnSum 3
  exact ⟨hread, depth_le_of_ofTokens hread s (List.mem_singleton_self _)⟩

/-- The limit on nesting bounds the depth of no script. -/
theorem depth_unbounded :
    ¬ ∃ bound, ∀ ts script, Script.ofTokens ts = .ok script →
      ∀ s ∈ script.statements, (Part.statement s).depth ≤ bound := by
  rintro ⟨bound, hbound⟩
  have hle := hbound _ _ (ofTokens_returnSum bound) _ (List.mem_singleton_self _)
  exact Nat.not_le.2 (lt_depth_returnSum bound) hle

end ChangeImpact.Sql
