import ChangeImpact.Proofs.Parallel.Statement
import ChangeImpact.Proofs.Run

/-!
# Scripts that are alike

The statements of a script are read one after the other (`Grammar.statements_run_of_ok` and its companions), and the
loop over them fails only where something is nested too deeply, so that a script is what the loop gives
(`Script.ofTokens_eq_ok_iff`).  Of texts that are alike and end together, both are refused for the same reason, or both
are read as scripts of one form, with as many diagnostics on the same lines: `Likeness.ofTokens_alike`.
-/

namespace ChangeImpact.Sql

open ChangeImpact.Sql.Parser

/-! ### The loop over statements -/

/-- Without keywords to stop at, nothing is one. -/
theorem Tokens.hasKeywordOf_nil (ts : Tokens) (n : Nat) : ts.hasKeywordOf n [] = false := by
  cases h : ts.keyword? n <;> simp [Tokens.hasKeywordOf, h]

namespace Grammar

variable {inner : Grammar} {t : Token} {tail us : Tokens} {ns : List Note} {count : Nat}

theorem statements_run_nil : (statements inner []).run [] = ⟨.ok [], [], [], 0⟩ := by
  simp only [statements, recovering, recoverRun]

/-- A statement that is read is followed by the others. -/
theorem statements_run_of_ok {a : Option Statement} (h : inner.statement.run (t :: tail) = ⟨.ok a, us, ns, count⟩) :
    (statements inner []).run (t :: tail) =
      let r := (statements inner []).run (progress (t :: tail) us)
      ⟨r.result.map (a.toList ++ ·), r.rest, ns ++ r.notes, count + r.dynamicSql⟩ := by
  simp only [statements, recovering]
  rw [recoverRun]
  simp only [Tokens.hasKeywordOf_nil, h, Bool.false_eq_true, if_false]

/-- A statement that fails is noted, and what belongs to it is passed over. -/
theorem statements_run_of_unexpected {n : Note}
    (h : inner.statement.run (t :: tail) = ⟨.error (.unexpected n), us, ns, count⟩) :
    (statements inner []).run (t :: tail) =
      let next := progress (t :: tail) us
      let r := (statements inner []).run (next.drop (Tokens.boundaryDistance 0 0 next))
      ⟨r.result, r.rest, ns ++ n :: r.notes, count + r.dynamicSql⟩ := by
  simp only [statements, recovering]
  rw [recoverRun]
  simp only [Tokens.hasKeywordOf_nil, h, Bool.false_eq_true, if_false]

theorem statements_run_of_tooDeep {line? : Option Nat}
    (h : inner.statement.run (t :: tail) = ⟨.error (.tooDeep line?), us, ns, count⟩) :
    (statements inner []).run (t :: tail) = ⟨.error (.tooDeep line?), us, ns, count⟩ := by
  simp only [statements, recovering]
  rw [recoverRun]
  simp only [Tokens.hasKeywordOf_nil, h, Bool.false_eq_true, if_false]

/-- The loop fails only where a statement is nested too deeply. -/
theorem statements_run_ne_unexpected (inner : Grammar) (ts : Tokens) (n : Note) :
    ((statements inner []).run ts).result ≠ .error (.unexpected n) := by
  induction hlength : ts.length using Nat.strongRecOn generalizing ts with
  | _ length ih =>
    cases ts with
    | nil => simp [statements_run_nil]
    | cons t tail =>
      have hlt := progress_length_lt t tail (inner.statement.run (t :: tail)).rest
      generalize hr : inner.statement.run (t :: tail) = r at hlt
      obtain ⟨result, us, ns, count⟩ := r
      match result with
      | .ok a =>
        rw [statements_run_of_ok hr]
        exact fun h => ih _ (hlength ▸ hlt) _ rfl (map_eq_error_iff.1 h)
      | .error (.unexpected n) =>
        rw [statements_run_of_unexpected hr]
        exact ih _ (hlength ▸ Nat.lt_of_le_of_lt (by simp) hlt) _ rfl
      | .error (.tooDeep line?) => simp [statements_run_of_tooDeep hr]

end Grammar

/-! ### Scripts -/

namespace Script

variable {ts : Tokens} {x : Script}

theorem ofTokens_eq_ok_iff : ofTokens ts = .ok x ↔
    ((Grammar.statements (.ofLevels maxNesting) []).run ts).result = .ok x.statements ∧
      ((Grammar.statements (.ofLevels maxNesting) []).run ts).notes.map (·.diagnostic (lastLine ts)) =
        x.diagnostics ∧
      ((Grammar.statements (.ofLevels maxNesting) []).run ts).dynamicSql = x.dynamicSql := by
  have hne := Grammar.statements_run_ne_unexpected (.ofLevels maxNesting) ts
  obtain ⟨statements, diagnostics, dynamicSql⟩ := x
  unfold ofTokens
  dsimp only
  generalize (Grammar.statements (.ofLevels maxNesting) []).run ts = r at hne ⊢
  match h : r.result with
  | .ok statements => simp
  | .error (.tooDeep line?) => simp
  | .error (.unexpected n) => exact absurd h (hne n)

end Script

namespace Likeness

variable {L : Likeness} {ts ts' : Tokens}

theorem Inside.lastLine_eq (hmore : L.more = []) (h : L.Inside ts ts') : lastLine ts = lastLine ts' := by
  have hlines : ts.map Token.line = ts'.map Token.line := by
    induction h with
    | done => rfl
    | last _ ht => rw [hmore, List.map_singleton, List.map_singleton, ht.line_eq]
    | next ht _ _ ih => rw [List.map_cons, List.map_cons, ht.line_eq, ih]
  rw [lastLine, lastLine, ← List.getLast?_map, hlines, List.getLast?_map]

/-- Alike notes become diagnostics on the same lines. -/
theorem map_line_diagnostic_eq {ns ns' : List Note} (h : List.Forall₂ L.AlikeNote ns ns') (n : Nat) :
    (ns.map (·.diagnostic n)).map (·.line) = (ns'.map (·.diagnostic n)).map (·.line) := by
  induction h with
  | nil => rfl
  | cons hn _ ih => exact congrArg₂ List.cons (congrArg (·.getD n) hn.line?_eq) ih

theorem ofTokens_alike (hmore : L.more = []) (h : L.Inside ts ts') :
    (∃ e, Script.ofTokens ts = .error e ∧ Script.ofTokens ts' = .error e) ∨
      ∃ x y, Script.ofTokens ts = .ok x ∧ Script.ofTokens ts' = .ok y ∧ L.Same x.statements y.statements ∧
        x.diagnostics.map (·.line) = y.diagnostics.map (·.line) ∧ x.dynamicSql = y.dynamicSql := by
  have hreplies : L.Replies L.Stays ((Grammar.statements (.ofLevels maxNesting) []).run ts)
      ((Grammar.statements (.ofLevels maxNesting) []).run ts') :=
    within_statements (respects_ofLevels maxNesting) hmore [] h
  have hne := Grammar.statements_run_ne_unexpected (.ofLevels maxNesting) ts
  have hlast : lastLine ts = lastLine ts' := h.lastLine_eq hmore
  unfold Script.ofTokens
  dsimp only
  rw [hlast]
  generalize (Grammar.statements (.ofLevels maxNesting) []).run ts = r at hreplies hne ⊢
  generalize (Grammar.statements (.ofLevels maxNesting) []).run ts' = r' at hreplies ⊢
  cases hreplies with
  | tooDeep => exact .inl ⟨_, rfl, rfl⟩
  | @unexpected n => exact absurd rfl (hne n)
  | ok hsame hns =>
    exact .inr ⟨_, _, rfl, rfl, hsame.1, map_line_diagnostic_eq hns _, rfl⟩

end Likeness

end ChangeImpact.Sql
