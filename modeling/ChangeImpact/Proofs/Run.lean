import ChangeImpact.Sql.Parser

/-!
# What parsers answer

Equations for the answer of a parser on given tokens.  They are about parsers that succeed without noting or counting
anything, and are put together by transitivity along the steps of a parser.
-/

namespace ChangeImpact.Sql.Parser

/-! ### Results -/

section Results

variable {ε α β : Type} {result : Except ε α} {f : α → β}

theorem map_eq_ok_iff {b : β} : result.map f = .ok b ↔ ∃ a, result = .ok a ∧ f a = b := by
  cases result <;> simp [Except.map]

theorem map_eq_error_iff {e : ε} : result.map f = .error e ↔ result = .error e := by
  cases result <;> simp [Except.map]

end Results

/-! ### Steps -/

variable {α β ω : Type} {p : Parser α} {f : α → Parser β} {a b : α} {ts us : Tokens}

theorem run_bind_of_ok (h : p.run ts = ⟨.ok a, us, [], 0⟩) : (p >>= f).run ts = (f a).run us := by
  change (Parser.bind p f).run ts = (f a).run us
  simp only [Parser.bind, h, List.nil_append, Nat.zero_add]

theorem run_acceptIf {test : Tokens → Bool} (h : test ts = true) (n : Nat) :
    (acceptIf test n).run ts = ⟨.ok true, ts.drop n, [], 0⟩ := by
  have hlook : (look test).run ts = ⟨.ok true, ts, [], 0⟩ := by simp only [look, h]
  exact run_bind_of_ok hlook

theorem run_acceptIf_of_not {test : Tokens → Bool} (h : test ts = false) (n : Nat) :
    (acceptIf test n).run ts = ⟨.ok false, ts, [], 0⟩ := by
  have hlook : (look test).run ts = ⟨.ok false, ts, [], 0⟩ := by simp only [look, h]
  exact run_bind_of_ok hlook

section Loop

variable {separator : Tokens → Option (Nat × ω)} {body : α → ω → Parser α}

theorem run_loop_nil : (loop separator body a).run [] = ⟨.ok a, [], [], 0⟩ := by
  simp only [loop, loopRun]

/-- The loop ends in front of anything but a separator. -/
theorem run_loop_of_none (h : separator ts = none) : (loop separator body a).run ts = ⟨.ok a, ts, [], 0⟩ := by
  cases ts with
  | nil => exact run_loop_nil
  | cons t tail => simp only [loop, loopRun, h]

/-- The loop goes on behind a separator and what the body reads there. -/
theorem run_loop_of_some {t : Token} {extra : Nat} {o : ω} (h : separator (t :: ts) = some (extra, o))
    (hbody : (body a o).run (ts.drop extra) = ⟨.ok b, us, [], 0⟩) :
    (loop separator body a).run (t :: ts) = (loop separator body b).run us := by
  simp only [loop]
  rw [loopRun]
  simp only [h, hbody, List.nil_append, Nat.zero_add]

/-- Nothing is left for a loop behind a parser that reads everything. -/
theorem run_bind_loop_of_ok (h : p.run ts = ⟨.ok a, [], [], 0⟩) :
    (p >>= loop separator body).run ts = ⟨.ok a, [], [], 0⟩ := by
  rw [run_bind_of_ok h, run_loop_nil]

end Loop

end ChangeImpact.Sql.Parser
