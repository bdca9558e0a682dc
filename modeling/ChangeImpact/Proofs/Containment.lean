import ChangeImpact.Proofs.Parallel.Script
import Mathlib

/-!
# A syntax error ends at the semicolon

What stands in front of a semicolon is read as if nothing came behind it, however malformed it is, unless it holds a
parenthesis or a word whose statement may go on beyond semicolons.  So reading what is in front and behind comes to the
same as reading both apart: `Script.ofTokens_append_semicolon`.

Two readings are compared: that of the tokens up to the semicolon, and that of all tokens.  They are alike with nothing
but equal words taken for the same (`Likeness.goingOn`), and the loop over statements passes the semicolon between two
statements only.
-/

namespace ChangeImpact.Sql

open ChangeImpact.Sql.Parser

/-! ### The same text that goes on -/

namespace Likeness

/-- The same words, and more of them behind. -/
def goingOn (more : Tokens) : Likeness where
  form := id
  more := more
  executes_eq h := congrArg (Text.sameAsciiCase · "sp_executesql") h

variable {α : Type} {more : Tokens}

theorem Same.eq [Renames α] {a b : α} (h : (goingOn more).Same a b) : a = b := by
  have heq : rename id a = rename id b := h
  rwa [rename_id, rename_id] at heq

theorem Alike.eq {l l' : Lexeme} (h : (goingOn more).Alike l l') : l = l' := by
  cases h with
  | same => rfl
  | word hform => exact congrArg (Lexeme.word · _) hform

theorem AlikeNote.eq {n n' : Note} (h : (goingOn more).AlikeNote n n') : n = n' := by
  obtain ⟨line?, problem⟩ := n
  obtain ⟨line?', problem'⟩ := n'
  obtain ⟨hline, hproblem, _⟩ := h
  obtain rfl : line? = line?' := hline
  cases (hproblem : (goingOn more).AlikeProblem problem problem') with
  | same => rfl
  | expected wanted hl => rw [hl.eq]
  | noBody hname => rw [hname.eq]

/-- The notes are the same, and none of them is made at an end behind which more follows. -/
theorem forall₂_note {ns ns' : List Note} (h : List.Forall₂ (goingOn more).AlikeNote ns ns') :
    ns = ns' ∧ ∀ n ∈ ns, n.line? = none → more = [] := by
  induction h with
  | nil => exact ⟨rfl, nofun⟩
  | cons hn _ ih =>
    refine ⟨by rw [hn.eq, ih.1], fun m hm => ?_⟩
    obtain rfl | hm := List.mem_cons.1 hm
    · exact hn.more_eq_nil
    · exact ih.2 m hm

/-- Tokens up to a semicolon that nothing in front of it spans. -/
theorem inside_goingOn {ts : Tokens} (hts : ∀ u ∈ ts, u.lexeme.spans = false) {t : Token} (ht : t.lexeme = .semicolon) :
    (goingOn more).Inside (ts ++ [t]) (ts ++ t :: more) := by
  induction ts with
  | nil => exact .last ht ⟨.refl _, rfl⟩
  | cons u ts ih =>
    have hspans : u.lexeme.spans = false := hts u List.mem_cons_self
    refine .next ⟨.refl _, rfl⟩ (fun h => ?_) (ih fun v hv => hts v (List.mem_cons_of_mem _ hv))
    exact absurd (hspans.symm.trans h) Bool.false_ne_true

end Likeness

/-! ### Reading on behind a semicolon -/

namespace Likeness

variable {L : Likeness} {more : Tokens} {inner : Grammar}

/-- What comes in front of the semicolon is read, and then what comes behind it; by induction on what is left in
front. -/
theorem statements_run_goingOn (hinner : (goingOn more).Respects inner)
    (hsemi : ∀ {ts n}, ts.lexeme? 0 = some .semicolon → (inner.statement.run ts).result ≠ .error (.unexpected n))
    {ts ts' : Tokens} (h : (goingOn more).After ts ts') {as : List Statement}
    (has : ((Grammar.statements inner []).run ts).result = .ok as) :
    ((Grammar.statements inner []).run ts').result = ((Grammar.statements inner []).run more).result.map (as ++ ·) ∧
      ((Grammar.statements inner []).run ts').notes =
        ((Grammar.statements inner []).run ts).notes ++ ((Grammar.statements inner []).run more).notes ∧
      ((Grammar.statements inner []).run ts').dynamicSql =
        ((Grammar.statements inner []).run ts).dynamicSql + ((Grammar.statements inner []).run more).dynamicSql ∧
      ∀ n ∈ ((Grammar.statements inner []).run ts).notes, n.line? = none → more = [] := by
  have hnil {as : List Statement} (has : ((Grammar.statements inner []).run []).result = .ok as) :
      ((Grammar.statements inner []).run more).result =
        ((Grammar.statements inner []).run more).result.map (as ++ ·) := by
    rw [Grammar.statements_run_nil] at has
    obtain rfl : [] = as := Except.ok.inj has
    cases ((Grammar.statements inner []).run more).result <;> rfl
  induction hlength : ts.length using Nat.strongRecOn generalizing ts ts' as with
  | _ length ih =>
    obtain hts | ⟨rfl, rfl⟩ := h
    · cases ts with
      | nil =>
        obtain ⟨hmore, rfl⟩ := hts.eq_nil
        obtain rfl : more = [] := hmore
        exact ⟨hnil has, by simp [Grammar.statements_run_nil], by simp [Grammar.statements_run_nil], fun _ _ _ => rfl⟩
      | cons t tail =>
        obtain ⟨t', tail', rfl, ht, _⟩ : ∃ t' tail', ts' = t' :: tail' ∧ _ := hts.uncons
        have hreplies : (goingOn more).Replies (goingOn more).Leaves (inner.statement.run (t :: tail))
            (inner.statement.run (t' :: tail')) := hinner.statement hts
        have hlt := progress_length_lt t tail (inner.statement.run (t :: tail)).rest
        have hhead : t.lexeme = .semicolon → ∀ n, (inner.statement.run (t :: tail)).result ≠ .error (.unexpected n) :=
          fun hl n => hsemi (congrArg some hl)
        generalize hr : inner.statement.run (t :: tail) = r at hreplies hlt hhead
        generalize hr' : inner.statement.run (t' :: tail') = r' at hreplies
        cases hreplies with
        | tooDeep =>
          rw [Grammar.statements_run_of_tooDeep hr] at has
          cases has
        | @unexpected n n' us us' ns ns' count hn hus hns =>
          have hnext := hts.progress (.inl fun hl => hhead hl n rfl) hus
          obtain ⟨heq, hafter⟩ := hnext.boundaryDistance 0 0 (.inl rfl)
          rw [Grammar.statements_run_of_unexpected hr] at has ⊢
          obtain ⟨rfl, hbefore⟩ := forall₂_note hns
          rw [Grammar.statements_run_of_unexpected hr', ← hn.eq]
          dsimp only at has ⊢
          rw [← heq]
          obtain ⟨hresult, hnotes, hcount, hlines⟩ :=
            ih _ (hlength ▸ Nat.lt_of_le_of_lt (by simp) hlt) hafter has rfl
          refine ⟨hresult, by rw [hnotes, List.append_assoc, List.cons_append], by rw [hcount, Nat.add_assoc],
            fun m hm hnone => ?_⟩
          obtain hm | hm := List.mem_append.1 hm
          · exact hbefore m hm hnone
          · obtain rfl | hm := List.mem_cons.1 hm
            · exact hn.more_eq_nil hnone
            · exact hlines m hm hnone
        | @ok a b us us' ns ns' count hab hns =>
          have hnext := After.progress hts hab.2
          rw [Grammar.statements_run_of_ok hr] at has ⊢
          obtain ⟨rfl, hbefore⟩ := forall₂_note hns
          rw [Grammar.statements_run_of_ok hr', ← hab.1.eq]
          dsimp only at has ⊢
          obtain ⟨bs, hrest, rfl⟩ := map_eq_ok_iff.1 has
          obtain ⟨hresult, hnotes, hcount, hlines⟩ := ih _ (hlength ▸ hlt) hnext hrest rfl
          refine ⟨?_, by rw [hnotes, List.append_assoc], by rw [hcount, Nat.add_assoc], fun m hm hnone => ?_⟩
          · rw [hresult]
            cases ((Grammar.statements inner []).run more).result with
            | error => rfl
            | ok => exact congrArg Except.ok (List.append_assoc ..).symm
          · obtain hm | hm := List.mem_append.1 hm
            · exact hbefore m hm hnone
            · exact hlines m hm hnone
    · exact ⟨hnil has, by rw [Grammar.statements_run_nil]; rfl, by simp [Grammar.statements_run_nil],
        by simp [Grammar.statements_run_nil]⟩

end Likeness

/-! ### Scripts -/

/-- At a semicolon a statement is read as nothing. -/
theorem Grammar.statement_run_of_semicolon (levels : Nat) {ts : Tokens} (h : ts.lexeme? 0 = some .semicolon)
    (n : Note) : ((ofLevels levels).statement.run ts).result ≠ .error (.unexpected n) := by
  cases levels with
  | zero => exact nofun
  | succ levels =>
    cases ts with
    | nil => cases h
    | cons t tail =>
      obtain ⟨l, line⟩ := t
      obtain rfl : l = .semicolon := Option.some.inj h
      exact nofun

namespace Script

variable {as bs ts : Tokens} {t : Token} {x y : Script}

/-- Whatever stands in front of a semicolon, a syntax error included, has no effect behind it, if nothing that may span
the semicolon is in front. -/
theorem ofTokens_append_semicolon (has : ∀ u ∈ as, u.lexeme.spans = false) (ht : t.lexeme = .semicolon)
    (hx : ofTokens (as ++ [t]) = .ok x) (hy : ofTokens bs = .ok y) :
    ∃ z, ofTokens (as ++ [t] ++ bs) = .ok z ∧ z.statements = x.statements ++ y.statements ∧
      z.diagnostics = x.diagnostics ++ y.diagnostics ∧ z.dynamicSql = x.dynamicSql + y.dynamicSql := by
  obtain ⟨hxresult, hxnotes, hxcount⟩ := ofTokens_eq_ok_iff.1 hx
  obtain ⟨hyresult, hynotes, hycount⟩ := ofTokens_eq_ok_iff.1 hy
  have hinside : (Likeness.goingOn bs).Inside (as ++ [t]) (as ++ t :: bs) := Likeness.inside_goingOn has ht
  obtain ⟨hresult, hnotes, hcount, hlines⟩ := Likeness.statements_run_goingOn (Likeness.respects_ofLevels maxNesting)
    (Grammar.statement_run_of_semicolon maxNesting · _) (.inl hinside) hxresult
  rw [List.append_assoc, List.singleton_append]
  -- a note at the end of a part is one at the end of the whole
  have hfirst : ((Grammar.statements (.ofLevels maxNesting) []).run (as ++ [t])).notes.map
      (·.diagnostic (lastLine (as ++ t :: bs))) = x.diagnostics := by
    rw [← hxnotes]
    refine List.map_congr_left fun n hn => ?_
    cases hline : n.line? with
    | some line => simp [Note.diagnostic, hline]
    | none => rw [hlines n hn hline]
  have hsecond : ((Grammar.statements (.ofLevels maxNesting) []).run bs).notes.map
      (·.diagnostic (lastLine (as ++ t :: bs))) = y.diagnostics := by
    rw [← hynotes]
    cases bs with
    | nil => rw [Grammar.statements_run_nil, List.map_nil, List.map_nil]
    | cons u us =>
      have hlast : lastLine (as ++ t :: u :: us) = lastLine (u :: us) := by
        simp [lastLine, List.getLast?_append, List.getLast?_cons]
      rw [hlast]
  refine ⟨⟨x.statements ++ y.statements, x.diagnostics ++ y.diagnostics, x.dynamicSql + y.dynamicSql⟩,
    ofTokens_eq_ok_iff.2 ⟨?_, ?_, ?_⟩, rfl, rfl, rfl⟩
  · rw [hresult, hyresult]
    rfl
  · rw [hnotes, List.map_append, hfirst, hsecond]
  · rw [hcount, hxcount, hycount]

/-- `SELECT FROM;` lacks the columns, and `TRUNCATE TABLE a` behind it is read. -/
theorem ofTokens_append_semicolon_missingColumns :
    ∃ z, ofTokens ([⟨.word "SELECT" false, 1⟩, ⟨.word "FROM" false, 1⟩] ++ [⟨.semicolon, 1⟩] ++
        [⟨.word "TRUNCATE" false, 2⟩, ⟨.word "TABLE" false, 2⟩, ⟨.word "a" false, 2⟩]) = .ok z ∧
      z.statements = [] ++ [.truncate ⟨["a"]⟩] ∧
      z.diagnostics = [⟨1, .expected "expression" (some (.word "FROM" false))⟩] ++ [] ∧ z.dynamicSql = 0 + 0 :=
  ofTokens_append_semicolon
    (x := ⟨[], [⟨1, .expected "expression" (some (.word "FROM" false))⟩], 0⟩) (y := ⟨[.truncate ⟨["a"]⟩], [], 0⟩)
    (by decide +kernel) rfl (by cbv) (by cbv)

end Script

end ChangeImpact.Sql
