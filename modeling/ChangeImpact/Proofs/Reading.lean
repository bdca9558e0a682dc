import ChangeImpact.Proofs.Advance
import ChangeImpact.Proofs.Counter
import ChangeImpact.Proofs.NoteOrder
import ChangeImpact.Proofs.Parallel.Script

/-!
# A definition is read to its end

Reading terminates on all tokens, never goes back, and leaves no token if it succeeds (`reads_to_end`).

* `Procedure.readsForward`: what holds of every function, from any counter of nestings within the limit;
* `Grammar.readsSomething_ofLevels`: an expression, a query, a source and a name take at least one token each;
* `Grammar.turn`: the loop over statements goes on behind the first token of its turn, whatever became of the statement.
-/

namespace ChangeImpact.Sql

/-! ### Every function -/

/-- From every counter within the limit there is a run over all tokens. It ends with the reply of the parser, does not
go back, and leaves the counter as it was, without having raised it above the limit. -/
structure ReadsForward {α : Type} (F : Grammar → Parser α) : Prop where
  exists_run : ∀ ts c, c.value ≤ maxNesting → ∃ r c', Runs F ts c r c'
  reply_eq : ∀ ts c r c', c.value ≤ maxNesting → Runs F ts c r c' → r = (F (.ofLevels (maxNesting - c.value))).run ts
  suffix : ∀ ts c r c', c.value ≤ maxNesting → Runs F ts c r c' → r.rest <:+ ts
  value_eq : ∀ ts c r c', Runs F ts c r c' → c'.value = c.value
  peak_le : ∀ ts c r c', Runs F ts c r c' → c'.peak ≤ max c.peak maxNesting

theorem Procedure.readsForward {α : Type} {F : Grammar → Parser α} (hF : Procedure F) : ReadsForward F where
  exists_run ts _ hc := hF.exists_run ts hc
  reply_eq _ _ _ _ hc h := h.reply_eq hc
  suffix _ _ _ _ hc h := h.suffix hc
  value_eq _ _ _ _ h := h.value_eq
  peak_le _ _ _ _ h := h.peak_le.2

/-! ### Loops over items -/

namespace Parser

/-- What a turn goes on with is behind its first token. -/
theorem progress_suffix_tail {t : Token} {tail rest : Tokens} (h : rest <:+ t :: tail) :
    progress (t :: tail) rest <:+ tail := by
  rcases List.suffix_cons_iff.1 (progress_suffix h) with heq | hsuffix
  · exact absurd (congrArg List.length heq) (Nat.ne_of_lt (progress_length_lt t tail rest))
  · exact hsuffix

/-- A loop that succeeds has come to the end or to a stopping place. -/
theorem rest_eq_nil_or_stop {α : Type} {stop : Tokens → Bool} {resume : Tokens → Nat} {item : Parser (Option α)}
    {ts : Tokens} (as : List α) (h : ((recovering stop resume item).run ts).result = .ok as) :
    ((recovering stop resume item).run ts).rest = [] ∨ stop ((recovering stop resume item).run ts).rest := by
  change (recoverRun stop resume item ts).result = .ok as at h
  change (recoverRun stop resume item ts).rest = [] ∨ stop (recoverRun stop resume item ts).rest
  fun_induction recoverRun stop resume item ts generalizing as with
  | case1 => exact .inl rfl
  | case2 t tail hstop => exact .inr hstop
  | case3 => cases h
  | case4 t tail _ r next n _ others ih => exact ih as h
  | case5 t tail _ r next a? _ others ih =>
    obtain ⟨bs, hothers, _⟩ := map_eq_ok_iff.1 h
    exact ih bs hothers

end Parser

open ChangeImpact.Sql.Parser

namespace Grammar

/-- A turn of the loop over statements that starts at `t`. Whether the statement is read, passed over or fails, the next
turn starts behind `t` and no farther back than the statement was read. Only what is nested too deeply ends the loop. -/
structure Turn (inner : Grammar) (stopWords : List String) (t : Token) (tail : Tokens) : Prop where
  read : ∀ a?, (inner.statement.run (t :: tail)).result = .ok a? →
    ∃ next, next <:+ tail ∧ next <:+ (inner.statement.run (t :: tail)).rest ∧
      let r := (statements inner stopWords).run next
      (statements inner stopWords).run (t :: tail) =
        ⟨r.result.map (a?.toList ++ ·), r.rest, (inner.statement.run (t :: tail)).notes ++ r.notes,
          (inner.statement.run (t :: tail)).dynamicSql + r.dynamicSql⟩
  failed : ∀ n, (inner.statement.run (t :: tail)).result = .error (.unexpected n) →
    ∃ next, next <:+ tail ∧ next <:+ (inner.statement.run (t :: tail)).rest ∧
      let r := (statements inner stopWords).run next
      (statements inner stopWords).run (t :: tail) =
        ⟨r.result, r.rest, (inner.statement.run (t :: tail)).notes ++ n :: r.notes,
          (inner.statement.run (t :: tail)).dynamicSql + r.dynamicSql⟩
  tooDeep : ∀ line?, (inner.statement.run (t :: tail)).result = .error (.tooDeep line?) →
    ((statements inner stopWords).run (t :: tail)).result = .error (.tooDeep line?)

theorem turn (inner : Grammar) {stopWords : List String} {t : Token} {tail : Tokens}
    (hstop : Tokens.hasKeywordOf (t :: tail) 0 stopWords = false) : inner.Turn stopWords t tail := by
  have hsuffix : (inner.statement.run (t :: tail)).rest <:+ t :: tail := inner.statement.suffix _
  have htail := progress_suffix_tail hsuffix
  have hrest := progress_suffix_rest hsuffix
  constructor
  case read =>
    intro a? ha
    refine ⟨_, htail, hrest, ?_⟩
    simp only [statements, recovering]
    rw [recoverRun]
    simp only [hstop, Bool.false_eq_true, if_false, ha]
  case failed =>
    intro n hn
    have hdrop (us : Tokens) : us.drop (Tokens.boundaryDistance 0 0 us) <:+ us := List.drop_suffix ..
    refine ⟨_, (hdrop _).trans htail, (hdrop _).trans hrest, ?_⟩
    simp only [statements, recovering]
    rw [recoverRun]
    simp only [hstop, Bool.false_eq_true, if_false, hn]
  case tooDeep =>
    intro line? hline
    simp only [statements, recovering]
    rw [recoverRun]
    simp only [hstop, Bool.false_eq_true, if_false, hline]

/-! ### What reads at least one token -/

/-- All functions that give an expression, a query, a source or a name read at least one token when they succeed. -/
structure ReadsSomething (g : Grammar) : Prop where
  nested : g.Advances
  exprs : ∀ p ∈ [disjunction g, conjunction g, negatedExpr g, comparison g, additive g, signedExpr g, primary g,
    namedExpr g, parenthesized g, caseExpr g, castExpr g, subquery g, inOperand g], p.Advances
  /-- The word stands ahead. -/
  wordExpr : ∀ text ts, ts ≠ [] → (wordExpr g text).AdvancesOn ts
  compareWith : ∀ left c, (compareWith g left c).Advances
  query : (fullQuery g).Advances
  bodies : ∀ p ∈ [queryBody g, queryOperand g], p.Advances
  select : (selectBlock g).Advances
  sources : ∀ p ∈ [anySource g, groupedSource g, namedSource g], p.Advances
  name : objectName.Advances

theorem readsSomething_ofLevels (levels : Nat) : (ofLevels levels).ReadsSomething := by
  have hlevels : (ofLevels levels).Advances := advances_ofLevels levels
  generalize ofLevels levels = g at hlevels
  constructor
  case nested => exact hlevels
  case wordExpr => exact fun text ts hts => advancesOn_wordExpr g text hts
  case exprs | bodies | sources =>
    simp only [List.forall_mem_cons, List.not_mem_nil, false_implies, implies_true, and_true]
    and_intros <;> infer_instance
  all_goals infer_instance

end Grammar

/-! ### Definitions as a whole -/

/-- Whatever is put together from steps, loops and nested calls terminates on all tokens, reads forward, and keeps the
counter of nestings within the limit; and so are all functions that read part of a definition. At all levels, every
expression, query, source and name takes at least one token, and so does every turn of the loop over statements. A whole
definition is read with the counter at zero before and after, and to its last token if it is read with success. -/
theorem reads_to_end (ts : Tokens) :
    (∀ {α : Type} (F : Grammar → Parser α), Procedure F → ReadsForward F) ∧
    Grammar.AllProcedures ∧
    (∀ levels, (Grammar.ofLevels levels).ReadsSomething) ∧
    (∀ inner stopWords t tail, Tokens.hasKeywordOf (t :: tail) 0 stopWords = false →
      Grammar.Turn inner stopWords t tail) ∧
    (∃ r c, Runs (Grammar.statements · []) ts .zero r c) ∧
    ∀ r c, Runs (Grammar.statements · []) ts .zero r c →
      r = (Grammar.statements (.ofLevels maxNesting) []).run ts ∧ c.value = 0 ∧ c.peak ≤ maxNesting ∧
      ∀ script, Script.ofTokens ts = .ok script → r.rest = [] := by
  have hstatements : ReadsForward (Grammar.statements · []) := (Grammar.procedure_statements []).readsForward
  have hzero : Counter.zero.value ≤ maxNesting := Nat.zero_le _
  refine ⟨fun F hF => hF.readsForward, Grammar.allProcedures, Grammar.readsSomething_ofLevels,
    fun inner _ _ _ => inner.turn, hstatements.exists_run ts _ hzero, fun r c hr => ?_⟩
  have hreply := hstatements.reply_eq ts _ r c hzero hr
  refine ⟨hreply, hstatements.value_eq ts _ r c hr, hstatements.peak_le ts _ r c hr, fun script hscript => ?_⟩
  rw [hreply]
  have hok := (Script.ofTokens_eq_ok_iff.1 hscript).1
  refine (rest_eq_nil_or_stop _ hok).resolve_right fun hstop => ?_
  rw [Tokens.hasKeywordOf_nil] at hstop
  cases hstop

end ChangeImpact.Sql
