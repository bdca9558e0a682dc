import ChangeImpact.Proofs.DynamicCalls
import ChangeImpact.Proofs.NoteOrder
import ChangeImpact.Proofs.Tally

/-!
# The diagnostics of a definition

If the lines of the tokens do not fall, neither do those of the diagnostics: problems are noted on the way through the
tokens (`NotedOnWay`), and the line of a position does not fall on this way (`lineAt_le`).  A problem at the end of the
text is reported on the line of the last token, so each line is that of a token.

The calls whose target is known only when they run are told apart from all other problems by their message
(`Problem.message_eq_dynamicSql`).  The parser counts as many of them as there are diagnostics with this message, and the
tree holds no more of them than it counts (`diagnostics_of_ofTokens`).
-/

namespace ChangeImpact.Sql

open ChangeImpact.Extraction

/-! ### Lines -/

/-- The line on which a problem is reported that is met before the tokens `us` of the text `ts`. -/
def lineAt (ts us : Tokens) : Nat :=
  us.line?.getD (lastLine ts)

section Lines

variable {ts us vs : Tokens} {ns : List Note}

theorem line_le_lastLine (hts : ts.Pairwise (·.line ≤ ·.line)) {t : Token} (ht : t ∈ ts) : t.line ≤ lastLine ts := by
  obtain rfl | ⟨init, last, rfl⟩ := List.eq_nil_or_concat ts
  · cases ht
  · rw [List.concat_eq_append] at hts ht ⊢
    have hlast : lastLine (init ++ [last]) = last.line := by simp [lastLine]
    rw [hlast]
    rcases List.mem_append.1 ht with ht | ht
    · exact (List.pairwise_append.1 hts).2.2 t ht last List.mem_cons_self
    · exact Nat.le_of_eq (congrArg Token.line (List.mem_singleton.1 ht))

/-- Farther on in the text, the line is no smaller. -/
theorem lineAt_le (hts : ts.Pairwise (·.line ≤ ·.line)) (hus : us <:+ ts) (hvs : vs <:+ us) :
    lineAt ts us ≤ lineAt ts vs := by
  cases us with
  | nil => exact Nat.le_of_eq (by rw [List.suffix_nil.1 hvs])
  | cons u us =>
    cases vs with
    | nil => exact line_le_lastLine hts (hus.mem List.mem_cons_self)
    | cons v vs =>
      rcases List.suffix_cons_iff.1 hvs with heq | hvs
      · exact Nat.le_of_eq (by rw [heq])
      · have hrest := List.pairwise_cons.1 (hts.sublist hus.sublist)
        exact hrest.1 v (hvs.mem List.mem_cons_self)

theorem exists_line_eq_lineAt (hts : ts ≠ []) (hus : us <:+ ts) : ∃ t ∈ ts, t.line = lineAt ts us := by
  cases us with
  | nil =>
    refine ⟨ts.getLast hts, List.getLast_mem hts, ?_⟩
    simp [lineAt, Tokens.line?, lastLine, List.getLast?_eq_some_getLast hts]
  | cons u us => exact ⟨u, hus.mem List.mem_cons_self, rfl⟩

/-- Notes on the way from a position have lines that do not fall, and none is that of an earlier position. -/
theorem NotedOnWay.lines (hts : ts.Pairwise (·.line ≤ ·.line)) (hus : us <:+ ts) (h : NotedOnWay us ns vs) :
    (ns.map (·.diagnostic (lastLine ts))).Pairwise (·.line ≤ ·.line) ∧
      ∀ d ∈ ns.map (·.diagnostic (lastLine ts)), lineAt ts us ≤ d.line := by
  induction h with
  | done => exact ⟨.nil, nofun⟩
  | @note us here vs n ns hhere hline _ ih =>
    obtain ⟨hpairwise, hlater⟩ := ih (hhere.trans hus)
    have hself : (n.diagnostic (lastLine ts)).line = lineAt ts here := congrArg (·.getD (lastLine ts)) hline
    have hle : lineAt ts us ≤ lineAt ts here := lineAt_le hts hus hhere
    constructor
    · exact List.pairwise_cons.2 ⟨fun d hd => Nat.le_trans (Nat.le_of_eq hself) (hlater d hd), hpairwise⟩
    · exact List.forall_mem_cons.2 ⟨Nat.le_trans hle (Nat.le_of_eq hself.symm),
        fun d hd => Nat.le_trans hle (hlater d hd)⟩

/-- Each note on the way is made at a line of the text. -/
theorem NotedOnWay.exists_line_eq (hts : ts ≠ []) (hus : us <:+ ts) (h : NotedOnWay us ns vs) :
    ∀ d ∈ ns.map (·.diagnostic (lastLine ts)), ∃ t ∈ ts, t.line = d.line := by
  induction h with
  | done => exact nofun
  | @note us here vs n ns hhere hline _ ih =>
    refine List.forall_mem_cons.2 ⟨?_, ih (hhere.trans hus)⟩
    obtain ⟨t, ht, heq⟩ := exists_line_eq_lineAt hts (hhere.trans hus)
    exact ⟨t, ht, heq.trans (congrArg (·.getD (lastLine ts)) hline).symm⟩

end Lines

/-! ### Messages -/

/-- No other problem has the message of a call whose target is known only when it runs. -/
theorem Problem.message_eq_dynamicSql {p : Problem} : p.message = Problem.dynamicSql.message ↔ p = .dynamicSql := by
  refine ⟨fun h => ?_, fun h => h ▸ rfl⟩
  have hstart : p.message.toList.take 2 = ['d', 'y'] := by rw [h]; decide
  cases p with
  | dynamicSql => rfl
  | expected wanted found => cases found <;> simp [Problem.message, ToString.toString] at hstart
  | missingEnd => exact absurd hstart (by decide)
  | stray keyword => simp [Problem.message, ToString.toString] at hstart
  | noBody routine => simp [Problem.message, ToString.toString] at hstart

/-! ### Scripts -/

/-- Diagnostics come in the order of the text, each on the line of a token.  Those of calls whose target is known only
when they run have a message of their own, and there are as many of them as the script says and no fewer than such calls
in its tree. -/
theorem diagnostics_of_ofTokens {ts : Tokens} {script : Script} (hts : ts.Pairwise (·.line ≤ ·.line))
    (h : Script.ofTokens ts = .ok script) :
    script.diagnostics.Pairwise (·.line ≤ ·.line) ∧
      (∀ d ∈ script.diagnostics, ∃ t ∈ ts, t.line = d.line) ∧
      script.dynamicSql = script.diagnostics.countP (·.message == Problem.dynamicSql.message) ∧
      (placesOf script.statements).countP (·.part.isDynamicCall) ≤ script.dynamicSql := by
  obtain ⟨hresult, hnotes, hcount⟩ := Script.ofTokens_eq_ok_iff.1 h
  have hlevels : (Grammar.ofLevels maxNesting).InOrder := Grammar.inOrder_ofLevels maxNesting
  have hway := ((Grammar.inOrder_statements (.ofLevels maxNesting) []).reply ts).notes
  rw [← hnotes]
  refine ⟨(hway.lines hts List.suffix_rfl).1, ?_, ?_, ?_⟩
  · cases ts with
    | nil => rw [Grammar.statements_run_nil]; exact nofun
    | cons t tail => exact hway.exists_line_eq (List.cons_ne_nil t tail) List.suffix_rfl
  · rw [Script.dynamicSql_eq h, ← hnotes]
    refine List.countP_congr fun d _ => ?_
    rw [beq_iff_eq, beq_iff_eq]
    exact Problem.message_eq_dynamicSql.symm
  · have hcalls := Grammar.accounts_statements (Grammar.accounts_ofLevels maxNesting) [] ts _ hresult
    rw [Nat.zero_add] at hcalls
    rw [countP_placesOf, ← hcount]
    exact hcalls

/-- `EXEC (@sql);` and, on the next line, `SELECT FROM` -/
def dynamicCallAndError : Tokens :=
  [⟨.word "EXEC" false, 1⟩, ⟨.openParen, 1⟩, ⟨.word "@sql" false, 1⟩, ⟨.closeParen, 1⟩, ⟨.semicolon, 1⟩,
    ⟨.word "SELECT" false, 2⟩, ⟨.word "FROM" false, 2⟩]

/-- The call is noted before the statement that cannot be read. -/
theorem diagnostics_dynamicCallAndError :
    let script : Script :=
      ⟨[.dynamicSql], [⟨1, .dynamicSql⟩, ⟨2, .expected "expression" (some (.word "FROM" false))⟩], 1⟩
    Script.ofTokens dynamicCallAndError = .ok script ∧ script.diagnostics.Pairwise (·.line ≤ ·.line) ∧
      (∀ d ∈ script.diagnostics, ∃ t ∈ dynamicCallAndError, t.line = d.line) ∧
      script.dynamicSql = script.diagnostics.countP (·.message == Problem.dynamicSql.message) ∧
      (placesOf script.statements).countP (·.part.isDynamicCall) ≤ script.dynamicSql := by
  intro script
  have hscript : Script.ofTokens dynamicCallAndError = .ok script := by cbv
  exact ⟨hscript, diagnostics_of_ofTokens (by decide) hscript⟩

end ChangeImpact.Sql
