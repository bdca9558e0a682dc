import ChangeImpact.Proofs.Parallel.Query
import ChangeImpact.Sql.Grammar.Statement

/-!
# Writes and calls side by side

`INSERT`, `UPDATE`, `DELETE`, `MERGE` and `EXEC`, also behind common table expressions, stay within texts that are
alike, if the grammar inside does.
-/

namespace ChangeImpact.Sql.Likeness

open ChangeImpact.Sql.Parser Grammar

variable {L : Likeness}

/-! ### Trees -/

namespace Same

variable {name name' : Name} {assignments assignments' : List Assignment} {sources sources' : List Joined}
  {filter filter' : Option Expr} {exprs exprs' : List Expr} {call call' : Exec} {statement statement' : Statement}

theorem assignment {target target' value value' : Expr} (htarget : L.Same target target')
    (hvalue : L.Same value value') : L.Same (Assignment.mk target value) ⟨target', value'⟩ :=
  congrArg₂ Assignment.mk htarget hvalue

theorem exec (hname : L.Same name name') (hexprs : L.Same exprs exprs') :
    L.Same (Exec.mk name exprs) ⟨name', exprs'⟩ :=
  congrArg₂ Exec.mk hname hexprs

theorem insert {source source' : InsertSource} (hname : L.Same name name') (hsource : L.Same source source') :
    L.Same (Insert.mk name source) ⟨name', source'⟩ :=
  congrArg₂ Insert.mk hname hsource

theorem update (hname : L.Same name name') (hassignments : L.Same assignments assignments')
    (hsources : L.Same sources sources') (hfilter : L.Same filter filter') :
    L.Same (Update.mk name assignments sources filter) ⟨name', assignments', sources', filter'⟩ := by
  simp only [Same, rename] at *
  rw [hname, hassignments, hsources, hfilter]

theorem delete (hname : L.Same name name') (hsources : L.Same sources sources') (hfilter : L.Same filter filter') :
    L.Same (Delete.mk name sources filter) ⟨name', sources', filter'⟩ := by
  simp only [Same, rename] at *
  rw [hname, hsources, hfilter]

theorem mergeClause {action action' : MergeAction} (hfilter : L.Same filter filter') (haction : L.Same action action') :
    L.Same (MergeClause.mk filter action) ⟨filter', action'⟩ :=
  congrArg₂ MergeClause.mk hfilter haction

theorem merge {calledAs calledAs' : Option String} {source source' : Source} {on on' : Expr}
    {clauses clauses' : List MergeClause} (hname : L.Same name name') (hcalled : L.Same calledAs calledAs')
    (hsource : L.Same source source') (hon : L.Same on on') (hclauses : L.Same clauses clauses') :
    L.Same (Merge.mk name calledAs source on clauses) ⟨name', calledAs', source', on', clauses'⟩ := by
  simp only [Same, rename] at *
  rw [hname, hcalled, hsource, hon, hclauses]

end Same

variable {inner : Grammar} (h : L.Respects inner)

/-! ### Assignments -/

theorem passes_assignmentLength : L.Passes 0 assignmentLength := by
  intro ts ts' hts
  obtain ⟨hl, hl'⟩ | ⟨l, l', hl, hl', hll, _, htail⟩ := hts.lexeme? (n := 0)
  · simp only [assignmentLength, hl, hl']
    exact ⟨trivial, hts⟩
  simp only [assignmentLength, hl, hl']
  cases hll with
  | word => exact ⟨rfl, hts⟩
  | same hword =>
    cases l with
    | equals => exact ⟨rfl, htail (.inl (by simp))⟩
    | symbol text =>
      have hin : L.Inside (ts.drop 1) (ts'.drop 1) := htail (.inl (by simp))
      obtain ⟨hequals, hbehind⟩ := Decides.hasLexeme .equals rfl (by decide) hin
      dsimp only at hequals ⊢
      rw [← hequals]
      refine ⟨rfl, ?_⟩
      split_ifs with hboth
      · exact hbehind ((Bool.and_eq_true ..).mp hboth).2
      · exact hin
      · exact hts
    | _ => exact ⟨rfl, hts⟩

theorem within_assignmentOperator : L.Within assignmentOperator assignmentOperator := by
  refine .look_bind fun ts ts' hts => ?_
  obtain ⟨heq, hdrop⟩ := passes_assignmentLength hts
  rw [← heq]
  cases hlength : assignmentLength ts with
  | zero => exact Parallel.fail _ hts
  | succ n => exact Parallel.skip (n + 1) (hlength ▸ hdrop)

include h

theorem within_assignments : L.Within (assignments inner) (assignments inner) := by
  refine .commaSeparated (.ifAccept_bind .hasVariable (.ret rfl) (within_objectName.map .column)
    fun target target' htarget => ?_)
  refine .bind within_assignmentOperator fun _ _ _ => ?_
  exact .bind h.expr fun value value' hvalue => .ret (.assignment htarget hvalue)

theorem within_skipOutput : L.Within (skipOutput inner) (skipOutput inner) := by
  refine .ifAccept (.hasKeyword "OUTPUT") ?_ (.ret rfl)
  have hcolumn : L.Within (do discard inner.expr; discard aliasName) (do discard inner.expr; discard aliasName) :=
    .bind h.expr.discard fun _ _ _ => within_aliasName.discard
  refine .bind (Parallel.commaSeparated hcolumn).discard fun _ _ _ => ?_
  refine .ifAccept (.hasKeyword "INTO") ?_ (.ret rfl)
  exact .bind within_objectName.discard fun _ _ _ => within_skipOptionalGroup

/-! ### Writes -/

theorem within_update : L.Within (update inner) (update inner) := by
  refine .bind (.expectKeyword "UPDATE") fun _ _ _ => ?_
  refine .bind (within_skipTop h) fun _ _ _ => ?_
  refine .bind within_objectName fun target target' htarget => ?_
  refine .bind within_skipTableHints fun _ _ _ => ?_
  refine .bind (.expectKeyword "SET") fun _ _ _ => ?_
  refine .bind (within_assignments h) fun assignments assignments' hassignments => ?_
  refine .bind (within_skipOutput h) fun _ _ _ => ?_
  refine .bind (within_fromClause h) fun sources sources' hsources => ?_
  refine .bind (within_whereClause h) fun filter filter' hfilter => ?_
  exact .bind (within_skipKeywordGroup "OPTION") fun _ _ _ => .ret (.update htarget hassignments hsources hfilter)

theorem within_delete : L.Within (delete inner) (delete inner) := by
  refine .bind (.expectKeyword "DELETE") fun _ _ _ => ?_
  refine .bind (within_skipTop h) fun _ _ _ => ?_
  refine .bind (Parallel.acceptKeyword "FROM").discard fun _ _ _ => ?_
  refine .bind within_objectName fun target target' htarget => ?_
  refine .bind within_skipTableHints fun _ _ _ => ?_
  refine .bind (within_skipOutput h) fun _ _ _ => ?_
  refine .bind (within_fromClause h) fun sources sources' hsources => ?_
  refine .bind (within_whereClause h) fun filter filter' hfilter => ?_
  exact .bind (within_skipKeywordGroup "OPTION") fun _ _ _ => .ret (.delete htarget hsources hfilter)

theorem within_mergeAction : L.Within (mergeAction inner) (mergeAction inner) := by
  refine .ifAccept (.hasKeyword "UPDATE") ?_ (.ifAccept (.hasKeyword "DELETE") (.ret rfl)
    (.ifAccept (.hasKeyword "INSERT") ?_ (.fail _)))
  · refine .bind (.expectKeyword "SET") fun _ _ _ => ?_
    exact .bind (within_assignments h) fun assignments assignments' hassignments =>
      .ret (congrArg MergeAction.update hassignments)
  · refine .bind within_skipOptionalGroup fun _ _ _ => ?_
    refine .ifAccept (.hasKeyword "VALUES") (.expectOpen fun _ => ?_) ?_
    · refine .bind (within_exprList h) fun values values' hvalues => ?_
      exact .bind (.expect .closeParen rfl (by decide)) fun _ _ _ => .ret (congrArg MergeAction.insert hvalues)
    · refine .bind (.expectKeyword "DEFAULT") fun _ _ _ => ?_
      exact .bind (.expectKeyword "VALUES") fun _ _ _ => .ret rfl

theorem within_mergeClause : L.Within (mergeClause inner) (mergeClause inner) := by
  refine .bind (Parallel.acceptKeyword "NOT").discard fun _ _ _ => ?_
  refine .bind (.expectKeyword "MATCHED") fun _ _ _ => ?_
  refine .ifAccept_join (.hasKeyword "BY") ?_ fun hrest => ?_
  · refine .ifAccept_bind (.hasKeyword "AND") (h.expr.map .some) (.ret rfl) fun condition condition' hcondition => ?_
    refine .bind (.expectKeyword "THEN") fun _ _ _ => ?_
    exact .bind (within_mergeAction h) fun action action' haction => .ret (.mergeClause hcondition haction)
  · exact .ifAccept (.hasKeyword "TARGET") hrest (.bind (.expectKeyword "SOURCE") fun _ _ _ => hrest)

theorem within_merge : L.Within (merge inner) (merge inner) := by
  refine .bind (.expectKeyword "MERGE") fun _ _ _ => ?_
  refine .bind (within_skipTop h) fun _ _ _ => ?_
  refine .bind (Parallel.acceptKeyword "INTO").discard fun _ _ _ => ?_
  refine .bind within_objectName fun target target' htarget => ?_
  refine .bind within_skipTableHints fun _ _ _ => ?_
  refine .bind within_aliasName fun targetAlias targetAlias' halias => ?_
  refine .bind (.expectKeyword "USING") fun _ _ _ => ?_
  refine .bind h.source fun source source' hsource => ?_
  refine .bind (.expectKeyword "ON") fun _ _ _ => ?_
  refine .bind h.expr fun on on' hon => ?_
  have hclauses := Parallel.loop (separates_keywordSeparator "WHEN") (fun clauses clauses' hclauses _ _ _ =>
    .bind (within_mergeClause h) fun clause clause' hclause => .ret (hclauses.append (.cons hclause .nil))) .nil
  refine .bind hclauses fun clauses clauses' hclauses => ?_
  refine .bind (within_skipOutput h) fun _ _ _ => ?_
  exact .bind (within_skipKeywordGroup "OPTION") fun _ _ _ => .ret (.merge htarget halias hsource hon hclauses)

/-! ### Calls -/

omit h in
theorem within_skipCall : L.Within skipCall skipCall :=
  .skipBy (.callDistance (.inl rfl))

theorem within_execArgs : L.Within (execArgs inner) (execArgs inner) := by
  have hended : L.Decides 0 (fun ts => ts.atBoundary || ts.hasKeyword 0 "WITH") 0 :=
    Decides.atBoundary.or (Decides.hasKeyword "WITH").stay
  have harg := Parallel.bind h.expr fun expr expr' hexpr => .bind (.skipBy (.takeWhile
    (p := fun t => t.lexeme.keyword?.any ["OUTPUT", "OUT", "READONLY"].contains)
    (fun ht => by rw [ht.lexeme.keyword?_eq]) fun hword => .inl fun hsemi => by simp [hsemi, Lexeme.keyword?] at hword))
    fun _ _ _ => .ret hexpr
  have hrest (args args' : List Expr) (hargs : L.Same args args') : L.Within
      (do if ← acceptIf (fun ts => ts.hasKeyword 0 "WITH" && !ts.startsCtes) 1 then skipCall
          return args)
      (do if ← acceptIf (fun ts => ts.hasKeyword 0 "WITH" && !ts.startsCtes) 1 then skipCall
          return args') :=
    .ifAccept_join ((Decides.hasKeyword "WITH").both Decides.startsCtes.not) (.ret hargs) fun hret =>
      .bind within_skipCall fun _ _ _ => hret
  refine .ifLook hended (.bind (.ret .nil) hrest) ?_
  refine .bind harg fun first first' hfirst => ?_
  refine .bind (.loop Parallel.separates_comma (fun args args' hargs _ _ _ => ?_) (.cons hfirst .nil)) hrest
  exact .ifLook hended (.ret hargs) (.bind harg fun arg arg' harg => .ret (hargs.append (.cons harg .nil)))

theorem within_exec : L.Parallel L.Headed (exec inner) (exec inner) L.Stays := by
  have hdynamic : L.Within (do noteDynamicSql; return none) (do noteDynamicSql; return (none : Option Exec)) :=
    .bind .noteDynamicSql fun _ _ _ => .ret rfl
  refine .bind skipHead fun _ _ _ => ?_
  refine .ifLook (.hasLexeme .openParen rfl (by decide)) ?_ ?_
  · exact .bind within_skipGroup fun _ _ _ => .bind within_skipCall fun _ _ _ => hdynamic
  refine .bind (Parallel.acceptIf (Decides.hasVariable.and (.hasLexeme .equals rfl (by decide)))).discard
    fun _ _ _ => ?_
  refine .ifAccept .hasVariable (.bind (within_execArgs h).discard fun _ _ _ => hdynamic) ?_
  refine .bind within_objectName fun name name' hname => ?_
  refine .bind (within_execArgs h) fun args args' hargs => ?_
  rw [hname.executes_eq]
  split
  · exact hdynamic
  · exact .ret (.some (.exec hname hargs))

theorem within_insertSource : L.Within (insertSource inner) (insertSource inner) := by
  refine .ifAccept (.hasKeyword "VALUES") ?_ (.ifAccept ((Decides.hasKeyword "DEFAULT").and (.hasKeyword "VALUES"))
    (.ret rfl) (.ifLookAt (fun ts ts' hts => ?_) (.bind (within_exec h) fun call call' hcall => ?_) ?_))
  · exact .bind (within_valueRows h) fun rows rows' hrows => .ret (congrArg InsertSource.rows hrows)
  · have hkeyword := Decides.hasKeywordOf (n := 0) ["EXEC", "EXECUTE"] hts
    exact ⟨hkeyword.1, fun hyes => ⟨hts, hkeyword.2 hyes⟩⟩
  · match call, call', hcall with
    | none, none, _ => exact .ret rfl
    | some call, some call', hcall => exact .ret (congrArg InsertSource.exec (Option.some.inj hcall))
  · exact .bind h.query fun query query' hquery => .ret (congrArg InsertSource.query hquery)

theorem within_insert : L.Within (insert inner) (insert inner) := by
  refine .bind (.expectKeyword "INSERT") fun _ _ _ => ?_
  refine .bind (within_skipTop h) fun _ _ _ => ?_
  refine .bind (Parallel.acceptKeyword "INTO").discard fun _ _ _ => ?_
  refine .bind within_objectName fun target target' htarget => ?_
  refine .bind within_skipTableHints fun _ _ _ => ?_
  have hrest := Parallel.bind (within_skipOutput h) fun _ _ _ =>
    .bind (within_insertSource h) fun source source' hsource => .ret (.insert htarget hsource)
  refine .ifLook ((Decides.hasLexeme .openParen rfl (by decide)).and Decides.startsQuery.not) ?_ hrest
  exact .bind within_skipGroup fun _ _ _ => hrest

end ChangeImpact.Sql.Likeness
