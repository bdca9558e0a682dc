import ChangeImpact.Proofs.Parallel.Write
import ChangeImpact.Sql.Script

/-!
# Statements side by side

Control flow, the definitions of routines and all that is passed over.  A statement may pass the semicolon behind it,
and no more (`Likeness.Leaves`).  So a grammar respects a likeness if the grammar inside of it does
(`Respects.deepen`), and by induction on the levels every grammar of `Grammar.ofLevels` does (`respects_ofLevels`).
-/

namespace ChangeImpact.Sql.Likeness

open ChangeImpact.Sql.Parser Grammar

variable {α : Type} {L : Likeness}

/-! ### Trees -/

namespace Same

variable {query query' : Query} {ctes ctes' : List Cte} {statement statement' : Statement}
  {body body' : List Statement} {exprs exprs' : List Expr} {expr expr' : Expr} {name name' : Name}

theorem withCtes (hquery : L.Same query query') (hctes : L.Same ctes ctes') :
    L.Same { query with ctes } { query' with ctes := ctes' } := by
  obtain ⟨_, body, orderBy⟩ := query
  obtain ⟨_, body', orderBy'⟩ := query'
  simp only [Same, rename, renameQuery, Query.mk.injEq] at hquery hctes ⊢
  exact ⟨hctes, hquery.2⟩

theorem queryStatement (h : L.Same query query') : L.Same (Statement.query query) (.query query') :=
  h.under fun _ => by simp only [rename, renameStatement]

theorem insertStatement {insert insert' : Insert} (h : L.Same insert insert') :
    L.Same (Statement.insert insert) (.insert insert') :=
  h.under fun _ => by simp only [rename, renameStatement]

theorem updateStatement {update update' : Update} (h : L.Same update update') :
    L.Same (Statement.update update) (.update update') :=
  h.under fun _ => by simp only [rename, renameStatement]

theorem deleteStatement {delete delete' : Delete} (h : L.Same delete delete') :
    L.Same (Statement.delete delete) (.delete delete') :=
  h.under fun _ => by simp only [rename, renameStatement]

theorem mergeStatement {merge merge' : Merge} (h : L.Same merge merge') :
    L.Same (Statement.merge merge) (.merge merge') :=
  h.under fun _ => by simp only [rename, renameStatement]

theorem truncate (h : L.Same name name') : L.Same (Statement.truncate name) (.truncate name') :=
  h.under fun _ => by simp only [rename, renameStatement]

theorem execStatement {call call' : Exec} (h : L.Same call call') :
    L.Same (Statement.exec call) (.exec call') :=
  h.under fun _ => by simp only [rename, renameStatement]

theorem block (h : L.Same body body') : L.Same (Statement.block body) (.block body') :=
  h.under fun _ => by simp only [rename, renameStatement]

theorem evaluate (h : L.Same exprs exprs') : L.Same (Statement.evaluate exprs) (.evaluate exprs') :=
  h.under fun _ => by simp only [rename, renameStatement]

theorem ctesStatement (hctes : L.Same ctes ctes') (hstatement : L.Same statement statement') :
    L.Same (Statement.withCtes ctes statement) (.withCtes ctes' statement') := by
  simp only [Same, rename, renameStatement] at hctes hstatement ⊢
  rw [hctes, hstatement]

theorem branch {no no' : Option Statement} (hexpr : L.Same expr expr') (hyes : L.Same statement statement')
    (hno : L.Same no no') : L.Same (Statement.branch expr statement no) (.branch expr' statement' no') := by
  simp only [Same, rename, renameStatement, renameOptionalStatement_eq] at hexpr hyes hno ⊢
  rw [hexpr, hyes, hno]

theorem loop (hexpr : L.Same expr expr') (hstatement : L.Same statement statement') :
    L.Same (Statement.loop expr statement) (.loop expr' statement') := by
  simp only [Same, rename, renameStatement] at hexpr hstatement ⊢
  rw [hexpr, hstatement]

theorem routine (hname : L.Same name name') (schemaBound : Bool) (hbody : L.Same body body') :
    L.Same (Statement.routine name schemaBound body) (.routine name' schemaBound body') := by
  simp only [Same, rename, renameStatement] at hname hbody ⊢
  rw [hname, hbody]

end Same

/-! ### What is passed over -/

theorem leaves_skipToBoundary : L.Parallel L.Inside skipToBoundary skipToBoundary L.Leaves := by
  intro ts ts' hts
  obtain ⟨heq, hdrop⟩ := hts.boundaryDistance 0 0 (.inl rfl)
  refine .ok ⟨rfl, ?_⟩ .nil
  rwa [← heq]

theorem leaves_skipStatement {a b : α} [Renames α] (h : L.Same a b) :
    L.Parallel L.Headed (do skipStatement; return a) (do skipStatement; return b) L.Leaves :=
  .trans (.bind skipHead fun _ _ _ => leaves_skipToBoundary) fun _ _ _ _ hts => .ok ⟨h, hts.2⟩ .nil

variable {inner : Grammar} (h : L.Respects inner)

include h

/-! ### Calls and writes as statements -/

theorem within_withCtes : L.Within (withCtes inner) (withCtes inner) := by
  refine .bind (within_ctes h) fun ctes ctes' hctes => ?_
  refine .ifLook ((Decides.hasKeyword "SELECT").or (.hasLexeme .openParen rfl (by decide))) ?_
    (.ifLook (.hasKeyword "INSERT") ?_ (.ifLook (.hasKeyword "UPDATE") ?_ (.ifLook (.hasKeyword "DELETE") ?_
      (.ifLook (.hasKeyword "MERGE") ?_ (.fail _)))))
  · exact .bind h.query fun query query' hquery => .ret (.queryStatement (hquery.withCtes hctes))
  · exact .bind (within_insert h) fun insert insert' hinsert => .ret (.ctesStatement hctes (.insertStatement hinsert))
  · exact .bind (within_update h) fun update update' hupdate => .ret (.ctesStatement hctes (.updateStatement hupdate))
  · exact .bind (within_delete h) fun delete delete' hdelete => .ret (.ctesStatement hctes (.deleteStatement hdelete))
  · exact .bind (within_merge h) fun merge merge' hmerge => .ret (.ctesStatement hctes (.mergeStatement hmerge))

theorem leaves_execStatement : L.Parallel L.Headed (execStatement inner) (execStatement inner) L.Leaves := by
  refine .ifLookAt (fun ts ts' hts => ⟨(Decides.hasKeyword "AS" hts.2).1, fun _ => hts⟩)
    (leaves_skipStatement rfl) (.leaves (.bind (within_exec h) fun call call' hcall => ?_))
  match call, call', hcall with
  | none, none, _ => exact .ret rfl
  | some call, some call', hcall => exact .ret (.some (.execStatement (Option.some.inj hcall)))

/-- The assignment of a variable passes two tokens that are no semicolons. -/
theorem leaves_set : L.Parallel L.Headed (set inner) (set inner) L.Leaves := by
  refine .ifLookAt (fun ts ts' hts => Decides.hasVariable hts.2) (.leaves ?_) (leaves_skipStatement rfl)
  refine .bind (.skip 2) fun _ _ _ => ?_
  refine .bind within_assignmentOperator fun _ _ _ => ?_
  exact .bind h.expr fun value value' hvalue => .ret (.some (.evaluate (.cons hvalue .nil)))

theorem within_returnStatement : L.Parallel L.Headed (returnStatement inner) (returnStatement inner) L.Stays := by
  refine .bind skipHead fun _ _ _ => ?_
  refine .ifLook .atBoundary (.ret (.evaluate .nil)) ?_
  exact .bind h.expr fun value value' hvalue => .ret (.evaluate (.cons hvalue .nil))

/-! ### Control flow, which may go on beyond semicolons -/

section

variable (hmore : L.more = [])

include hmore

omit h in
theorem within_skipSemicolons : L.Within skipSemicolons skipSemicolons := by
  refine .skipBy (.takeWhile (fun ht => ?_) fun _ => .inr hmore)
  rw [Bool.eq_iff_iff, beq_iff_eq, beq_iff_eq]
  exact ht.lexeme.eq_iff rfl

theorem within_statements (stopWords : List String) :
    L.Within (statements inner stopWords) (statements inner stopWords) :=
  .recovering hmore (Decides.hasKeywordOf stopWords).stay
    (fun _ _ hts => (hts.boundaryDistance 0 0 (.inl rfl)).1) h.statement

theorem within_branchBody : L.Within (branchBody inner) (branchBody inner) := by
  refine .bind (within_skipSemicolons hmore) fun _ _ _ => ?_
  refine .bind (h.statement.stays hmore) fun statement statement' hstatement => .ret ?_
  match statement, statement', hstatement with
  | none, none, _ => exact .block .nil
  | some statement, some statement', hstatement => exact Option.some.inj hstatement

theorem within_branch : L.Within (branch inner) (branch inner) := by
  refine .bind (.skip_of_whole hmore 1) fun _ _ _ => ?_
  refine .bind h.expr fun condition condition' hcondition => ?_
  refine .bind (within_branchBody h hmore) fun yes yes' hyes => ?_
  refine .bind (within_skipSemicolons hmore) fun _ _ _ => ?_
  refine .ifAccept_bind (.hasKeyword "ELSE") ((within_branchBody h hmore).map .some) (.ret rfl) fun no no' hno => ?_
  exact .ret (.branch hcondition hyes hno)

theorem within_whileLoop : L.Within (whileLoop inner) (whileLoop inner) := by
  refine .bind (.skip_of_whole hmore 1) fun _ _ _ => ?_
  refine .bind h.expr fun condition condition' hcondition => ?_
  exact .bind (within_branchBody h hmore) fun body body' hbody => .ret (.loop hcondition hbody)

theorem within_block : L.Parallel L.Headed (block inner) (block inner) L.Stays := by
  refine .ifLookAt (fun ts ts' hts => ⟨(Decides.hasKeywordOf _ hts.2).1, fun _ => hts⟩)
    ((leaves_skipStatement rfl).stays hmore) ?_
  refine .bind skipHead fun _ _ _ => ?_
  refine .look_bind_of_eq (fun ts ts' hts => ?_) fun kind => ?_
  · have hkeyword (keyword : String) : ts.hasKeyword 0 keyword = ts'.hasKeyword 0 keyword :=
      (Decides.hasKeyword keyword hts).1
    simp only [List.find?_cons, List.find?_nil, hkeyword]
  cases kind with
  | none =>
    refine .bind (within_statements h hmore ["END"]) fun body body' hbody => ?_
    have hret : L.Within (return some (Statement.block body)) (return some (Statement.block body')) :=
      .ret (.some (.block hbody))
    exact .ifAccept (.hasKeyword "END") hret (.bind (.note (.same _)) fun _ _ _ => hret)
  | some keyword =>
    refine .bind (.skip_of_whole hmore 1) fun _ _ _ => ?_
    refine .bind (within_statements h hmore ["END"]) fun body body' hbody => ?_
    have hret : L.Within (return some (Statement.block body)) (return some (Statement.block body')) :=
      .ret (.some (.block hbody))
    refine .ifAccept (.hasKeyword "END") ?_ (.bind (.note (.same _)) fun _ _ _ => hret)
    exact .bind (Parallel.acceptKeyword keyword).discard fun _ _ _ => hret

theorem within_cursor : L.Within (cursor inner) (cursor inner) := by
  refine .bind (.skipBy (.takeWhile (fun ht => ?_) fun _ => .inr hmore)) fun _ _ _ => ?_
  · rw [ht.lexeme.keyword?_eq]
  refine .bind (.expectKeyword "FOR") fun _ _ _ => ?_
  refine .bind h.query fun query query' hquery => ?_
  refine .ifAccept_join ((Decides.hasKeyword "FOR").and (.hasKeyword "UPDATE")) (.ret (.queryStatement hquery))
    fun hret => ?_
  exact .ifAccept_join (.hasKeyword "OF") hret fun hret =>
    .bind (Parallel.commaSeparated within_identifier).discard fun _ _ _ => hret

omit hmore in
theorem within_declaration : L.Within (declaration inner) (declaration inner) := by
  refine .ifAccept .hasVariable ?_ (.fail_bind _)
  refine .bind (Parallel.acceptKeyword "AS").discard fun _ _ _ => ?_
  have hvalue : L.Within
      (do if ← accept .equals then return some (← inner.expr)
          return none)
      (do if ← accept .equals then return some (← inner.expr)
          return none) :=
    .ifAccept (.hasLexeme .equals rfl (by decide)) (.bind h.expr fun value value' hvalue => .ret (.some hvalue))
      (.ret rfl)
  refine .ifAccept (.hasKeyword "TABLE") (.bind within_skipGroup fun _ _ _ => hvalue) ?_
  exact .ifAccept (.hasKeyword "CURSOR") hvalue (.bind within_skipTypeName fun _ _ _ => hvalue)

theorem within_declare : L.Within (declare inner) (declare inner) := by
  refine .bind (.skip_of_whole hmore 1) fun _ _ _ => ?_
  refine .ifLook .hasVariable ?_ (within_cursor h hmore)
  exact .bind (.commaSeparated (within_declaration h)) fun exprs exprs' hexprs => .ret (.evaluate hexprs.filterMap)

theorem within_definition : L.Parallel L.Headed (definition inner) (definition inner) L.Stays := by
  refine .look_bind_of_eq (fun ts ts' hts => ?_) fun kindAt => ?_
  · have hor : ts.hasKeyword 1 "OR" = ts'.hasKeyword 1 "OR" := (Decides.hasKeyword "OR" hts.2).1
    have halter : ts.hasKeyword 2 "ALTER" = ts'.hasKeyword 2 "ALTER" :=
      (Decides.hasKeyword "ALTER" (hts.1.drop_of_more_eq_nil hmore 2)).1
    rw [hor, halter]
  refine .ifLookAt (fun ts ts' hts => ⟨?_, fun _ => hts.1⟩) ?_ ((leaves_skipStatement rfl).stays hmore)
  · exact (Decides.hasKeywordOf routineKinds (hts.1.drop_of_more_eq_nil hmore kindAt)).1
  refine .bind (.skip_of_whole hmore (kindAt + 1)) fun _ _ _ => ?_
  refine .bind within_objectName fun name name' hname => ?_
  refine .look_bind_of_eq (fun ts ts' hts => bodyDistance?_eq hmore hts) fun distance => ?_
  match distance with
  | some (n, schemaBound) =>
    refine .bind (.skip_of_whole hmore n) fun _ _ _ => ?_
    exact .bind (within_statements h hmore ["GO"]) fun body body' hbody =>
      .ret (.some (.routine hname schemaBound hbody))
  | none =>
    refine .bind (.skipBy (.length hmore)) fun _ _ _ => ?_
    exact .bind (.note (.noBody hname)) fun _ _ _ => .ret (.some (.routine hname false .nil))

end

/-! ### Any statement -/

theorem leaves_keywordStatement (keyword : String) (hspans : keyword ∈ spanningKeywords → L.more = []) :
    L.Parallel L.Headed (keywordStatement inner keyword) (keywordStatement inner keyword) L.Leaves := by
  have hstray (word : String) : L.Parallel L.Headed
      (do note (.stray word); Parser.skip 1; return none)
      (do note (.stray word); Parser.skip 1; return (none : Option Statement)) L.Leaves :=
    .trans (.noteAt (.same _) And.left) fun _ _ => .leaves (.bind skipHead fun _ _ _ => .ret rfl)
  -- both sides are split at once
  suffices hall : ∀ p, p = keywordStatement inner keyword → L.Parallel L.Headed p p L.Leaves from hall _ rfl
  intro p hp
  unfold keywordStatement at hp
  split at hp <;> subst hp
  · exact .leaves (.bind (h.query.weaken And.left) fun query query' hquery => .ret (.some (.queryStatement hquery)))
  · exact .leaves (.map ((within_withCtes h).weaken And.left) .some)
  · exact .leaves (.bind ((within_insert h).weaken And.left) fun _ _ hinsert => .ret (.some (.insertStatement hinsert)))
  · refine .ifLookAt (fun ts ts' hts => ⟨(Decides.hasKeyword "STATISTICS" hts.2).1, fun _ => hts⟩)
      (leaves_skipStatement rfl) (.leaves ?_)
    exact .bind ((within_update h).weaken And.left) fun _ _ hupdate => .ret (.some (.updateStatement hupdate))
  · exact .leaves (.bind ((within_delete h).weaken And.left) fun _ _ hdelete => .ret (.some (.deleteStatement hdelete)))
  · exact .leaves (.bind ((within_merge h).weaken And.left) fun _ _ hmerge => .ret (.some (.mergeStatement hmerge)))
  · refine .leaves (.bind skipHead fun _ _ _ => .bind (.expectKeyword "TABLE") fun _ _ _ => ?_)
    exact .bind within_objectName fun target target' htarget => .ret (.some (.truncate htarget))
  · exact leaves_execStatement h
  · exact leaves_execStatement h
  · exact .leaves (within_block h (hspans (by decide)))
  · exact .leaves (.map ((within_branch h (hspans (by decide))).weaken And.left) .some)
  · exact .leaves (.map ((within_whileLoop h (hspans (by decide))).weaken And.left) .some)
  · exact .leaves (.map ((within_declare h (hspans (by decide))).weaken And.left) .some)
  · exact leaves_set h
  · exact .leaves (.map (within_returnStatement h) .some)
  · exact .leaves (within_definition h (hspans (by decide)))
  · exact .leaves (within_definition h (hspans (by decide)))
  · exact .leaves (.bind skipHead fun _ _ _ => .ret rfl)
  · exact hstray "END"
  · exact hstray "ELSE"
  · split
    · exact leaves_skipStatement rfl
    · refine .ifAcceptAt (C := True) (fun ts ts' hts => ?_) (fun _ => .leaves (.ret rfl)) (failHead _)
      obtain ⟨heq, hdrop⟩ := Decides.hasLexeme (.symbol ":") rfl (by decide) hts.2
      exact ⟨heq, fun hyes => ⟨trivial, hdrop hyes⟩⟩

theorem leaves_anyStatement : L.Parallel L.Inside (anyStatement inner) (anyStatement inner) L.Leaves := by
  refine .peek_bind (.leaves (.ret rfl)) ?_ fun l l' hll hne hspans => ?_
  · intro ts ts' hts
    exact .ok ⟨rfl, hts.2⟩ .nil
  cases hll with
  | @word s t quoted hform hkey =>
    cases quoted with
    | true => exact failHead _
    | false =>
      -- both words are the same keyword, by which the statement is chosen
      dsimp only
      rw [hkey rfl]
      refine leaves_keywordStatement h _ fun hkeyword => hspans ?_
      simp [Lexeme.spans, Lexeme.keyword?, hkey rfl, hkeyword]
  | same hword =>
    cases l with
    | word => cases hword
    | semicolon => exact absurd rfl hne
    | openParen =>
      refine .ifLookAt (fun ts ts' hts => ⟨(Decides.startsQuery hts.2).1, fun _ => hts.1⟩) (.leaves ?_) (failHead _)
      exact .bind h.query fun query query' hquery => .ret (.some (.queryStatement hquery))
    | _ => exact failHead _

/-! ### Whole grammars -/

theorem Respects.deepen : L.Respects inner.deepen where
  statement := leaves_anyStatement h
  query := within_fullQuery h
  source := within_anySource h
  expr := within_disjunction h
  negated := within_negatedExpr h
  signed := within_signedExpr h

omit h in
theorem respects_ofLevels (levels : Nat) : L.Respects (ofLevels levels) := by
  induction levels with
  | zero => exact ⟨.tooDeep, .tooDeep, .tooDeep, .tooDeep, .tooDeep, .tooDeep⟩
  | succ levels ih => exact ih.deepen

end ChangeImpact.Sql.Likeness
