import ChangeImpact.Proofs.Parallel.Expr
import ChangeImpact.Sql.Grammar.Query

/-!
# Queries side by side

Sources with their joins, `SELECT` blocks, common table expressions and whole queries stay within texts that are alike,
if the grammar inside does.
-/

namespace ChangeImpact.Sql.Likeness

open ChangeImpact.Sql.Parser Grammar

variable {L : Likeness}

/-! ### Trees -/

namespace Same

variable {name name' : Name} {calledAs calledAs' : Option String} {query query' : Query} {source source' : Source}
  {exprs exprs' : List Expr} {on on' : Option Expr}

theorem table (hname : L.Same name name') (hcalled : L.Same calledAs calledAs') :
    L.Same (Source.table name calledAs) (.table name' calledAs') := by
  simp only [Same, rename, renameSource] at hname hcalled ⊢
  rw [hname, hcalled]

theorem callSource (hname : L.Same name name') (hexprs : L.Same exprs exprs') (hcalled : L.Same calledAs calledAs') :
    L.Same (Source.call name exprs calledAs) (.call name' exprs' calledAs') := by
  simp only [Same, rename, renameSource] at hname hexprs hcalled ⊢
  rw [hname, hexprs, hcalled]

theorem derived (hquery : L.Same query query') (hcalled : L.Same calledAs calledAs') :
    L.Same (Source.derived query calledAs) (.derived query' calledAs') := by
  simp only [Same, rename, renameSource] at hquery hcalled ⊢
  rw [hquery, hcalled]

theorem rows (hexprs : L.Same exprs exprs') (hcalled : L.Same calledAs calledAs') :
    L.Same (Source.rows exprs calledAs) (.rows exprs' calledAs') := by
  simp only [Same, rename, renameSource] at hexprs hcalled ⊢
  rw [hexprs, hcalled]

theorem joinedSource {joined joined' : Joined} (h : L.Same joined joined') :
    L.Same (Source.joined joined) (.joined joined') :=
  h.under fun _ => by simp only [rename, renameSource]

theorem join (hsource : L.Same source source') (hon : L.Same on on') : L.Same (Join.mk source on) ⟨source', on'⟩ := by
  simp only [Same, rename, renameJoin, renameOptional_eq] at hsource hon ⊢
  rw [hsource, hon]

theorem joined {joins joins' : List Join} (hsource : L.Same source source') (hjoins : L.Same joins joins') :
    L.Same (Joined.mk source joins) ⟨source', joins'⟩ := by
  simp only [Same, rename, renameJoined] at hsource hjoins ⊢
  rw [hsource, hjoins]

theorem select {into into' : Option Name} {sources sources' : List Joined} {filter filter' having having' : Option Expr}
    {columns columns' groupBy groupBy' : List Expr} (hcolumns : L.Same columns columns') (hinto : L.Same into into')
    (hsources : L.Same sources sources') (hfilter : L.Same filter filter') (hgroupBy : L.Same groupBy groupBy')
    (hhaving : L.Same having having') :
    L.Same (Select.mk columns into sources filter groupBy having)
      ⟨columns', into', sources', filter', groupBy', having'⟩ := by
  simp only [Same, rename, renameSelect, renameOptional_eq] at *
  rw [hcolumns, hinto, hsources, hfilter, hgroupBy, hhaving]

theorem selectBody {block block' : Select} (h : L.Same block block') :
    L.Same (QueryBody.select block) (.select block') :=
  h.under fun _ => by simp only [rename, renameQueryBody]

theorem nested (h : L.Same query query') : L.Same (QueryBody.nested query) (.nested query') :=
  h.under fun _ => by simp only [rename, renameQueryBody]

theorem combine {left left' right right' : QueryBody} (hleft : L.Same left left') (hright : L.Same right right') :
    L.Same (QueryBody.combine left right) (.combine left' right') := by
  simp only [Same, rename, renameQueryBody] at hleft hright ⊢
  rw [hleft, hright]

theorem cte {alternative alternative' : String} (halternative : L.Same alternative alternative')
    (hquery : L.Same query query') : L.Same (Cte.mk alternative query) ⟨alternative', query'⟩ := by
  simp only [Same, rename, renameCte] at halternative hquery ⊢
  rw [halternative, hquery]

theorem fullQuery {ctes ctes' : List Cte} {body body' : QueryBody} {orderBy orderBy' : List Expr}
    (hctes : L.Same ctes ctes') (hbody : L.Same body body') (horderBy : L.Same orderBy orderBy') :
    L.Same (Query.mk ctes body orderBy) ⟨ctes', body', orderBy'⟩ := by
  simp only [Same, rename, renameQuery] at hctes hbody horderBy ⊢
  rw [hctes, hbody, horderBy]

end Same

variable {inner : Grammar} (h : L.Respects inner)

/-! ### Sources -/

theorem within_skipPivot : L.Within skipPivot skipPivot :=
  .ifAccept (.hasKeywordOf _) (.bind within_skipGroup fun _ _ _ => within_aliasName.discard) (.ret rfl)

theorem within_skipTableHints : L.Within skipTableHints skipTableHints := by
  refine .ifAccept ?_ within_skipGroup (.ifLook .startsBareHint within_skipGroup (.ret rfl))
  exact (Decides.hasKeyword "WITH").andAhead (.hasLexeme .openParen rfl (by decide))

/-- `JOIN` behind `n` tokens. -/
def plainJoin? (n : Nat) (ts : Tokens) : Option (Nat × Bool) :=
  if ts.hasKeyword n "JOIN" then some (n, true) else none

/-- `JOIN` behind `n` tokens and perhaps a hint. -/
def hintedJoin? (n : Nat) (ts : Tokens) : Option (Nat × Bool) :=
  if ts.hasKeywordOf n joinHints then plainJoin? (n + 1) ts else plainJoin? n ts

theorem separates_hintedJoin? (n : Nat) : L.Separates n Eq (hintedJoin? n) := by
  have hplain (n : Nat) : L.Separates n Eq (plainJoin? n) := .ite (.hasKeyword "JOIN") (.some rfl) .none
  exact .ite (.hasKeywordOf joinHints) (hplain (n + 1)) (hplain n)

/-- The words in front of `JOIN` are looked at one after the other. -/
theorem join?_eq (ts : Tokens) :
    join? ts =
      if ts.hasKeyword 0 "CROSS" && ts.hasKeyword 1 "JOIN" then some (1, false)
      else if ts.hasKeywordOf 0 ["CROSS", "OUTER"] && ts.hasKeyword 1 "APPLY" then some (1, false)
      else if ts.hasKeyword 0 "INNER" then hintedJoin? 1 ts
      else if ts.hasKeywordOf 0 ["LEFT", "RIGHT", "FULL"] then
        if ts.hasKeyword 1 "OUTER" then hintedJoin? 2 ts else hintedJoin? 1 ts
      else hintedJoin? 0 ts := by
  simp only [join?, hintedJoin?, plainJoin?]
  split_ifs <;> rfl

theorem separates_join? : L.Separates 0 Eq join? := by
  rw [funext join?_eq]
  refine .ite ((Decides.hasKeyword "CROSS").and (.hasKeyword "JOIN")) (.some rfl) ?_
  refine .ite ((Decides.hasKeywordOf _).and (.hasKeyword "APPLY")) (.some rfl) ?_
  refine .ite (.hasKeyword "INNER") (separates_hintedJoin? 1) ?_
  exact .ite (.hasKeywordOf _) (.ite (.hasKeyword "OUTER") (separates_hintedJoin? 2) (separates_hintedJoin? 1))
    (separates_hintedJoin? 0)

include h

theorem within_valueRows : L.Within (valueRows inner) (valueRows inner) := by
  refine .bind (.commaSeparated (.expectOpen fun _ => ?_)) fun rows rows' hrows => .ret hrows.flatten
  refine .bind (within_exprList h) fun cells cells' hcells => ?_
  exact .bind (.expect .closeParen rfl (by decide)) fun _ _ _ => .ret hcells

theorem within_joined : L.Within (joined inner) (joined inner) := by
  refine .bind h.source fun first first' hfirst => ?_
  refine .bind (.loop separates_join? (fun joins joins' hjoins hasPredicate hasPredicate' hpredicate => ?_) .nil)
    fun joins joins' hjoins => .ret (.joined hfirst hjoins)
  subst hpredicate
  refine .bind h.source fun source source' hsource => ?_
  cases hasPredicate with
  | true =>
    refine .bind (.expectKeyword "ON") fun _ _ _ => ?_
    exact .bind h.expr fun on on' hon => .ret (hjoins.append (.cons (.join hsource (.some hon)) .nil))
  | false => exact .ret (hjoins.append (.cons (.join hsource .none) .nil))

theorem within_sourceList : L.Within (sourceList inner) (sourceList inner) :=
  .commaSeparated (within_joined h)

theorem within_fromClause : L.Within (fromClause inner) (fromClause inner) :=
  .ifAccept (.hasKeyword "FROM") (within_sourceList h) (.ret rfl)

theorem within_groupedSource : L.Within (groupedSource inner) (groupedSource inner) := by
  refine .ifLook .startsQuery ?_ (.ifAccept (.hasKeyword "VALUES") ?_ ?_)
  · refine .bind h.query fun query query' hquery => ?_
    refine .bind (.expect .closeParen rfl (by decide)) fun _ _ _ => ?_
    refine .bind within_aliasName fun calledAs calledAs' hcalled => ?_
    refine .bind within_skipOptionalGroup fun _ _ _ => ?_
    exact .bind within_skipPivot fun _ _ _ => .ret (.derived hquery hcalled)
  · refine .bind (within_valueRows h) fun cells cells' hcells => ?_
    refine .bind (.expect .closeParen rfl (by decide)) fun _ _ _ => ?_
    refine .bind within_aliasName fun calledAs calledAs' hcalled => ?_
    exact .bind within_skipOptionalGroup fun _ _ _ => .ret (.rows hcells hcalled)
  · refine .bind (within_joined h) fun joined joined' hjoined => ?_
    exact .bind (.expect .closeParen rfl (by decide)) fun _ _ _ => .ret (.joinedSource hjoined)

theorem within_namedSource : L.Within (namedSource inner) (namedSource inner) := by
  refine .bind within_objectName fun name name' hname => ?_
  refine .ifLook ((Decides.hasLexeme .openParen rfl (by decide)).stay.and Decides.startsBareHint.not) ?_ ?_
  · refine .bind (within_callArgs h) fun args args' hargs => ?_
    refine .bind within_aliasName fun calledAs calledAs' hcalled => ?_
    exact .bind within_skipOptionalGroup fun _ _ _ => .ret (.callSource hname hargs hcalled)
  · refine .bind within_skipTableHints fun _ _ _ => ?_
    refine .ifAccept_join (.hasKeyword "TABLESAMPLE") ?_ fun hrest => ?_
    · refine .bind within_aliasName fun calledAs calledAs' hcalled => ?_
      refine .bind within_skipTableHints fun _ _ _ => ?_
      exact .bind within_skipPivot fun _ _ _ => .ret (.table hname hcalled)
    · refine .bind (Parallel.acceptKeyword "SYSTEM").discard fun _ _ _ => ?_
      exact .bind within_skipGroup fun _ _ _ => hrest

theorem within_anySource : L.Within (anySource inner) (anySource inner) :=
  .ifOpen (fun _ => within_groupedSource h) (within_namedSource h)

/-! ### Blocks -/

/-- Any token is passed behind `TOP`. -/
theorem within_skipTop : L.Within (skipTop inner) (skipTop inner) := by
  refine .ifSpanning (.hasKeyword "TOP") (spans_of_hasKeyword (by decide)) (fun hmore => ?_) (.ret rfl)
  have hrest : L.Within _ _ := .bind (Parallel.acceptKeyword "PERCENT").discard fun _ _ _ =>
    (Parallel.acceptIf ((Decides.hasKeyword "WITH").and (.hasKeyword "TIES"))).discard
  refine .ifOpen (fun _ => ?_) (.bind (.skip_of_whole hmore 1) fun _ _ _ => hrest)
  refine .bind h.expr.discard fun _ _ _ => ?_
  exact .bind (.expect .closeParen rfl (by decide)) fun _ _ _ => hrest

theorem within_whereClause : L.Within (whereClause inner) (whereClause inner) := by
  refine .ifAccept (.hasKeyword "WHERE") ?_ (.ret rfl)
  refine .ifAccept ((Decides.hasKeyword "CURRENT").and (.hasKeyword "OF")) ?_ ?_
  · refine .bind (Parallel.acceptKeyword "GLOBAL").discard fun _ _ _ => ?_
    exact .bind within_identifier.discard fun _ _ _ => .ret rfl
  · exact .bind h.expr fun expr expr' hexpr => .ret (.some hexpr)

theorem within_groupByClause : L.Within (groupByClause inner) (groupByClause inner) := by
  refine .ifAccept ((Decides.hasKeyword "GROUP").and (.hasKeyword "BY")) ?_ (.ret rfl)
  refine .bind (Parallel.acceptKeyword "ALL").discard fun _ _ _ => ?_
  refine .bind (within_exprList h) fun exprs exprs' hexprs => ?_
  refine .bind (Parallel.acceptIf ?_).discard fun _ _ _ => .ret hexprs
  exact (Decides.hasKeyword "WITH").and (.hasKeywordOf _)

theorem within_selectBlock : L.Within (selectBlock inner) (selectBlock inner) := by
  refine .bind (.expectKeyword "SELECT") fun _ _ _ => ?_
  refine .bind (.skipEither _ _) fun _ _ _ => ?_
  refine .bind (within_skipTop h) fun _ _ _ => ?_
  refine .bind (.commaSeparated (.bind h.expr fun column column' hcolumn => ?_)) fun columns columns' hcolumns => ?_
  · exact .bind within_aliasName.discard fun _ _ _ => .ret hcolumn
  refine .ifAccept_bind (.hasKeyword "INTO") (within_objectName.map .some) (.ret rfl) fun into into' hinto => ?_
  refine .bind (within_fromClause h) fun sources sources' hsources => ?_
  refine .bind (within_whereClause h) fun filter filter' hfilter => ?_
  refine .bind (within_groupByClause h) fun groupBy groupBy' hgroupBy => ?_
  refine .ifAccept_bind (.hasKeyword "HAVING") (h.expr.map .some) (.ret rfl) fun having having' hhaving => ?_
  exact .ret (.select hcolumns hinto hsources hfilter hgroupBy hhaving)

/-! ### Whole queries -/

theorem within_ctes : L.Within (ctes inner) (ctes inner) := by
  refine .bind (.expectKeyword "WITH") fun _ _ _ => ?_
  refine .commaSeparated (.bind within_identifier fun name name' hname => ?_)
  refine .bind within_skipOptionalGroup fun _ _ _ => ?_
  refine .bind (.expectKeyword "AS") fun _ _ _ => ?_
  refine .expectOpen fun _ => ?_
  refine .bind h.query fun query query' hquery => ?_
  exact .bind (.expect .closeParen rfl (by decide)) fun _ _ _ => .ret (.cte hname hquery)

theorem within_queryOperand : L.Within (queryOperand inner) (queryOperand inner) := by
  refine .ifOpen (fun _ => ?_) (.ifLook (.hasKeyword "SELECT") ?_ (.fail _))
  · refine .bind h.query fun query query' hquery => ?_
    exact .bind (.expect .closeParen rfl (by decide)) fun _ _ _ => .ret (.nested hquery)
  · exact .bind (within_selectBlock h) fun block block' hblock => .ret (.selectBody hblock)

omit h in
theorem separates_setOperator? : L.Separates 0 Eq setOperator? := by
  have heq : setOperator? = fun ts =>
      if ts.hasKeyword 0 "UNION" then if ts.hasKeyword 1 "ALL" then some (1, ()) else some (0, ())
      else if ts.hasKeywordOf 0 ["EXCEPT", "INTERSECT"] then some (0, ())
      else none := by
    funext ts
    simp only [setOperator?]
    split_ifs <;> rfl
  rw [heq]
  exact .ite (.hasKeyword "UNION") (.ite (.hasKeyword "ALL") (.some rfl) (.some rfl))
    (.ite (.hasKeywordOf _) (.some rfl) .none)

theorem within_queryBody : L.Within (queryBody inner) (queryBody inner) := by
  refine .bind (within_queryOperand h) fun first first' hfirst => ?_
  refine .loop separates_setOperator? (fun left left' hleft _ _ _ => ?_) hfirst
  exact .bind (within_queryOperand h) fun right right' hright => .ret (.combine hleft hright)

theorem within_orderByClause : L.Within (orderByClause inner) (orderByClause inner) := by
  refine .ifAccept ((Decides.hasKeyword "ORDER").and (.hasKeyword "BY")) ?_ (.ret rfl)
  refine .commaSeparated (.bind h.expr fun expr expr' hexpr => ?_)
  exact .bind (.skipEither _ _) fun _ _ _ => .ret hexpr

theorem within_skipOffset : L.Within (skipOffset inner) (skipOffset inner) := by
  refine .ifAccept (.hasKeyword "OFFSET") ?_ (.ret rfl)
  refine .bind h.expr.discard fun _ _ _ => ?_
  refine .bind (.skipEither _ _) fun _ _ _ => ?_
  refine .ifAccept (.hasKeyword "FETCH") ?_ (.ret rfl)
  refine .bind (.skipEither _ _) fun _ _ _ => ?_
  refine .bind h.expr.discard fun _ _ _ => ?_
  exact .bind (.skipEither _ _) fun _ _ _ => .expectKeyword "ONLY"

omit h in
theorem separates_formatOption? :
    L.Separates 0 (fun isGroup isGroup' => isGroup = isGroup' ∧ (isGroup = true → L.more = [])) formatOption? := by
  intro ts ts' hts
  obtain ⟨hl, hl'⟩ | ⟨l, l', hl, hl', hll, hspans, htail⟩ := hts.lexeme? (n := 0)
  · simp only [formatOption?, hl, hl']
    exact .none
  simp only [formatOption?, hl, hl']
  cases hll with
  | word =>
    have hends : (ts.startsStatement || ts.hasKeywordOf 0 clauseKeywords) =
        (ts'.startsStatement || ts'.hasKeywordOf 0 clauseKeywords) :=
      congrArg₂ (· || ·) (Decides.startsStatement hts).1 (Decides.hasKeywordOf clauseKeywords hts).1
    dsimp only
    rw [hends]
    split
    · exact .none
    · exact .some ⟨rfl, ⟨rfl, nofun⟩, htail (.inl (by simp))⟩
  | same hword =>
    cases l with
    | word => cases hword
    | openParen => exact .some ⟨rfl, ⟨rfl, fun _ => hspans rfl⟩, htail (.inl (by simp))⟩
    | comma => exact .some ⟨rfl, ⟨rfl, nofun⟩, htail (.inl (by simp))⟩
    | _ => exact .none

omit h in
theorem within_skipFormat : L.Within skipFormat skipFormat := by
  refine .ifAccept ((Decides.hasKeyword "FOR").and (.hasKeywordOf _)) ?_ (.ret rfl)
  refine .loop separates_formatOption? (fun _ _ _ isGroup isGroup' hgroup => ?_) rfl
  obtain ⟨rfl, hmore⟩ := hgroup
  cases isGroup with
  | true => exact within_closeGroup (hmore rfl)
  | false => exact .ret rfl

theorem within_fullQuery : L.Within (fullQuery inner) (fullQuery inner) := by
  refine .ifLook_bind (.hasKeyword "WITH") (within_ctes h) (.ret rfl) fun ctes ctes' hctes => ?_
  refine .bind (within_queryBody h) fun body body' hbody => ?_
  refine .bind (within_orderByClause h) fun orderBy orderBy' horderBy => ?_
  refine .bind (within_skipOffset h) fun _ _ _ => ?_
  refine .bind within_skipFormat fun _ _ _ => ?_
  exact .bind (within_skipKeywordGroup "OPTION") fun _ _ _ => .ret (.fullQuery hctes hbody horderBy)

end ChangeImpact.Sql.Likeness
