import ChangeImpact.Proofs.Part

/-!
# Places in a script

A place is a part of a script with all parts around it, the innermost first.  What a part says by itself depends on the
script only through the parts around it (`Place.contribution`), and the findings of a script are the contributions of
its places in the order of the text: `statementsFindings_eq`.  So no part is passed over, and a claim about the findings
of a script is one about a single part in its place.  Which places there are can be read off the tree part by part
(`mem_placesOf_nil`, `mem_placesOf_cons`).
-/

namespace ChangeImpact.Extraction

open Sql

/-! ### What a part says by itself -/

/-- A called procedure. -/
def calleeFindings (name : Name) : List Finding :=
  if name.isTemporary || name.qualified.isEmpty then [] else [.uses .procedure name.qualified .exec]

def exprOwn (ctx : Context) : Expr → List Finding
  | .column name => columnFindings ctx name
  | .binary left op right => equalityFindings ctx left op right
  | .call name _ => functionFindings ctx name
  | _ => []

def sourceOwn (ctx : Context) : Source → List Finding
  | .table name _ => tableFindings ctx name
  | .call name _ _ => tableFunctionFindings ctx name
  | _ => []

/-- The table that a statement writes itself. -/
def statementOwn (ctx : Context) : Statement → List Finding
  | .insert insert => writeFindings ctx insert.target .insert
  | .update update => writeFindings ctx update.target .update
  | .delete delete => writeFindings ctx delete.target .delete
  | .merge merge => writeFindings ctx merge.target (mergeUsage merge.clauses)
  | .truncate target => writeFindings ctx target .delete
  | _ => []

/-! ### The context inside of a part -/

/-- The bindings of the target and the source of a `MERGE`. -/
def mergeFrame (outer : Scope) (merge : Merge) : Scope :=
  bindSource outer (bindTable outer [] merge.target merge.targetAlias) merge.source

/-- The expression takes the equalities in it apart from a join around it. -/
def isCall : Expr → Bool
  | .call _ _ => true
  | _ => false

namespace Part

/-- The bindings that a part introduces for what is inside of it. -/
def frame (outer : Scope) : Part → Scope
  | .statement (.update update) => sourcesFrame outer update.sources
  | .statement (.delete delete) => sourcesFrame outer delete.sources
  | .statement (.merge merge) => mergeFrame outer merge
  | .statement (.withCtes ctes _) => cteFrame ctes
  | .query q => cteFrame q.ctes
  | .select b => sourcesFrame outer b.sources
  | _ => []

/-- Whether a routine is bound to the schema. -/
def schemaBound? : Part → Option Bool
  | .statement (.routine _ schemaBound _) => some schemaBound
  | _ => none

def joins (outer : Bool) : Part → Bool
  | .statement _ | .exec _ | .body _ => outer
  | .query _ | .select _ | .source _ => false
  | .on e => !isCall e
  | .expr e => outer && !isCall e

/-- The context inside of a part that stands in a given one. -/
def inside (p : Part) (ctx : Context) : Context :=
  ⟨p.frame ctx.scope ++ ctx.scope, p.schemaBound?.getD ctx.schemaBound, p.joins ctx.inJoin⟩

def findings (ctx : Context) : Part → List Finding
  | .statement s => statementFindings ctx s
  | .exec c => execFindings ctx c
  | .query q => queryFindings ctx q
  | .body b => bodyFindings ctx b
  | .select b => selectFindings ctx b
  | .source s => sourceFindings ctx s
  | .on e => exprFindings ctx.joining e
  | .expr e => exprFindings ctx e

/-- What a part says by itself, in the context inside of it. -/
def own (ctx : Context) : Part → List Finding
  | .statement s => statementOwn ctx s
  | .exec c => calleeFindings c.procedure
  | .select b => b.into.toList.flatMap (writeFindings ctx · .insert)
  | .source s => sourceOwn ctx s
  | .on e => exprOwn ctx e
  | .expr e => exprOwn ctx e
  | _ => []

/-! ### One step into the tree -/

variable {ctx : Context}

private theorem exprsFindings_eq (es : List Expr) :
    exprsFindings ctx es = (es.map expr).flatMap (findings ctx) := by
  induction es with
  | nil => rfl
  | cons e es ih => rw [exprsFindings, ih]; rfl

private theorem optionalFindings_eq (e : Option Expr) :
    optionalFindings ctx e = (e.toList.map expr).flatMap (findings ctx) := by
  cases e with
  | none => rfl
  | some e => exact (List.append_nil _).symm

private theorem ctesFindings_eq (ctes : List Cte) :
    ctesFindings ctx ctes = (ctes.map (query ·.query)).flatMap (findings ctx) := by
  induction ctes with
  | nil => rfl
  | cons cte ctes ih =>
    obtain ⟨name, q⟩ := cte
    rw [ctesFindings, ih]
    rfl

private theorem statementsFindings_eq_flatMap (ss : List Statement) :
    statementsFindings ctx ss = (ss.map statement).flatMap (findings ctx) := by
  induction ss with
  | nil => rfl
  | cons s ss ih => rw [statementsFindings, ih]; rfl

private theorem joinedFindings_eq (j : Joined) : joinedFindings ctx j = (joinedParts j).flatMap (findings ctx) := by
  obtain ⟨first, joins⟩ := j
  have hjoins : joinsFindings ctx joins = (joins.flatMap fun join =>
      source join.source :: join.on.toList.map on).flatMap (findings ctx) := by
    induction joins with
    | nil => rfl
    | cons join joins ih =>
      obtain ⟨s, e⟩ := join
      rw [joinsFindings, ih]
      cases e <;> simp [optionalFindings, findings]
  rw [joinedFindings, hjoins]
  rfl

private theorem sourcesFindings_eq (js : List Joined) :
    sourcesFindings ctx js = (js.flatMap joinedParts).flatMap (findings ctx) := by
  induction js with
  | nil => rfl
  | cons j js ih => rw [sourcesFindings, ih, joinedFindings_eq, List.flatMap_cons, List.flatMap_append]

private theorem assignmentsFindings_eq (as : List Assignment) :
    assignmentsFindings ctx as = (assignmentParts as).flatMap (findings ctx) := by
  simp [assignmentsFindings, assignmentParts, List.flatMap_assoc, findings]

private theorem exprFindings_eq (e : Expr) (ctx : Context) :
    exprFindings ctx e = exprOwn ⟨ctx.scope, ctx.schemaBound, ctx.inJoin && !isCall e⟩ e ++
      (exprParts e).flatMap (findings ⟨ctx.scope, ctx.schemaBound, ctx.inJoin && !isCall e⟩) := by
  cases e with
  | call name args =>
    rw [exprFindings, exprsFindings_eq]
    simp only [isCall, Bool.not_true, Bool.and_false]
    rfl
  | group operands =>
    rw [exprFindings, exprsFindings_eq]
    simp only [isCall, Bool.not_false, Bool.and_true]
    rfl
  | _ => simp [exprFindings, exprOwn, exprParts, isCall, findings]

private theorem mergeClausesFindings_eq (clauses : List MergeClause) :
    (clauses.flatMap fun clause => optionalFindings ctx clause.condition ++ mergeActionFindings ctx clause.action) =
      (clauses.flatMap fun clause => clause.condition.toList.map expr ++ mergeActionParts clause.action).flatMap
        (findings ctx) := by
  have haction (a : MergeAction) : mergeActionFindings ctx a = (mergeActionParts a).flatMap (findings ctx) := by
    cases a with
    | update assignments => exact assignmentsFindings_eq assignments
    | insert values => exact exprsFindings_eq values
    | delete => rfl
  rw [List.flatMap_assoc]
  refine List.flatMap_congr fun clause _ => ?_
  rw [optionalFindings_eq, haction, List.flatMap_append]

private theorem statementFindings_eq (s : Statement) (ctx : Context) :
    statementFindings ctx s = statementOwn ((statement s).inside ctx) s ++
      (statementParts s).flatMap (findings ((statement s).inside ctx)) := by
  cases s with
  | query q => exact (List.append_nil _).symm
  | insert insert =>
    obtain ⟨target, source⟩ := insert
    refine congrArg (writeFindings ctx target .insert ++ ·) ?_
    cases source with
    | rows cells => exact exprsFindings_eq cells
    | query q => exact (List.append_nil _).symm
    | exec call => exact (List.append_nil _).symm
    | dynamicSql => rfl
    | defaults => rfl
  | update update =>
    simp only [statementFindings, updateFindings, sourcesFindings_eq, assignmentsFindings_eq, optionalFindings_eq]
    simp only [statementParts, List.flatMap_append, List.append_assoc]
    rfl
  | delete delete =>
    simp only [statementFindings, deleteFindings, sourcesFindings_eq, optionalFindings_eq]
    simp only [statementParts, List.flatMap_append, List.append_assoc]
    rfl
  | merge merge =>
    simp only [statementFindings, mergeFindings, mergeClausesFindings_eq]
    simp only [statementParts, List.flatMap_cons, List.append_assoc]
    rfl
  | truncate target => exact (List.append_nil _).symm
  | exec call => exact (List.append_nil _).symm
  | withCtes ctes body =>
    simp only [statementFindings, ctesFindings_eq]
    simp only [statementParts, List.flatMap_append, List.flatMap_singleton]
    rfl
  | block body => exact statementsFindings_eq_flatMap body
  | branch condition yes no =>
    cases no <;>
    · simp only [statementFindings, statementParts, Option.toList, List.map_cons, List.map_nil, List.flatMap_cons,
        List.flatMap_nil, List.append_nil, List.append_assoc]
      rfl
  | loop condition body =>
    simp only [statementFindings, statementParts, List.flatMap_cons, List.flatMap_nil, List.append_nil]
    rfl
  | routine name schemaBound body => exact statementsFindings_eq_flatMap body
  | evaluate exprs => exact exprsFindings_eq exprs
  | dynamicSql => rfl

/-- A part says what it says by itself and what the parts inside of it say. -/
theorem findings_eq (p : Part) (ctx : Context) :
    p.findings ctx = p.own (p.inside ctx) ++ p.parts.flatMap (findings (p.inside ctx)) := by
  cases p with
  | statement s => exact statementFindings_eq s ctx
  | exec c =>
    rw [findings, execFindings, exprsFindings_eq]
    rfl
  | query q =>
    obtain ⟨ctes, body, orderBy⟩ := q
    simp only [findings, queryFindings, ctesFindings_eq, exprsFindings_eq]
    simp only [parts, List.flatMap_append, List.flatMap_cons, List.append_assoc]
    rfl
  | body b =>
    cases b with
    | select block => exact (List.append_nil _).symm
    | nested q => exact (List.append_nil _).symm
    | combine left right =>
      simp only [findings, bodyFindings, parts, bodyParts, List.flatMap_cons, List.flatMap_nil, List.append_nil]
      rfl
  | select b =>
    obtain ⟨columns, into, sources, filter, groupBy, having⟩ := b
    simp only [findings, selectFindings, sourcesFindings_eq, exprsFindings_eq, optionalFindings_eq]
    simp only [parts, List.flatMap_append, List.append_assoc]
    rfl
  | source s =>
    cases s with
    | table name calledAs => exact (List.append_nil _).symm
    | call name args calledAs =>
      rw [findings, sourceFindings, exprsFindings_eq]
      rfl
    | derived q calledAs =>
      obtain ⟨ctes, body, orderBy⟩ := q
      exact (List.append_nil _).symm
    | rows cells calledAs => exact exprsFindings_eq cells
    | joined inner => exact joinedFindings_eq inner
  | on e => exact exprFindings_eq e ctx.joining
  | expr e => exact exprFindings_eq e ctx

end Part

/-! ### Places -/

/-- A part of a script with the parts around it, the innermost first. -/
structure Place where
  above : List Part
  part : Part

/-- The context inside of nested parts of a script. -/
def contextIn (above : List Part) : Context :=
  above.foldr Part.inside .initial

/-- What the part of a place says by itself. -/
def Place.contribution (pl : Place) : List Finding :=
  pl.part.own (contextIn (pl.part :: pl.above))

/-- The places of a part and of all parts inside of it, in the order of the text. -/
def Part.places (p : Part) (above : List Part) : List Place :=
  ⟨above, p⟩ :: p.parts.attach.flatMap fun q => q.1.places (p :: above)
termination_by sizeOf p
decreasing_by exact Part.allBelow_parts p q.1 q.2

def placesOf (ss : List Statement) : List Place :=
  ss.flatMap fun s => (Part.statement s).places []

variable {p q : Part} {above : List Part} {pl : Place} {ss : List Statement} {f : Finding}

theorem Part.places_eq (p : Part) (above : List Part) :
    p.places above = ⟨above, p⟩ :: p.parts.flatMap fun q => q.places (p :: above) := by
  have hattach : (p.parts.attach.map Subtype.val).flatMap (fun q => q.places (p :: above)) =
      p.parts.attach.flatMap fun q => q.1.places (p :: above) := List.flatMap_map ..
  rw [Part.places, ← hattach, List.attach_map_subtype_val]

/-- The findings of a part are the contributions of its places. -/
theorem Part.findings_eq_flatMap (p : Part) (above : List Part) :
    p.findings (contextIn above) = (p.places above).flatMap Place.contribution := by
  induction p using Part.induction generalizing above with
  | step p ih =>
    rw [p.findings_eq, p.places_eq, List.flatMap_cons, List.flatMap_assoc]
    refine congrArg (p.own (contextIn (p :: above)) ++ ·) (List.flatMap_congr fun q hq => ?_)
    exact ih q hq (p :: above)

/-- The findings of a script are the contributions of its places. -/
theorem statementsFindings_eq (ss : List Statement) :
    statementsFindings .initial ss = (placesOf ss).flatMap Place.contribution := by
  rw [Part.statementsFindings_eq_flatMap, List.flatMap_map, placesOf, List.flatMap_assoc]
  exact List.flatMap_congr fun s _ => (Part.statement s).findings_eq_flatMap []

theorem mem_statementsFindings : f ∈ statementsFindings .initial ss ↔ ∃ pl ∈ placesOf ss, f ∈ pl.contribution := by
  rw [statementsFindings_eq, List.mem_flatMap]

/-! ### The parts around a place -/

/-- A place is that of the part itself, or it stands directly inside of another place. -/
theorem Part.mem_places : pl ∈ p.places above ↔
    pl = ⟨above, p⟩ ∨ ∃ q rest, pl.above = q :: rest ∧ ⟨rest, q⟩ ∈ p.places above ∧ pl.part ∈ q.parts := by
  induction p using Part.induction generalizing above with
  | step p ih =>
    rw [p.places_eq]
    constructor
    · intro h
      rcases List.mem_cons.1 h with rfl | h
      · exact .inl rfl
      · obtain ⟨q, hq, h⟩ := List.mem_flatMap.1 h
        refine .inr ?_
        rcases (ih q hq).1 h with rfl | ⟨r, rest, habove, hr, hpart⟩
        · exact ⟨p, above, rfl, List.mem_cons_self, hq⟩
        · exact ⟨r, rest, habove, List.mem_cons_of_mem _ (List.mem_flatMap.2 ⟨q, hq, hr⟩), hpart⟩
    · rintro (rfl | ⟨r, rest, habove, hr, hpart⟩)
      · exact List.mem_cons_self
      · refine List.mem_cons_of_mem _ (List.mem_flatMap.2 ?_)
        rcases List.mem_cons.1 hr with heq | hr
        · obtain ⟨rfl, rfl⟩ := Place.mk.inj heq
          refine ⟨pl.part, hpart, ?_⟩
          rw [Part.places_eq, ← habove]
          exact List.mem_cons_self
        · obtain ⟨q, hq, hr⟩ := List.mem_flatMap.1 hr
          exact ⟨q, hq, (ih q hq).2 (.inr ⟨r, rest, habove, hr, hpart⟩)⟩

theorem mem_placesOf_nil : ⟨[], p⟩ ∈ placesOf ss ↔ ∃ s ∈ ss, p = .statement s := by
  constructor
  · intro h
    obtain ⟨s, hs, h⟩ := List.mem_flatMap.1 h
    rcases Part.mem_places.1 h with heq | ⟨q, rest, habove, _⟩
    · exact ⟨s, hs, (Place.mk.inj heq).2⟩
    · cases habove
  · rintro ⟨s, hs, rfl⟩
    exact List.mem_flatMap.2 ⟨s, hs, Part.mem_places.2 (.inl rfl)⟩

theorem mem_placesOf_cons : ⟨q :: above, p⟩ ∈ placesOf ss ↔ ⟨above, q⟩ ∈ placesOf ss ∧ p ∈ q.parts := by
  constructor
  · intro h
    obtain ⟨s, hs, h⟩ := List.mem_flatMap.1 h
    rcases Part.mem_places.1 h with heq | ⟨q', rest, habove, hq, hpart⟩
    · cases (Place.mk.inj heq).1
    · obtain ⟨rfl, rfl⟩ := List.cons_eq_cons.1 habove
      exact ⟨List.mem_flatMap.2 ⟨s, hs, hq⟩, hpart⟩
  · rintro ⟨hq, hpart⟩
    obtain ⟨s, hs, hq⟩ := List.mem_flatMap.1 hq
    exact List.mem_flatMap.2 ⟨s, hs, Part.mem_places.2 (.inr ⟨q, above, rfl, hq, hpart⟩)⟩

/-- The part of a place and each part around it have places of their own. -/
theorem exists_mem_placesOf (h : ⟨above, p⟩ ∈ placesOf ss) (hq : q ∈ p :: above) : ∃ rest, ⟨rest, q⟩ ∈ placesOf ss := by
  induction above generalizing p with
  | nil =>
    rw [List.mem_singleton] at hq
    exact ⟨[], hq ▸ h⟩
  | cons r above ih =>
    rcases List.mem_cons.1 hq with rfl | hq
    · exact ⟨_, h⟩
    · exact ih (mem_placesOf_cons.1 h).1 hq

end ChangeImpact.Extraction
