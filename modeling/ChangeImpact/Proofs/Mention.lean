import ChangeImpact.Proofs.CreatedTable

/-!
# Names that are reported

A part of a script mentions at most one object by name, in one of five roles (`Part.mention?`), and reports a name for
it or none (`exists_uses_mem_own`).  The reported name is that of an object the mention is about: the name as it stands,
or the table that a written alias belongs to (`Mention.objects`).  Which name is reported is said once for each role;
in none of them is a temporary object reported (`Mention.reported?_eq_some`), and every reference of an extraction is
reported at some place (`exists_reports_of_mem_references`).
-/

namespace ChangeImpact.Extraction

open Sql Text

/-! ### Mentions -/

/-- Where a name stands. -/
inductive Role where
  /-- A table in a `FROM`, `JOIN` or `USING` clause. -/
  | source
  /-- A call in such a clause. -/
  | sourceCall
  /-- A call in an expression. -/
  | call
  | procedure
  /-- A table that is written. -/
  | target

structure Mention where
  role : Role
  name : Name

/-- The object that a part names itself. -/
def Part.mention? : Part → Option Mention
  | .statement (.insert insert) => some ⟨.target, insert.target⟩
  | .statement (.update update) => some ⟨.target, update.target⟩
  | .statement (.delete delete) => some ⟨.target, delete.target⟩
  | .statement (.merge merge) => some ⟨.target, merge.target⟩
  | .statement (.truncate target) => some ⟨.target, target⟩
  | .exec call => some ⟨.procedure, call.procedure⟩
  | .select block => block.into.map (⟨.target, ·⟩)
  | .source (.table name _) => some ⟨.source, name⟩
  | .source (.call name _ _) => some ⟨.sourceCall, name⟩
  | .on (.call name _) => some ⟨.call, name⟩
  | .expr (.call name _) => some ⟨.call, name⟩
  | _ => none

/-- The name under which the object is reported. -/
def Mention.reported? (scope : Scope) (m : Mention) : Option String :=
  match m.role with
  | .source => scope.referenced m.name
  | .sourceCall => if m.name.isTemporary then none else some m.name.qualified
  | .call => if m.name.parts.length < 2 || m.name.isTemporary then none else some m.name.qualified
  | .procedure => if m.name.isTemporary then none else Scope.presentName m.name
  | .target => scope.written m.name

section Own

variable {ctx : Context} {name : String} {n : Name}

theorem exists_uses_mem_writeFindings {usage : Usage} :
    (∃ kind usage', .uses kind name usage' ∈ writeFindings ctx n usage) ↔ ctx.scope.written n = some name := by
  unfold writeFindings
  cases ctx.scope.written n <;> simp [eq_comm]

theorem exists_uses_mem_calleeFindings :
    (∃ kind usage, .uses kind name usage ∈ calleeFindings n) ↔
      (if n.isTemporary then none else Scope.presentName n) = some name := by
  unfold calleeFindings Scope.presentName
  cases n.isTemporary <;> cases n.qualified.isEmpty <;> simp [eq_comm]

theorem exists_uses_mem_exprOwn (e : Expr) :
    (∃ kind usage, .uses kind name usage ∈ exprOwn ctx e) ↔
      ∃ m ∈ (Part.expr e).mention?, m.reported? ctx.scope = some name := by
  cases e with
  | column n => simp [exprOwn, columnFindings, Part.mention?]
  | binary left op right =>
    have hnone : ∀ kind usage, Finding.uses kind name usage ∉ equalityFindings ctx left op right := by
      intro kind usage
      unfold equalityFindings joinFindings
      split
      · split <;> [split; skip] <;> simp
      · simp
    simp [exprOwn, Part.mention?, hnone]
  | call n args =>
    simp only [exprOwn, functionFindings, Part.mention?, Mention.reported?, Option.mem_some_iff, exists_eq_left']
    split <;> simp [eq_comm]
  | _ => simp [exprOwn, Part.mention?]

theorem exists_uses_mem_sourceOwn (s : Source) :
    (∃ kind usage, .uses kind name usage ∈ sourceOwn ctx s) ↔
      ∃ m ∈ (Part.source s).mention?, m.reported? ctx.scope = some name := by
  cases s with
  | table n calledAs =>
    simp only [sourceOwn, tableFindings, Part.mention?, Mention.reported?, Option.mem_some_iff, exists_eq_left']
    cases ctx.scope.referenced n <;> simp [eq_comm]
  | call n args calledAs =>
    simp only [sourceOwn, tableFunctionFindings, Part.mention?, Mention.reported?, Option.mem_some_iff, exists_eq_left']
    split <;> simp [eq_comm]
  | _ => simp [sourceOwn, Part.mention?]

/-- What a part says of other objects is the name that it reports for the object it mentions. -/
theorem exists_uses_mem_own (p : Part) :
    (∃ kind usage, .uses kind name usage ∈ p.own ctx) ↔ ∃ m ∈ p.mention?, m.reported? ctx.scope = some name := by
  cases p with
  | statement s =>
    cases s <;> simp [Part.own, statementOwn, Part.mention?, Mention.reported?, exists_uses_mem_writeFindings]
  | exec c =>
    simp only [Part.own, Part.mention?, Mention.reported?, Option.mem_some_iff, exists_eq_left']
    exact exists_uses_mem_calleeFindings
  | select b =>
    cases hinto : b.into <;> simp [Part.own, Part.mention?, Mention.reported?, hinto, exists_uses_mem_writeFindings]
  | source s => exact exists_uses_mem_sourceOwn s
  | on e =>
    have hmention : (Part.on e).mention? = (Part.expr e).mention? := by cases e <;> rfl
    rw [hmention]
    exact exists_uses_mem_exprOwn e
  | expr e => exact exists_uses_mem_exprOwn e
  | _ => simp [Part.own, Part.mention?]

end Own

/-! ### The objects of a mention -/

/-- The name of the table that a bearer is, whatever this table stands for. -/
def Bearer.named? : Bearer → Option Name
  | .cte => none
  | .ofItem item _ => item.table?

/-- The names that a mention is about: the name as it stands, and where it is written, the table that bears it. -/
def Mention.objects (around : List Part) (m : Mention) : List Name :=
  m.name :: match m.role with
    | .target => ((if m.name.isBare then bearer? around m.name.base else none).bind Bearer.named?).toList
    | _ => []

theorem Bearer.table?_eq_some {b : Bearer} {t : Name} (h : b.table? = some t) :
    b.named? = some t ∧ t.isTemporary = false := by
  cases b with
  | cte => cases h
  | ofItem item around =>
    obtain ⟨htable, htemp, _⟩ := table?_ofItem.1 h
    exact ⟨htable, htemp⟩

variable {m : Mention} {around : List Part} {name : String} {n : Name}

/-- What a written name is reported as. -/
theorem written_eq_some :
    (contextIn around).scope.written n = some name ↔
      n.isTemporary = false ∧
        match if n.isBare then bearer? around n.base else none with
        | some b => ∃ t, b.table? = some t ∧ t.qualified = name
        | none => Scope.presentName n = some name := by
  cases htemp : n.isTemporary with
  | true => simp [Scope.written, htemp]
  | false =>
    rw [written_contextIn around htemp]
    cases if n.isBare then bearer? around n.base else none <;> simp

theorem presentName_eq_some : Scope.presentName n = some name ↔ n.qualified = name ∧ name ≠ "" := by
  unfold Scope.presentName
  by_cases hempty : n.qualified = ""
  · rw [if_pos (by simpa using hempty)]
    exact ⟨fun h => (nomatch h), fun h => absurd (h.1.symm.trans hempty) h.2⟩
  · rw [if_neg (by simpa using hempty), Option.some.injEq]
    exact ⟨fun h => ⟨h, h ▸ hempty⟩, And.left⟩

theorem referenced_eq_some {scope : Scope} :
    scope.referenced n = some name ↔
      n.isTemporary = false ∧ ¬ (n.isBare ∧ scope.find? n.base = some .cte) ∧ Scope.presentName n = some name := by
  unfold Scope.referenced
  split
  · rename_i htemp
    simp [htemp]
  · rename_i htemp
    split <;> simp_all

theorem reported?_sourceCall_eq_some {scope : Scope} :
    Mention.reported? scope ⟨.sourceCall, n⟩ = some name ↔ n.isTemporary = false ∧ n.qualified = name := by
  unfold Mention.reported?
  cases n.isTemporary <;> simp

theorem reported?_procedure_eq_some {scope : Scope} :
    Mention.reported? scope ⟨.procedure, n⟩ = some name ↔ n.isTemporary = false ∧ n.qualified = name ∧ name ≠ "" := by
  rw [← presentName_eq_some]
  unfold Mention.reported?
  cases n.isTemporary <;> simp

theorem reported?_call_eq_some {scope : Scope} :
    Mention.reported? scope ⟨.call, n⟩ = some name ↔
      2 ≤ n.parts.length ∧ n.isTemporary = false ∧ n.qualified = name := by
  unfold Mention.reported?
  by_cases hshort : n.parts.length < 2
  · simp [hshort, Nat.not_le.2 hshort]
  · simp only [hshort, Nat.not_lt.1 hshort, decide_false, Bool.false_or, true_and]
    cases n.isTemporary <;> simp

/-- The reported name is that of an object of the mention, and none of these objects is temporary. -/
theorem Mention.reported?_eq_some (h : m.reported? (contextIn around).scope = some name) :
    ∃ n ∈ m.objects around, n.qualified = name ∧ ∀ o ∈ m.objects around, o.isTemporary = false := by
  obtain ⟨role, n⟩ := m
  cases role with
  | source =>
    obtain ⟨htemp, -, hname⟩ := referenced_eq_some.1 h
    exact ⟨n, List.mem_cons_self, (presentName_eq_some.1 hname).1, by simpa [objects] using htemp⟩
  | sourceCall =>
    obtain ⟨htemp, hname⟩ := reported?_sourceCall_eq_some.1 h
    exact ⟨n, List.mem_cons_self, hname, by simpa [objects] using htemp⟩
  | call =>
    obtain ⟨-, htemp, hname⟩ := reported?_call_eq_some.1 h
    exact ⟨n, List.mem_cons_self, hname, by simpa [objects] using htemp⟩
  | procedure =>
    obtain ⟨htemp, hname, -⟩ := reported?_procedure_eq_some.1 h
    exact ⟨n, List.mem_cons_self, hname, by simpa [objects] using htemp⟩
  | target =>
    obtain ⟨htemp, hwritten⟩ := written_eq_some.1 h
    simp only [objects]
    cases hbearer : if n.isBare then bearer? around n.base else none with
    | none =>
      rw [hbearer] at hwritten
      exact ⟨n, List.mem_cons_self, (presentName_eq_some.1 hwritten).1, by simpa using htemp⟩
    | some b =>
      rw [hbearer] at hwritten
      obtain ⟨t, ht, hname⟩ := hwritten
      obtain ⟨hnamed, htable⟩ := Bearer.table?_eq_some ht
      exact ⟨t, by simp [hnamed], hname, by simp [hnamed, htemp, htable]⟩

/-! ### Places and references -/

/-- The names that a place is about. -/
def Place.objects (pl : Place) : List Name :=
  pl.part.mention?.toList.flatMap (Mention.objects (pl.part :: pl.above))

/-- A reference to an object of this name comes from the place. -/
def Place.ReportsName (pl : Place) (name : String) : Prop :=
  ∃ kind usage, .uses kind name usage ∈ pl.contribution

variable {pl : Place} {owner : Entity} {ss : List Statement} {r : Reference}

theorem Place.reportsName_iff : pl.ReportsName name ↔
    ∃ m ∈ pl.part.mention?, m.reported? (contextIn (pl.part :: pl.above)).scope = some name :=
  exists_uses_mem_own pl.part

theorem Place.objects_eq (h : pl.part.mention? = some m) : pl.objects = m.objects (pl.part :: pl.above) := by
  rw [objects, h, Option.toList_some, List.flatMap_singleton]

/-- Every reference comes from a place. -/
theorem exists_reports_of_mem_references (h : r ∈ (ofStatements owner ss).references) :
    ∃ pl ∈ placesOf ss, pl.ReportsName r.targetName := by
  obtain ⟨f, hf, heq⟩ := List.mem_filterMap.1 (mem_of_mem_distinctBy h)
  obtain ⟨pl, hpl, hf⟩ := mem_statementsFindings.1 hf
  cases f with
  | uses kind name usage =>
    cases heq
    exact ⟨pl, hpl, kind, usage, hf⟩
  | joins condition => cases heq
  | column reference => cases heq

/-- What a place reports is the name of one of its objects, none of which is temporary. -/
theorem Place.ReportsName.exists_object (h : pl.ReportsName name) :
    ∃ n ∈ pl.objects, n.qualified = name ∧ ∀ o ∈ pl.objects, o.isTemporary = false := by
  obtain ⟨m, hm, hreported⟩ := reportsName_iff.1 h
  rw [objects_eq hm]
  exact Mention.reported?_eq_some hreported

end ChangeImpact.Extraction
