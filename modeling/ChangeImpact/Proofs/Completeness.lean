import ChangeImpact.Proofs.Frame
import ChangeImpact.Proofs.Order

/-!
# No reference is lost

Wherever a table, a procedure or a function is named in a script, the extraction reports it with the way it is used:
`reportsAll`.  A bare name is only followed if it is plain, that is, unless a common table expression or an alias has
it somewhere in the script (`IsPlain`).

The target of an `UPDATE` or `DELETE` is looked up among the tables of its `FROM` clause, where names are bound by their
text.  So a bare target is another table's name there if this table has the same last name, or if it is a temporary
table whose parts, joined by periods, are the target: `not_reports_quotedTarget`.
-/

namespace ChangeImpact.Extraction

open Sql Text

/-! ### Plain names -/

/-- The names of all common table expressions of a script. -/
def cteNames (ss : List Statement) : List String :=
  (placesOf ss).flatMap fun pl => pl.part.ctes.map Cte.name

/-- The aliases of all tables, calls, queries and rows of a script, the target of a `MERGE` included. -/
def aliases (ss : List Statement) : List String :=
  (placesOf ss).flatMap fun pl => pl.part.items.filterMap Item.calledAs

/-- The name stands for an object of the catalog wherever it occurs in the script. -/
structure IsPlain (ss : List Statement) (n : Name) : Prop where
  not_temporary : n.isTemporary = false
  qualified_ne : n.qualified ≠ ""
  unambiguous : 2 ≤ n.parts.length ∨ ∀ other ∈ cteNames ss ++ aliases ss, ¬ sameAsciiCase other n.base

variable {ss : List Statement} {n : Name} {p q : Part} {above : List Part} {pl : Place}

namespace IsPlain

theorem presentName_eq (h : IsPlain ss n) : Scope.presentName n = some n.qualified := by
  rw [Scope.presentName, if_neg (by simpa using h.qualified_ne)]

theorem ne_of_isBare (h : IsPlain ss n) (hbare : n.isBare) {other : String}
    (hother : other ∈ cteNames ss ++ aliases ss) : ¬ sameAsciiCase other n.base := by
  have hlength : n.parts.length = 1 := eq_of_beq hbare
  exact h.unambiguous.resolve_left (by omega) other hother

theorem not_declares (h : IsPlain ss n) (hbare : n.isBare) (hq : ⟨above, q⟩ ∈ placesOf ss) : ¬ q.declares n.base := by
  intro hdeclares
  obtain ⟨cte, hcte, hsame⟩ := List.any_eq_true.1 hdeclares
  have hmem : cte.name ∈ cteNames ss := List.mem_flatMap.2 ⟨_, hq, List.mem_map.2 ⟨cte, hcte, rfl⟩⟩
  exact h.ne_of_isBare hbare (List.mem_append_left _ hmem) hsame

theorem not_isCalled (h : IsPlain ss n) (hbare : n.isBare) (hq : ⟨above, q⟩ ∈ placesOf ss) {item : Item}
    (hitem : item ∈ q.items) : ¬ item.isCalled n.base := by
  intro hcalled
  obtain ⟨alternative, halias, hsame⟩ := (Option.any_eq_true _ _).1 hcalled
  have hmem : alternative ∈ aliases ss :=
    List.mem_flatMap.2 ⟨_, hq, List.mem_filterMap.2 ⟨item, hitem, halias⟩⟩
  exact h.ne_of_isBare hbare (List.mem_append_right _ hmem) hsame

/-- A plain bare name stands for no common table expression. -/
theorem find?_ne_cte (h : IsPlain ss n) (hbare : n.isBare) (hp : ⟨above, p⟩ ∈ placesOf ss) :
    (contextIn above).scope.find? n.base ≠ some .cte := by
  intro hcte
  obtain ⟨q, hq, hbinds⟩ := exists_of_find?_eq_cte hcte
  obtain ⟨rest, hplace⟩ := exists_mem_placesOf hp (List.mem_cons_of_mem _ hq)
  rcases hbinds with hdeclares | ⟨item, hitem, hrenames⟩
  · exact h.not_declares hbare hplace hdeclares
  · exact h.not_isCalled hbare hplace hitem (Bool.and_eq_true_iff.1 hrenames).1

end IsPlain

/-! ### Written names -/

/-- The item is a table that takes over a bare name: by its last name, or by its whole text if it is temporary. -/
def Item.takes (item : Item) (name : String) : Bool :=
  item.table?.any fun t => sameAsciiCase t.base name || t.isTemporary && sameAsciiCase t.qualified name

theorem Item.binding_eq_of_isNamed {item : Item} (outer : Scope) {name : String} (h : item.isNamed name)
    (htakes : ¬ item.takes name) : ∃ t, item.binding outer = .table t ∧ sameAsciiCase t name := by
  obtain ⟨table?, calledAs⟩ := item
  cases table? with
  | none => cases h
  | some t =>
    simp only [takes, Option.any_some, Bool.or_eq_true, Bool.and_eq_true, not_or, not_and] at htakes
    obtain ⟨hbase, htemp⟩ := htakes
    by_cases hbare : t.isBare
    · exact absurd (by simpa [isNamed, names, hbare] using h) hbase
    · have hsame : sameAsciiCase t.qualified name := by simpa [isNamed, names, hbare, hbase] using h
      have htemp : ¬ t.isTemporary := fun ht => htemp ht hsame
      exact ⟨t.qualified, by simp [binding, tableBinding, htemp, hbare], hsame⟩

/-- A plain name is written as it is, where no table of a clause around takes it over. -/
theorem IsPlain.exists_written (h : IsPlain ss n) (hp : ⟨above, p⟩ ∈ placesOf ss)
    (htakes : n.isBare → ∀ q ∈ p :: above, ∀ item ∈ q.items, ¬ item.takes n.base) :
    ∃ t, (contextIn (p :: above)).scope.written n = some t ∧ sameAsciiCase t n.qualified := by
  have hself : sameAsciiCase n.qualified n.qualified := sameAsciiCase_iff.2 rfl
  unfold Scope.written
  rw [if_neg (by simp [h.not_temporary])]
  by_cases hbare : n.isBare
  · rw [if_pos hbare]
    cases hfound : (contextIn (p :: above)).scope.find? n.base with
    | none => exact ⟨n.qualified, h.presentName_eq, hself⟩
    | some b =>
      obtain ⟨q, hq, hbinds⟩ := exists_of_find?_contextIn hfound
      obtain ⟨rest, hplace⟩ := exists_mem_placesOf hp hq
      rcases hbinds with hdeclares | ⟨item, hitem, hcalled | hnamed, outer, hb⟩
      · exact absurd hdeclares (h.not_declares hbare hplace)
      · exact absurd hcalled (h.not_isCalled hbare hplace hitem)
      · -- a table with a qualifier whose text is the name: what is written is this table, which is the same one
        obtain ⟨t, ht, hsame⟩ := Item.binding_eq_of_isNamed outer hnamed (htakes hbare q hq item hitem)
        rw [← hb, ht]
        exact ⟨t, rfl, Name.qualified_of_isBare hbare ▸ hsame⟩
  · rw [if_neg hbare]
    exact ⟨n.qualified, h.presentName_eq, hself⟩

/-- The target of a `MERGE` stands for itself, since it is bound before the source is. -/
theorem IsPlain.written_target {m : Merge} (h : IsPlain ss m.target)
    (hm : ⟨above, .statement (.merge m)⟩ ∈ placesOf ss) :
    (contextIn (.statement (.merge m) :: above)).scope.written m.target = some m.target.qualified := by
  unfold Scope.written
  rw [if_neg (by simp [h.not_temporary])]
  by_cases hbare : m.target.isBare
  · have hcte := h.find?_ne_cte hbare hm
    have hbinding : tableBinding (contextIn above).scope m.target = .table m.target.qualified := by
      simp [tableBinding, h.not_temporary, hcte]
    have hnamed : Item.isNamed ⟨some m.target, m.targetAlias⟩ m.target.base := by
      simp [Item.isNamed, Item.names, hbare, sameAsciiCase_iff]
    have hframe : ((Part.statement (.merge m)).frame (contextIn above).scope).find? m.target.base =
        some (.table m.target.qualified) := by
      rw [Part.frame_eq, ← hbinding]
      exact Item.find?_foldl_cons_of_isNamed rfl hnamed fun item hitem => h.not_isCalled hbare hm hitem
    rw [if_pos hbare, find?_contextIn_cons, hframe]
    rfl
  · rw [if_neg hbare]
    exact h.presentName_eq

/-! ### Reports -/

/-- The extraction from the script lists a reference, up to the case of its name. -/
def Reports (owner : Entity) (ss : List Statement) (kind : ObjectKind) (name : String) (usage : Usage) : Prop :=
  ∃ r ∈ (ofStatements owner ss).references,
    r.source = owner ∧ r.targetKind = kind ∧ sameAsciiCase r.targetName name ∧ r.usage = usage

variable {owner : Entity} {kind : ObjectKind} {name other : String} {usage : Usage}

theorem Reports.of_mem (hpl : pl ∈ placesOf ss) (h : .uses kind other usage ∈ pl.contribution)
    (hsame : sameAsciiCase other name) : Reports owner ss kind name usage := by
  have hfinding : .uses kind other usage ∈ statementsFindings .initial ss := mem_statementsFindings.2 ⟨pl, hpl, h⟩
  have hkey : (kind, asciiLower other, usage) ∈ (ofStatements owner ss).references.map referenceKey :=
    mem_map_distinctBy.2 ⟨List.mem_map.2 ⟨⟨owner, kind, other, usage⟩,
      List.mem_filterMap.2 ⟨_, hfinding, rfl⟩, rfl⟩, List.not_mem_nil⟩
  obtain ⟨r, hr, heq⟩ := List.mem_map.1 hkey
  obtain ⟨hkind, hname, husage⟩ : r.targetKind = kind ∧ asciiLower r.targetName = asciiLower other ∧
      r.usage = usage := by simpa [referenceKey] using heq
  refine ⟨r, hr, source_of_mem_referencesOf hr, hkind, ?_, husage⟩
  rw [sameAsciiCase_iff, hname, sameAsciiCase_iff.1 hsame]

/-- How a source or a function is read at a place: the innermost routine around decides. -/
def readingIn (above : List Part) : Usage :=
  if (above.findSome? Part.schemaBound?).getD false then .schemaBinding else .select

theorem schemaBound_contextIn (above : List Part) :
    (contextIn above).schemaBound = (above.findSome? Part.schemaBound?).getD false := by
  induction above with
  | nil => rfl
  | cons p above ih =>
    have hcons : (contextIn (p :: above)).schemaBound = p.schemaBound?.getD (contextIn above).schemaBound := rfl
    rw [hcons, ih, List.findSome?_cons]
    cases p.schemaBound? <;> rfl

theorem reading_contextIn (above : List Part) : (contextIn above).reading = readingIn above := by
  rw [Context.reading, schemaBound_contextIn, readingIn]

/-! ### Every reference -/

/-- The strongest action of a `MERGE`, which counts as an update if it has none. -/
def IsMergeUsage (clauses : List MergeClause) (usage : Usage) : Prop :=
  clauses = [] ∧ usage = .update ∨ Usage.IsStrongest (clauses.map (MergeAction.usage ·.action)) usage

theorem isMergeUsage_mergeUsage (clauses : List MergeClause) : IsMergeUsage clauses (mergeUsage clauses) := by
  unfold mergeUsage
  cases hmax : Usage.max? (clauses.map (MergeAction.usage ·.action)) with
  | none =>
    cases clauses with
    | nil => exact .inl ⟨rfl, rfl⟩
    | cons clause clauses => cases hmax
  | some usage => exact .inr (Usage.isStrongest_of_max?_eq_some hmax)

/-- The name of a written table is reported. -/
theorem Reports.of_written (hp : ⟨above, p⟩ ∈ placesOf ss)
    (hown : ∀ f ∈ writeFindings (contextIn (p :: above)) n usage, f ∈ p.own (contextIn (p :: above)))
    (hwritten : ∃ t, (contextIn (p :: above)).scope.written n = some t ∧ sameAsciiCase t n.qualified) :
    Reports owner ss .table n.qualified usage := by
  obtain ⟨t, ht, hsame⟩ := hwritten
  refine .of_mem hp (hown _ ?_) hsame
  rw [writeFindings, ht]
  exact List.mem_singleton_self _

/-- The target of a statement is reported unless a table of its own clause takes it over. -/
theorem IsPlain.reports_target {s : Statement} (h : IsPlain ss n) (hs : ⟨above, .statement s⟩ ∈ placesOf ss)
    (hown : ∀ ctx, statementOwn ctx s = writeFindings ctx n usage)
    (htakes : n.isBare → ∀ item ∈ (Part.statement s).items, ¬ item.takes n.base) :
    Reports owner ss .table n.qualified usage := by
  have hown : (Part.statement s).own (contextIn (.statement s :: above)) =
      writeFindings (contextIn (.statement s :: above)) n usage := hown _
  refine .of_written hs (fun f hf => hown ▸ hf) (h.exists_written hs fun hbare => ?_)
  refine List.forall_mem_cons.2 ⟨htakes hbare, fun q hq => ?_⟩
  rw [items_eq_nil_of_mem_above hs q hq]
  simp

/-- Each table, procedure and function that the script names is reported with the way it is used. -/
structure ReportsAll (owner : Entity) (ss : List Statement) : Prop where
  /-- A table of a `FROM`, `JOIN` or `USING` clause. -/
  table : ∀ {above n calledAs}, ⟨above, .source (.table n calledAs)⟩ ∈ placesOf ss → IsPlain ss n →
    Reports owner ss .table n.qualified (readingIn above)
  insert : ∀ {above insert}, ⟨above, .statement (.insert insert)⟩ ∈ placesOf ss → IsPlain ss insert.target →
    Reports owner ss .table insert.target.qualified .insert
  update : ∀ {above update}, ⟨above, .statement (.update update)⟩ ∈ placesOf ss → IsPlain ss update.target →
    (update.target.isBare → ∀ item ∈ update.sources.flatMap joinedItems, ¬ item.takes update.target.base) →
      Reports owner ss .table update.target.qualified .update
  delete : ∀ {above delete}, ⟨above, .statement (.delete delete)⟩ ∈ placesOf ss → IsPlain ss delete.target →
    (delete.target.isBare → ∀ item ∈ delete.sources.flatMap joinedItems, ¬ item.takes delete.target.base) →
      Reports owner ss .table delete.target.qualified .delete
  truncate : ∀ {above n}, ⟨above, .statement (.truncate n)⟩ ∈ placesOf ss → IsPlain ss n →
    Reports owner ss .table n.qualified .delete
  merge : ∀ {above merge}, ⟨above, .statement (.merge merge)⟩ ∈ placesOf ss → IsPlain ss merge.target →
    ∃ usage, IsMergeUsage merge.clauses usage ∧ Reports owner ss .table merge.target.qualified usage
  /-- The target of a `SELECT INTO`, which is looked up in all clauses around it. -/
  into : ∀ {above block n}, ⟨above, .select block⟩ ∈ placesOf ss → block.into = some n → IsPlain ss n →
    (n.isBare → ∀ q ∈ .select block :: above, ∀ item ∈ q.items, ¬ item.takes n.base) →
      Reports owner ss .table n.qualified .insert
  exec : ∀ {above call}, ⟨above, .exec call⟩ ∈ placesOf ss → call.procedure.isTemporary = false →
    call.procedure.qualified ≠ "" → Reports owner ss .procedure call.procedure.qualified .exec
  /-- A function in a `FROM`, `JOIN` or `USING` clause. -/
  tableFunction : ∀ {above n args calledAs}, ⟨above, .source (.call n args calledAs)⟩ ∈ placesOf ss →
    n.isTemporary = false → Reports owner ss .function n.qualified (readingIn above)
  /-- A function with a qualifier in an expression. -/
  function : ∀ {above n args},
    ⟨above, .expr (.call n args)⟩ ∈ placesOf ss ∨ ⟨above, .on (.call n args)⟩ ∈ placesOf ss →
      n.isTemporary = false → 2 ≤ n.parts.length → Reports owner ss .function n.qualified (readingIn above)

/-- No reference is lost, whatever the script. -/
theorem reportsAll (owner : Entity) (ss : List Statement) : ReportsAll owner ss where
  table {above n calledAs} hp h := by
    refine .of_mem hp ?_ (sameAsciiCase_iff.2 rfl)
    have hreferenced : (contextIn (.source (.table n calledAs) :: above)).scope.referenced n = some n.qualified := by
      unfold Scope.referenced
      rw [if_neg (by simp [h.not_temporary]), if_neg ?_, h.presentName_eq]
      intro hcte
      obtain ⟨hbare, hcte⟩ := Bool.and_eq_true_iff.1 hcte
      exact h.find?_ne_cte hbare hp (eq_of_beq hcte)
    rw [Place.contribution, Part.own, sourceOwn, tableFindings, hreferenced]
    exact List.mem_singleton.2 (congrArg _ (reading_contextIn above).symm)
  insert hp h := h.reports_target hp (fun _ => rfl) (by simp [Part.items])
  update hp h htakes := h.reports_target hp (fun _ => rfl) htakes
  delete hp h htakes := h.reports_target hp (fun _ => rfl) htakes
  truncate hp h := h.reports_target hp (fun _ => rfl) (by simp [Part.items])
  merge {above merge} hp h :=
    ⟨mergeUsage merge.clauses, isMergeUsage_mergeUsage _,
      .of_written hp (fun _ hf => hf) ⟨_, h.written_target hp, sameAsciiCase_iff.2 rfl⟩⟩
  into {above block n} hp hinto h htakes := by
    refine .of_written hp (fun f hf => ?_) (h.exists_written hp htakes)
    simp [Part.own, hinto, hf]
  exec {above call} hp htemp hname := by
    refine .of_mem hp ?_ (sameAsciiCase_iff.2 rfl)
    simp [Place.contribution, Part.own, calleeFindings, htemp, hname]
  tableFunction {above n args calledAs} hp htemp := by
    refine .of_mem hp ?_ (sameAsciiCase_iff.2 rfl)
    have hreading : (contextIn (.source (.call n args calledAs) :: above)).reading = readingIn above :=
      reading_contextIn above
    simp [Place.contribution, Part.own, sourceOwn, tableFunctionFindings, htemp, hreading]
  function {above n args} hp htemp hlength := by
    have hown (ctx : Context) : exprOwn ctx (.call n args) = [.uses .function n.qualified ctx.reading] := by
      have hlong : ¬ n.parts.length < 2 := Nat.not_lt.2 hlength
      rw [exprOwn, functionFindings, decide_eq_false hlong, htemp]
      rfl
    rcases hp with hp | hp <;>
    · refine .of_mem hp ?_ (sameAsciiCase_iff.2 rfl)
      rw [Place.contribution, Part.own, hown]
      exact List.mem_singleton.2 (congrArg _ (reading_contextIn above).symm)

/-- `SELECT dbo.Total() FROM Incoming` -/
def incoming : Select :=
  ⟨[.call ⟨["dbo", "Total"]⟩ []], none, [⟨.table ⟨["Incoming"]⟩ none, []⟩], none, [], none⟩

/-- `MERGE Stock AS t USING (SELECT dbo.Total() FROM Incoming) AS s ON 1 = 1 WHEN MATCHED THEN DELETE` -/
def mergeStock : Merge :=
  ⟨⟨["Stock"]⟩, some "t", .derived ⟨[], .select incoming, []⟩ (some "s"), .binary .literal .equals .literal,
    [⟨none, .delete⟩]⟩

/-- The target of a `MERGE` and what its source names are reported. -/
theorem reports_mergeStock :
    let owner : Entity := ⟨.procedure, 1⟩
    let script : List Statement := [.merge mergeStock]
    Reports owner script .table "Stock" .delete ∧ Reports owner script .table "Incoming" .select ∧
      Reports owner script .function "dbo.Total" .select := by
  intro owner script
  have hall := reportsAll owner script
  have hmerge : ⟨[], .statement (.merge mergeStock)⟩ ∈ placesOf script :=
    mem_placesOf_nil.2 ⟨_, List.mem_cons_self, rfl⟩
  let above : List Part :=
    [.body (.select incoming), .query ⟨[], .select incoming, []⟩, .source mergeStock.source,
      .statement (.merge mergeStock)]
  have hblock : ⟨above, .select incoming⟩ ∈ placesOf script := by
    simp [above, script, mem_placesOf_cons, mem_placesOf_nil, Part.parts, statementParts, sourceParts, bodyParts,
      mergeStock]
  have hsource : ⟨.select incoming :: above, .source (.table ⟨["Incoming"]⟩ none)⟩ ∈ placesOf script :=
    mem_placesOf_cons.2 ⟨hblock, by simp [Part.parts, joinedParts, incoming]⟩
  have hcall : ⟨.select incoming :: above, .expr (.call ⟨["dbo", "Total"]⟩ [])⟩ ∈ placesOf script :=
    mem_placesOf_cons.2 ⟨hblock, by simp [Part.parts, joinedParts, incoming]⟩
  have hstock : IsPlain script ⟨["Stock"]⟩ := ⟨by decide, by decide, .inr (by decide +kernel)⟩
  have hincoming : IsPlain script ⟨["Incoming"]⟩ := ⟨by decide, by decide, .inr (by decide +kernel)⟩
  obtain ⟨usage, husage, hreported⟩ := hall.merge hmerge hstock
  have hdelete : usage = .delete := by
    rcases husage with ⟨hnil, _⟩ | ⟨hmem, _⟩
    · cases hnil
    · exact List.mem_singleton.1 hmem
  exact ⟨hdelete ▸ hreported, hall.table hsource hincoming, hall.function (.inl hcall) (by decide) (by decide)⟩

/-- `UPDATE [T.#x] SET a = 1 FROM T.#x` -/
def quotedTarget : Update :=
  ⟨⟨["T.#x"]⟩, [⟨.column ⟨["a"]⟩, .literal⟩], [⟨.table ⟨["T", "#x"]⟩ none, []⟩], none⟩

/-- A target may be lost to a temporary table although their last names differ. -/
theorem not_reports_quotedTarget :
    let owner : Entity := ⟨.procedure, 1⟩
    let script : List Statement := [.update quotedTarget]
    ¬ ∀ above update, ⟨above, .statement (.update update)⟩ ∈ placesOf script → IsPlain script update.target →
      (update.target.isBare → ∀ item ∈ update.sources.flatMap joinedItems,
        ¬ item.table?.any (sameAsciiCase ·.base update.target.base)) →
          Reports owner script .table update.target.qualified .update := by
  intro owner script hall
  have hplace : ⟨[], .statement (.update quotedTarget)⟩ ∈ placesOf script :=
    mem_placesOf_nil.2 ⟨_, List.mem_cons_self, rfl⟩
  have hplain : IsPlain script quotedTarget.target := ⟨by decide, by decide, .inr (by decide +kernel)⟩
  obtain ⟨r, hr, _⟩ := hall [] quotedTarget hplace hplain (fun _ => by decide +kernel)
  have hnone : (ofStatements owner script).references = [] := by decide +kernel
  rw [hnone] at hr
  exact List.not_mem_nil hr

end ChangeImpact.Extraction
