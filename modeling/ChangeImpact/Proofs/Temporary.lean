import ChangeImpact.Proofs.Mention
import Mathlib

/-!
# Temporary objects and variables

A name is that of a temporary object or of a variable if its last part starts with a mark, and then nothing is reported
for it, wherever it stands and also where it is written under an alias.  A mark on any other part is overlooked: the
place reports such a name unless the last part of one of its names is marked (`reportsName_iff_of_marked`).  So a method
of a variable that is called in a `FROM` clause is reported as a function of the catalog
(`not_silent_on_methodOfVariable`).
-/

namespace ChangeImpact.Extraction

open Sql Text

/-- The part is written like the name of a temporary object or of a variable. -/
def isMarkedPart (part : String) : Bool :=
  isMarked '#' part || isMarked '@' part

/-- Some part of the name is marked. -/
def HasMark (n : Name) : Prop :=
  ∃ part ∈ n.parts, isMarkedPart part

variable {n : Name} {m : Mention} {around : List Part}

/-- A mark that is overlooked stands before the last part. -/
theorem HasMark.not_isBare (h : HasMark n) (htemp : n.isTemporary = false) : ¬ n.isBare := by
  obtain ⟨part, hpart, hmarked⟩ := h
  intro hbare
  obtain ⟨only, honly⟩ := List.length_eq_one_iff.1 (eq_of_beq hbare)
  have hbase : n.base = part := by
    rw [honly, List.mem_singleton] at hpart
    simp [Name.base, honly, hpart]
  have htemp' : n.isTemporary = isMarkedPart part := by rw [Name.isTemporary, hbase, isMarkedPart]
  rw [htemp', hmarked] at htemp
  cases htemp

theorem HasMark.two_le_length (h : HasMark n) (htemp : n.isTemporary = false) : 2 ≤ n.parts.length := by
  have hbare : n.parts.length ≠ 1 := by simpa [Name.isBare] using h.not_isBare htemp
  obtain ⟨part, hpart, -⟩ := h
  have hpos := List.length_pos_of_mem hpart
  omega

/-- A name with a qualifier is looked up nowhere, and the alias of a table with a qualifier is never that of a common
table expression. -/
theorem Mention.exists_reported?_of_hasMark (hn : n ∈ m.objects around) (hmark : HasMark n) (hname : n.qualified ≠ "")
    (htemp : ∀ o ∈ m.objects around, o.isTemporary = false) :
    ∃ name, m.reported? (contextIn around).scope = some name := by
  obtain ⟨role, written⟩ := m
  have hbare := hmark.not_isBare (htemp n hn)
  have hpresent : Scope.presentName n = some n.qualified := presentName_eq_some.2 ⟨rfl, hname⟩
  have hself : written.isTemporary = false := htemp written List.mem_cons_self
  cases role with
  | source =>
    obtain rfl : n = written := by simpa [objects] using hn
    exact ⟨_, referenced_eq_some.2 ⟨hself, fun h => hbare h.1, hpresent⟩⟩
  | sourceCall => exact ⟨written.qualified, reported?_sourceCall_eq_some.2 ⟨hself, rfl⟩⟩
  | call =>
    obtain rfl : n = written := by simpa [objects] using hn
    exact ⟨n.qualified, reported?_call_eq_some.2 ⟨hmark.two_le_length hself, hself, rfl⟩⟩
  | procedure =>
    obtain rfl : n = written := by simpa [objects] using hn
    exact ⟨n.qualified, reported?_procedure_eq_some.2 ⟨hself, rfl, hname⟩⟩
  | target =>
    simp only [objects, List.mem_cons, Option.mem_toList, Option.bind_eq_some_iff] at hn
    rcases hn with rfl | ⟨b, hb, hnamed⟩
    · exact ⟨n.qualified, written_eq_some.2 ⟨hself, by simpa [hbare] using hpresent⟩⟩
    · -- the target is an alias, and its table is followed since it is no common table expression
      have htable : b.table? = some n := by
        cases b with
        | cte => cases hnamed
        | ofItem item inner =>
          have htable : n.isTemporary = false := htemp n (by simp [objects, hb, hnamed])
          exact Bearer.table?_ofItem.2 ⟨hnamed, htable, fun h => absurd h hbare⟩
      exact ⟨n.qualified, written_eq_some.2 ⟨hself, by rw [hb]; exact ⟨n, htable, rfl⟩⟩⟩

/-- Every reference comes from a place about objects none of which is temporary.  Where a part of some name is marked,
this is also all that is asked: the place reports a name exactly if no last part is marked. -/
theorem reportsName_iff_of_marked (owner : Entity) (ss : List Statement) :
    (∀ r ∈ (ofStatements owner ss).references, ∃ pl ∈ placesOf ss, pl.ReportsName r.targetName ∧
      (∃ n ∈ pl.objects, n.qualified = r.targetName) ∧ ∀ o ∈ pl.objects, o.isTemporary = false) ∧
    ∀ pl ∈ placesOf ss, ∀ n ∈ pl.objects, HasMark n → n.qualified ≠ "" →
      ((∃ name, pl.ReportsName name) ↔ ∀ o ∈ pl.objects, o.isTemporary = false) := by
  refine ⟨fun r hr => ?_, fun pl _ n hn hmark hname => ⟨fun ⟨name, h⟩ => ?_, fun htemp => ?_⟩⟩
  · obtain ⟨pl, hpl, h⟩ := exists_reports_of_mem_references hr
    obtain ⟨n, hn, hname, htemp⟩ := h.exists_object
    exact ⟨pl, hpl, h, ⟨n, hn, hname⟩, htemp⟩
  · obtain ⟨_, _, _, htemp⟩ := h.exists_object
    exact htemp
  · obtain ⟨m, hm⟩ : ∃ m, pl.part.mention? = some m := by
      cases hm : pl.part.mention? with
      | none => simp [Place.objects, hm] at hn
      | some m => exact ⟨m, rfl⟩
    rw [Place.objects_eq hm] at hn htemp
    obtain ⟨name, hreported⟩ := Mention.exists_reported?_of_hasMark hn hmark hname htemp
    exact ⟨name, Place.reportsName_iff.2 ⟨m, hm, hreported⟩⟩

/-- `TRUNCATE TABLE #Batch` -/
theorem not_reportsName_truncate :
    let target : Name := ⟨["#Batch"]⟩
    ¬ ∃ name, Place.ReportsName ⟨[], .statement (.truncate target)⟩ name := by
  intro target
  have hplace : ⟨[], .statement (.truncate target)⟩ ∈ placesOf [.truncate target] :=
    mem_placesOf_nil.2 ⟨_, List.mem_cons_self, rfl⟩
  have hmem : target ∈ Place.objects ⟨[], .statement (.truncate target)⟩ := List.mem_cons_self
  have hmark : HasMark target := ⟨"#Batch", List.mem_cons_self, by decide⟩
  have hrule := (reportsName_iff_of_marked ⟨.procedure, 1⟩ [.truncate target]).2 _ hplace target hmem hmark (by decide)
  intro hreports
  exact absurd (hrule.1 hreports target hmem) (by decide)

/-- `SELECT * FROM @x.nodes('/a')` -/
def methodOfVariable : Tokens :=
  [.word "SELECT" false, .star, .word "FROM" false, .word "@x" false, .period, .word "nodes" false, .openParen, .literal,
    .closeParen].map (⟨·, 1⟩)

/-- A method of a variable is reported. -/
theorem not_silent_on_methodOfVariable :
    ¬ ∀ script, Script.ofTokens methodOfVariable = .ok script → ∀ pl ∈ placesOf script.statements, ∀ n ∈ pl.objects,
      HasMark n → ∀ name, ¬ pl.ReportsName name := by
  let nodes : Source := .call ⟨["@x", "nodes"]⟩ [.literal] none
  let block : Select := ⟨[.literal], none, [⟨nodes, []⟩], none, [], none⟩
  let query : Query := ⟨[], .select block, []⟩
  let above : List Part := [.select block, .body query.body, .query query, .statement (.query query)]
  intro hsilent
  have hscript : Script.ofTokens methodOfVariable = .ok ⟨[.query query], [], 0⟩ := by cbv
  have hplace : ⟨above, .source nodes⟩ ∈ placesOf [.query query] := by
    simp [above, query, block, mem_placesOf_cons, mem_placesOf_nil, Part.parts, statementParts, bodyParts, joinedParts]
  have hmark : HasMark ⟨["@x", "nodes"]⟩ := ⟨"@x", List.mem_cons_self, by decide⟩
  refine hsilent _ hscript _ hplace _ List.mem_cons_self hmark "@x.nodes" ⟨.function, .select, ?_⟩
  decide +kernel

end ChangeImpact.Extraction
