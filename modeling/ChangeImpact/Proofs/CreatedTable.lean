import ChangeImpact.Proofs.Bearer
import ChangeImpact.Proofs.Completeness

/-!
# The table that a query creates

The name behind `INTO` is looked up like the target of an `UPDATE`, among the aliases and tables of the block itself and
of the blocks around it.  So what is reported as written is the new table only if nothing goes by its name there, or
what does is a table of this very name (`contribution_into_iff`).  Otherwise another table is reported, or none:
`SELECT * INTO Orders FROM archive.Orders` creates `Orders` and is said to write `archive.Orders`
(`contribution_selectInto_wrong`).
-/

namespace ChangeImpact.Extraction

open Sql Text

variable {n : Name}

/-- A bare name that is written is the table that goes by the name, if anything does. -/
theorem written_contextIn (around : List Part) (htemp : n.isTemporary = false) :
    (contextIn around).scope.written n =
      match if n.isBare then bearer? around n.base else none with
      | some b => b.table?.map Name.qualified
      | none => Scope.presentName n := by
  have hscope : (if n.isBare then (contextIn around).scope.find? n.base else none) =
      (if n.isBare then bearer? around n.base else none).map Bearer.binding := by
    rw [find?_contextIn_eq]
    cases n.isBare <;> rfl
  rw [Scope.written, if_neg (by simp [htemp]), hscope]
  cases if n.isBare then bearer? around n.base else none with
  | none => rfl
  | some b =>
    refine Eq.trans ?_ b.map_qualified_table?.symm
    rw [Option.map_some]
    cases b.binding <;> rfl

/-- What goes by the name within the parts, if anything does, is a table of this very name. -/
def KeepsName (around : List Part) (n : Name) : Prop :=
  n.isBare → ∀ b ∈ bearer? around n.base, ∃ t ∈ b.table?, sameAsciiCase t.qualified n.qualified

/-- A name is written as it stands exactly if the parts around keep it. -/
theorem exists_written_iff_keepsName (around : List Part) (htemp : n.isTemporary = false) (hname : n.qualified ≠ "") :
    (∃ t, (contextIn around).scope.written n = some t ∧ sameAsciiCase t n.qualified) ↔ KeepsName around n := by
  have hself : ∃ t, Scope.presentName n = some t ∧ sameAsciiCase t n.qualified :=
    ⟨n.qualified, by simp [Scope.presentName, hname], sameAsciiCase_iff.2 rfl⟩
  rw [written_contextIn around htemp, KeepsName]
  cases n.isBare with
  | false => simpa using hself
  | true =>
    rw [if_pos rfl]
    cases bearer? around n.base with
    | none => simpa using hself
    | some b => simp

/-- The findings of a script are those of its places.  A block with `INTO` adds the new table, as one that rows are
inserted into, and nothing else exactly if what goes by its name in the block is a table of this name, and then the
table is reported. -/
theorem contribution_into_iff (owner : Entity) (ss : List Statement) :
    statementsFindings .initial ss = (placesOf ss).flatMap Place.contribution ∧
      ∀ above block n, ⟨above, .select block⟩ ∈ placesOf ss → block.into = some n → n.isTemporary = false →
        n.qualified ≠ "" →
        ((∃ t, Place.contribution ⟨above, .select block⟩ = [.uses .table t .insert] ∧ sameAsciiCase t n.qualified) ↔
          KeepsName (.select block :: above) n) ∧
        (KeepsName (.select block :: above) n → Reports owner ss .table n.qualified .insert) := by
  refine ⟨statementsFindings_eq ss, fun above block n hplace hinto htemp hname => ?_⟩
  have hwritten := exists_written_iff_keepsName (.select block :: above) htemp hname
  have hcontribution : Place.contribution ⟨above, .select block⟩ =
      writeFindings (contextIn (.select block :: above)) n .insert := by
    rw [Place.contribution, Part.own, hinto, Option.toList_some, List.flatMap_singleton]
  constructor
  · rw [← hwritten, hcontribution, writeFindings]
    cases (contextIn (.select block :: above)).scope.written n <;> simp
  · intro hkeeps
    exact .of_written hplace (fun f hf => by rwa [← hcontribution] at hf) (hwritten.2 hkeeps)

/-- `SELECT * INTO n FROM t` -/
def selectInto (n t : Name) : Select :=
  ⟨[.literal], some n, [⟨.table t none, []⟩], none, [], none⟩

/-- The parts around the block. -/
def aroundSelectInto (n t : Name) : List Part :=
  let query : Query := ⟨[], .select (selectInto n t), []⟩
  [.body query.body, .query query, .statement (.query query)]

theorem mem_placesOf_selectInto (n t : Name) :
    ⟨aroundSelectInto n t, .select (selectInto n t)⟩ ∈ placesOf [.query ⟨[], .select (selectInto n t), []⟩] := by
  simp [aroundSelectInto, mem_placesOf_cons, mem_placesOf_nil, Part.parts, statementParts, bodyParts]

/-- A table of another name does not take the new one over. -/
theorem reports_selectInto :
    let n : Name := ⟨["Archive"]⟩
    let t : Name := ⟨["dbo", "Orders"]⟩
    KeepsName (.select (selectInto n t) :: aroundSelectInto n t) n ∧
      Reports ⟨.procedure, 1⟩ [.query ⟨[], .select (selectInto n t), []⟩] .table "Archive" .insert := by
  intro n t
  have hkeeps : KeepsName (.select (selectInto n t) :: aroundSelectInto n t) n := by
    have hnone : bearer? (.select (selectInto n t) :: aroundSelectInto n t) n.base = none := by decide +kernel
    intro _ b hb
    rw [hnone] at hb
    cases hb
  have hrule := (contribution_into_iff ⟨.procedure, 1⟩ [.query ⟨[], .select (selectInto n t), []⟩]).2 _ _ n
    (mem_placesOf_selectInto n t) rfl (by decide) (by decide)
  exact ⟨hkeeps, hrule.2 hkeeps⟩

/-- A table that has the new name as its last one is taken for the new table. -/
theorem contribution_selectInto_wrong :
    let created : Name := ⟨["Orders"]⟩
    let t : Name := ⟨["archive", "Orders"]⟩
    ¬ ∀ above block n, ⟨above, .select block⟩ ∈ placesOf [.query ⟨[], .select (selectInto created t), []⟩] →
      block.into = some n → n.isTemporary = false → n.qualified ≠ "" → (∀ q ∈ above, ¬ q.declares n.base) →
        ∃ t, .uses .table t .insert ∈ Place.contribution ⟨above, .select block⟩ ∧ sameAsciiCase t n.qualified := by
  intro created t hall
  have hdeclares : ∀ q ∈ aroundSelectInto created t, ¬ q.declares created.base := by decide +kernel
  obtain ⟨written, hmem, hsame⟩ :=
    hall _ _ created (mem_placesOf_selectInto created t) rfl (by decide) (by decide) hdeclares
  have hcontribution : Place.contribution ⟨aroundSelectInto created t, .select (selectInto created t)⟩ =
      [.uses .table "archive.Orders" .insert] := by decide +kernel
  rw [hcontribution, List.mem_singleton] at hmem
  cases hmem
  exact absurd hsame (by decide +kernel)

end ChangeImpact.Extraction
