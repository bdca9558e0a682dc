import ChangeImpact.Proofs.Mention
import Mathlib

/-!
# Names of references

The name of a reference is made of at most three parts of a written name, those of its last three that are present.  If
none of them is, the name is blank and nothing should be reported.  Tables and procedures are checked for this, but a
call is not, and neither is the table that a written alias belongs to.  So a reference without a name comes from such a
place and from no other (`targetName_ne_empty_iff`), as from `SELECT * FROM [](1)`
(`not_forall_targetName_ne_empty`).
-/

namespace ChangeImpact.Extraction

open Sql Text

/-! ### Blank names -/

/-- None of the last three parts is present. -/
def IsBlank (n : Name) : Prop :=
  ∀ part ∈ n.parts.drop (n.parts.length - 3), part = ""

instance (n : Name) : Decidable (IsBlank n) :=
  inferInstanceAs (Decidable (∀ part ∈ n.parts.drop (n.parts.length - 3), part = ""))

variable {n : Name} {m : Mention} {around : List Part} {pl : Place}

theorem intercalate_eq_empty {ps : List String} (hps : "" ∉ ps) (h : ".".intercalate ps = "") : ps = [] := by
  cases ps with
  | nil => rfl
  | cons p ps => cases ps with
    | nil =>
      rw [String.intercalate_singleton] at h
      exact absurd List.mem_cons_self (h ▸ hps)
    | cons q ps => simp at h

/-- A qualified name is made of parts that are present, of at most three. -/
theorem exists_qualified_eq_intercalate (n : Name) :
    ∃ ps : List String, ps.Sublist n.parts ∧ ps.length ≤ 3 ∧ "" ∉ ps ∧ n.qualified = ".".intercalate ps := by
  refine ⟨(n.parts.drop (n.parts.length - 3)).filter (!·.isEmpty), ?_, ?_, by simp, rfl⟩
  · exact List.filter_sublist.trans (List.drop_sublist _ _)
  · have hle := List.length_filter_le (fun part : String => !part.isEmpty) (n.parts.drop (n.parts.length - 3))
    rw [List.length_drop] at hle
    omega

theorem qualified_eq_empty_iff : n.qualified = "" ↔ IsBlank n := by
  have hblank : IsBlank n ↔ (n.parts.drop (n.parts.length - 3)).filter (!·.isEmpty) = [] := by
    simp [IsBlank, List.filter_eq_nil_iff]
  rw [hblank]
  constructor
  · exact intercalate_eq_empty (by simp)
  · intro hnil
    rw [Name.qualified, Name.joinPresent, hnil, String.intercalate_nil]

/-- A blank name has no mark on its last part. -/
theorem IsBlank.isTemporary_eq (h : IsBlank n) : n.isTemporary = false := by
  have hbase : n.base = "" := by
    rw [Name.base]
    cases hlast : n.parts.getLast? with
    | none => rfl
    | some part =>
      refine h part (List.mem_of_getLast? ?_)
      have hpos : 0 < n.parts.length := List.length_pos_of_mem (List.mem_of_getLast? hlast)
      rw [List.getLast?_drop, if_neg (by omega), hlast]
  rw [Name.isTemporary, hbase]
  decide

/-! ### Mentions without a name -/

/-- The mention is of a kind that is not checked for its name, and the name is blank. -/
inductive Mention.IsNameless (around : List Part) : Mention → Prop
  | sourceCall {n : Name} : IsBlank n → IsNameless around ⟨.sourceCall, n⟩
  | call {n : Name} : IsBlank n → 2 ≤ n.parts.length → IsNameless around ⟨.call, n⟩
  /-- What bears the written name is a table without a name. -/
  | alias {n t : Name} {b : Bearer} : n.isTemporary = false → n.isBare → bearer? around n.base = some b →
      b.table? = some t → IsBlank t → IsNameless around ⟨.target, n⟩

/-- The names that are reported blank are those that nothing checks. -/
theorem Mention.reported?_eq_empty_iff :
    m.reported? (contextIn around).scope = some "" ↔ m.IsNameless around := by
  have hpresent (n : Name) : Scope.presentName n ≠ some "" := fun h => (presentName_eq_some.1 h).2 rfl
  constructor
  · intro h
    obtain ⟨role, n⟩ := m
    cases role with
    | source => exact absurd (referenced_eq_some.1 h).2.2 (hpresent n)
    | sourceCall => exact .sourceCall (qualified_eq_empty_iff.1 (reported?_sourceCall_eq_some.1 h).2)
    | call =>
      obtain ⟨hlength, -, hname⟩ := reported?_call_eq_some.1 h
      exact .call (qualified_eq_empty_iff.1 hname) hlength
    | procedure => exact absurd rfl (reported?_procedure_eq_some.1 h).2.2
    | target =>
      obtain ⟨htemp, hwritten⟩ := written_eq_some.1 h
      cases hbare : n.isBare with
      | false => exact absurd (by simpa [hbare] using hwritten) (hpresent n)
      | true =>
        rw [hbare, if_pos rfl] at hwritten
        cases hbearer : bearer? around n.base with
        | none => exact absurd (by simpa [hbearer] using hwritten) (hpresent n)
        | some b =>
          rw [hbearer] at hwritten
          obtain ⟨t, ht, hname⟩ := hwritten
          exact .alias htemp hbare hbearer ht (qualified_eq_empty_iff.1 hname)
  · rintro (hblank | ⟨hblank, hlength⟩ | ⟨htemp, hbare, hbearer, ht, hblank⟩)
    · exact reported?_sourceCall_eq_some.2 ⟨hblank.isTemporary_eq, qualified_eq_empty_iff.2 hblank⟩
    · exact reported?_call_eq_some.2 ⟨hlength, hblank.isTemporary_eq, qualified_eq_empty_iff.2 hblank⟩
    · refine written_eq_some.2 ⟨htemp, ?_⟩
      rw [if_pos hbare, hbearer]
      exact ⟨_, ht, qualified_eq_empty_iff.2 hblank⟩

/-- The place mentions something that is not checked for its name, and the name is blank. -/
def Place.IsNameless (pl : Place) : Prop :=
  ∃ m ∈ pl.part.mention?, m.IsNameless (pl.part :: pl.above)

theorem Place.reportsName_empty_iff : pl.ReportsName "" ↔ pl.IsNameless := by
  rw [reportsName_iff]
  exact exists_congr fun m => and_congr_right fun _ => Mention.reported?_eq_empty_iff

/-- The name of every reference is made of parts that are present, of at most three, and it is not empty unless a place
is nameless. -/
theorem targetName_ne_empty_iff (owner : Entity) (ss : List Statement) :
    (∀ r ∈ (ofStatements owner ss).references, ∃ pl ∈ placesOf ss, ∃ n ∈ pl.objects, ∃ ps : List String,
      ps.Sublist n.parts ∧ ps.length ≤ 3 ∧ "" ∉ ps ∧ r.targetName = ".".intercalate ps) ∧
    ((∀ r ∈ (ofStatements owner ss).references, r.targetName ≠ "") ↔ ∀ pl ∈ placesOf ss, ¬ pl.IsNameless) := by
  refine ⟨fun r hr => ?_, fun hnames pl hpl hnameless => ?_, fun hplaces r hr hname => ?_⟩
  · obtain ⟨pl, hpl, h⟩ := exists_reports_of_mem_references hr
    obtain ⟨n, hn, hname, -⟩ := h.exists_object
    obtain ⟨ps, hsublist, hlength, hpresent, heq⟩ := exists_qualified_eq_intercalate n
    exact ⟨pl, hpl, n, hn, ps, hsublist, hlength, hpresent, hname.symm.trans heq⟩
  · obtain ⟨kind, usage, hf⟩ := Place.reportsName_empty_iff.2 hnameless
    have hreports : Reports owner ss kind "" usage := .of_mem hpl hf (sameAsciiCase_iff.2 rfl)
    obtain ⟨r, hr, -, -, hsame, -⟩ := hreports
    have hlower : asciiLower r.targetName = "" := (sameAsciiCase_iff.1 hsame).trans (by decide +kernel)
    exact hnames r hr (String.map_eq_empty.1 hlower)
  · obtain ⟨pl, hpl, h⟩ := exists_reports_of_mem_references hr
    rw [hname] at h
    exact hplaces pl hpl (Place.reportsName_empty_iff.1 h)

/-- `SELECT * FROM [](1)` -/
def namelessCall : Tokens :=
  [.word "SELECT" false, .star, .word "FROM" false, .word "" true, .openParen, .literal, .closeParen].map (⟨·, 1⟩)

/-- A call without a name is reported. -/
theorem not_forall_targetName_ne_empty :
    ¬ ∀ script, Script.ofTokens namelessCall = .ok script →
      ∀ r ∈ (ofStatements ⟨.procedure, 1⟩ script.statements).references, r.targetName ≠ "" := by
  let block : Select := ⟨[.literal], none, [⟨.call ⟨[""]⟩ [.literal] none, []⟩], none, [], none⟩
  intro hnames
  have hscript : Script.ofTokens namelessCall = .ok ⟨[.query ⟨[], .select block, []⟩], [], 0⟩ := by cbv
  have hreferences : (ofStatements ⟨.procedure, 1⟩ [.query ⟨[], .select block, []⟩]).references =
      [⟨⟨.procedure, 1⟩, .function, "", .select⟩] := by decide +kernel
  exact hnames _ hscript _ (hreferences ▸ List.mem_cons_self) rfl

end ChangeImpact.Extraction
