import ChangeImpact.Proofs.Lowered
import ChangeImpact.Proofs.Parallel.Script

/-!
# Case does not matter

Texts whose words differ only in the case of ASCII letters refer to the same objects, up to case:
`ofTokens_sameUpToCase`.  They are alike with words of one lower-case form taken for the same (`Likeness.caseless`), so
they are read as scripts with one lower-case form, and what a script says in lower case is decided by its lower-case
form.
-/

namespace ChangeImpact

open Sql Text

/-! ### Tokens in lower case -/

namespace Sql

instance : Renames Lexeme where
  rename f
    | .word text quoted => .word (f text) quoted
    | l => l
  rename_id l := by cases l <;> rfl

instance : Renames Token where
  rename f t := ⟨rename f t.lexeme, t.line⟩
  rename_id t := by simp only [rename_id]

namespace Likeness

/-- Case does not matter, and nothing more follows. -/
def caseless : Likeness where
  form := asciiLower
  more := []
  executes_eq h := by rw [sameAsciiCase, h, sameAsciiCase]

theorem alike_caseless {l l' : Lexeme} (h : lower l = lower l') : caseless.Alike l l' := by
  cases l with
  | word text quoted =>
    cases l' with
    | word text' quoted' =>
      obtain ⟨htext, rfl⟩ := Lexeme.word.inj h
      refine .word htext fun _ => ?_
      rw [← asciiUpper_asciiLower text, htext, asciiUpper_asciiLower]
    | _ => cases h
  | _ =>
    cases l' <;> cases h
    exact .same rfl

theorem inside_caseless {ts ts' : Tokens} (h : lower ts = lower ts') : caseless.Inside ts ts' := by
  induction ts generalizing ts' with
  | nil =>
    obtain rfl : [] = ts' := (List.map_eq_nil_iff.1 h.symm).symm
    exact .done rfl
  | cons t ts ih =>
    obtain ⟨t', us', rfl, ht, hus⟩ := List.map_eq_cons_iff.1 h.symm
    obtain ⟨hlexeme, hline⟩ := Token.mk.inj ht
    exact .next ⟨alike_caseless hlexeme.symm, hline.symm⟩ (fun _ => rfl) (ih hus.symm)

end Likeness

end Sql

namespace Extraction

/-! ### What is found, in lower case -/

instance : Renames Reference where
  rename f r := { r with targetName := f r.targetName }
  rename_id _ := rfl

section

variable {α : Type} [Renames α]

theorem filterMap_lower (g : Finding → Option α) (hg : ∀ finding, g (lower finding) = lower (g finding))
    (findings : List Finding) : (lower findings).filterMap g = lower (findings.filterMap g) := by
  show (findings.map lower).filterMap g = (findings.filterMap g).map lower
  rw [List.filterMap_map, List.map_filterMap]
  exact congrArg (List.filterMap · findings) (funext hg)

/-- What differs only in case may become the same, but nothing gets lost. -/
theorem mem_distinctBy_lower [DecidableEq α] (as : List α) (a : α) :
    a ∈ distinctBy id [] (lower as) ↔ a ∈ lower (distinctBy id [] as) := by
  rw [mem_distinctBy_id]
  show a ∈ as.map lower ↔ a ∈ (distinctBy id [] as).map lower
  simp only [List.mem_map, mem_distinctBy_id]

end

theorem referencesOf_lower (owner : Entity) (findings : List Finding) :
    referencesOf owner (lower findings) = lower (referencesOf owner findings) := by
  have hkey (r : Reference) : referenceKey (lower r) = referenceKey r := by
    show (r.targetKind, asciiLower (asciiLower r.targetName), r.usage) = _
    rw [asciiLower_asciiLower]
    rfl
  rw [referencesOf, filterMap_lower _ fun finding => by cases finding <;> rfl]
  exact distinctBy_map hkey [] _

theorem mem_joinsOf_lower (findings : List Finding) (j : JoinCondition) :
    j ∈ joinsOf (lower findings) ↔ j ∈ lower (joinsOf findings) := by
  rw [joinsOf, filterMap_lower _ fun finding => by cases finding <;> rfl]
  exact mem_distinctBy_lower _ j

theorem mem_columnsOf_lower (findings : List Finding) (c : ColumnReference) :
    c ∈ columnsOf (lower findings) ↔ c ∈ lower (columnsOf findings) := by
  rw [columnsOf, filterMap_lower _ fun finding => by cases finding <;> rfl]
  exact mem_distinctBy_lower _ c

end Extraction

/-! ### Extractions up to case -/

/-- The same object is used in the same way, under a name that differs at most in case. -/
structure Reference.SameUpToCase (r s : Reference) : Prop where
  source_eq : r.source = s.source
  targetKind_eq : r.targetKind = s.targetKind
  usage_eq : r.usage = s.usage
  targetName : sameAsciiCase r.targetName s.targetName

/-- The same is found, up to case, with as many diagnostics on the same lines. -/
structure Extraction.SameUpToCase (x y : Extraction) : Prop where
  references : List.Forall₂ Reference.SameUpToCase x.references y.references
  joins : ∀ j, j ∈ lower x.joins ↔ j ∈ lower y.joins
  columns : ∀ c, c ∈ lower x.columns ↔ c ∈ lower y.columns
  lines_eq : x.diagnostics.map (·.line) = y.diagnostics.map (·.line)
  dynamicSql_eq : x.dynamicSql = y.dynamicSql

namespace Extraction

/-- Texts with the same tokens on the same lines, up to the case of words, are refused together, or the same is found in
them. -/
theorem ofTokens_sameUpToCase (owner : Entity) {ts ts' : Tokens} (h : lower ts = lower ts') :
    (∃ e, Script.ofTokens ts = .error e ∧ Script.ofTokens ts' = .error e) ∨
      ∃ x y, Script.ofTokens ts = .ok x ∧ Script.ofTokens ts' = .ok y ∧
        (ofScript owner x).SameUpToCase (ofScript owner y) := by
  obtain herror | ⟨x, y, hx, hy, hsame, hlines, hdynamic⟩ :=
    Likeness.ofTokens_alike rfl (Likeness.inside_caseless h)
  · exact .inl herror
  · refine .inr ⟨x, y, hx, hy, ?_⟩
    -- the scripts have one lower-case form, hence so have their findings
    have hfindings : lower (statementsFindings .initial x.statements) =
        lower (statementsFindings .initial y.statements) := by
      rw [← statementsFindings_lower, ← statementsFindings_lower]
      exact congrArg _ hsame
    have hreferences : Likeness.caseless.Same (referencesOf owner (statementsFindings .initial x.statements))
        (referencesOf owner (statementsFindings .initial y.statements)) := by
      show lower _ = lower _
      rw [← referencesOf_lower, hfindings, referencesOf_lower]
    refine ⟨hreferences.forall₂.imp fun r s hrs => ?_, fun j => ?_, fun c => ?_, hlines, hdynamic⟩
    · obtain ⟨hsource, hkind, hname, husage⟩ := Reference.mk.inj hrs
      exact ⟨hsource, hkind, husage, sameAsciiCase_iff.2 hname⟩
    · exact (mem_joinsOf_lower _ j).symm.trans (hfindings ▸ mem_joinsOf_lower _ j)
    · exact (mem_columnsOf_lower _ c).symm.trans (hfindings ▸ mem_columnsOf_lower _ c)

/-- `TRUNCATE TABLE a` and `truncate Table A`. -/
theorem ofTokens_sameUpToCase_truncate :
    lower ([⟨.word "TRUNCATE" false, 1⟩, ⟨.word "TABLE" false, 1⟩, ⟨.word "a" false, 1⟩] : Tokens) =
        lower [⟨.word "truncate" false, 1⟩, ⟨.word "Table" false, 1⟩, ⟨.word "A" false, 1⟩] ∧
      ((∃ e,
        Script.ofTokens [⟨.word "TRUNCATE" false, 1⟩, ⟨.word "TABLE" false, 1⟩, ⟨.word "a" false, 1⟩] = .error e ∧
        Script.ofTokens [⟨.word "truncate" false, 1⟩, ⟨.word "Table" false, 1⟩, ⟨.word "A" false, 1⟩] = .error e) ∨
      ∃ x y,
        Script.ofTokens [⟨.word "TRUNCATE" false, 1⟩, ⟨.word "TABLE" false, 1⟩, ⟨.word "a" false, 1⟩] = .ok x ∧
        Script.ofTokens [⟨.word "truncate" false, 1⟩, ⟨.word "Table" false, 1⟩, ⟨.word "A" false, 1⟩] = .ok y ∧
        (ofScript ⟨.procedure, 7⟩ x).SameUpToCase (ofScript ⟨.procedure, 7⟩ y)) :=
  ⟨by cbv, ofTokens_sameUpToCase ⟨.procedure, 7⟩ (by cbv)⟩

end Extraction

end ChangeImpact
