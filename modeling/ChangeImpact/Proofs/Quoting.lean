import ChangeImpact.Proofs.Parallel.Script
import ChangeImpact.Proofs.Renaming.Shape

/-!
# Quoted words are never keywords

Texts that differ only in what stands between quotes are read as scripts of one shape: `ofTokens_sameUnquoted`.  The
one text that is looked at in quotes is the name of the procedure that executes a text, so the two texts are alike if
all other texts are taken for the same (`Likeness.unquoted`).
-/

namespace ChangeImpact.Sql

open Text

/-- The name of the procedure that executes a text. -/
def IsExecuting (text : String) : Prop :=
  sameAsciiCase text "sp_executesql"

instance (text : String) : Decidable (IsExecuting text) :=
  inferInstanceAs (Decidable (sameAsciiCase text "sp_executesql" = true))

/-- The same, or two quoted words of any texts but the name of the procedure that executes a text. -/
inductive Lexeme.SameUnquoted : Lexeme → Lexeme → Prop
  | same (l : Lexeme) : SameUnquoted l l
  | quoted {s t : String} (hs : ¬ IsExecuting s) (ht : ¬ IsExecuting t) : SameUnquoted (.word s true) (.word t true)

/-- On the same line, and the same but for the texts of quoted words. -/
structure Token.SameUnquoted (t t' : Token) : Prop where
  lexeme : t.lexeme.SameUnquoted t'.lexeme
  line_eq : t.line = t'.line

namespace Likeness

/-- Texts do not matter, but for the name of the procedure that executes a text, and nothing more follows. -/
def unquoted : Likeness where
  form text := if IsExecuting text then "sp_executesql" else ""
  more := []
  executes_eq := by
    intro s t h
    unfold IsExecuting at h
    by_cases hs : sameAsciiCase s "sp_executesql" <;> by_cases ht : sameAsciiCase t "sp_executesql" <;>
      simp [hs, ht] at h ⊢

theorem alike_unquoted {l l' : Lexeme} (h : l.SameUnquoted l') : unquoted.Alike l l' := by
  cases h with
  | same => exact .refl _
  | quoted hs ht =>
    refine .word ?_ (by intro h; cases h)
    simp only [unquoted, if_neg hs, if_neg ht]

theorem inside_unquoted {ts ts' : Tokens} (h : List.Forall₂ Token.SameUnquoted ts ts') : unquoted.Inside ts ts' := by
  induction h with
  | nil => exact .done rfl
  | cons ht _ ih => exact .next ⟨alike_unquoted ht.lexeme, ht.line_eq⟩ (fun _ => rfl) ih

end Likeness

/-- What stands between quotes, a reserved word or nothing at all, changes neither the shape of a script nor the lines
of its diagnostics, nor whether and where it is refused. -/
theorem Script.ofTokens_sameUnquoted {ts ts' : Tokens} (h : List.Forall₂ Token.SameUnquoted ts ts') :
    (∃ e, ofTokens ts = .error e ∧ ofTokens ts' = .error e) ∨
      ∃ x y, ofTokens ts = .ok x ∧ ofTokens ts' = .ok y ∧ shape x.statements = shape y.statements ∧
        x.diagnostics.map (·.line) = y.diagnostics.map (·.line) ∧ x.dynamicSql = y.dynamicSql := by
  have halike := Likeness.ofTokens_alike rfl (Likeness.inside_unquoted h)
  rcases halike with herror | ⟨x, y, hx, hy, hsame, hlines, hdynamic⟩
  · exact .inl herror
  · exact .inr ⟨x, y, hx, hy, shape_eq_of_rename_eq hsame, hlines, hdynamic⟩

/-- `DELETE [From] [Where]` and `DELETE a []`, where an alias is not wanted. -/
theorem Script.ofTokens_sameUnquoted_delete :
    List.Forall₂ Token.SameUnquoted [⟨.word "DELETE" false, 1⟩, ⟨.word "From" true, 1⟩, ⟨.word "Where" true, 2⟩]
        [⟨.word "DELETE" false, 1⟩, ⟨.word "a" true, 1⟩, ⟨.word "" true, 2⟩] ∧
      ∃ x y,
        ofTokens [⟨.word "DELETE" false, 1⟩, ⟨.word "From" true, 1⟩, ⟨.word "Where" true, 2⟩] = .ok x ∧
        ofTokens [⟨.word "DELETE" false, 1⟩, ⟨.word "a" true, 1⟩, ⟨.word "" true, 2⟩] = .ok y ∧
        shape x.statements = shape y.statements ∧ x.diagnostics.map (·.line) = y.diagnostics.map (·.line) ∧
        x.dynamicSql = y.dynamicSql := by
  have h : List.Forall₂ Token.SameUnquoted
      [⟨.word "DELETE" false, 1⟩, ⟨.word "From" true, 1⟩, ⟨.word "Where" true, 2⟩]
      [⟨.word "DELETE" false, 1⟩, ⟨.word "a" true, 1⟩, ⟨.word "" true, 2⟩] := by
    refine .cons ⟨.same _, rfl⟩ (.cons ⟨.quoted ?_ ?_, rfl⟩ (.cons ⟨.quoted ?_ ?_, rfl⟩ .nil)) <;> decide +kernel
  refine ⟨h, (ofTokens_sameUnquoted h).resolve_left ?_⟩
  rintro ⟨e, he, _⟩
  have hread : (ofTokens [⟨.word "DELETE" false, 1⟩, ⟨.word "From" true, 1⟩, ⟨.word "Where" true, 2⟩]).isOk = true := by
    decide +kernel
  rw [he] at hread
  cases hread

end ChangeImpact.Sql
