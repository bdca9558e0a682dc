import ChangeImpact.Proofs.Counter
import ChangeImpact.Proofs.Parallel.Script

/-!
# The tally of dynamic calls

The parser counts the calls whose target is known only when they run, apart from the notes that it makes.  The count is
the number of notes of such calls all the same (`Runs.tallied`): a step that notes one counts one, a step that notes
anything else counts nothing, and where one step goes on after another, the notes are appended and the counts are added.
The loop over statements notes the failures of others without counting them, so no failure may be about such a call;
only a token that is missing makes a parser fail.
-/

namespace ChangeImpact.Sql

/-! ### What a step keeps -/

/-- The number of notes of calls whose target is known only when they run. -/
def dynamicNotes (ns : List Note) : Nat :=
  ns.countP (·.problem == .dynamicSql)

theorem dynamicNotes_append (ns ms : List Note) : dynamicNotes (ns ++ ms) = dynamicNotes ns + dynamicNotes ms :=
  List.countP_append

theorem dynamicNotes_cons_of_ne {n : Note} (h : n.problem ≠ .dynamicSql) (ns : List Note) :
    dynamicNotes (n :: ns) = dynamicNotes ns :=
  List.countP_cons_of_neg (by simpa using h)

/-- As many calls are counted as noted, and none is left to be noted where the reply is a failure. -/
structure Reply.Tallied {α : Type} (r : Reply α) : Prop where
  dynamicSql_eq : r.dynamicSql = dynamicNotes r.notes
  failure : ∀ n, r.result = .error (.unexpected n) → n.problem ≠ .dynamicSql

namespace Reply.Tallied

variable {α β : Type} {r : Reply α} {r' : Reply β}

theorem of_ok {a : α} (h : r.result = .ok a) (hcount : r.dynamicSql = dynamicNotes r.notes) : r.Tallied :=
  ⟨hcount, fun n hn => by rw [h] at hn; cases hn⟩

theorem of_tooDeep {line? : Option Nat} (h : r.result = .error (.tooDeep line?))
    (hcount : r.dynamicSql = dynamicNotes r.notes) : r.Tallied :=
  ⟨hcount, fun n hn => by rw [h] at hn; cases hn⟩

/-- Whatever the next step gives, the tally goes on. -/
theorem count_append (h : r.Tallied) (h' : r'.Tallied) :
    r.dynamicSql + r'.dynamicSql = dynamicNotes (r.notes ++ r'.notes) := by
  rw [h.dynamicSql_eq, h'.dynamicSql_eq, dynamicNotes_append]

theorem append (h : r.Tallied) (h' : r'.Tallied) :
    (⟨r'.result, r'.rest, r.notes ++ r'.notes, r.dynamicSql + r'.dynamicSql⟩ : Reply β).Tallied :=
  ⟨h.count_append h', h'.failure⟩

/-- A failure that is noted counts nothing. -/
theorem append_failure {n : Note} (h : r.Tallied) (hn : r.result = .error (.unexpected n)) (h' : r'.Tallied) :
    (⟨r'.result, r'.rest, r.notes ++ n :: r'.notes, r.dynamicSql + r'.dynamicSql⟩ : Reply β).Tallied := by
  refine ⟨?_, h'.failure⟩
  rw [dynamicNotes_append, dynamicNotes_cons_of_ne (h.failure n hn), ← dynamicNotes_append]
  exact h.count_append h'

/-- The same failure, as one of what goes on with the value. -/
theorem failed {e : Failure} (h : r.Tallied) (he : r.result = .error e) :
    (⟨.error e, r.rest, r.notes, r.dynamicSql⟩ : Reply β).Tallied :=
  ⟨h.dynamicSql_eq, fun n hn => h.failure n (he.trans (congrArg Except.error (Except.error.inj hn)))⟩

theorem map (h : r.Tallied) (f : α → β) : (⟨r.result.map f, r.rest, r.notes, r.dynamicSql⟩ : Reply β).Tallied :=
  ⟨h.dynamicSql_eq, fun n hn => h.failure n (Parser.map_eq_error_iff.1 hn)⟩

end Reply.Tallied

/-! ### Runs -/

/-- Every run counts as many calls as it notes, by induction on its steps. -/
theorem Runs.tallied {α : Type} {F : Grammar → Parser α} {ts : Tokens} {c c' : Counter} {r : Reply α}
    (h : Runs F ts c r c') : r.Tallied := by
  induction h with
  | ret | look | skipBy | loopEnd | recoveringEnd => exact .of_ok rfl rfl
  | note problem hproblem => exact .of_ok rfl (dynamicNotes_cons_of_ne hproblem []).symm
  | noteDynamicSql => exact .of_ok rfl rfl
  | fail wanted => exact ⟨rfl, fun n hn => by cases hn; simp⟩
  | bindFailed _ he ih => exact ih.failed he
  | bind _ _ _ ih ih' => exact ih.append ih'
  | loopFailed _ _ he ih => exact ih.failed he
  | loopTurn _ _ _ _ ih ih' => exact ih.append ih'
  | recoveringTooDeep _ _ he ih => exact ih.failed he
  | recoveringFailed _ _ hn _ _ ih ih' => exact ih.append_failure hn ih'
  | recoveringItem _ _ _ _ ih ih' => exact ih.append (ih'.map _)
  | nested _ _ _ ih => exact ih
  | tooDeep => exact .of_tooDeep rfl rfl

/-- The number that a script gives is that of its diagnostics of such calls. -/
theorem Script.dynamicSql_eq {ts : Tokens} {script : Script} (h : Script.ofTokens ts = .ok script) :
    script.dynamicSql = script.diagnostics.countP (·.problem == .dynamicSql) := by
  obtain ⟨_, hnotes, hcount⟩ := Script.ofTokens_eq_ok_iff.1 h
  have hzero : Counter.zero.value ≤ maxNesting := Nat.zero_le _
  obtain ⟨r, c, hrun⟩ := (Grammar.procedure_statements []).exists_run ts hzero
  obtain rfl : r = (Grammar.statements (.ofLevels maxNesting) []).run ts := hrun.reply_eq hzero
  rw [← hcount, ← hnotes, List.countP_map]
  exact hrun.tallied.dynamicSql_eq

end ChangeImpact.Sql
