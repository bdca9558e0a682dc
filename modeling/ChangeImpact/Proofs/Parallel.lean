import ChangeImpact.Proofs.Likeness
import ChangeImpact.Sql.Grammar

/-!
# Reading two texts side by side

`L.Parallel P p p' Q` says that `p` and `p'`, on texts related by `P`, come to the same end: both succeed, with values
and remaining texts related by `Q`; or both fail in the same way, inside of the texts; and what they note is alike, and
what they count the same.  `L.Within p p'` is the case of parsers that stay inside of the texts and give equal values up
to the forms of words.  There is one rule for each way to build a parser, so that a grammar is followed rule by rule.
-/

namespace ChangeImpact.Sql.Likeness

open ChangeImpact.Sql.Parser

variable {α β ω : Type} {L : Likeness} {P P' : Tokens → Tokens → Prop}

/-! ### Notes and replies -/

inductive AlikeProblem (L : Likeness) : Problem → Problem → Prop
  | same (problem : Problem) : L.AlikeProblem problem problem
  | expected (wanted : String) {l l' : Lexeme} (h : L.Alike l l') :
    L.AlikeProblem (.expected wanted (some l)) (.expected wanted (some l'))
  | noBody {name name' : Name} (h : L.Same name name') :
    L.AlikeProblem (.noBody name.qualified) (.noBody name'.qualified)

/-- Alike problems on one line, or at the end of texts with nothing more behind. -/
structure AlikeNote (L : Likeness) (n n' : Note) : Prop where
  line?_eq : n.line? = n'.line?
  problem : L.AlikeProblem n.problem n'.problem
  more_eq_nil : n.line? = none → L.more = []

/-- Texts that stand at their end together have nothing more behind. -/
theorem Inside.more_eq_nil_of_line? {ts ts' : Tokens} (h : L.Inside ts ts') (hline : ts.line? = none) :
    L.more = [] := by
  cases ts with
  | nil => exact h.eq_nil.1
  | cons => cases hline

inductive Replies (L : Likeness) (Q : α → β → Tokens → Tokens → Prop) : Reply α → Reply β → Prop
  | ok {a : α} {b : β} {ts ts' : Tokens} {ns ns' : List Note} {count : Nat} (h : Q a b ts ts')
      (hns : List.Forall₂ L.AlikeNote ns ns') :
    L.Replies Q ⟨.ok a, ts, ns, count⟩ ⟨.ok b, ts', ns', count⟩
  | unexpected {n n' : Note} {ts ts' : Tokens} {ns ns' : List Note} {count : Nat} (hn : L.AlikeNote n n')
      (h : L.Inside ts ts') (hns : List.Forall₂ L.AlikeNote ns ns') :
    L.Replies Q ⟨.error (.unexpected n), ts, ns, count⟩ ⟨.error (.unexpected n'), ts', ns', count⟩
  | tooDeep (line? : Option Nat) {ts ts' : Tokens} {ns ns' : List Note} {count count' : Nat} :
    L.Replies Q ⟨.error (.tooDeep line?), ts, ns, count⟩ ⟨.error (.tooDeep line?), ts', ns', count'⟩

variable {Q R : α → β → Tokens → Tokens → Prop}

theorem Replies.noted {result : Except Failure α} {result' : Except Failure β} {ts ts' : Tokens}
    {ms ms' ns ns' : List Note} {count count' : Nat} (hms : List.Forall₂ L.AlikeNote ms ms') (counted : Nat)
    (h : L.Replies Q ⟨result, ts, ns, count⟩ ⟨result', ts', ns', count'⟩) :
    L.Replies Q ⟨result, ts, ms ++ ns, counted + count⟩ ⟨result', ts', ms' ++ ns', counted + count'⟩ := by
  cases h with
  | ok h hns => exact .ok h (List.rel_append hms hns)
  | unexpected hn h hns => exact .unexpected hn h (List.rel_append hms hns)
  | tooDeep => exact .tooDeep _

/-! ### Parallel parsers -/

def Parallel (L : Likeness) (P : Tokens → Tokens → Prop) (p : Parser α) (p' : Parser β)
    (Q : α → β → Tokens → Tokens → Prop) : Prop :=
  ∀ ⦃ts ts'⦄, P ts ts' → L.Replies Q (p.run ts) (p'.run ts')

/-- Equal values up to the forms of words, with the remaining texts inside. -/
def Stays (L : Likeness) [Renames α] (a b : α) (ts ts' : Tokens) : Prop :=
  L.Same a b ∧ L.Inside ts ts'

abbrev Within (L : Likeness) [Renames α] (p p' : Parser α) : Prop :=
  L.Parallel L.Inside p p' L.Stays

/-- Equal values up to the forms of words; a semicolon may have been passed. -/
def Leaves (L : Likeness) [Renames α] (a b : α) (ts ts' : Tokens) : Prop :=
  L.Same a b ∧ L.After ts ts'

/-- The next token is no semicolon, or nothing more follows. -/
def Headed (L : Likeness) (ts ts' : Tokens) : Prop :=
  L.Inside ts ts' ∧ L.Inside (ts.drop 1) (ts'.drop 1)

/-! ### Progress -/

theorem progress_lt_iff {ts ts' us us' : Tokens} (hts : L.Inside ts ts') (hus : L.After us us') :
    us'.length < ts'.length ↔ us.length < ts.length := by
  rw [hus.length_eq, hts.length_eq]
  omega

theorem Inside.progress {t : Token} {tail ts' us us' : Tokens} (hts : L.Inside (t :: tail) ts')
    (ht : t.lexeme ≠ .semicolon ∨ L.more = []) (hus : L.Inside us us') :
    L.Inside (Parser.progress (t :: tail) us) (Parser.progress ts' us') := by
  rw [Parser.progress, Parser.progress]
  simp only [progress_lt_iff hts (.inl hus)]
  split
  · exact hus
  · obtain ⟨t', tail', rfl, _, _, htail, _⟩ := hts.uncons
    exact htail ht

theorem After.progress {t : Token} {tail ts' us us' : Tokens} (hts : L.Inside (t :: tail) ts') (hus : L.After us us') :
    L.After (Parser.progress (t :: tail) us) (Parser.progress ts' us') := by
  rw [Parser.progress, Parser.progress]
  simp only [progress_lt_iff hts hus]
  split
  · exact hus
  · obtain ⟨t', tail', rfl, _, _, _, hafter⟩ := hts.uncons
    exact hafter

namespace Parallel

theorem weaken {p : Parser α} {p' : Parser β} (hP : ∀ {ts ts'}, P ts ts' → P' ts ts') (h : L.Parallel P' p p' Q) :
    L.Parallel P p p' Q :=
  fun _ _ hts => h (hP hts)

theorem imp {p : Parser α} {p' : Parser β} (hp : L.Parallel P p p' Q)
    (hQ : ∀ {a b ts ts'}, Q a b ts ts' → R a b ts ts') : L.Parallel P p p' R := by
  intro ts ts' hts
  have h : L.Replies Q (p.run ts) (p'.run ts') := hp hts
  generalize p.run ts = r at h ⊢
  generalize p'.run ts' = r' at h ⊢
  cases h with
  | ok h hns => exact .ok (hQ h) hns
  | unexpected hn h hns => exact .unexpected hn h hns
  | tooDeep => exact .tooDeep _

theorem assuming {C : Prop} {p : Parser α} {p' : Parser β} (h : C → L.Parallel P p p' Q) :
    L.Parallel (fun ts ts' => C ∧ P ts ts') p p' Q :=
  fun _ _ hts => h hts.1 hts.2

theorem trans {γ δ : Type} {p : Parser α} {p' : Parser β} {f : α → Parser γ} {f' : β → Parser δ}
    {R : γ → δ → Tokens → Tokens → Prop} (hp : L.Parallel P p p' Q) (hf : ∀ a b, L.Parallel (Q a b) (f a) (f' b) R) :
    L.Parallel P (p >>= f) (p' >>= f') R := by
  intro ts ts' hts
  have h : L.Replies Q (p.run ts) (p'.run ts') := hp hts
  show L.Replies R ((Parser.bind p f).run ts) ((Parser.bind p' f').run ts')
  unfold Parser.bind
  dsimp only
  generalize p.run ts = r at h ⊢
  generalize p'.run ts' = r' at h ⊢
  cases h with
  | ok h hns => exact (hf _ _ h).noted hns _
  | unexpected hn h hns => exact .unexpected hn h hns
  | tooDeep => exact .tooDeep _

section

variable [Renames α] {p p' : Parser α} {f f' : α → Parser β} {R : β → β → Tokens → Tokens → Prop}

theorem bind (hp : L.Parallel P p p' L.Stays) (hf : ∀ a b, L.Same a b → L.Parallel L.Inside (f a) (f' b) R) :
    L.Parallel P (p >>= f) (p' >>= f') R :=
  trans hp fun a b _ _ hts => hf a b hts.1 hts.2

theorem ret {a b : α} (h : L.Same a b) : L.Within (pure a) (pure b) :=
  fun _ _ hts => .ok ⟨h, hts⟩ .nil

theorem map [Renames β] {g g' : α → β} (hp : L.Parallel P p p' L.Stays)
    (hg : ∀ {a b}, L.Same a b → L.Same (g a) (g' b)) : L.Parallel P (g <$> p) (g' <$> p') L.Stays :=
  bind hp fun _ _ hab => ret (hg hab)

theorem discard (hp : L.Parallel P p p' L.Stays) : L.Parallel P (discard p) (discard p') L.Stays :=
  bind hp fun _ _ _ => ret rfl

theorem leaves (hp : L.Parallel P p p' L.Stays) : L.Parallel P p p' L.Leaves :=
  hp.imp fun h => ⟨h.1, .inl h.2⟩

theorem stays (hmore : L.more = []) (hp : L.Parallel P p p' L.Leaves) : L.Parallel P p p' L.Stays :=
  hp.imp fun h => ⟨h.1, h.2.inside hmore⟩

end

variable {R : α → α → Tokens → Tokens → Prop}

theorem fail (wanted : String) : L.Parallel L.Inside (Parser.fail wanted) (Parser.fail wanted) R := by
  intro ts ts' hts
  refine .unexpected ⟨hts.line?_eq, ?_, hts.more_eq_nil_of_line?⟩ hts .nil
  obtain ⟨hl, hl'⟩ | ⟨l, l', hl, hl', hll, _⟩ := hts.lexeme? (n := 0)
  · rw [hl, hl']
    exact .same _
  · rw [hl, hl']
    exact .expected wanted hll

/-- Nothing is read behind a failure. -/
theorem fail_bind (wanted : String) {γ : Type} {f f' : γ → Parser α} :
    L.Parallel L.Inside (Parser.fail wanted >>= f) (Parser.fail wanted >>= f') R :=
  trans (Q := fun _ _ _ _ => False) (fail wanted) fun _ _ _ _ h => h.elim

theorem tooDeep : L.Parallel L.Inside Parser.tooDeep Parser.tooDeep R := by
  intro ts ts' hts
  show L.Replies R ⟨.error (.tooDeep ts.line?), ts, [], 0⟩ ⟨.error (.tooDeep ts'.line?), ts', [], 0⟩
  rw [← hts.line?_eq]
  exact .tooDeep _

theorem noteAt {problem problem' : Problem} (h : L.AlikeProblem problem problem')
    (hP : ∀ {ts ts'}, P ts ts' → L.Inside ts ts') :
    L.Parallel P (Parser.note problem) (Parser.note problem') fun _ _ => P := by
  intro ts ts' hts
  have hin : L.Inside ts ts' := hP hts
  exact .ok hts (.cons ⟨hin.line?_eq, h, hin.more_eq_nil_of_line?⟩ .nil)

theorem note {problem problem' : Problem} (h : L.AlikeProblem problem problem') :
    L.Within (Parser.note problem) (Parser.note problem') :=
  (noteAt h id).imp fun hts => ⟨rfl, hts⟩

theorem noteDynamicSql : L.Within Parser.noteDynamicSql Parser.noteDynamicSql := by
  intro ts ts' hts
  exact .ok ⟨rfl, hts⟩ (.cons ⟨hts.line?_eq, .same _, hts.more_eq_nil_of_line?⟩ .nil)

theorem skipBy {count : Tokens → Nat} (h : L.Passes 0 count) :
    L.Within (Parser.skipBy count) (Parser.skipBy count) := by
  intro ts ts' hts
  obtain ⟨heq, hdrop⟩ := h hts
  refine .ok ⟨rfl, ?_⟩ .nil
  rwa [← heq]

theorem skip (n : Nat) :
    L.Parallel (fun ts ts' => L.Inside (ts.drop n) (ts'.drop n)) (Parser.skip n) (Parser.skip n) L.Stays :=
  fun _ _ hts => .ok ⟨rfl, hts⟩ .nil

theorem skip_of_whole (hmore : L.more = []) (n : Nat) : L.Within (Parser.skip n) (Parser.skip n) :=
  (skip n).weaken fun hts => hts.drop_of_more_eq_nil hmore n

/-! ### Tests -/

section

variable {test : Tokens → Bool} {n : Nat} {p p' q q' : Parser α}

theorem look_bind {γ : Type} {g : Tokens → γ} {f f' : γ → Parser α}
    (h : ∀ ⦃ts ts'⦄, P ts ts' → L.Replies R ((f (g ts)).run ts) ((f' (g ts')).run ts')) :
    L.Parallel P (look g >>= f) (look g >>= f') R := by
  refine trans (Q := fun a b ts ts' => a = g ts ∧ b = g ts' ∧ P ts ts') (fun _ _ hts => .ok ⟨rfl, rfl, hts⟩ .nil) ?_
  rintro _ _ ts ts' ⟨rfl, rfl, hts⟩
  exact h hts

theorem look_bind_of_eq {γ : Type} {g : Tokens → γ} {f f' : γ → Parser α}
    (hg : ∀ ⦃ts ts'⦄, P ts ts' → g ts = g ts') (hf : ∀ c, L.Parallel P (f c) (f' c) R) :
    L.Parallel P (look g >>= f) (look g >>= f') R :=
  look_bind fun ts _ hts => hg hts ▸ hf (g ts) hts

theorem ifLookAt (ht : ∀ ⦃ts ts'⦄, P ts ts' → test ts = test ts' ∧ (test ts → P' ts ts'))
    (hyes : L.Parallel P' p p' R) (hno : L.Parallel P q q' R) :
    L.Parallel P (look test >>= fun b => if b = true then p else q) (look test >>= fun b => if b = true then p' else q')
      R := by
  refine look_bind fun ts ts' hts => ?_
  obtain ⟨heq, hP'⟩ := ht hts
  rw [← heq]
  split
  · exact hyes (hP' ‹_›)
  · exact hno hts

theorem ifLook (ht : L.Decides 0 test n) (hyes : L.Parallel L.Inside p p' R) (hno : L.Parallel L.Inside q q' R) :
    L.Parallel L.Inside (look test >>= fun b => if b = true then p else q)
      (look test >>= fun b => if b = true then p' else q') R :=
  ifLookAt (fun _ _ hts => ht.stay hts) hyes hno

theorem acceptIf (ht : L.Decides 0 test n) : L.Within (acceptIf test n) (acceptIf test n) :=
  ifLookAt ht (bind (skip n) fun _ _ _ => ret rfl) (ret rfl)

/-- The test also tells, by its answer, a fact `C` about the texts. -/
theorem ifAcceptAt {C : Prop}
    (ht : ∀ ⦃ts ts'⦄, P ts ts' → test ts = test ts' ∧ (test ts → C ∧ L.Inside (ts.drop n) (ts'.drop n)))
    (hyes : C → L.Parallel L.Inside p p' R) (hno : L.Parallel P q q' R) :
    L.Parallel P (Parser.acceptIf test n >>= fun b => if b = true then p else q)
      (Parser.acceptIf test n >>= fun b => if b = true then p' else q') R := by
  have haccept : L.Parallel P (Parser.acceptIf test n) (Parser.acceptIf test n)
      fun b b' ts ts' => b = b' ∧ if b then C ∧ L.Inside ts ts' else P ts ts' :=
    ifLookAt ht (assuming fun hc => trans (skip n) fun _ _ _ _ hts => .ok ⟨rfl, hc, hts.2⟩ .nil)
      fun _ _ hts => .ok ⟨rfl, hts⟩ .nil
  refine trans haccept ?_
  rintro b _ ts ts' ⟨rfl, hts⟩
  cases b with
  | true => exact hyes hts.1 hts.2
  | false => exact hno hts

theorem ifAccept (ht : L.Decides 0 test n) (hyes : L.Parallel L.Inside p p' R) (hno : L.Parallel L.Inside q q' R) :
    L.Parallel L.Inside (Parser.acceptIf test n >>= fun b => if b = true then p else q)
      (Parser.acceptIf test n >>= fun b => if b = true then p' else q') R :=
  ifAcceptAt (fun _ _ hts => ⟨(ht hts).1, fun h => ⟨trivial, (ht hts).2 h⟩⟩) (fun _ => hyes) hno

/-- Where the test is passed, something is read in front of what is read otherwise. -/
theorem ifAccept_join (ht : L.Decides 0 test n) (hno : L.Parallel L.Inside q q' R)
    (hyes : L.Parallel L.Inside q q' R → L.Parallel L.Inside p p' R) :
    L.Parallel L.Inside (Parser.acceptIf test n >>= fun b => if b = true then p else q)
      (Parser.acceptIf test n >>= fun b => if b = true then p' else q') R :=
  ifAccept ht (hyes hno) hno

/-- Behind a lexeme that may span semicolons nothing more follows. -/
theorem ifSpanning (ht : L.Decides 0 test n)
    (hspans : ∀ {ts}, test ts → ∃ l, ts.lexeme? 0 = some l ∧ l.spans)
    (hyes : L.more = [] → L.Parallel L.Inside p p' R) (hno : L.Parallel L.Inside q q' R) :
    L.Parallel L.Inside (Parser.acceptIf test n >>= fun b => if b = true then p else q)
      (Parser.acceptIf test n >>= fun b => if b = true then p' else q') R := by
  refine ifAcceptAt (fun ts ts' hts => ⟨(ht hts).1, fun h => ⟨?_, (ht hts).2 h⟩⟩) hyes hno
  obtain ⟨l, hl, hlspans⟩ := hspans h
  obtain ⟨hnone, _⟩ | ⟨l', _, hl', _, _, hmore, _⟩ := hts.lexeme? (n := 0)
  · exact absurd (hl.symm.trans hnone) (by simp)
  · exact hmore (Option.some.inj (hl.symm.trans hl') ▸ hlspans)

end

section

variable [Renames β] {test : Tokens → Bool} {n : Nat} {p p' q q' : Parser β} {f f' : β → Parser α}

theorem ifAccept_bind (ht : L.Decides 0 test n) (hyes : L.Within p p') (hno : L.Within q q')
    (hf : ∀ a b, L.Same a b → L.Parallel L.Inside (f a) (f' b) R) :
    L.Parallel L.Inside (Parser.acceptIf test n >>= fun b => if b = true then p >>= f else q >>= f)
      (Parser.acceptIf test n >>= fun b => if b = true then p' >>= f' else q' >>= f') R :=
  ifAccept ht (bind hyes hf) (bind hno hf)

theorem ifLook_bind (ht : L.Decides 0 test n) (hyes : L.Within p p') (hno : L.Within q q')
    (hf : ∀ a b, L.Same a b → L.Parallel L.Inside (f a) (f' b) R) :
    L.Parallel L.Inside (look test >>= fun b => if b = true then p >>= f else q >>= f)
      (look test >>= fun b => if b = true then p' >>= f' else q' >>= f') R :=
  ifLook ht (bind hyes hf) (bind hno hf)

end

theorem acceptKeyword (keyword : String) : L.Within (Parser.acceptKeyword keyword) (Parser.acceptKeyword keyword) :=
  acceptIf (.hasKeyword keyword)

theorem skipEither (first second : String) :
    L.Within (Parser.skipEither first second) (Parser.skipEither first second) :=
  ifAccept (.hasKeyword first) (ret rfl) (discard (acceptKeyword second))

theorem expectKeyword (keyword : String) : L.Within (Parser.expectKeyword keyword) (Parser.expectKeyword keyword) :=
  ifAccept (.hasKeyword keyword) (ret rfl) (fail keyword)

theorem expect (l : Lexeme) (hword : l.isWord = false) (hsemi : l ≠ .semicolon) :
    L.Within (Parser.expect l) (Parser.expect l) :=
  ifAccept (.hasLexeme l hword hsemi) (ret rfl) (fail _)

theorem ifOpen {p p' q q' : Parser α} (hyes : L.more = [] → L.Parallel L.Inside p p' R)
    (hno : L.Parallel L.Inside q q' R) :
    L.Parallel L.Inside (Parser.accept .openParen >>= fun b => if b = true then p else q)
      (Parser.accept .openParen >>= fun b => if b = true then p' else q') R :=
  ifSpanning (.hasLexeme .openParen rfl (by decide)) (fun h => ⟨_, eq_of_beq h, rfl⟩) hyes hno

/-- Behind an opening parenthesis nothing more follows. -/
theorem expectOpen {f f' : Unit → Parser α} (h : L.more = [] → L.Parallel L.Inside (f ()) (f' ()) R) :
    L.Parallel L.Inside (Parser.expect .openParen >>= f) (Parser.expect .openParen >>= f') R := by
  have hexpect : L.Parallel L.Inside (Parser.expect .openParen) (Parser.expect .openParen)
      fun _ _ ts ts' => L.more = [] ∧ L.Inside ts ts' :=
    ifOpen (fun hmore _ _ hts => .ok ⟨hmore, hts⟩ .nil) (fail _)
  exact trans hexpect fun _ _ => assuming h

/-- The next lexeme is looked at. -/
theorem peek_bind {f f' : Option Lexeme → Parser α} (hnone : L.Parallel L.Inside (f none) (f' none) R)
    (hsemi : L.Parallel (fun ts ts' => L.Inside ts ts' ∧ L.After (ts.drop 1) (ts'.drop 1)) (f (some .semicolon))
      (f' (some .semicolon)) R)
    (hsome : ∀ l l', L.Alike l l' → l ≠ .semicolon → (l.spans → L.more = []) →
      L.Parallel L.Headed (f (some l)) (f' (some l')) R) :
    L.Parallel L.Inside (peek >>= f) (peek >>= f') R := by
  refine look_bind fun ts ts' hts => ?_
  cases ts with
  | nil =>
    have hnil : ts' = [] := hts.eq_nil.2
    subst hnil
    exact hnone hts
  | cons t ts =>
    obtain ⟨t', us', rfl, ht, hspans, hus, hafter⟩ : ∃ t' us', ts' = t' :: us' ∧ L.AlikeToken t t' ∧ _ := hts.uncons
    show L.Replies R ((f (some t.lexeme)).run (t :: ts)) ((f' (some t'.lexeme)).run (t' :: us'))
    by_cases h : t.lexeme = .semicolon
    · have h' : t'.lexeme = .semicolon := (ht.lexeme.eq_iff rfl).1 h
      rw [h, h']
      exact hsemi ⟨hts, hafter⟩
    · exact hsome _ _ ht.lexeme h hspans ⟨hts, hus (.inl h)⟩

/-! ### Loops -/

section

variable [Renames α] {S : ω → ω → Prop} {separator : Tokens → Option (Nat × ω)} {body body' : α → ω → Parser α}

/-- Whatever the bodies preserve at each turn, the loop preserves; by induction on what is left of the first text. -/
theorem loop (hseparator : L.Separates 0 S separator)
    (hbody : ∀ a b, L.Same a b → ∀ o o', S o o' → L.Within (body a o) (body' b o')) {a b : α} (hab : L.Same a b) :
    L.Within (Parser.loop separator body a) (Parser.loop separator body' b) := by
  intro ts
  induction hlength : ts.length using Nat.strongRecOn generalizing ts a b with
  | _ length ih =>
    intro ts' hts
    show L.Replies L.Stays (loopRun separator body a ts) (loopRun separator body' b ts')
    cases ts with
    | nil =>
      have hnil : ts' = [] := hts.eq_nil.2
      subst hnil
      rw [loopRun, loopRun]
      exact .ok ⟨hab, hts⟩ .nil
    | cons t tail =>
      obtain ⟨t', tail', rfl, _⟩ : ∃ t' tail', ts' = t' :: tail' ∧ _ := hts.uncons
      have hahead := hseparator hts
      rw [loopRun, loopRun]
      generalize separator (t :: tail) = ahead at hahead ⊢
      generalize separator (t' :: tail') = ahead' at hahead ⊢
      cases hahead with
      | none => exact .ok ⟨hab, hts⟩ .nil
      | @some x y h =>
        obtain ⟨n, o⟩ := x
        obtain ⟨n', o'⟩ := y
        obtain ⟨rfl, ho, hdrop⟩ : n = n' ∧ S o o' ∧ L.Inside (tail.drop n) (tail'.drop n) := h
        have hreplies : L.Replies L.Stays ((body a o).run (tail.drop n)) ((body' b o').run (tail'.drop n)) :=
          hbody a b hab o o' ho hdrop
        -- the separator alone is a token, whatever the body leaves
        have hlt : ((body a o).run (tail.drop n)).rest.length < (t :: tail).length := by
          have hsuffix := ((body a o).suffix (tail.drop n)).length_le
          simp only [List.length_drop, List.length_cons] at hsuffix ⊢
          omega
        dsimp only
        generalize (body a o).run (tail.drop n) = r at hreplies hlt ⊢
        generalize (body' b o').run (tail'.drop n) = r' at hreplies ⊢
        cases hreplies with
        | ok h hns => exact (ih _ (hlength ▸ hlt) h.1 rfl h.2).noted hns _
        | unexpected hn h hns => exact .unexpected hn h hns
        | tooDeep => exact .tooDeep _

end

theorem separates_comma :
    L.Separates 0 (fun _ _ => True) fun ts => if ts.hasLexeme 0 .comma then some (0, ()) else none :=
  .ite (.hasLexeme .comma rfl (by decide)) (.some trivial) .none

theorem commaSeparated [Renames α] {item item' : Parser α} (h : L.Within item item') :
    L.Within (Parser.commaSeparated item) (Parser.commaSeparated item') := by
  refine bind h fun a b hab => ?_
  refine loop separates_comma (fun as bs hs _ _ _ => ?_) (.cons hab .nil)
  exact bind h fun c d hcd => ret (hs.append (.cons hcd .nil))

section

variable [Renames α] {stop : Tokens → Bool} {resume : Tokens → Nat} {item item' : Parser (Option α)}

/-- By induction on what is left of the first text, since each turn reads a token. -/
theorem recovering (hmore : L.more = []) (hstop : L.Decides 0 stop 0)
    (hresume : ∀ ⦃ts ts'⦄, L.Inside ts ts' → resume ts = resume ts')
    (hitem : L.Parallel L.Inside item item' L.Leaves) :
    L.Within (Parser.recovering stop resume item) (Parser.recovering stop resume item') := by
  intro ts
  induction hlength : ts.length using Nat.strongRecOn generalizing ts with
  | _ length ih =>
    intro ts' hts
    show L.Replies L.Stays (recoverRun stop resume item ts) (recoverRun stop resume item' ts')
    cases ts with
    | nil =>
      have hnil : ts' = [] := hts.eq_nil.2
      subst hnil
      rw [recoverRun, recoverRun]
      exact .ok ⟨rfl, hts⟩ .nil
    | cons t tail =>
      obtain ⟨t', tail', rfl, _⟩ : ∃ t' tail', ts' = t' :: tail' ∧ _ := hts.uncons
      have hstops : stop (t :: tail) = stop (t' :: tail') := (hstop hts).1
      rw [recoverRun, recoverRun, ← hstops]
      split
      · exact .ok ⟨rfl, hts⟩ .nil
      have hreplies : L.Replies L.Leaves (item.run (t :: tail)) (item'.run (t' :: tail')) := hitem hts
      have hlt := progress_length_lt t tail (item.run (t :: tail)).rest
      dsimp only
      generalize item.run (t :: tail) = r at hreplies hlt ⊢
      generalize item'.run (t' :: tail') = r' at hreplies ⊢
      cases hreplies with
      | tooDeep => exact .tooDeep _
      | @unexpected n n' us us' ns ns' _ hn hus hns =>
        -- both go on at the same distance behind what failed
        have hnext : L.Inside (progress (t :: tail) us) (progress (t' :: tail') us') := hts.progress (.inr hmore) hus
        have hrest := ih _ (hlength ▸ Nat.lt_of_le_of_lt (by simp) hlt) rfl
          (hnext.drop_of_more_eq_nil hmore (resume (progress (t :: tail) us)))
        dsimp only
        rw [← hresume hnext]
        have hnoted := hrest.noted (.cons hn .nil) 0
        rw [Nat.zero_add, Nat.zero_add] at hnoted
        exact hnoted.noted hns _
      | @ok a b us us' ns ns' _ h hns =>
        have hnext : L.Inside (progress (t :: tail) us) (progress (t' :: tail') us') :=
          hts.progress (.inr hmore) (h.2.inside hmore)
        have hrest : L.Replies L.Stays (recoverRun stop resume item (progress (t :: tail) us))
            (recoverRun stop resume item' (progress (t' :: tail') us')) := ih _ (hlength ▸ hlt) rfl hnext
        refine Replies.noted hns _ ?_
        generalize recoverRun stop resume item (progress (t :: tail) us) = r at hrest ⊢
        generalize recoverRun stop resume item' (progress (t' :: tail') us') = r' at hrest ⊢
        cases hrest with
        | ok hs hns => exact .ok ⟨h.1.toList.append hs.1, hs.2⟩ hns
        | unexpected hn hin hns => exact .unexpected hn hin hns
        | tooDeep => exact .tooDeep _

end

end Parallel

end ChangeImpact.Sql.Likeness
