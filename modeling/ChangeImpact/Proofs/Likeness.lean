import ChangeImpact.Proofs.Renaming
import ChangeImpact.Sql.Boundary
import Mathlib.Data.List.Forall2

/-!
# Texts that are alike

Two texts are read side by side.  A `Likeness` says what they have in common: words of one form are not told apart, and
the second text goes on with `more` where the first one ends.

* `Inside`: what is left to read of the first text is alike what is left of the second one.  Unless nothing more
  follows, a semicolon is still ahead, and nothing that could span it (`Lexeme.spans`);
* `After`: that semicolon may have been passed.

What is seen of `Inside` texts by looking ahead is the same as long as no semicolon is passed: `Decides` says so of a
test and `Passes` of a distance.
-/

namespace ChangeImpact.Sql

/-- Behind these words a statement may go on beyond a semicolon. -/
def spanningKeywords : List String := ["CREATE", "ALTER", "DECLARE", "BEGIN", "IF", "WHILE", "TOP"]

/-- What starts with the lexeme may go on beyond a semicolon. -/
def Lexeme.spans (l : Lexeme) : Bool :=
  l == .openParen || l == .closeParen || l.keyword?.any spanningKeywords.contains

theorem spans_of_hasKeyword {keyword : String} (hkeyword : keyword ∈ spanningKeywords) {ts : Tokens}
    (h : ts.hasKeyword 0 keyword) : ∃ l, ts.lexeme? 0 = some l ∧ l.spans := by
  obtain ⟨l, hl, hlkey⟩ : ∃ l, ts.lexeme? 0 = some l ∧ l.keyword? = some keyword :=
    Option.bind_eq_some_iff.1 (eq_of_beq h)
  exact ⟨l, hl, by simp [Lexeme.spans, hlkey, hkeyword]⟩

structure Likeness where
  form : String → String
  /-- What the second text has behind the first one. -/
  more : Tokens
  /-- Words of one form call the procedure that executes a text, or none of them does. -/
  executes_eq : ∀ {s t : String}, form s = form t →
    Text.sameAsciiCase s "sp_executesql" = Text.sameAsciiCase t "sp_executesql"

namespace Likeness

variable {α : Type} {L : Likeness}

/-- Equal, if words of one form are taken for equal. -/
def Same (L : Likeness) [Renames α] (a b : α) : Prop :=
  rename L.form a = rename L.form b

namespace Same

variable [Renames α] {a b : α} {as bs cs ds : List α}

theorem nil : L.Same ([] : List α) [] :=
  rfl

/-- Under a constructor that renaming goes through. -/
theorem under {β : Type} [Renames β] {c : α → β} (hc : ∀ a, rename L.form (c a) = c (rename L.form a))
    (h : L.Same a b) : L.Same (c a) (c b) := by
  have heq : rename L.form a = rename L.form b := h
  rw [Same, hc, hc, heq]

theorem cons (h : L.Same a b) (hs : L.Same as bs) : L.Same (a :: as) (b :: bs) :=
  congrArg₂ List.cons h hs

theorem append (h : L.Same as bs) (hs : L.Same cs ds) : L.Same (as ++ cs) (bs ++ ds) := by
  have heq : as.map (rename L.form) ++ cs.map (rename L.form) = bs.map (rename L.form) ++ ds.map (rename L.form) :=
    congrArg₂ (· ++ ·) h hs
  rwa [← List.map_append, ← List.map_append] at heq

theorem executes_eq {name name' : Name} (h : L.Same name name') :
    Text.sameAsciiCase name.base "sp_executesql" = Text.sameAsciiCase name'.base "sp_executesql" := by
  have hparts : name.parts.map L.form = name'.parts.map L.form := congrArg Name.parts h
  have hlast : name.parts.getLast?.map L.form = name'.parts.getLast?.map L.form := by
    rw [← List.getLast?_map, hparts, List.getLast?_map]
  rw [Name.base, Name.base]
  cases hl : name.parts.getLast? with
  | none =>
    rw [hl, Option.map_none, eq_comm, Option.map_eq_none_iff] at hlast
    rw [hlast]
  | some part =>
    rw [hl, Option.map_some, eq_comm, Option.map_eq_some_iff] at hlast
    obtain ⟨part', hl', hform⟩ := hlast
    rw [hl']
    exact (L.executes_eq hform).symm

theorem flatten {ass bss : List (List α)} (h : L.Same ass bss) : L.Same ass.flatten bss.flatten := by
  have heq : (ass.map (List.map (rename L.form))).flatten = (bss.map (List.map (rename L.form))).flatten :=
    congrArg List.flatten h
  rwa [← List.map_flatten, ← List.map_flatten] at heq

theorem filterMap {as bs : List (Option α)} (h : L.Same as bs) : L.Same (as.filterMap id) (bs.filterMap id) := by
  have heq : (as.map (Option.map (rename L.form))).filterMap id = (bs.map (Option.map (rename L.form))).filterMap id :=
    congrArg (List.filterMap id) h
  rw [List.filterMap_map, List.filterMap_map] at heq
  show (as.filterMap id).map (rename L.form) = (bs.filterMap id).map (rename L.form)
  rw [List.map_filterMap, List.map_filterMap]
  exact heq

theorem forall₂ (h : L.Same as bs) : List.Forall₂ L.Same as bs := by
  have heq : List.Forall₂ Eq (as.map (rename L.form)) (bs.map (rename L.form)) := List.forall₂_eq_eq_eq ▸ h
  rwa [List.forall₂_map_left_iff, List.forall₂_map_right_iff] at heq

theorem none : L.Same (none : Option α) none :=
  rfl

theorem some (h : L.Same a b) : L.Same (some a) (some b) :=
  congrArg Option.some h

theorem toList {a b : Option α} (h : L.Same a b) : L.Same a.toList b.toList := by
  match a, b, h with
  | .none, .none, _ => exact .nil
  | .some a, .some b, h => exact .cons (Option.some.inj h) .nil

end Same

/-! ### Lexemes and tokens -/

/-- The same kind of lexeme, and words of one form; keywords are the same. -/
inductive Alike (L : Likeness) : Lexeme → Lexeme → Prop
  | same {l : Lexeme} (hword : l.isWord = false) : L.Alike l l
  | word {s t : String} {quoted : Bool} (hform : L.form s = L.form t)
      (hkey : quoted = false → Text.asciiUpper s = Text.asciiUpper t) : L.Alike (.word s quoted) (.word t quoted)

structure AlikeToken (L : Likeness) (t t' : Token) : Prop where
  lexeme : L.Alike t.lexeme t'.lexeme
  line_eq : t.line = t'.line

theorem isMarked_congr {s t : String} (h : Text.asciiUpper s = Text.asciiUpper t) :
    Text.isMarked '@' s = Text.isMarked '@' t := by
  rw [← Text.isMarked_asciiUpper (by decide) s, h, Text.isMarked_asciiUpper (by decide)]

theorem isReserved_congr {s t : String} (h : Text.asciiUpper s = Text.asciiUpper t) : isReserved s = isReserved t := by
  rw [isReserved, isReserved, h]

namespace Alike

variable {l l' : Lexeme}

@[refl] theorem refl (l : Lexeme) : L.Alike l l := by
  cases l with
  | word s quoted => exact .word rfl fun _ => rfl
  | _ => exact .same rfl

theorem keyword?_eq (h : L.Alike l l') : l.keyword? = l'.keyword? := by
  cases h with
  | same => rfl
  | @word s t quoted hform hkey =>
    cases quoted with
    | false => exact congrArg some (hkey rfl)
    | true => rfl

theorem isWord_eq (h : L.Alike l l') : l.isWord = l'.isWord := by
  cases h <;> rfl

theorem isVariable_eq (h : L.Alike l l') : l.isVariable = l'.isVariable := by
  cases h with
  | same => rfl
  | @word s t quoted hform hkey =>
    cases quoted with
    | false => exact isMarked_congr (hkey rfl)
    | true => rfl

theorem eq_iff (h : L.Alike l l') {m : Lexeme} (hm : m.isWord = false) : l = m ↔ l' = m := by
  cases h with
  | same => rfl
  | word =>
    refine ⟨fun heq => ?_, fun heq => ?_⟩ <;> subst heq <;> cases hm

end Alike

/-! ### What is left to read -/

inductive Inside (L : Likeness) : Tokens → Tokens → Prop
  | done (h : L.more = []) : L.Inside [] []
  | last {t t' : Token} (h : t.lexeme = .semicolon) (ht : L.AlikeToken t t') : L.Inside [t] (t' :: L.more)
  | next {t t' : Token} {ts ts' : Tokens} (ht : L.AlikeToken t t') (hspans : t.lexeme.spans → L.more = [])
      (h : L.Inside ts ts') : L.Inside (t :: ts) (t' :: ts')

/-- Inside, or behind all of the first text. -/
def After (L : Likeness) (ts ts' : Tokens) : Prop :=
  L.Inside ts ts' ∨ ts = [] ∧ ts' = L.more

namespace Inside

variable {ts ts' : Tokens} {t : Token} {n : Nat}

theorem eq_nil (h : L.Inside [] ts') : L.more = [] ∧ ts' = [] := by
  cases h with
  | done h => exact ⟨h, rfl⟩

/-- One token of each text is read. -/
theorem uncons (h : L.Inside (t :: ts) ts') : ∃ t' us', ts' = t' :: us' ∧ L.AlikeToken t t' ∧
    (t.lexeme.spans → L.more = []) ∧ (t.lexeme ≠ .semicolon ∨ L.more = [] → L.Inside ts us') ∧ L.After ts us' := by
  cases h with
  | @last _ t' hsemi ht =>
    refine ⟨t', L.more, rfl, ht, fun hspans => ?_, fun hor => ?_, .inr ⟨rfl, rfl⟩⟩
    · rw [hsemi] at hspans
      exact absurd hspans (by decide)
    · obtain hne | hmore := hor
      · exact absurd hsemi hne
      · exact hmore ▸ .done hmore
  | next ht hspans h => exact ⟨_, _, rfl, ht, hspans, fun _ => h, .inl h⟩

theorem length_eq (h : L.Inside ts ts') : ts'.length = ts.length + L.more.length := by
  induction h with
  | done h => rw [h]; rfl
  | last => simp +arith
  | next _ _ _ ih => simp only [List.length_cons, ih]; omega

theorem line?_eq (h : L.Inside ts ts') : ts.line? = ts'.line? := by
  cases h with
  | done => rfl
  | last _ ht => exact congrArg some ht.line_eq
  | next ht => exact congrArg some ht.line_eq

theorem drop_of_more_eq_nil (hmore : L.more = []) (h : L.Inside ts ts') (n : Nat) :
    L.Inside (ts.drop n) (ts'.drop n) := by
  induction n generalizing ts ts' with
  | zero => exact h
  | succ n ih =>
    cases ts with
    | nil =>
      rw [h.eq_nil.2]
      exact .done hmore
    | cons t ts =>
      obtain ⟨t', us', rfl, _, _, hus, _⟩ := h.uncons
      exact ih (hus (.inr hmore))

/-- The token ahead of both texts, if there is one. -/
theorem lexeme? (h : L.Inside (ts.drop n) (ts'.drop n)) :
    (ts.lexeme? n = none ∧ ts'.lexeme? n = none) ∨ ∃ l l', ts.lexeme? n = some l ∧ ts'.lexeme? n = some l' ∧
      L.Alike l l' ∧ (l.spans → L.more = []) ∧
      (l ≠ .semicolon ∨ L.more = [] → L.Inside (ts.drop (n + 1)) (ts'.drop (n + 1))) := by
  have hlexeme (ts : Tokens) : ts.lexeme? n = (ts.drop n).head?.map Token.lexeme := by
    rw [List.head?_drop]
    rfl
  rw [hlexeme, hlexeme, ← List.tail_drop, ← List.tail_drop]
  generalize ts.drop n = us at h
  generalize ts'.drop n = us' at h
  cases us with
  | nil =>
    rw [h.eq_nil.2]
    exact .inl ⟨rfl, rfl⟩
  | cons t us =>
    obtain ⟨t', us', rfl, ht, hspans, hus, _⟩ := h.uncons
    exact .inr ⟨_, _, rfl, rfl, ht.lexeme, hspans, hus⟩

end Inside

theorem After.inside {ts ts' : Tokens} (hmore : L.more = []) (h : L.After ts ts') : L.Inside ts ts' := by
  obtain h | ⟨rfl, rfl⟩ := h
  · exact h
  · exact hmore ▸ .done hmore

theorem After.length_eq {ts ts' : Tokens} (h : L.After ts ts') : ts'.length = ts.length + L.more.length := by
  obtain h | ⟨rfl, rfl⟩ := h
  · exact h.length_eq
  · simp

/-! ### Looking ahead -/

section

variable {m n k : Nat} {f g : Tokens → Bool} {ts ts' : Tokens}

/-- From the `m`-th token on, the test has one answer for both texts, and no semicolon is passed by the first `n` tokens
of texts that pass the test. -/
def Decides (L : Likeness) (m : Nat) (test : Tokens → Bool) (n : Nat) : Prop :=
  ∀ ⦃ts ts'⦄, L.Inside (ts.drop m) (ts'.drop m) →
    test ts = test ts' ∧ (test ts → L.Inside (ts.drop n) (ts'.drop n))

namespace Decides

theorem stay (h : L.Decides m f n) : L.Decides m f m :=
  fun _ _ hin => ⟨(h hin).1, fun _ => hin⟩

theorem and (hf : L.Decides m f n) (hg : L.Decides n g k) : L.Decides m (fun ts => f ts && g ts) k := by
  intro ts ts' hin
  obtain ⟨hfeq, hfin⟩ := hf hin
  cases hft : f ts with
  | false => simp [← hfeq, hft]
  | true =>
    obtain ⟨hgeq, hgin⟩ := hg (hfin hft)
    simpa [← hfeq, hft, hgeq] using fun h => hgin (hgeq ▸ h)

/-- The second test only looks further ahead. -/
theorem andAhead (hf : L.Decides m f n) (hg : L.Decides n g k) : L.Decides m (fun ts => f ts && g ts) n :=
  hf.and hg.stay

/-- The second test looks at the same tokens. -/
theorem both (hf : L.Decides m f n) (hg : L.Decides m g k) : L.Decides m (fun ts => f ts && g ts) n :=
  fun _ _ hin => ⟨congrArg₂ (· && ·) (hf hin).1 (hg hin).1, fun h => (hf hin).2 ((Bool.and_eq_true ..).mp h).1⟩

theorem or (hf : L.Decides m f n) (hg : L.Decides m g n) : L.Decides m (fun ts => f ts || g ts) n := by
  intro ts ts' hin
  obtain ⟨hfeq, hfin⟩ := hf hin
  obtain ⟨hgeq, hgin⟩ := hg hin
  refine ⟨congrArg₂ (· || ·) hfeq hgeq, fun h => ?_⟩
  obtain h | h := (Bool.or_eq_true ..).mp h
  · exact hfin h
  · exact hgin h

theorem not (hf : L.Decides m f n) : L.Decides m (fun ts => !f ts) m :=
  fun _ _ hin => ⟨congrArg _ (hf hin).1, fun _ => hin⟩

/-- A test of one lexeme that no semicolon passes. -/
theorem ofLexeme {p : Lexeme → Bool} (hp : ∀ {l l'}, L.Alike l l' → p l = p l') (hsemi : p .semicolon = false) :
    L.Decides n (fun ts => (ts.lexeme? n).any p) (n + 1) := by
  intro ts ts' hin
  obtain ⟨hnone, hnone'⟩ | ⟨l, l', hl, hl', hll, _, htail⟩ := hin.lexeme?
  · simp [hnone, hnone']
  · dsimp only
    rw [hl, hl']
    refine ⟨hp hll, fun h => htail (.inl ?_)⟩
    rintro rfl
    exact Bool.false_ne_true (hsemi.symm.trans h)

theorem hasKeywordOf (keywords : List String) : L.Decides n (·.hasKeywordOf n keywords) (n + 1) := by
  have h : L.Decides n (fun ts => (ts.lexeme? n).any (·.keyword?.any keywords.contains)) (n + 1) :=
    ofLexeme (fun hl => by rw [hl.keyword?_eq]) rfl
  convert h using 2 with ts
  cases hl : ts.lexeme? n <;> simp [Tokens.hasKeywordOf, Tokens.keyword?, hl]

theorem hasKeyword (keyword : String) : L.Decides n (·.hasKeyword n keyword) (n + 1) := by
  have h : L.Decides n (fun ts => (ts.lexeme? n).any (·.keyword? == some keyword)) (n + 1) :=
    ofLexeme (fun hl => by rw [hl.keyword?_eq]) rfl
  convert h using 2 with ts
  cases hl : ts.lexeme? n <;> simp [Tokens.hasKeyword, Tokens.keyword?, hl]

theorem symbol (p : String → Bool) :
    L.Decides n (fun ts => match ts.lexeme? n with
      | some (.symbol text) => p text
      | _ => false) (n + 1) := by
  have h : L.Decides n (fun ts => (ts.lexeme? n).any fun
      | .symbol text => p text
      | _ => false) (n + 1) :=
    ofLexeme (fun hl => by cases hl <;> rfl) rfl
  convert h using 2 with ts
  cases hl : ts.lexeme? n with
  | none => rfl
  | some l => cases l <;> rfl

theorem hasVariable : L.Decides n (·.hasVariable n) (n + 1) :=
  ofLexeme Alike.isVariable_eq rfl

theorem hasWord : L.Decides n (·.hasWord n) (n + 1) :=
  ofLexeme Alike.isWord_eq rfl

theorem hasLexeme (l : Lexeme) (hword : l.isWord = false) (hsemi : l ≠ .semicolon) :
    L.Decides n (·.hasLexeme n l) (n + 1) := by
  have h : L.Decides n (fun ts => (ts.lexeme? n).any (· == l)) (n + 1) :=
    ofLexeme (fun hl => by rw [Bool.eq_iff_iff, beq_iff_eq, beq_iff_eq, hl.eq_iff hword])
      (beq_false_of_ne hsemi.symm)
  convert h using 2 with ts
  cases hl : ts.lexeme? n <;> simp [Tokens.hasLexeme, hl]

theorem startsCtes : L.Decides 0 Tokens.startsCtes 3 :=
  ((hasKeyword "WITH").and hasWord).and ((hasKeyword "AS").or (hasLexeme .openParen rfl (by decide)))

theorem startsStatement : L.Decides 0 Tokens.startsStatement 0 := by
  intro ts ts' hin
  have hwith : ts.hasKeyword 0 "WITH" = ts'.hasKeyword 0 "WITH" := (hasKeyword "WITH" hin).1
  have hkeyword : ts.hasKeywordOf 0 statementKeywords = ts'.hasKeywordOf 0 statementKeywords :=
    (hasKeywordOf statementKeywords hin).1
  refine ⟨?_, fun _ => hin⟩
  rw [Tokens.startsStatement, Tokens.startsStatement, hwith, (startsCtes hin).1, hkeyword]

theorem startsQuery : L.Decides n (·.startsQuery n) (n + 1) :=
  (hasKeyword "SELECT").or (hasKeyword "WITH")

theorem startsBareHint : L.Decides 0 Tokens.startsBareHint 3 :=
  ((hasLexeme .openParen rfl (by decide)).and (hasKeywordOf tableHints)).and
    ((hasLexeme .closeParen rfl (by decide)).or (hasLexeme .comma rfl (by decide)))

theorem atBoundary : L.Decides 0 Tokens.atBoundary 0 := by
  intro ts ts' hin
  have hstarts := (startsStatement hin).1
  refine ⟨?_, fun _ => hin⟩
  have hhead : (ts.isEmpty || ts.hasLexeme 0 .semicolon) = (ts'.isEmpty || ts'.hasLexeme 0 .semicolon) := by
    cases ts with
    | nil =>
      have hnil : ts' = [] := hin.eq_nil.2
      rw [hnil]
    | cons t ts =>
      obtain ⟨t', us', rfl, ht, _⟩ : ∃ t' us', ts' = t' :: us' ∧ L.AlikeToken t t' ∧ _ := hin.uncons
      have hsemi : t.lexeme = .semicolon ↔ t'.lexeme = .semicolon := ht.lexeme.eq_iff rfl
      simp [Tokens.hasLexeme, Tokens.lexeme?, hsemi]
  rw [Tokens.atBoundary, Tokens.atBoundary, hhead, hstarts]

end Decides

/-! ### Distances -/

/-- From the `m`-th token on, the distance is the same for both texts, and no semicolon is passed within it. -/
def Passes (L : Likeness) (m : Nat) (count : Tokens → Nat) : Prop :=
  ∀ ⦃ts ts'⦄, L.Inside (ts.drop m) (ts'.drop m) →
    count ts = count ts' ∧ L.Inside (ts.drop (count ts)) (ts'.drop (count ts))

namespace Passes

/-- Tokens that pass a test which no semicolon passes. -/
theorem takeWhile {p : Token → Bool} (hp : ∀ {t t'}, L.AlikeToken t t' → p t = p t')
    (hsemi : ∀ {t}, p t → t.lexeme ≠ .semicolon ∨ L.more = []) : L.Passes 0 fun ts => (ts.takeWhile p).length := by
  intro ts
  induction ts with
  | nil =>
    intro ts' hin
    have hnil : ts' = [] := hin.eq_nil.2
    exact ⟨by rw [hnil], hin⟩
  | cons t ts ih =>
    intro ts' hin
    obtain ⟨t', us', rfl, ht, _, hus, _⟩ : ∃ t' us', ts' = t' :: us' ∧ L.AlikeToken t t' ∧ _ := hin.uncons
    simp only [List.takeWhile_cons, ← hp ht]
    cases hpt : p t with
    | false => exact ⟨rfl, hin⟩
    | true =>
      obtain ⟨heq, hdrop⟩ := ih (hus (hsemi hpt))
      exact ⟨congrArg (· + 1) heq, hdrop⟩

/-- What is left of a call ends at the semicolon. -/
theorem callDistance {depth : Nat} (hdepth : depth = 0 ∨ L.more = []) : L.Passes 0 (Tokens.callDistance depth) := by
  intro ts
  induction ts generalizing depth with
  | nil =>
    intro ts' hin
    have hnil : ts' = [] := hin.eq_nil.2
    exact ⟨by rw [hnil], hin⟩
  | cons t ts ih =>
    intro ts' hin
    have hstarts : Tokens.startsStatement (t :: ts) = ts'.startsStatement := (Decides.startsStatement hin).1
    obtain ⟨t', us', rfl, ht, hspans, hus, _⟩ : ∃ t' us', ts' = t' :: us' ∧ L.AlikeToken t t' ∧ _ := hin.uncons
    have hnext {d : Nat} (hd : d = 0 ∨ L.more = []) (hne : t.lexeme ≠ .semicolon ∨ L.more = []) :
        Tokens.callDistance d ts + 1 = Tokens.callDistance d us' + 1 ∧
          L.Inside ((t :: ts).drop (Tokens.callDistance d ts + 1))
            ((t' :: us').drop (Tokens.callDistance d ts + 1)) := by
      obtain ⟨heq, hdrop⟩ := ih hd (hus hne)
      exact ⟨congrArg (· + 1) heq, hdrop⟩
    obtain ⟨l, line⟩ := t
    obtain ⟨l', line'⟩ := t'
    unfold Tokens.callDistance
    cases (ht.lexeme : L.Alike l l') with
    | @word s s' quoted =>
      cases quoted with
      | true => exact hnext hdepth (.inl (by simp))
      | false =>
        dsimp only
        rw [← hstarts]
        split
        · exact ⟨rfl, hin⟩
        · exact hnext hdepth (.inl (by simp))
    | same hword =>
      cases l with
      | word => cases hword
      | openParen => exact hnext (.inr (hspans rfl)) (.inl (by simp))
      | closeParen =>
        dsimp only
        split
        · exact ⟨rfl, hin⟩
        · exact hnext (.inr (hspans rfl)) (.inl (by simp))
      | semicolon =>
        obtain rfl | hmore := hdepth
        · exact ⟨rfl, hin⟩
        · dsimp only
          split
          · exact ⟨rfl, hin⟩
          · exact hnext (.inr hmore) (.inr hmore)
      | _ => exact hnext hdepth (.inl (by simp))

end Passes

/-- The next statement is as far away in both texts; only a semicolon in front of it is passed. -/
theorem Inside.boundaryDistance (depth cases : Nat) (hdepth : depth = 0 ∨ L.more = []) (hin : L.Inside ts ts') :
    Tokens.boundaryDistance depth cases ts = Tokens.boundaryDistance depth cases ts' ∧
      L.After (ts.drop (Tokens.boundaryDistance depth cases ts))
        (ts'.drop (Tokens.boundaryDistance depth cases ts)) := by
  induction ts generalizing depth cases ts' with
  | nil =>
    have hnil : ts' = [] := hin.eq_nil.2
    exact ⟨by rw [hnil], .inl hin⟩
  | cons t ts ih =>
    have hstarts : Tokens.startsStatement (t :: ts) = ts'.startsStatement := (Decides.startsStatement hin).1
    obtain ⟨t', us', rfl, ht, hspans, hus, hafter⟩ : ∃ t' us', ts' = t' :: us' ∧ L.AlikeToken t t' ∧ _ := hin.uncons
    -- one token further, but not beyond the last semicolon while more follows
    have hnext {d c : Nat} (hd : d = 0 ∨ L.more = []) (hne : t.lexeme ≠ .semicolon ∨ L.more = []) :
        Tokens.boundaryDistance d c ts + 1 = Tokens.boundaryDistance d c us' + 1 ∧
          L.After ((t :: ts).drop (Tokens.boundaryDistance d c ts + 1))
            ((t' :: us').drop (Tokens.boundaryDistance d c ts + 1)) := by
      obtain ⟨heq, hdrop⟩ := ih d c hd (hus hne)
      exact ⟨congrArg (· + 1) heq, hdrop⟩
    obtain ⟨l, line⟩ := t
    obtain ⟨l', line'⟩ := t'
    unfold Tokens.boundaryDistance
    cases (ht.lexeme : L.Alike l l') with
    | @word s s' quoted hform hkey =>
      cases quoted with
      | true => exact hnext hdepth (.inl (by simp))
      | false =>
        dsimp only
        rw [← hstarts, ← hkey rfl]
        split_ifs
        · exact hnext hdepth (.inl (by simp))
        · exact hnext hdepth (.inl (by simp))
        · exact hnext hdepth (.inl (by simp))
        · exact ⟨rfl, .inl hin⟩
        · exact hnext hdepth (.inl (by simp))
    | same hword =>
      cases l with
      | word => cases hword
      -- a depth other than zero is reached only behind a parenthesis, and then nothing more follows
      | openParen => exact hnext (.inr (hspans rfl)) (.inl (by simp))
      | closeParen => exact hnext (.inr (hspans rfl)) (.inl (by simp))
      | semicolon =>
        obtain rfl | hmore := hdepth
        · exact ⟨rfl, hafter⟩
        · dsimp only
          split
          · exact ⟨rfl, hafter⟩
          · exact hnext (.inr hmore) (.inr hmore)
      | _ => exact hnext hdepth (.inl (by simp))

/-! ### Distances where nothing more follows -/

theorem groupDistance?_eq (hmore : L.more = []) {depth : Nat} (hin : L.Inside ts ts') :
    Tokens.groupDistance? depth ts = Tokens.groupDistance? depth ts' := by
  induction ts generalizing depth ts' with
  | nil =>
    have hnil : ts' = [] := hin.eq_nil.2
    rw [hnil]
  | cons t ts ih =>
    obtain ⟨t', us', rfl, ht, _, hus, _⟩ : ∃ t' us', ts' = t' :: us' ∧ L.AlikeToken t t' ∧ _ := hin.uncons
    have hnext {d : Nat} : Tokens.groupDistance? d ts = Tokens.groupDistance? d us' := ih (hus (.inr hmore))
    obtain ⟨l, line⟩ := t
    obtain ⟨l', line'⟩ := t'
    unfold Tokens.groupDistance?
    cases (ht.lexeme : L.Alike l l') with
    | word => simp only [hnext]
    | same => simp only [hnext]

theorem bodyDistance?_eq (hmore : L.more = []) {depth : Nat} {afterVariable bound : Bool} (hin : L.Inside ts ts') :
    Tokens.bodyDistance? depth afterVariable bound ts = Tokens.bodyDistance? depth afterVariable bound ts' := by
  induction ts generalizing depth afterVariable bound ts' with
  | nil =>
    have hnil : ts' = [] := hin.eq_nil.2
    rw [hnil]
  | cons t ts ih =>
    obtain ⟨t', us', rfl, ht, _, hus, _⟩ : ∃ t' us', ts' = t' :: us' ∧ L.AlikeToken t t' ∧ _ := hin.uncons
    have hnext {d : Nat} {v b : Bool} : Tokens.bodyDistance? d v b ts = Tokens.bodyDistance? d v b us' :=
      ih (hus (.inr hmore))
    have hvariable : t.lexeme.isVariable = t'.lexeme.isVariable := ht.lexeme.isVariable_eq
    obtain ⟨l, line⟩ := t
    obtain ⟨l', line'⟩ := t'
    unfold Tokens.bodyDistance?
    cases (ht.lexeme : L.Alike l l') with
    | same => simp only [hnext]
    | @word s s' quoted hform hkey =>
      cases quoted with
      | true => simp only [hnext, hvariable]
      | false => simp only [hnext, hvariable, hkey rfl]

/-- All that is left of the texts. -/
theorem Passes.length (hmore : L.more = []) : L.Passes 0 List.length := by
  intro ts ts' hin
  have hlength : ts'.length = ts.length + L.more.length := Inside.length_eq hin
  rw [hmore] at hlength
  exact ⟨hlength.symm, hin.drop_of_more_eq_nil hmore _⟩

/-! ### Separators -/

/-- From the `m`-th token on, the separator ahead is the same in both texts, and no semicolon is passed with it. -/
def Separates (L : Likeness) {ω : Type} (m : Nat) (S : ω → ω → Prop) (separator : Tokens → Option (Nat × ω)) : Prop :=
  ∀ ⦃ts ts'⦄, L.Inside (ts.drop m) (ts'.drop m) →
    Option.Rel (fun x y => x.1 = y.1 ∧ S x.2 y.2 ∧ L.Inside (ts.drop (x.1 + 1)) (ts'.drop (x.1 + 1)))
      (separator ts) (separator ts')

namespace Separates

variable {ω : Type} {S : ω → ω → Prop} {separator separator' : Tokens → Option (Nat × ω)}

theorem none : L.Separates m S fun _ => none :=
  fun _ _ _ => .none

theorem some {o : ω} (ho : S o o) : L.Separates (n + 1) S fun _ => some (n, o) :=
  fun _ _ hin => .some ⟨rfl, ho, hin⟩

theorem ite (hf : L.Decides m f n) (hyes : L.Separates n S separator) (hno : L.Separates m S separator') :
    L.Separates m S fun ts => if f ts then separator ts else separator' ts := by
  intro ts ts' hin
  obtain ⟨heq, hdrop⟩ := hf hin
  dsimp only
  rw [← heq]
  split
  · exact hyes (hdrop ‹_›)
  · exact hno hin

end Separates

end

end Likeness

end ChangeImpact.Sql
