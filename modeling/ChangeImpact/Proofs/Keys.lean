import ChangeImpact.Entity
import Mathlib

/-!
# Keys of entities within a text

The key of an entity is the word for its kind and its number, with a colon between them.  A row of entities is written
as their keys with a bar before, between and after them (`barred`).  No key has a bar, and no word for a kind a colon.

* (one key) different entities have different keys: `Entity.key_inj`;
* (a row of keys) a key with its two bars occurs in the text of a row if and only if its entity is one of the row, even
  if its number begins or ends another one: `marked_infix_barred`.
-/

namespace ChangeImpact

/-! ### One key -/

theorem ObjectKind.name_inj {a b : ObjectKind} (h : a.name = b.name) : a = b := by
  cases a <;> cases b <;> first | rfl | exact absurd h (by decide)

theorem ObjectKind.not_mem_name (k : ObjectKind) : ':' ∉ k.name.toList ∧ '|' ∉ k.name.toList := by
  cases k <;> decide

/-- A number is written in digits, with a minus if it is negative. -/
theorem not_mem_repr {c : Char} (hdigit : c.isDigit = false) (hminus : c ≠ '-') (n : Int) : c ∉ n.repr.toList := by
  have hnat (m : Nat) : c ∉ m.repr.toList := by
    intro hc
    rw [Nat.toList_repr] at hc
    exact absurd (Nat.isDigit_of_mem_toDigits (by decide) (by decide) hc) (by simp [hdigit])
  rw [Int.repr_eq_if]
  split
  · exact hnat _
  · rw [String.toList_append, List.mem_append]
    rintro (hc | hc)
    · exact hminus (List.mem_singleton.1 hc)
    · exact hnat _ hc

namespace Entity

theorem toList_key (e : Entity) : e.key.toList = e.kind.name.toList ++ ':' :: e.id.repr.toList := by
  rw [key]
  simp only [String.toList_append, List.append_assoc]
  rfl

theorem bar_not_mem_key (e : Entity) : '|' ∉ e.key.toList := by
  rw [toList_key, List.mem_append, List.mem_cons]
  rintro (hc | hc | hc)
  · exact e.kind.not_mem_name.2 hc
  · exact absurd hc (by decide)
  · exact not_mem_repr (by decide) (by decide) e.id hc

/-- The colon after the kind is the first, so kind and number can be read off from a key. -/
theorem key_inj {e e' : Entity} : e.key = e'.key ↔ e = e' := by
  refine ⟨fun h => ?_, fun h => h ▸ rfl⟩
  obtain ⟨kind, id⟩ := e
  obtain ⟨kind', id'⟩ := e'
  have hlists := congrArg String.toList h
  have hcolon : ':' ∉ id.repr.toList := not_mem_repr (by decide) (by decide) id
  rw [toList_key, toList_key, List.append_cons_inj_of_notMem kind.not_mem_name.1 hcolon] at hlists
  obtain ⟨hkind, _, hid⟩ := hlists
  rw [ObjectKind.name_inj (String.toList_inj.1 hkind), Int.repr_injective (String.toList_inj.1 hid)]

/-- The key with a bar on either side. -/
def marked (e : Entity) : String :=
  "|" ++ e.key ++ "|"

end Entity

/-! ### A row of keys -/

/-- The keys of entities, with a bar in front and one after each. -/
def barred (es : List Entity) : String :=
  es.foldl (fun text e => text ++ e.key ++ "|") "|"

theorem barred_append_singleton (es : List Entity) (e : Entity) : barred (es ++ [e]) = barred es ++ e.key ++ "|" := by
  rw [barred, List.foldl_append]
  rfl

theorem toList_barred (es : List Entity) :
    (barred es).toList = '|' :: es.flatMap fun e => e.key.toList ++ ['|'] := by
  induction es using List.reverseRecOn with
  | nil => rfl
  | append_singleton es e ih =>
    rw [barred_append_singleton, String.toList_append, String.toList_append, ih, List.flatMap_append,
      List.flatMap_singleton, List.cons_append, List.cons_append, List.append_assoc]
    rfl

section Separated

variable {α : Type} {s : α} {w u t : List α}

/-- A word that begins with the separator begins nowhere in front of the first one. -/
theorem cons_infix_append_iff (hu : s ∉ u) : s :: w <:+: u ++ t ↔ s :: w <:+: t := by
  induction u with
  | nil => rfl
  | cons a u ih =>
    rw [List.mem_cons, not_or] at hu
    have hfirst : ¬ s :: w <+: a :: (u ++ t) := fun hprefix => hu.1 (List.cons_prefix_cons.1 hprefix).1
    rw [List.cons_append, List.infix_cons_iff, ih hu.2, or_iff_right hfirst]

/-- Two words without the separator are equal if one of them, with the separator behind it, begins what the other one
begins so. -/
theorem append_prefix_iff (hw : s ∉ w) (hu : s ∉ u) : w ++ [s] <+: u ++ s :: t ↔ w = u := by
  induction w generalizing u with
  | nil =>
    cases u with
    | nil => simp
    | cons b u =>
      rw [List.mem_cons, not_or] at hu
      simp [hu.1]
  | cons a w ih =>
    rw [List.mem_cons, not_or] at hw
    cases u with
    | nil => simp [Ne.symm hw.1]
    | cons b u =>
      rw [List.mem_cons, not_or] at hu
      rw [List.cons_append, List.cons_append, List.cons_prefix_cons, ih hw.2 hu.2, List.cons.injEq]

/-- Among words without the separator, a word stands between two separators if and only if it is one of them. -/
theorem separated_infix_iff {words : List (List α)} (hw : s ∉ w) (hwords : ∀ u ∈ words, s ∉ u) :
    s :: (w ++ [s]) <:+: s :: words.flatMap (· ++ [s]) ↔ w ∈ words := by
  induction words with
  | nil => simp [List.infix_cons_iff]
  | cons u words ih =>
    obtain ⟨hu, hwords⟩ := List.forall_mem_cons.1 hwords
    have htext : (u :: words).flatMap (· ++ [s]) = u ++ (s :: words.flatMap (· ++ [s])) := by
      rw [List.flatMap_cons, List.append_assoc, List.singleton_append]
    rw [htext, List.infix_cons_iff, List.cons_prefix_cons, cons_infix_append_iff hu, ih hwords,
      append_prefix_iff hw hu, List.mem_cons, and_iff_right rfl]

end Separated

/-- The bars keep the keys apart. -/
theorem marked_infix_barred {e : Entity} {es : List Entity} :
    e.marked.toList <:+: (barred es).toList ↔ e ∈ es := by
  have hmarked : e.marked.toList = '|' :: (e.key.toList ++ ['|']) := by
    rw [Entity.marked, String.toList_append, String.toList_append]
    rfl
  have hbarred : (barred es).toList = '|' :: (es.map fun e => e.key.toList).flatMap (· ++ ['|']) := by
    rw [toList_barred, List.flatMap_map]
  have hkeys : ∀ u ∈ es.map fun e => e.key.toList, '|' ∉ u := by
    intro u hu
    obtain ⟨e', _, rfl⟩ := List.mem_map.1 hu
    exact e'.bar_not_mem_key
  rw [hmarked, hbarred, separated_infix_iff e.bar_not_mem_key hkeys, List.mem_map]
  constructor
  · rintro ⟨e', he', hkey⟩
    rwa [← Entity.key_inj.1 (String.toList_inj.1 hkey)]
  · intro he
    exact ⟨e, he, rfl⟩

/-- A number that begins another one is told from it. -/
example : ¬ (⟨.table, 1⟩ : Entity).marked.toList <:+: (barred [⟨.table, 12⟩, ⟨.table, -1⟩]).toList := by
  rw [marked_infix_barred]
  decide

end ChangeImpact
