import ChangeImpact.Graph

/-!
# The order of hops

Entities are ordered by kind and number, usages by severity, and hops by the entity that they reach and then by the
usage.  Each of the three is a linear order (`Entity.le_total`, `Entity.le_trans`, `Entity.le_antisymm`, and the same
for `Usage` and `Hop`), so a set of hops has one sorted list (`Hop.eq_of_pairwise_le`).
-/

namespace ChangeImpact

/-! ### Entities -/

theorem ObjectKind.rank_inj {a b : ObjectKind} (h : a.rank = b.rank) : a = b := by
  cases a <;> cases b <;> first | rfl | exact absurd h (by decide)

namespace Entity

theorem le_iff {a b : Entity} :
    a.le b ↔ a.kind.rank < b.kind.rank ∨ a.kind.rank = b.kind.rank ∧ a.id ≤ b.id := by
  simp [le]

theorem le_total (a b : Entity) : a.le b ∨ b.le a := by
  rw [le_iff, le_iff]; omega

theorem le_trans {a b c : Entity} (h : a.le b) (h' : b.le c) : a.le c := by
  rw [le_iff] at *; omega

theorem le_antisymm {a b : Entity} (h : a.le b) (h' : b.le a) : a = b := by
  rw [le_iff] at *
  obtain ⟨ka, ia⟩ := a
  obtain ⟨kb, ib⟩ := b
  have hk : ka = kb := ObjectKind.rank_inj (by simp only at h h'; omega)
  have hi : ia = ib := by simp only at h h'; omega
  rw [hk, hi]

end Entity

/-! ### Usages -/

namespace Usage

theorem rank_inj {a b : Usage} (h : a.rank = b.rank) : a = b := by
  cases a <;> cases b <;> first | rfl | exact absurd h (by decide)

theorem le_iff {a b : Usage} : a.le b ↔ a.rank ≤ b.rank := by
  simp [le]

theorem le_total (a b : Usage) : a.le b ∨ b.le a := by
  rw [le_iff, le_iff]; omega

theorem le_trans {a b c : Usage} (h : a.le b) (h' : b.le c) : a.le c := by
  rw [le_iff] at *; omega

theorem le_antisymm {a b : Usage} (h : a.le b) (h' : b.le a) : a = b := by
  rw [le_iff] at *
  exact rank_inj (by omega)

theorem mem_all (u : Usage) : u ∈ all := by
  cases u <;> decide

theorem max_cases (a b : Usage) : max a b = a ∧ b.le a ∨ max a b = b ∧ a.le b := by
  unfold max
  by_cases h : a.le b
  · exact .inr ⟨if_pos h, h⟩
  · exact .inl ⟨if_neg h, (le_total a b).resolve_left h⟩

theorem le_max (a b : Usage) : a.le (max a b) ∧ b.le (max a b) := by
  have hrefl (c : Usage) : c.le c := le_iff.2 (Nat.le_refl _)
  rcases max_cases a b with ⟨heq, hle⟩ | ⟨heq, hle⟩ <;> rw [heq]
  · exact ⟨hrefl a, hle⟩
  · exact ⟨hle, hrefl b⟩

/-- The usage is one of the list, and none of the list is more severe. -/
def IsStrongest (us : List Usage) (u : Usage) : Prop :=
  u ∈ us ∧ ∀ v ∈ us, v.le u

theorem isStrongest_foldl_max (us : List Usage) (u : Usage) : IsStrongest (u :: us) (us.foldl max u) := by
  induction us generalizing u with
  | nil => exact ⟨List.mem_cons_self, fun v hv => by rw [List.mem_singleton.1 hv]; exact le_iff.2 (Nat.le_refl _)⟩
  | cons w us ih =>
    obtain ⟨hmem, hle⟩ := ih (max u w)
    have hmax := hle _ List.mem_cons_self
    constructor
    · rcases List.mem_cons.1 hmem with heq | hmem
      · rw [List.foldl_cons, heq]
        rcases max_cases u w with ⟨h, _⟩ | ⟨h, _⟩ <;> simp [h]
      · exact List.mem_cons_of_mem _ (List.mem_cons_of_mem _ hmem)
    · intro v hv
      rcases List.mem_cons.1 hv with rfl | hv
      · exact le_trans (le_max v w).1 hmax
      · rcases List.mem_cons.1 hv with rfl | hv
        · exact le_trans (le_max u v).2 hmax
        · exact hle v (List.mem_cons_of_mem _ hv)

theorem isStrongest_of_max?_eq_some {us : List Usage} {u : Usage} (h : max? us = some u) : IsStrongest us u := by
  cases us with
  | nil => cases h
  | cons v us => exact Option.some.inj h ▸ isStrongest_foldl_max us v

end Usage

/-! ### Hops -/

namespace Hop

theorem le_iff {a b : Hop} :
    a.le b ↔ a.entity = b.entity ∧ a.usage.le b.usage ∨ a.entity ≠ b.entity ∧ a.entity.le b.entity := by
  unfold le
  by_cases h : a.entity = b.entity <;> simp [h]

theorem le_total (a b : Hop) : a.le b ∨ b.le a := by
  rw [le_iff, le_iff]
  by_cases h : a.entity = b.entity
  · exact (Usage.le_total a.usage b.usage).imp (fun hu => .inl ⟨h, hu⟩) fun hu => .inl ⟨h.symm, hu⟩
  · exact (Entity.le_total a.entity b.entity).imp (fun he => .inr ⟨h, he⟩) fun he => .inr ⟨Ne.symm h, he⟩

theorem le_trans {a b c : Hop} (h : a.le b) (h' : b.le c) : a.le c := by
  rw [le_iff] at *
  by_cases hac : a.entity = c.entity
  · rcases h with ⟨hab, hu⟩ | ⟨hab, he⟩
    · rcases h' with ⟨_, hu'⟩ | ⟨hbc, _⟩
      · exact .inl ⟨hac, Usage.le_trans hu hu'⟩
      · exact absurd (hab.symm.trans hac) hbc
    · rcases h' with ⟨hbc, _⟩ | ⟨_, he'⟩
      · exact absurd (hac.trans hbc.symm) hab
      · exact absurd (Entity.le_antisymm he (hac ▸ he')) hab
  · refine .inr ⟨hac, ?_⟩
    rcases h with ⟨hab, _⟩ | ⟨_, he⟩
    · rcases h' with ⟨hbc, _⟩ | ⟨_, he'⟩
      · exact absurd (hab.trans hbc) hac
      · exact hab ▸ he'
    · rcases h' with ⟨hbc, _⟩ | ⟨_, he'⟩
      · exact hbc ▸ he
      · exact Entity.le_trans he he'

theorem le_antisymm {a b : Hop} (h : a.le b) (h' : b.le a) : a = b := by
  rw [le_iff] at *
  obtain ⟨ua, ea⟩ := a
  obtain ⟨ub, eb⟩ := b
  simp only at h h'
  have he : ea = eb := by
    rcases h with ⟨he, _⟩ | ⟨hne, he⟩
    · exact he
    · rcases h' with ⟨he', _⟩ | ⟨_, he'⟩
      · exact he'.symm
      · exact Entity.le_antisymm he he'
  subst he
  have hu : ua = ub := by
    rcases h with ⟨_, hu⟩ | ⟨hne, _⟩
    · rcases h' with ⟨_, hu'⟩ | ⟨hne, _⟩
      · exact Usage.le_antisymm hu hu'
      · exact absurd rfl hne
    · exact absurd rfl hne
  rw [hu]

/-- Two sorted lists without repetitions that hold the same hops are equal. -/
theorem eq_of_pairwise_le {hs hs' : List Hop} (h : hs.Pairwise (·.le ·)) (h' : hs'.Pairwise (·.le ·))
    (hn : hs.Nodup) (hn' : hs'.Nodup) (hmem : ∀ x, x ∈ hs ↔ x ∈ hs') : hs = hs' :=
  List.Perm.eq_of_pairwise (fun _ _ _ _ => le_antisymm) h h' ((List.perm_ext_iff_of_nodup hn hn').2 hmem)

end Hop

end ChangeImpact
