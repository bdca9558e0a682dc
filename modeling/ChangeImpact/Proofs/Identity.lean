import ChangeImpact.Proofs.Keys
import ChangeImpact.Proofs.NoImpact
import Std.Data.String.ToInt

/-!
# The identity of a path

The text from which the identity of a path is made writes its objects and usages down in such a way that they can be
read again (`Path.identity_inj`): no keyword and no key of an object contains the sign that stands between them, so the
text can be cut where it was put together (`intercalate_inj`).

The bytes of a text determine the text (`byteArray_toList_inj`), and the digits of an id determine the eight bytes that
they write (`Path.hex_inj`).  So paths that differ share an id only if the digests of two different texts begin with
the same eight bytes: `Path.bytes_eq_iff_and_id_eq_iff`.
-/

namespace ChangeImpact

/-! ### Texts and bytes -/

/-- Texts without the separator can be told from what they are joined to. -/
theorem intercalate_inj {c : Char} {as bs : List String} (ha : ∀ s ∈ as, c ∉ s.toList) (hb : ∀ s ∈ bs, c ∉ s.toList)
    (hna : as ≠ []) (hnb : bs ≠ [])
    (h : (String.singleton c).intercalate as = (String.singleton c).intercalate bs) : as = bs := by
  have hsplit := congrArg (fun s => (s.split c).toList.map (·.copy)) h
  rwa [String.toList_split_intercalate ha, String.toList_split_intercalate hb, if_neg hna, if_neg hnb] at hsplit

private theorem toList_loop (bs : ByteArray) (i : Nat) (r : List UInt8) :
    ByteArray.toList.loop bs i r = r.reverse ++ bs.data.toList.drop i := by
  fun_induction ByteArray.toList.loop bs i r with
  | case1 i r h ih =>
    have hi : i < bs.data.toList.length := h
    have hget : bs.get! i = bs.data.toList[i] := getElem!_pos bs.data i h
    rw [ih, List.drop_eq_getElem_cons hi, hget]
    simp
  | case2 i r h =>
    have hi : bs.data.toList.length ≤ i := Nat.le_of_not_lt h
    rw [List.drop_of_length_le hi, List.append_nil]

theorem byteArray_toList_inj {as bs : ByteArray} (h : as.toList = bs.toList) : as = bs := by
  have hdata (bs : ByteArray) : bs.toList = bs.data.toList := toList_loop bs 0 []
  rw [hdata, hdata] at h
  exact ByteArray.ext (Array.toList_inj.1 h)

/-! ### Keys and keywords -/

theorem ObjectKind.separator_not_mem_name (kind : ObjectKind) : '>' ∉ kind.name.toList := by
  cases kind <;> decide

theorem Entity.separator_not_mem_key (e : Entity) : '>' ∉ e.key.toList := by
  rw [toList_key, List.mem_append, List.mem_cons]
  rintro (hc | hc | hc)
  · exact e.kind.separator_not_mem_name hc
  · exact absurd hc (by decide)
  · exact not_mem_repr (by decide) (by decide) e.id hc

theorem Usage.keyword_inj {a b : Usage} (h : a.keyword = b.keyword) : a = b := by
  cases a <;> cases b <;> first | rfl | exact absurd h (by decide)

theorem Usage.separator_not_mem_keyword (u : Usage) : '>' ∉ u.keyword.toList := by
  cases u <;> decide

/-! ### The text of a path -/

/-- What stands between the separators of a path's text: the key of the root, and the usage and the key of each hop. -/
def Trail.fields (t : Trail) : List String :=
  t.root.key :: t.hops.flatMap fun h => [h.usage.keyword, h.entity.key]

namespace Trail

variable {s t : Trail}

theorem separator_not_mem_fields (t : Trail) : ∀ s ∈ t.fields, '>' ∉ s.toList := by
  refine List.forall_mem_cons.2 ⟨t.root.separator_not_mem_key, fun s hs => ?_⟩
  obtain ⟨h, _, hs⟩ := List.mem_flatMap.1 hs
  rcases List.mem_pair.1 hs with rfl | rfl
  · exact h.usage.separator_not_mem_keyword
  · exact h.entity.separator_not_mem_key

/-- The fields of the hops are pairs, so they can be told apart one hop after the other. -/
theorem fields_inj (h : s.fields = t.fields) : s = t := by
  obtain ⟨r, hops⟩ := s
  obtain ⟨r', hops'⟩ := t
  obtain ⟨hroot, hhops⟩ := List.cons.inj h
  obtain rfl : r = r' := Entity.key_inj.1 hroot
  congr 1
  clear h hroot
  induction hops generalizing hops' with
  | nil =>
    cases hops' with
    | nil => rfl
    | cons h' hops' => simp at hhops
  | cons h hops ih =>
    cases hops' with
    | nil => simp at hhops
    | cons h' hops' =>
      simp only [List.flatMap_cons, List.cons_append, List.nil_append, List.cons.injEq] at hhops
      obtain ⟨husage, hentity, hrest⟩ := hhops
      obtain ⟨u, e⟩ := h
      obtain ⟨u', e'⟩ := h'
      obtain rfl : u = u' := Usage.keyword_inj husage
      obtain rfl : e = e' := Entity.key_inj.1 hentity
      rw [ih hops' hrest]

theorem eq_of_entities_eq (he : s.entities = t.entities) (hu : s.hops.map Hop.usage = t.hops.map Hop.usage) :
    s = t := by
  obtain ⟨r, hops⟩ := s
  obtain ⟨r', hops'⟩ := t
  obtain ⟨rfl, he⟩ := List.cons.inj he
  congr 1
  have hinj : Function.Injective fun h : Hop => (h.usage, h.entity) := by
    rintro ⟨u, e⟩ ⟨u', e'⟩ h
    cases h
    rfl
  have hpairs (hs : List Hop) : hs.map (fun h => (h.usage, h.entity)) = (hs.map Hop.usage).zip (hs.map Hop.entity) :=
    List.zip_map'.symm
  refine List.map_injective_iff.2 hinj ?_
  rw [hpairs, hpairs, hu, he]

end Trail

namespace Path

theorem identity_eq_intercalate (t : Trail) :
    identity t.root t.hops = (String.singleton '>').intercalate t.fields := by
  induction t using Trail.induction_extend with
  | start r => simp [identity, Trail.fields]
  | extend t h ih =>
    have hfields : (t.extend h).fields = t.fields ++ [h.usage.keyword, h.entity.key] := by
      simp [Trail.fields]
    have hnext : identity (t.extend h).root (t.extend h).hops =
        identity t.root t.hops ++ ">" ++ h.usage.keyword ++ ">" ++ h.entity.key := by
      simp only [identity, Trail.root_extend, Trail.hops_extend, List.foldl_append, List.foldl_cons, List.foldl_nil]
      rfl
    have hpair : (String.singleton '>').intercalate [h.usage.keyword, h.entity.key] =
        h.usage.keyword ++ ">" ++ h.entity.key := by
      rw [String.intercalate_cons_cons, String.intercalate_singleton]
      rfl
    have hsign : String.singleton '>' = ">" := rfl
    have hne : t.fields ≠ [] := List.cons_ne_nil _ _
    rw [hnext, hfields, String.intercalate_append_of_ne_nil hne (List.cons_ne_nil _ _), hpair, ← ih, hsign]
    simp only [String.append_assoc]

theorem identity_inj {s t : Trail} (h : identity s.root s.hops = identity t.root t.hops) : s = t := by
  rw [identity_eq_intercalate, identity_eq_intercalate] at h
  exact Trail.fields_inj (intercalate_inj s.separator_not_mem_fields t.separator_not_mem_fields
    (List.cons_ne_nil _ _) (List.cons_ne_nil _ _) h)

example : identity ⟨.table, -1⟩ [⟨.select, ⟨.view, 12⟩⟩, ⟨.exec, ⟨.procedure, 3⟩⟩] =
    "table:-1>SELECT>view:12>EXEC>stored_procedure:3" := by
  cbv

/-! ### Ids -/

private theorem digit_inj : ∀ m < 16, ∀ n < 16,
    (if m < 10 then Char.ofNat ('0'.toNat + m) else Char.ofNat ('a'.toNat + (m - 10))) =
      (if n < 10 then Char.ofNat ('0'.toNat + n) else Char.ofNat ('a'.toNat + (n - 10))) → m = n := by
  decide

/-- Of a byte written down, both digits can be read. -/
theorem hex_inj {as bs : List UInt8} (h : hex as = hex bs) : as = bs := by
  simp only [hex, String.ofList_inj] at h
  induction as generalizing bs with
  | nil =>
    cases bs with
    | nil => rfl
    | cons b bs => simp at h
  | cons a as ih =>
    cases bs with
    | nil => simp at h
    | cons b bs =>
      simp only [List.flatMap_cons, List.cons_append, List.nil_append, List.cons.injEq] at h
      obtain ⟨hhigh, hlow, hrest⟩ := h
      have ha := a.toNat_lt
      have hb := b.toNat_lt
      have hhigh := digit_inj (a.toNat / 16) (by omega) (b.toNat / 16) (by omega) hhigh
      have hlow := digit_inj (a.toNat % 16) (by omega) (b.toNat % 16) (by omega) hlow
      obtain rfl : a = b := UInt8.toNat_inj.1 (by omega)
      rw [ih hrest]

/-- The bytes of which the id of a path is a digest. -/
def bytes (p : Path) : List UInt8 :=
  (identity p.trail.root p.trail.hops).toUTF8.toList

theorem entities_trail (p : Path) : p.trail.entities = p.nodes.map Node.entity := by
  simp [Trail.entities, trail, nodes, Step.hop, Step.entity, Function.comp_def]

theorem map_usage_hops_trail (p : Path) : p.trail.hops.map Hop.usage = p.usages := by
  simp [trail, usages, Step.hop, Function.comp_def]

theorem bytes_eq_iff_trail_eq {p q : Path} : p.bytes = q.bytes ↔ p.trail = q.trail := by
  refine ⟨fun h => identity_inj (String.toByteArray_inj.1 (byteArray_toList_inj h)), fun h => ?_⟩
  rw [bytes, bytes, h]

theorem bytes_eq_iff {p q : Path} :
    p.bytes = q.bytes ↔ p.nodes.map Node.entity = q.nodes.map Node.entity ∧ p.usages = q.usages := by
  rw [bytes_eq_iff_trail_eq, ← entities_trail, ← entities_trail, ← map_usage_hops_trail, ← map_usage_hops_trail]
  exact ⟨fun h => h ▸ ⟨rfl, rfl⟩, fun h => Trail.eq_of_entities_eq h.1 h.2⟩

theorem map_usage_zipWith {usages : List Usage} {others : List Node} (h : others.length = usages.length) :
    (List.zipWith Step.mk usages others).map Step.usage = usages := by
  induction usages generalizing others with
  | nil => rfl
  | cons u usages ih =>
    cases others with
    | nil => exact absurd h (by simp)
    | cons n others => simpa using ih (by simpa using h)

/-- Everything that a path is put together from can be read off it. -/
theorem of_ofNodes?_eq_some {nodes : List Node} {usages : List Usage} {p : Path} (h : ofNodes? nodes usages = some p) :
    p.nodes = nodes ∧ p.usages = usages ∧ p.id = hex ((Digest.sha256 p.bytes).take 8) := by
  cases nodes with
  | nil => cases h
  | cons root others =>
    rw [ofNodes?] at h
    split at h
    next hlength =>
      dsimp only at h
      split at h
      next =>
        obtain rfl := Option.some.inj h
        refine ⟨?_, ?_, rfl⟩
        · simp only [Path.nodes, map_node_zipWith hlength]
        · simp only [Path.usages, map_usage_zipWith hlength]
      next => cases h
    next => cases h

end Path

/-! ### The paths of one analysis -/

namespace Enumeration

/-- However the caps cut an enumeration short, no trail is the trail of two of its paths. -/
theorem pairwise_trail_ne {g : Graph} (hg : g.WellFormed) (caps : Caps) :
    (ofGraph g caps).paths.Pairwise fun p q => p.trail ≠ q.trail := by
  have hpos : 0 < caps.atLeastOne.paths := Nat.le_max_left 1 caps.paths
  have htrails : (ofGraph g caps).paths.map Path.trail =
      (g.cappedWalk caps.atLeastOne).kept.filter fun t => !t.hops.isEmpty :=
    Graph.map_trail_filterMap_path? hg fun t ht => (Graph.mem_kept_cappedWalk hg hpos ht).1
  exact List.pairwise_map.1 (htrails ▸ (Graph.nodup_kept_cappedWalk hg _).filter _)

theorem id_eq_of_mem_paths {g : Graph} {caps : Caps} {p : Path} (hp : p ∈ (ofGraph g caps).paths) :
    p.id = Path.hex ((Digest.sha256 p.bytes).take 8) := by
  obtain ⟨t, _, hpt⟩ := List.mem_filterMap.1 hp
  rw [Graph.path?] at hpt
  obtain ⟨nodes, _, hnodes⟩ := Option.bind_eq_some_iff.1 hpt
  exact (Path.of_ofNodes?_eq_some hnodes).2.2

end Enumeration

namespace Path

/-- The bytes of a path's text are those of another one's if and only if both lead over the same objects by the same
usages. All paths of an analysis differ in these bytes, so two of them share an id only by a collision: where the
digests of two different texts begin with the same eight bytes. -/
theorem bytes_eq_iff_and_id_eq_iff (settings : Settings) (policy : ApprovalPolicy) (root : NamedEntity)
    (rootLevel : Option Int) (rows : List Dependent) (change : Change) :
    (∀ nodes usages p, ofNodes? nodes usages = some p →
      p.id = hex ((Digest.sha256 p.bytes).take 8) ∧
      ∀ nodes' usages' q, ofNodes? nodes' usages' = some q →
        (p.bytes = q.bytes ↔ nodes.map Node.entity = nodes'.map Node.entity ∧ usages = usages')) ∧
    (Analysis.ofDependents settings policy root rootLevel rows change).paths.Pairwise fun p q =>
      p.bytes ≠ q.bytes ∧ (p.id = q.id ↔ (Digest.sha256 p.bytes).take 8 = (Digest.sha256 q.bytes).take 8) := by
  constructor
  · intro nodes usages p hp
    obtain ⟨rfl, rfl, hid⟩ := of_ofNodes?_eq_some hp
    refine ⟨hid, fun nodes' usages' q hq => ?_⟩
    obtain ⟨rfl, rfl, _⟩ := of_ofNodes?_eq_some hq
    exact bytes_eq_iff
  · have hg := Graph.ofDependents_wellFormed root rootLevel settings.defaultCriticality rows
    refine List.pairwise_map.2 ((Enumeration.pairwise_trail_ne hg _).imp_of_mem fun hp hq hne => ?_)
    -- a score changes neither the id of a path nor its text
    have hid (p : Path) : (Risk.evaluate change p).id = p.id := rfl
    have hbytes (p : Path) : (Risk.evaluate change p).bytes = p.bytes := rfl
    rw [hid, hid, hbytes, hbytes, Enumeration.id_eq_of_mem_paths hp, Enumeration.id_eq_of_mem_paths hq]
    exact ⟨fun h => hne (bytes_eq_iff_trail_eq.1 h), fun h => hex_inj h, fun h => congrArg hex h⟩

end Path

end ChangeImpact
