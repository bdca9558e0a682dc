import ChangeImpact.Catalog.Name
import ChangeImpact.Text.Ascii
import Mathlib.Data.List.Basic
import Mathlib.Data.List.DropRight

/-!
# Names as they are stored and looked up

* (blanks) what is trimmed has nothing left to be trimmed: `Text.trim_trim`;
* (case) on ASCII the lower case of a reference is that of ASCII letters: `Text.lower_of_ascii`.  The store compares a
  name without U+0000 with others up to the case of ASCII letters: `Text.sameNoCase_eq`;
* (points) a name without a point can be told from its schema: `qualifiedName_inj`, `splitName_of_bareName`.  A
  reference is looked up under its name and the schema in front of it, where the default schema counts as none:
  `normalizedName_of_bareName`.
-/

namespace ChangeImpact

namespace Text

/-- What is trimmed has nothing left to be trimmed. -/
theorem trim_trim (s : String) : trim (trim s) = trim s := by
  generalize hcs : s.toList.dropWhile isBlank = cs
  have hfirst : (trimEnd cs).dropWhile isBlank = trimEnd cs := by
    -- it begins with what the text began with after the blanks
    have hbegins : trimEnd cs <+: cs := List.rdropWhile_prefix isBlank cs
    refine List.dropWhile_eq_self_iff.2 fun hpos => ?_
    subst hcs
    rw [hbegins.getElem hpos]
    exact List.dropWhile_get_zero_not isBlank s.toList _
  have hlast : trimEnd (trimEnd cs) = trimEnd cs := List.rdropWhile_idempotent isBlank cs
  rw [trim, trim, hcs, String.toList_ofList, hfirst, hlast]

theorem not_allBlank {s : String} (h : trim s = s) (hne : s ≠ "") : allBlank s = false := by
  rw [Bool.eq_false_iff]
  intro hall
  have hnil : s.toList.dropWhile isBlank = [] := List.dropWhile_eq_nil_iff.2 (List.all_eq_true.1 hall)
  rw [trim, hnil] at h
  exact hne h.symm

/-- All characters are ASCII, and none is a point. -/
def IsPlain (s : String) : Prop :=
  ∀ c ∈ s.toList, c.toNat < 0x80 ∧ c ≠ '.'

instance (s : String) : Decidable (IsPlain s) :=
  List.decidableBAll (fun c : Char => c.toNat < 0x80 ∧ c ≠ '.') s.toList

theorem IsPlain.period_not_mem {s : String} (h : IsPlain s) : '.' ∉ s.toList :=
  fun hmem => (h _ hmem).2 rfl

theorem toList_asciiLower (s : String) : (asciiLower s).toList = s.toList.map Char.toLower :=
  String.toList_map

theorem utf8Size_toLower (c : Char) : c.toLower.utf8Size = c.utf8Size := by
  unfold Char.toLower
  split
  · simp only [Char.utf8Size]
    grind
  · rfl

theorem utf8ByteSize_asciiLower (s : String) : (asciiLower s).utf8ByteSize = s.utf8ByteSize := by
  have hlist (cs : List Char) :
      (String.ofList (cs.map Char.toLower)).utf8ByteSize = (String.ofList cs).utf8ByteSize := by
    induction cs with
    | nil => rfl
    | cons c cs ih =>
      simp only [List.map_cons, String.ofList_cons, String.utf8ByteSize_append, String.utf8ByteSize_singleton,
        utf8Size_toLower, ih]
  rw [← String.ofList_toList (s := asciiLower s), toList_asciiLower, hlist, String.ofList_toList]

theorem beforeNul_eq_self {s : String} (h : '\x00' ∉ s.toList) : beforeNul s = s := by
  have hall : ∀ c ∈ s.toList, (c != '\x00') = true := fun c hc => by
    rw [bne_iff_ne]
    rintro rfl
    exact h hc
  rw [beforeNul, List.takeWhile_eq_self_iff.2 hall, String.ofList_toList]

theorem beforeNul_eq_self_of_size {s : String} (h : (beforeNul s).utf8ByteSize = s.utf8ByteSize) : beforeNul s = s := by
  have hsplit : beforeNul s ++ .ofList (s.toList.dropWhile (· != '\x00')) = s := by
    rw [beforeNul, ← String.ofList_append, List.takeWhile_append_dropWhile, String.ofList_toList]
  have hsize := congrArg String.utf8ByteSize hsplit
  rw [String.utf8ByteSize_append, h, Nat.add_eq_left, String.utf8ByteSize_eq_zero_iff] at hsize
  rwa [hsize, String.append_empty] at hsplit

/-- If one of the texts has no U+0000, it does not matter to the store. -/
theorem sameNoCase_eq {s t : String} (h : '\x00' ∉ t.toList) : sameNoCase s t = sameAsciiCase s t := by
  have hsizes {s : String} (hsame : sameAsciiCase s t) : s.utf8ByteSize = t.utf8ByteSize := by
    rw [← utf8ByteSize_asciiLower, sameAsciiCase_iff.1 hsame, utf8ByteSize_asciiLower]
  rw [Bool.eq_iff_iff, sameNoCase, Bool.and_eq_true, beq_iff_eq, beforeNul_eq_self h]
  constructor
  · rintro ⟨hsize, hsame⟩
    rwa [beforeNul_eq_self_of_size ((hsizes hsame).trans hsize.symm)] at hsame
  · intro hsame
    have hs : '\x00' ∉ s.toList := by
      intro hmem
      have hlower : '\x00' ∈ (asciiLower s).toList := by
        rw [toList_asciiLower]
        exact List.mem_map_of_mem (f := Char.toLower) hmem
      rw [sameAsciiCase_iff.1 hsame, toList_asciiLower, List.mem_map] at hlower
      obtain ⟨c, hc, heq⟩ := hlower
      exact h ((toLower_eq_iff (by decide)).1 heq ▸ hc)
    exact ⟨hsizes hsame, by rwa [beforeNul_eq_self hs]⟩

theorem lower_of_ascii {s : String} (h : ∀ c ∈ s.toList, c.toNat < 0x80) : lower s = asciiLower s := by
  have hfrom (before : List Char) {cs : List Char} (hcs : ∀ c ∈ cs, c.toNat < 0x80) :
      lowerFrom before cs = cs.map Char.toLower := by
    induction cs generalizing before with
    | nil => rfl
    | cons c cs ih =>
      obtain ⟨hc, hcs⟩ := List.forall_mem_cons.1 hcs
      rw [lowerFrom, lowerChar, if_pos hc, ih _ hcs]
      rfl
  rw [lower, hfrom [] h, ← toList_asciiLower, String.ofList_toList]

theorem asciiLower_eq_empty {s : String} : asciiLower s = "" ↔ s = "" := by
  rw [← String.toList_eq_nil_iff, toList_asciiLower, List.map_eq_nil_iff, String.toList_eq_nil_iff]

theorem IsPlain.asciiLower {s : String} (h : IsPlain s) : '.' ∉ (asciiLower s).toList := by
  rw [toList_asciiLower, List.mem_map]
  rintro ⟨c, hc, hlower⟩
  exact (h c hc).2 ((toLower_eq_iff (by decide)).1 hlower)

end Text

namespace Catalog

open Text

theorem qualifiedName_empty (name : String) : qualifiedName "" name = name := rfl

theorem toList_qualifiedName {schema : String} (h : schema ≠ "") (name : String) :
    (qualifiedName schema name).toList = schema.toList ++ '.' :: name.toList := by
  rw [qualifiedName, if_neg (by simpa using h)]
  simp only [String.toList_append, List.append_assoc]
  rfl

/-- Where neither a schema nor a name has a point, the two can be read off from the qualified name. -/
theorem qualifiedName_inj {schema schema' name name' : String} (hs : '.' ∉ schema.toList) (hn : '.' ∉ name.toList)
    (hn' : schema' = "" → '.' ∉ name'.toList) :
    qualifiedName schema name = qualifiedName schema' name' ↔ schema = schema' ∧ name = name' := by
  refine ⟨fun h => ?_, fun ⟨hschema, hname⟩ => by rw [hschema, hname]⟩
  by_cases hempty : schema = "" <;> by_cases hempty' : schema' = ""
  · subst hempty hempty'
    exact ⟨rfl, h⟩
  · subst hempty
    refine absurd ?_ hn
    rw [← qualifiedName_empty name, h, toList_qualifiedName hempty']
    exact List.mem_append_right _ List.mem_cons_self
  · subst hempty'
    refine absurd ?_ (hn' rfl)
    rw [← qualifiedName_empty name', ← h, toList_qualifiedName hempty]
    exact List.mem_append_right _ List.mem_cons_self
  · have hlists := congrArg String.toList h
    rw [toList_qualifiedName hempty, toList_qualifiedName hempty', List.append_cons_inj_of_notMem hs hn] at hlists
    exact ⟨String.toList_inj.1 hlists.1, String.toList_inj.1 hlists.2.2⟩

theorem asciiLower_qualifiedName (schema name : String) :
    asciiLower (qualifiedName schema name) = qualifiedName (asciiLower schema) (asciiLower name) := by
  by_cases hempty : schema = ""
  · rw [hempty, qualifiedName_empty, asciiLower_eq_empty.2 rfl, qualifiedName_empty]
  · refine String.toList_inj.1 ?_
    rw [toList_asciiLower, toList_qualifiedName hempty, toList_qualifiedName (mt asciiLower_eq_empty.1 hempty),
      toList_asciiLower, toList_asciiLower, List.map_append, List.map_cons]
    rfl

theorem asciiLower_defaultSchema : asciiLower defaultSchema = defaultSchema := by
  decide +kernel

/-- The schema that a name is looked up with. The default schema counts as none. -/
def lookupSchema (schema : String) : String :=
  if asciiLower schema = defaultSchema then "" else asciiLower schema

theorem dropDefaultSchema_qualifiedName {schema name : String} (hs : '.' ∉ schema.toList) (hn : '.' ∉ name.toList)
    (hne : name ≠ "") :
    dropDefaultSchema (qualifiedName schema name) = qualifiedName (if schema = defaultSchema then "" else schema) name := by
  by_cases hdefault : schema = defaultSchema
  · obtain ⟨c, cs, hname⟩ := List.exists_cons_of_ne_nil (mt String.toList_eq_nil_iff.1 hne)
    have hlist : (qualifiedName defaultSchema name).toList = 'd' :: 'b' :: 'o' :: '.' :: c :: cs := by
      rw [toList_qualifiedName (by decide), hname]
      rfl
    rw [if_pos hdefault, hdefault, dropDefaultSchema, hlist, qualifiedName_empty]
    show String.ofList (c :: cs) = name
    rw [← hname, String.ofList_toList]
  · rw [if_neg hdefault, dropDefaultSchema]
    split
    · rename_i c cs hlist
      have hq : qualifiedName schema name = qualifiedName defaultSchema (.ofList (c :: cs)) := by
        refine String.toList_inj.1 ?_
        rw [hlist, toList_qualifiedName (by decide), String.toList_ofList]
        rfl
      exact absurd ((qualifiedName_inj hs hn fun hd => absurd hd (by decide)).1 hq).1 hdefault
    · rfl

variable {text schema name : String} (h : bareName text = qualifiedName schema name)
include h

theorem splitName_of_bareName (hn : '.' ∉ name.toList) :
    splitName text = (if schema = "" then none else some schema, name) := by
  have hbase : ∀ c ∈ name.toList.reverse, (c != '.') = true := by
    intro c hc
    rw [bne_iff_ne]
    rintro rfl
    exact hn (List.mem_reverse.1 hc)
  rw [splitName, h]
  by_cases hempty : schema = ""
  · rw [hempty, qualifiedName_empty, List.takeWhile_eq_self_iff.2 hbase, List.dropWhile_eq_nil_iff.2 hbase]
    simp
  · rw [toList_qualifiedName hempty, List.reverse_append, List.reverse_cons, List.append_assoc,
      List.takeWhile_append_of_pos hbase, List.dropWhile_append_of_pos hbase, if_neg hempty]
    simp

theorem normalizedName_of_bareName (hs : IsPlain schema) (hn : IsPlain name) (hne : name ≠ "") :
    normalizedName text = qualifiedName (lookupSchema schema) (asciiLower name) := by
  have hascii : ∀ c ∈ (qualifiedName schema name).toList, c.toNat < 0x80 := by
    intro c hc
    by_cases hempty : schema = ""
    · rw [hempty, qualifiedName_empty] at hc
      exact (hn c hc).1
    · rw [toList_qualifiedName hempty, List.mem_append, List.mem_cons] at hc
      rcases hc with hc | rfl | hc
      · exact (hs c hc).1
      · decide
      · exact (hn c hc).1
  rw [normalizedName, h, lower_of_ascii hascii, asciiLower_qualifiedName,
    dropDefaultSchema_qualifiedName hs.asciiLower hn.asciiLower (mt asciiLower_eq_empty.1 hne)]
  rfl

end Catalog

end ChangeImpact
