import SwayControl.Proofs.Config.Layering

/-!
Variables that set leaves of sections. The name of a variable leads along keys with separators between
them, and a variable whose name ends at a leaf gives that leaf its value, in whatever order variables come.
-/

namespace SwayControl

section Names

variable {done text : List Char} {key : String}

theorem keysBetween_ne_nil : keysBetween done text ≠ [] := by
  fun_induction keysBetween done text <;> simp_all

theorem keysBetween_singleton (h : keysBetween done text = [key]) :
    String.ofList (done.reverse ++ text) = key := by
  fun_induction keysBetween done text with
  | case1 => exact absurd (List.cons.inj h).2 keysBetween_ne_nil
  | case2 done c rest _ ih => simpa using ih h
  | case3 => simpa using h

theorem mem_keysBetween (h : key ∈ keysBetween done text) :
    ∀ c ∈ key.toList, c ∈ done ∨ c ∈ text := by
  fun_induction keysBetween done text with
  | case1 done rest ih =>
      intro c hc
      rcases List.mem_cons.mp h with rfl | hlater
      · exact .inl (by simpa using hc)
      · have hrest : c ∈ rest := (ih hlater c hc).resolve_left List.not_mem_nil
        exact .inr (List.mem_cons_of_mem _ (List.mem_cons_of_mem _ hrest))
  | case2 done d rest _ ih =>
      intro c hc
      simpa [or_assoc, or_left_comm] using ih h c hc
  | case3 =>
      intro c hc
      obtain rfl := List.mem_singleton.mp h
      exact .inl (by simpa using hc)

end Names

/-- A key without capital letters. -/
def IsSmall (key : String) : Prop := ∀ c ∈ key.toList, smallLetter c = c

theorem smallLetter_of_ne {c : Char} (h : c ≠ '\u212A') : smallLetter c = c.toLower := by
  simp [smallLetter, h]

/-- A character stays as it is, or a small letter of ASCII comes in its place. -/
theorem smallLetter_cases (c : Char) :
    smallLetter c = c ∨ 97 ≤ (smallLetter c).toNat ∧ (smallLetter c).toNat ≤ 122 := by
  by_cases hkelvin : c = '\u212A'
  · rw [hkelvin]
    exact .inr (by decide)
  rw [smallLetter_of_ne hkelvin]
  by_cases hcapital : c.val ≥ 'A'.val ∧ c.val ≤ 'Z'.val
  · have hvalue : c.toLower.val = c.val + 32 := congrArg Char.val (dif_pos hcapital)
    have hsum : c.toLower.toNat = (c.val.toNat + 32) % 2 ^ 32 :=
      (congrArg UInt32.toNat hvalue).trans (UInt32.toNat_add _ _)
    have hfirst : 65 ≤ c.val.toNat := UInt32.le_iff_toNat_le.mp hcapital.1
    have hlast : c.val.toNat ≤ 90 := UInt32.le_iff_toNat_le.mp hcapital.2
    omega
  · exact .inl (dif_neg hcapital)

/-- Small letters of ASCII stay as they are. -/
theorem smallLetter_of_small {c : Char} (hfirst : 97 ≤ c.toNat) (hlast : c.toNat ≤ 122) :
    smallLetter c = c := by
  have hkelvin : c ≠ '\u212A' := by
    rintro rfl
    exact absurd hlast (by decide)
  have hsmall : ¬ (c.val ≥ 'A'.val ∧ c.val ≤ 'Z'.val) := by
    rintro ⟨-, hcapital⟩
    have hcapital : c.toNat ≤ 90 := UInt32.le_iff_toNat_le.mp hcapital
    omega
  rw [smallLetter_of_ne hkelvin]
  exact dif_neg hsmall

theorem smallLetter_idem (c : Char) : smallLetter (smallLetter c) = smallLetter c := by
  rcases smallLetter_cases c with hsame | ⟨hfirst, hlast⟩
  · rw [hsame, hsame]
  · exact smallLetter_of_small hfirst hlast

theorem isSmall_map_smallLetter (key : String) : IsSmall (key.map smallLetter) := by
  intro c hc
  rw [String.toList_map] at hc
  obtain ⟨d, -, rfl⟩ := List.mem_map.mp hc
  exact smallLetter_idem d

theorem isSmall_iff {key : String} :
    IsSmall key ↔ key.toList.all (fun c => smallLetter c == c) = true := by
  simp [IsSmall]

theorem IsSmall.map_smallLetter {key : String} (h : IsSmall key) : key.map smallLetter = key := by
  rw [← String.toList_inj, String.toList_map]
  exact List.map_congr_left h |>.trans (List.map_id _)

/-- Variables whose names differ from each other and have no capital letters. -/
structure Lowered (given : List (String × String)) : Prop where
  nodup : (given.map Prod.fst).Nodup
  small : ∀ name ∈ given.map Prod.fst, IsSmall name

theorem lowered_lowerNames (environment : List (String × String)) :
    Lowered (lowerNames environment) := by
  unfold lowerNames
  induction environment using List.reverseRecOn with
  | nil => exact ⟨List.nodup_nil, by simp⟩
  | append_singleton environment last ih =>
      rw [List.foldl_append, List.foldl_cons, List.foldl_nil]
      generalize List.foldl _ _ environment = settled at ih ⊢
      dsimp only
      split
      · -- A name that is there already keeps its place, and no name changes.
        have hnames : (settled.map fun other => if other.1 == last.1.map smallLetter
            then (last.1.map smallLetter, last.2) else other).map Prod.fst =
              settled.map Prod.fst := by
          rw [List.map_map]
          refine List.map_congr_left fun other _ => ?_
          by_cases h : other.1 = last.1.map smallLetter <;> simp [h]
        exact ⟨hnames ▸ ih.nodup, hnames ▸ ih.small⟩
      · rename_i hnew
        have hnew : last.1.map smallLetter ∉ settled.map Prod.fst := by simpa using hnew
        constructor
        · rw [List.map_append]
          exact List.nodup_append_comm.mp (List.nodup_cons.mpr ⟨hnew, ih.nodup⟩)
        · intro name hname
          rcases List.mem_append.mp (List.map_append ▸ hname) with hold | hlast
          · exact ih.small name hold
          · obtain rfl := List.mem_singleton.mp hlast
            exact isSmall_map_smallLetter last.1

/-- What is at a key is not set or a table, so that a path may lead on. -/
def Passable (found : Option Datum) : Prop := ∀ value, found = some value → ∃ inner, value = .table inner

/-- What is found at a leaf is what its own variable says. Without one, variables whose names lead
through the leaf may have put a table there. -/
def FoundFor (own : Option String) (found : Option Datum) : Prop :=
  found = own.map .text ∨ own = none ∧ Passable found

theorem FoundFor.own_eq_none {own : Option String} {found : Option Datum} (h : FoundFor own found)
    (hpassable : Passable found) : own = none := by
  rcases h with rfl | ⟨hown, -⟩
  · cases own with
    | none => rfl
    | some text =>
        obtain ⟨inner, hinner⟩ := hpassable (.text text) rfl
        cases hinner
  · exact hown

section Paths

variable {value : Datum} {path : List String} {entries : Entries} {key : String}

/-- What a path sets: its only key, a table at its first, or nothing. -/
theorem setPath_cases (value : Datum) (path : List String) (entries : Entries) :
    setPath value path entries = entries ∨
      (∃ only, path = [only] ∧ setPath value path entries = Entries.put entries only value) ∨
      ∃ first ∈ path, ∃ inner, Passable (entries.lookup first) ∧
        setPath value path entries = Entries.put entries first (.table inner) := by
  fun_cases setPath value path entries with
  | case1 => exact .inl rfl
  | case2 only => exact .inr (.inl ⟨only, rfl, rfl⟩)
  | case3 first rest _ _ hnone =>
      refine .inr (.inr ⟨first, List.mem_cons_self, _, ?_, rfl⟩)
      simp [hnone, Passable]
  | case4 first rest _ _ inner hinner =>
      refine .inr (.inr ⟨first, List.mem_cons_self, _, ?_, rfl⟩)
      simp [hinner, Passable]
  | case5 => exact .inl rfl

theorem mem_keys_put {found first : String} (h : found ∈ (Entries.put entries first value).keys) :
    found = first ∨ found ∈ entries.keys := by
  rw [Entries.keys_put] at h
  split at h
  · exact .inr h
  · exact (List.mem_append.mp h).symm.imp_left List.mem_singleton.mp

theorem mem_keys_setPath {found : String} (h : found ∈ (setPath value path entries).keys) :
    found ∈ path ∨ found ∈ entries.keys := by
  obtain hset | ⟨only, rfl, hset⟩ | ⟨first, hfirst, inner, -, hset⟩ := setPath_cases value path entries
  · exact .inr (hset ▸ h)
  · exact (mem_keys_put (hset ▸ h)).imp_left List.mem_singleton.mpr
  · rcases mem_keys_put (hset ▸ h) with rfl | hold
    · exact .inl hfirst
    · exact .inr hold

theorem nodup_setPath (h : entries.keys.Nodup) : (setPath value path entries).keys.Nodup := by
  obtain hset | ⟨only, -, hset⟩ | ⟨first, -, inner, -, hset⟩ := setPath_cases value path entries
  · rwa [hset]
  · rw [hset]
    exact Entries.nodup_put h
  · rw [hset]
    exact Entries.nodup_put h

/-- A path that does not end at a leaf leaves there what its own variable says. -/
theorem FoundFor.setPath {own : Option String} (h : FoundFor own (entries.lookup key))
    (hpath : path ≠ [key]) : FoundFor own ((setPath value path entries).lookup key) := by
  obtain hset | ⟨only, rfl, hset⟩ | ⟨first, -, inner, hpassable, hset⟩ :=
    setPath_cases value path entries
  · rwa [hset]
  · have hne : key ≠ only := by
      rintro rfl
      exact hpath rfl
    rwa [hset, Entries.lookup_put_other hne]
  · by_cases hkey : key = first
    · subst hkey
      rw [hset, Entries.lookup_put_same]
      exact .inr ⟨h.own_eq_none hpassable, by simp [Passable]⟩
    · rwa [hset, Entries.lookup_put_other hkey]

end Paths

/-- The name of the variable for a leaf of a section. -/
def variableBelow (field leaf : String) : String :=
  variablePrefix ++ field ++ variableSeparator ++ leaf

/-- What variables set below a section: each key once, in small letters, and at a leaf the value of the
variable of its name. -/
structure Below (given : List (String × String)) (field : String) (below : Entries) : Prop where
  nodup : below.keys.Nodup
  small : ∀ key ∈ below.keys, IsSmall key
  own : ∀ leaf, keysBetween [] leaf.toList = [leaf] →
    FoundFor (given.lookup (variableBelow field leaf)) (below.lookup leaf)

section Below

variable {given : List (String × String)} {name text field leaf : String} {below : Entries}

theorem lookup_concat_of_ne {other : String} (h : other ≠ name) :
    (given ++ [(name, text)]).lookup other = given.lookup other := by
  have hne : (other == name) = false := by simpa using h
  rw [List.lookup_append, List.lookup_cons, hne]
  simp

theorem lookup_concat_same (h : name ∉ given.map Prod.fst) :
    (given ++ [(name, text)]).lookup name = some text := by
  rw [List.lookup_append, lookup_eq_none_of_notMem h]
  simp

theorem Below.setPath {rest : List Char} (h : Below given field below) (hnew : name ∉ given.map Prod.fst)
    (hsmall : IsSmall name)
    (hname : name.toList = (variablePrefix ++ field ++ variableSeparator).toList ++ rest) :
    Below (given ++ [(name, text)]) field (setPath (.text text) (keysBetween [] rest) below) where
  nodup := nodup_setPath h.nodup
  small key hkey := by
    rcases mem_keys_setPath hkey with hpath | hold
    · intro c hc
      have hrest : c ∈ rest := (mem_keysBetween hpath c hc).resolve_left List.not_mem_nil
      exact hsmall c (hname ▸ List.mem_append_right _ hrest)
    · exact h.small key hold
  own leaf hleaf := by
    have hiff : name = variableBelow field leaf ↔ rest = leaf.toList := by
      rw [← String.toList_inj, hname, variableBelow]
      simp only [String.toList_append, List.append_cancel_left_eq]
    by_cases hrest : rest = leaf.toList
    · -- The variable of the leaf itself: its name is new, so it has the last word.
      obtain rfl := hiff.mpr hrest
      rw [lookup_concat_same hnew, hrest, hleaf]
      exact .inl Entries.lookup_put_same
    · have hpath : keysBetween [] rest ≠ [leaf] := by
        intro heq
        refine hrest ?_
        rw [← keysBetween_singleton heq]
        simp
      rw [lookup_concat_of_ne fun heq => hrest (hiff.mp heq.symm)]
      exact (h.own leaf hleaf).setPath hpath

theorem Below.skip (h : Below given field below)
    (hname : ¬ (variablePrefix ++ field ++ variableSeparator).toList <+: name.toList) :
    Below (given ++ [(name, text)]) field below where
  nodup := h.nodup
  small := h.small
  own leaf hleaf := by
    have hne : variableBelow field leaf ≠ name := by
      rintro rfl
      exact hname (by simp [variableBelow])
    rw [lookup_concat_of_ne hne]
    exact h.own leaf hleaf

theorem below_variablesBelow (h : Lowered given) (field : String) :
    Below given field (variablesBelow given field) := by
  unfold variablesBelow
  dsimp only
  induction given using List.reverseRecOn with
  | nil => exact ⟨List.nodup_nil, by simp [Entries.keys], fun _ _ => .inl rfl⟩
  | append_singleton given last ih =>
      obtain ⟨name, text⟩ := last
      have hnames : (name :: given.map Prod.fst).Nodup :=
        List.nodup_append_comm.mp (List.map_append ▸ h.nodup)
      obtain ⟨hnew, hnodup⟩ := List.nodup_cons.mp hnames
      have hsmall : IsSmall name := h.small name (by simp)
      have ih := ih ⟨hnodup, fun found hfound => h.small found (by simp [hfound])⟩
      rw [List.foldl_append, List.foldl_cons, List.foldl_nil]
      by_cases hstart : (variablePrefix ++ field ++ variableSeparator).toList <+: name.toList
      · obtain ⟨rest, hrest⟩ := hstart
        rw [if_pos (String.startsWith_string_iff.mpr ⟨rest, hrest⟩), ← hrest,
          ← String.length_toList, List.drop_left]
        exact ih.setPath hnew hsmall hrest.symm
      · rw [if_neg (mt String.startsWith_string_iff.mp hstart)]
        exact ih.skip hstart

end Below

end SwayControl
