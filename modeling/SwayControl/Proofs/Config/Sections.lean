import SwayControl.Proofs.Config.Variables

/-!
Sections in the environment. A section that is given whole, as JSON, may spell its leaves in letters of any
case; of several spellings the last counts, and variables for single leaves are set in it.
-/

namespace SwayControl

/-- The entries whose keys spell a leaf, in letters of any case. -/
def spellings (leaf : String) (entries : Entries) : Entries :=
  entries.filter fun entry => entry.1.map smallLetter == leaf

/-- The value at the last spelling of a leaf. -/
def lastSpelled (leaf : String) (entries : Entries) : Option Datum :=
  (spellings leaf entries).getLast?.map Prod.snd

namespace Entries

theorem ofSettings_concat (settings : List (String × Datum)) (last : String × Datum) :
    ofSettings (settings ++ [last]) = put (ofSettings settings) last.1 last.2 := by
  simp [ofSettings]

theorem nodup_ofSettings (settings : List (String × Datum)) : (ofSettings settings).keys.Nodup := by
  induction settings using List.reverseRecOn with
  | nil => exact List.nodup_nil
  | append_singleton settings last ih =>
      rw [ofSettings_concat]
      exact nodup_put ih

theorem lookup_ofSettings (settings : List (String × Datum)) (key : String) :
    (ofSettings settings).lookup key =
      ((settings.filter fun setting => setting.1 == key).getLast?).map Prod.snd := by
  induction settings using List.reverseRecOn with
  | nil => rfl
  | append_singleton settings last ih =>
      rw [ofSettings_concat, List.filter_append]
      by_cases h : last.1 = key
      · rw [← h, lookup_put_same]
        simp
      · rw [lookup_put_other (Ne.symm h), ih]
        simp [h]

end Entries

/-- The leaf that a key spells, or else the key itself. -/
def leafName (leaves : List String) (key : String) : String :=
  (leaves.find? fun leaf => leaf == key.map smallLetter).getD key

section Spelling

variable {leaves : List String} {leaf key : String} {entries below : Entries} {value : Datum}

theorem withLeafNames_eq : withLeafNames leaves entries =
    .ofSettings (entries.map fun entry => (leafName leaves entry.1, entry.2)) := by
  unfold withLeafNames leafName
  congr 2
  funext ⟨key, value⟩
  dsimp only
  cases leaves.find? fun leaf => leaf == key.map smallLetter <;> rfl

theorem leafName_eq_iff (hleaf : leaf ∈ leaves) (hsmall : IsSmall leaf) :
    leafName leaves key = leaf ↔ key.map smallLetter = leaf := by
  unfold leafName
  cases hfind : leaves.find? fun leaf => leaf == key.map smallLetter with
  | some found =>
      have hfound : found = key.map smallLetter := by simpa using List.find?_some hfind
      rw [Option.getD_some, hfound]
  | none =>
      have hnone : leaf ≠ key.map smallLetter := by simpa using List.find?_eq_none.mp hfind leaf hleaf
      have hkey : key ≠ leaf := by
        rintro rfl
        exact hnone hsmall.map_smallLetter.symm
      exact iff_of_false hkey hnone.symm

theorem lookup_withLeafNames (hleaf : leaf ∈ leaves) (hsmall : IsSmall leaf) :
    (withLeafNames leaves entries).lookup leaf = lastSpelled leaf entries := by
  have hspelled (key : String) : (leafName leaves key == leaf) = (key.map smallLetter == leaf) := by
    rw [Bool.eq_iff_iff, beq_iff_eq, beq_iff_eq, leafName_eq_iff hleaf hsmall]
  rw [withLeafNames_eq, Entries.lookup_ofSettings, List.filter_map, List.getLast?_map, Option.map_map]
  simp only [Function.comp_def, hspelled]
  rfl

/-- Among keys that differ and have no capital letters, a leaf is spelled at its own key only. -/
theorem lastSpelled_of_small (hnodup : entries.keys.Nodup) (hsmall : ∀ key ∈ entries.keys, IsSmall key) :
    lastSpelled leaf entries = entries.lookup leaf := by
  induction entries using List.reverseRecOn with
  | nil => rfl
  | append_singleton entries last ih =>
      rw [Entries.keys, List.map_append] at hnodup hsmall
      obtain ⟨hnew, hold⟩ := List.nodup_cons.mp (List.nodup_append_comm.mp hnodup)
      have hlast : IsSmall last.1 := hsmall last.1 (by simp)
      have ih := ih hold fun key hkey => hsmall key (List.mem_append_left _ hkey)
      rw [lastSpelled, spellings, List.filter_append, List.lookup_append]
      by_cases h : last.1 = leaf
      · subst h
        rw [Entries.lookup_eq_none hnew, Entries.lookup_cons, if_pos rfl]
        simp [hlast.map_smallLetter]
      · rw [Entries.lookup_cons, if_neg (Ne.symm h), ← ih]
        simp [lastSpelled, spellings, hlast.map_smallLetter, h]

theorem spelled_replace : (fun entry : String × Datum => entry.1.map smallLetter == leaf) ∘
    (fun entry => if entry.1 == key then (key, value) else entry) =
      fun entry => entry.1.map smallLetter == leaf := by
  funext entry
  by_cases h : entry.1 = key <;> simp [h]

theorem spellings_put_other (h : key.map smallLetter ≠ leaf) :
    spellings leaf (Entries.put entries key value) = spellings leaf entries := by
  unfold Entries.put
  split
  · have hkeep : ∀ entry ∈ spellings leaf entries,
        (if entry.1 == key then (key, value) else entry) = entry := by
      intro entry hentry
      have hne : entry.1 ≠ key := by
        rintro rfl
        exact h (by simpa using (List.mem_filter.mp hentry).2)
      simp [hne]
    rw [spellings, List.filter_map, spelled_replace]
    exact (List.map_congr_left hkeep).trans (List.map_id' _)
  · simp [spellings, h]

theorem spellings_put_same (hsmall : IsSmall leaf) :
    spellings leaf (Entries.put entries leaf value) =
      Entries.put (spellings leaf entries) leaf value := by
  have hany : (spellings leaf entries).any (·.1 == leaf) = entries.any (·.1 == leaf) := by
    rw [Bool.eq_iff_iff]
    simp [spellings, hsmall.map_smallLetter]
  unfold Entries.put
  rw [hany]
  split
  · rw [spellings, List.filter_map, spelled_replace]
    rfl
  · simp [spellings, hsmall.map_smallLetter]

/-- A leaf that is put among others counts if no other spelling of it comes later. -/
theorem lastSpelled_put_same (hsmall : IsSmall leaf) :
    lastSpelled leaf (Entries.put entries leaf value) = some value ∨
      lastSpelled leaf (Entries.put entries leaf value) = lastSpelled leaf entries := by
  rw [lastSpelled, spellings_put_same hsmall, lastSpelled]
  unfold Entries.put
  split
  · rw [List.getLast?_map]
    cases (spellings leaf entries).getLast? with
    | none => exact .inr rfl
    | some entry => by_cases h : entry.1 = leaf <;> simp [h]
  · simp

/-- Of the entries set over others only that of the leaf has to do with how it is spelled. -/
theorem spellings_overlayEntries (hleaf : IsSmall leaf) (hnodup : below.keys.Nodup)
    (hsmall : ∀ key ∈ below.keys, IsSmall key) :
    spellings leaf (overlayEntries entries below) =
      (below.lookup leaf).elim (spellings leaf entries) fun value =>
        spellings leaf (Entries.put entries leaf
          ((entries.lookup leaf).elim value fun lower => lower.overlay value)) := by
  induction below generalizing entries with
  | nil => rfl
  | cons entry rest ih =>
      obtain ⟨key, value⟩ := entry
      obtain ⟨hnew, hrest⟩ := List.nodup_cons.mp hnodup
      obtain ⟨hkey, hsmall⟩ := List.forall_mem_cons.mp hsmall
      rw [overlayEntries, ih hrest hsmall, Entries.lookup_cons]
      by_cases h : leaf = key
      · subst h
        rw [Entries.lookup_eq_none hnew, if_pos rfl]
        cases entries.lookup leaf <;> rfl
      · have hother : key.map smallLetter ≠ leaf := by
          rw [hkey.map_smallLetter]
          exact Ne.symm h
        rw [if_neg h, Entries.lookup_put_other h, spellings_put_other hother]
        simp only [spellings_put_same hleaf, spellings_put_other hother]

end Spelling

/-- What the environment gives a leaf of a section: the value of its own variable, set in the section if
that is given whole. A section that is given whole, but not as a table, has no leaves. -/
def sectionLeaf? (nesting : Nat) (given : List (String × String)) (field leaf : String) : Option Datum :=
  let own := (given.lookup (variableBelow field leaf)).map Datum.text
  match given.lookup (variablePrefix ++ field) with
  | none => own
  | some whole =>
    match Json.readPoints nesting (whole.toList.map Char.toNat) with
    | .ok (.table entries) => lastSpelled leaf (own.elim entries (Entries.put entries leaf))
    | _ => none

/-- A leaf of a section as variables can name it: a single key without capital letters. -/
structure IsLeaf (leaves : List String) (leaf : String) : Prop where
  mem : leaf ∈ leaves
  small : IsSmall leaf
  single : keysBetween [] leaf.toList = [leaf]

/-- A leaf is found as it is said to be, or a table is found there, which no leaf can be read from. -/
def FoundAs (said found : Option Datum) : Prop := found = said ∨ ∃ inner, found = some (.table inner)

theorem FoundFor.foundAs {own : Option String} {found : Option Datum} (h : FoundFor own found) :
    FoundAs (own.map .text) found := by
  rcases h with hown | ⟨rfl, hpassable⟩
  · exact .inl hown
  · cases found with
    | none => exact .inl rfl
    | some value =>
        obtain ⟨inner, rfl⟩ := hpassable value rfl
        exact .inr ⟨inner, rfl⟩

section Whole

variable {nesting : Nat} {given : List (String × String)} {field leaf : String} {leaves : List String}
  {entries below inner : Entries} {found : Option Datum}

theorem overlay_table (lower : Datum) (higher : Entries) :
    ∃ inner, Datum.overlay lower (.table higher) = .table inner := by
  cases lower with
  | table entries => exact ⟨_, rfl⟩
  | _ => exact ⟨higher, rfl⟩

/-- What is set below a section goes over the section, and to its leaf the value of its own variable. -/
theorem foundAs_overlayEntries (hleaf : IsLeaf leaves leaf) (h : Below given field below) :
    FoundAs
      (lastSpelled leaf (((given.lookup (variableBelow field leaf)).map Datum.text).elim entries
        (Entries.put entries leaf)))
      (lastSpelled leaf (overlayEntries entries below)) := by
  rw [FoundAs, lastSpelled, spellings_overlayEntries hleaf.small h.nodup h.small]
  rcases h.own leaf hleaf.single with hown | ⟨hown, hpassable⟩
  · -- The value of the leaf's own variable is a text, which replaces what is there.
    rw [hown]
    cases given.lookup (variableBelow field leaf) with
    | none => exact .inl rfl
    | some text => cases entries.lookup leaf <;> exact .inl rfl
  · rw [hown]
    cases hfound : below.lookup leaf with
    | none => exact .inl rfl
    | some value =>
        obtain ⟨higher, rfl⟩ := hpassable value hfound
        have hmerged : ∃ inner, ((entries.lookup leaf).elim (.table higher) fun lower =>
            lower.overlay (.table higher)) = .table inner := by
          cases entries.lookup leaf with
          | none => exact ⟨higher, rfl⟩
          | some lower => exact overlay_table lower higher
        obtain ⟨inner, hinner⟩ := hmerged
        rw [Option.elim_some, hinner]
        exact (lastSpelled_put_same hleaf.small).symm.imp_right fun hput => ⟨inner, hput⟩

/-- The leaves of a section in the environment's layer. -/
theorem foundAs_sectionFromVariables (hgiven : Lowered given) (hleaf : IsLeaf leaves leaf)
    (h : sectionFromVariables nesting given field leaves = .ok found) :
    FoundAs (sectionLeaf? nesting given field leaf) (found.bind (Datum.field? leaf)) := by
  have hbelow := below_variablesBelow hgiven field
  unfold sectionFromVariables at h
  unfold sectionLeaf?
  dsimp only at h ⊢
  revert h
  cases given.lookup (variablePrefix ++ field) with
  | none =>
      intro h
      cases h
      have hlookup : (if (variablesBelow given field).isEmpty then none
          else some (Datum.table (withLeafNames leaves (variablesBelow given field)))).bind
            (Datum.field? leaf) = (variablesBelow given field).lookup leaf := by
        split
        · rename_i hempty
          rw [List.isEmpty_iff.mp hempty]
          rfl
        · rw [Option.bind_some, Datum.field?, lookup_withLeafNames hleaf.mem hleaf.small,
            lastSpelled_of_small hbelow.nodup hbelow.small]
      rw [hlookup]
      exact (hbelow.own leaf hleaf.single).foundAs
  | some whole =>
      dsimp only
      cases Json.readPoints nesting (whole.toList.map Char.toNat) with
      | error unread =>
          intro h
          cases unread <;> cases h
      | ok value =>
          cases value with
          | table entries =>
              intro h
              cases h
              rw [Option.bind_some, Datum.field?, lookup_withLeafNames hleaf.mem hleaf.small]
              exact foundAs_overlayEntries hleaf hbelow
          | _ =>
              intro h
              cases h
              exact .inl rfl

theorem nodup_sectionFromVariables
    (h : sectionFromVariables nesting given field leaves = .ok (some (.table inner))) :
    inner.keys.Nodup := by
  have hnames (entries : Entries) : (withLeafNames leaves entries).keys.Nodup := by
    rw [withLeafNames_eq]
    exact Entries.nodup_ofSettings _
  unfold sectionFromVariables at h
  dsimp only at h
  split at h
  · split at h
    · cases h
    · cases h
      exact hnames _
  · split at h
    · cases h
    · cases h
    · cases h
    · cases h
      exact hnames _
    · rename_i hnotTable _
      cases h
      exact absurd rfl (hnotTable inner)

end Whole

end SwayControl
