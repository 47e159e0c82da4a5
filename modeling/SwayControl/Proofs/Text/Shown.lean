import SwayControl.Text.Blank
import SwayControl.Text.Cells
import SwayControl.Text.ControlSequence
import Mathlib.Data.List.Basic

/-!
What showing a text leaves of it. A terminal has no tabs and not every control character, and control
sequences are left out on the way to anything else; a text without any of these is shown as it is.
-/

namespace SwayControl.Text

section Sequences

variable {text rest after : List Char} {c : Char}

/-- A text has a control sequence somewhere. -/
def HasSequence (text : List Char) : Prop :=
  ∃ before parameters letter after,
    text = before ++ escapeChar :: '[' :: (parameters ++ letter :: after) ∧
    (∀ c ∈ parameters, isParameter c = true) ∧ letter.isAlpha = true

theorem not_hasSequence_of_unescaped (h : escapeChar ∉ text) : ¬HasSequence text := by
  rintro ⟨before, parameters, letter, after, rfl, -⟩
  simp at h

theorem isParameter_of_isAlpha (h : c.isAlpha = true) : isParameter c = false := by
  have hdigit : c.isDigit = false := by
    delta Char.isAlpha Char.isUpper Char.isLower at h
    simp only [Bool.or_eq_true, Bool.and_eq_true, decide_eq_true_eq, UInt32.le_iff_toNat_le,
      ge_iff_le] at h
    rw [← Bool.not_eq_true, Char.isDigit_iff_toNat]
    simp only [Char.toNat, Char.reduceVal, UInt32.reduceToNat] at *
    omega
  have hsemicolon : c ≠ ';' := by
    rintro rfl
    exact absurd h (by decide)
  have hquestion : c ≠ '?' := by
    rintro rfl
    exact absurd h (by decide)
  simp [isParameter, hdigit, hsemicolon, hquestion]

/-- What follows a control sequence is what stands behind its letter. -/
theorem afterSequence?_eq_some_iff : afterSequence? text = some after ↔
    ∃ parameters letter, text = '[' :: (parameters ++ letter :: after) ∧
      (∀ c ∈ parameters, isParameter c = true) ∧ letter.isAlpha = true := by
  constructor
  · intro h
    unfold afterSequence? at h
    split at h
    · rename_i tail
      have hsplit := List.takeWhile_append_dropWhile (p := isParameter) (l := tail)
      split at h
      · rename_i letter others hfound
        split at h
        · cases h
          rw [hfound] at hsplit
          exact ⟨_, letter, by rw [hsplit], List.all_eq_true.mp List.all_takeWhile, ‹_›⟩
        · cases h
      · cases h
    · cases h
  · rintro ⟨parameters, letter, rfl, hparameters, hletter⟩
    have hdrop : (parameters ++ letter :: after).dropWhile isParameter = letter :: after := by
      rw [List.dropWhile_append_of_pos hparameters,
        List.dropWhile_cons_of_neg (by simp [isParameter_of_isAlpha hletter])]
    simp [afterSequence?, hdrop, hletter]

theorem HasSequence.cons (h : HasSequence text) : HasSequence (c :: text) := by
  obtain ⟨before, parameters, letter, after, rfl, hsequence⟩ := h
  exact ⟨c :: before, parameters, letter, after, rfl, hsequence⟩

/-- A text has a control sequence at its front or behind that. -/
theorem hasSequence_cons_iff : HasSequence (c :: rest) ↔
    (c = escapeChar ∧ (afterSequence? rest).isSome = true) ∨ HasSequence rest := by
  constructor
  · rintro ⟨before, parameters, letter, after, htext, hparameters, hletter⟩
    cases before with
    | nil =>
        obtain ⟨rfl, rfl⟩ := List.cons.inj htext
        have hafter : afterSequence? ('[' :: (parameters ++ letter :: after)) = some after :=
          afterSequence?_eq_some_iff.mpr ⟨parameters, letter, rfl, hparameters, hletter⟩
        exact .inl ⟨rfl, by rw [hafter]; rfl⟩
    | cons first before =>
        obtain ⟨rfl, rfl⟩ := List.cons.inj htext
        exact .inr ⟨before, parameters, letter, after, rfl, hparameters, hletter⟩
  · rintro (⟨rfl, hfront⟩ | hrest)
    · obtain ⟨after, hafter⟩ := Option.isSome_iff_exists.mp hfront
      obtain ⟨parameters, letter, rfl, hparameters, hletter⟩ := afterSequence?_eq_some_iff.mp hafter
      exact ⟨[], parameters, letter, after, rfl, hparameters, hletter⟩
    · exact hrest.cons

theorem withoutSequences_sublist (text : List Char) : (withoutSequences text).Sublist text := by
  fun_induction withoutSequences text with
  | case1 => exact List.Sublist.slnil
  | case2 rest after hafter ih =>
      obtain ⟨parameters, letter, rfl, -⟩ := afterSequence?_eq_some_iff.mp hafter
      have hsuffix : after <:+ escapeChar :: '[' :: (parameters ++ letter :: after) :=
        ⟨escapeChar :: '[' :: (parameters ++ [letter]), by simp⟩
      exact ih.trans hsuffix.sublist
  | case3 rest hafter ih => exact ih.cons_cons escapeChar
  | case4 c rest hc ih => exact ih.cons_cons c

/-- A text without control sequences stays whole. -/
theorem withoutSequences_eq_self (h : ¬HasSequence text) : withoutSequences text = text := by
  fun_induction withoutSequences text with
  | case1 => rfl
  | case2 rest after hafter ih =>
      exact absurd (hasSequence_cons_iff.mpr (.inl ⟨rfl, by rw [hafter]; rfl⟩)) h
  | case3 rest hafter ih => rw [ih fun hrest => h hrest.cons]
  | case4 c rest hc ih => rw [ih fun hrest => h hrest.cons]

/-- A text with a control sequence loses characters. -/
theorem length_withoutSequences_lt (h : HasSequence text) :
    (withoutSequences text).length < text.length := by
  fun_induction withoutSequences text with
  | case1 =>
      obtain ⟨before, parameters, letter, after, hnil, -⟩ := h
      simp at hnil
  | case2 rest after hafter ih =>
      have hle := (withoutSequences_sublist after).length_le
      have hlt := afterSequence?_length hafter
      rw [List.length_cons]
      omega
  | case3 rest hafter ih =>
      have hrest := (hasSequence_cons_iff.mp h).resolve_left (by simp [hafter])
      simpa using ih hrest
  | case4 c rest hc ih =>
      have hrest := (hasSequence_cons_iff.mp h).resolve_left (by simp [hc])
      simpa using ih hrest

/-- A line break behind a text ends no control sequence. -/
theorem hasSequence_append_break_iff : HasSequence (text ++ ['\n']) ↔ HasSequence text := by
  constructor
  · rintro ⟨before, parameters, letter, after, htext, hparameters, hletter⟩
    rcases List.eq_nil_or_concat' after with rfl | ⟨others, last, rfl⟩
    · have hsplit : text ++ ['\n'] = (before ++ escapeChar :: '[' :: parameters) ++ [letter] := by
        simpa using htext
      obtain ⟨-, rfl⟩ := List.append_singleton_inj.mp hsplit
      exact absurd hletter (by decide)
    · have hsplit : text ++ ['\n'] =
          (before ++ escapeChar :: '[' :: (parameters ++ letter :: others)) ++ [last] := by
        simpa using htext
      obtain ⟨rfl, -⟩ := List.append_singleton_inj.mp hsplit
      exact ⟨before, parameters, letter, others, rfl, hparameters, hletter⟩
  · rintro ⟨before, parameters, letter, after, rfl, hsequence⟩
    exact ⟨before, parameters, letter, after ++ ['\n'], by simp, hsequence⟩

/-- No line break belongs to a control sequence. -/
theorem break_mem_withoutSequences (h : '\n' ∈ text) : '\n' ∈ withoutSequences text := by
  fun_induction withoutSequences text with
  | case1 => exact h
  | case2 rest after hafter ih =>
      obtain ⟨parameters, letter, rfl, hparameters, hletter⟩ := afterSequence?_eq_some_iff.mp hafter
      apply ih
      have hparameter : '\n' ∉ parameters := fun hmem => absurd (hparameters _ hmem) (by decide)
      have hbreak : '\n' ≠ letter := by
        rintro rfl
        exact absurd hletter (by decide)
      simpa [escapeChar, hparameter, hbreak] using h
  | case3 rest hafter ih =>
      have hrest : '\n' ∈ rest := (List.mem_cons.mp h).resolve_left (by decide)
      exact List.mem_cons_of_mem _ (ih hrest)
  | case4 c rest hc ih => exact List.mem_cons.mpr ((List.mem_cons.mp h).imp_right ih)

end Sequences

section Terminal

variable {text : List Char} {m : Measure} {c : Char}

/-- What tabs are expanded to has no tabs, and nothing new but spaces. -/
theorem mem_expandTabsFrom (h : c ∈ expandTabsFrom m text) : c = ' ' ∨ c ≠ '\t' ∧ c ∈ text := by
  fun_induction expandTabsFrom m text with
  | case1 m => cases h
  | case2 m first rest htab column ih =>
      rcases List.mem_append.mp h with hspace | hrest
      · exact .inl (List.eq_of_mem_replicate hspace)
      · exact (ih hrest).imp_right fun ⟨hne, hmem⟩ => ⟨hne, List.mem_cons_of_mem _ hmem⟩
  | case3 m first rest htab hbreak ih | case4 m first rest htab hbreak ih =>
      rcases List.mem_cons.mp h with rfl | hrest
      · exact .inr ⟨by simpa using htab, List.mem_cons_self⟩
      · exact (ih hrest).imp_right fun ⟨hne, hmem⟩ => ⟨hne, List.mem_cons_of_mem _ hmem⟩

theorem expandTabsFrom_eq_self (h : '\t' ∉ text) : expandTabsFrom m text = text := by
  fun_induction expandTabsFrom m text with
  | case1 m => rfl
  | case2 m first rest htab column ih =>
      obtain rfl : first = '\t' := by simpa using htab
      exact absurd List.mem_cons_self h
  | case3 m first rest htab hbreak ih | case4 m first rest htab hbreak ih =>
      rw [ih fun hrest => h (List.mem_cons_of_mem _ hrest)]

/-- A terminal shows no tab and no control character that is dropped. -/
theorem mem_onTerminal {text : String} (h : c ∈ (onTerminal text).toList) :
    c ≠ '\t' ∧ isDropped c = false := by
  rw [onTerminal, String.toList_ofList] at h
  rcases mem_expandTabsFrom h with rfl | ⟨hne, hmem⟩
  · decide
  · exact ⟨hne, by simpa using (List.mem_filter.mp hmem).2⟩

theorem onTerminal_eq_self {text : String}
    (h : ∀ c ∈ text.toList, c ≠ '\t' ∧ isDropped c = false) : onTerminal text = text := by
  have hkept : text.toList.filter (fun c => !isDropped c) = text.toList :=
    List.filter_eq_self.mpr fun c hc => by simp [(h c hc).2]
  rw [onTerminal, hkept, expandTabsFrom_eq_self fun htab => (h _ htab).1 rfl, String.ofList_toList]

end Terminal

section Blanks

variable {c : Char}

theorem mem_intercalate {separator : List Char} {parts : List (List Char)}
    (h : c ∈ separator.intercalate parts) : c ∈ separator ∨ ∃ part ∈ parts, c ∈ part := by
  induction parts with
  | nil => simp [List.intercalate] at h
  | cons part rest ih =>
      cases rest with
      | nil => exact .inr ⟨part, List.mem_cons_self, by simpa [List.intercalate] using h⟩
      | cons next others =>
          have hparts : c ∈ part ∨ c ∈ separator ∨ c ∈ separator.intercalate (next :: others) := by
            simpa [List.intercalate] using h
          rcases hparts with hpart | hseparator | hrest
          · exact .inr ⟨part, List.mem_cons_self, hpart⟩
          · exact .inl hseparator
          · exact (ih hrest).imp_right fun ⟨found, hfound, hc⟩ =>
              ⟨found, List.mem_cons_of_mem _ hfound, hc⟩

/-- Words hold no blanks. -/
theorem isBlank_of_mem_words {text word : List Char} (hword : word ∈ words text) (hc : c ∈ word) :
    isBlank c = false := by
  fun_induction words text generalizing word with
  | case1 => cases hword
  | case2 first rest hblank ih => exact ih hword hc
  | case3 first rest hfirst hnext hwords ih =>
      obtain rfl := List.mem_singleton.mp hword
      obtain rfl := List.mem_singleton.mp hc
      simpa using hfirst
  | case4 first rest hfirst hnext next others hwords ih =>
      rw [hwords] at ih
      rcases List.mem_cons.mp hword with rfl | hothers
      · rcases List.mem_cons.mp hc with rfl | hrest
        · simpa using hfirst
        · exact ih List.mem_cons_self hrest
      · exact ih (List.mem_cons_of_mem _ hothers) hc
  | case5 first rest hfirst hlone ih =>
      rcases List.mem_cons.mp hword with rfl | hrest
      · obtain rfl := List.mem_singleton.mp hc
        simpa using hfirst
      · exact ih hrest hc

/-- A squeezed text holds no blanks but spaces. -/
theorem mem_squeeze {text : String} (h : c ∈ (squeeze text).toList) :
    c = ' ' ∨ isBlank c = false := by
  rw [squeeze, String.toList_intercalate, List.map_map] at h
  rcases mem_intercalate h with hspace | ⟨part, hpart, hc⟩
  · exact .inl (by simpa using hspace)
  · obtain ⟨word, hword, rfl⟩ := List.mem_map.mp hpart
    exact .inr (isBlank_of_mem_words hword (by simpa using hc))

end Blanks

end SwayControl.Text
