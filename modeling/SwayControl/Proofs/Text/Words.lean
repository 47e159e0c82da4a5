import SwayControl.Proofs.Text.Shown

/-!
The words of a text are its maximal runs of characters that are no blanks. A squeezed text has the words
of the text it was made from, with one space between neighbours and no other blank, and it is the only
text of which this holds. So texts are squeezed alike just if they have the same words, and the parts of a
text that stand between blanks may be squeezed before the whole is.
-/

namespace SwayControl.Text

/-- Characters that are all blanks, and may be none. -/
def Gap (text : List Char) : Prop := ∀ c ∈ text, isBlank c = true

instance (text : List Char) : Decidable (Gap text) := List.decidableBAll _ text

/-- Some characters, none of them a blank. -/
def Solid (text : List Char) : Prop := text ≠ [] ∧ ∀ c ∈ text, isBlank c = false

/-- A text and its maximal runs of characters that are no blanks, in their order. A run starts behind a
gap, and at its end the text ends or a blank stands. -/
inductive Runs : List Char → List (List Char) → Prop
  | gap {gap} (hgap : Gap gap) : Runs gap []
  | run {gap run rest runs} (hgap : Gap gap) (hrun : Solid run) (hend : Gap rest.head?.toList)
      (hrest : Runs rest runs) : Runs (gap ++ run ++ rest) (run :: runs)

/-- A text whose blanks are single spaces, none of them at an end. -/
structure Squeezed (text : List Char) : Prop where
  spaces : ∀ c ∈ text, isBlank c = true → c = ' '
  single : ¬ [' ', ' '] <:+: text
  front : text.head? ≠ some ' '
  back : text.getLast? ≠ some ' '

variable {c : Char} {text gap run rest s t : List Char} {runs runs' : List (List Char)}

/-! ### Runs and words -/

theorem isBlank_space : isBlank ' ' = true := rfl

theorem Gap.append (h : Gap s) (h' : Gap t) : Gap (s ++ t) := List.forall_mem_append.mpr ⟨h, h'⟩

/-- What is no blank is a run of its own, or starts one. -/
theorem Solid.cons (hc : isBlank c = false) (h : ∀ c ∈ text, isBlank c = false) : Solid (c :: text) :=
  ⟨List.cons_ne_nil c text, List.forall_mem_cons.mpr ⟨hc, h⟩⟩

theorem words_gap (h : Gap gap) : words (gap ++ rest) = words rest := by
  induction gap with
  | nil => rfl
  | cons c gap ih =>
      obtain ⟨hc, hgap⟩ := List.forall_mem_cons.mp h
      rw [List.cons_append, words_blank hc, ih hgap]

/-- A run is the first word of what it starts. -/
theorem words_run (h : Solid run) (hend : Gap rest.head?.toList) :
    words (run ++ rest) = run :: words rest := by
  obtain ⟨hne, hsolid⟩ := h
  induction run with
  | nil => exact absurd rfl hne
  | cons c run ih =>
      obtain ⟨hc, hrun⟩ := List.forall_mem_cons.mp hsolid
      cases run with
      | nil =>
          have hlone : rest.head?.any (!isBlank ·) = false := by
            cases rest with
            | nil => rfl
            | cons d rest => simpa using hend d (by simp)
          simp [words, hc, hlone]
      | cons d run =>
          have hd : isBlank d = false := hrun d List.mem_cons_self
          have hrest := ih (List.cons_ne_nil d run) hrun
          rw [List.cons_append] at hrest
          simp [words.eq_2 c, hc, hd, hrest]

theorem Runs.words_eq (h : Runs text runs) : words text = runs := by
  induction h with
  | @gap gap hgap =>
      have hwords : words (gap ++ []) = words [] := words_gap hgap
      rwa [List.append_nil] at hwords
  | run hgap hrun hend _ ih => rw [List.append_assoc, words_gap hgap, words_run hrun hend, ih]

theorem Runs.blank (hc : isBlank c = true) (h : Runs rest runs) : Runs (c :: rest) runs := by
  have hfront {gap : List Char} (hgap : Gap gap) : Gap (c :: gap) := List.forall_mem_cons.mpr ⟨hc, hgap⟩
  cases h with
  | gap hgap => exact .gap (hfront hgap)
  | run hgap hrun hend hrest => exact .run (hfront hgap) hrun hend hrest

theorem Runs.behind_gap (hgap : Gap gap) (h : Runs rest runs) : Runs (gap ++ rest) runs := by
  induction gap with
  | nil => exact h
  | cons c gap ih =>
      obtain ⟨hc, hgap⟩ := List.forall_mem_cons.mp hgap
      exact (ih hgap).blank hc

/-- The first run of a text that starts with no blank is at its front. -/
theorem Runs.front (hfront : text.head? = some c) (hc : isBlank c = false) (h : Runs text runs) :
    ∃ run rest others, text = run ++ rest ∧ runs = run :: others ∧ Solid run ∧
      Gap rest.head?.toList ∧ Runs rest others := by
  cases h with
  | gap hgap =>
      have hblank := hgap c (List.mem_of_head? hfront)
      rw [hc] at hblank
      cases hblank
  | @run gap run rest others hgap hrun hend hrest =>
      cases gap with
      | nil => exact ⟨run, rest, others, rfl, rfl, hrun, hend, hrest⟩
      | cons d gap =>
          obtain rfl := Option.some.inj hfront
          have hblank := hgap d List.mem_cons_self
          rw [hc] at hblank
          cases hblank

/-- A run at the front of a text. -/
theorem Runs.start (hrun : Solid run) (hend : Gap rest.head?.toList) (hrest : Runs rest runs) :
    Runs (run ++ rest) (run :: runs) :=
  .run (List.forall_mem_nil _) hrun hend hrest

/-- The words of a text are its runs. -/
theorem runs_words (text : List Char) : Runs text (words text) := by
  fun_induction words text with
  | case1 => exact .gap (List.forall_mem_nil _)
  | case2 c rest hblank ih => exact ih.blank hblank
  | case3 c rest hc hnext hwords ih =>
      obtain ⟨d, hd, hsolid⟩ := Option.any_eq_true _ _ |>.mp hnext
      obtain ⟨_, _, _, -, hruns, -⟩ := ih.front hd (by simpa using hsolid)
      rw [hwords] at hruns
      cases hruns
  | case4 c rest hc hnext word others hwords ih =>
      obtain ⟨d, hd, hsolid⟩ := Option.any_eq_true _ _ |>.mp hnext
      obtain ⟨run, rest', runs, rfl, hruns, hrun, hend, hrest⟩ := ih.front hd (by simpa using hsolid)
      rw [hwords] at hruns
      cases hruns
      exact .start (.cons (by simpa using hc) hrun.2) hend hrest
  | case5 c rest hc hlone ih =>
      have hend : Gap rest.head?.toList := by
        cases rest with
        | nil => exact List.forall_mem_nil _
        | cons d rest => simpa [Gap] using hlone
      exact .start (.cons (by simpa using hc) (List.forall_mem_nil _)) hend ih

theorem runs_iff : Runs text runs ↔ runs = words text := by
  constructor
  · exact fun h => h.words_eq.symm
  · rintro rfl
    exact runs_words text

theorem Runs.solid (h : Runs text runs) : ∀ run ∈ runs, Solid run := by
  induction h with
  | gap _ => exact List.forall_mem_nil _
  | run _ hrun _ _ ih => exact List.forall_mem_cons.mpr ⟨hrun, ih⟩

/-- The runs of two texts with blanks between them are those of the one and then those of the other. -/
theorem Runs.append (h : Runs s runs) (h' : Runs t runs') (hgap : Gap gap) (hne : gap ≠ []) :
    Runs (s ++ gap ++ t) (runs ++ runs') := by
  induction h with
  | gap hfront => exact h'.behind_gap (hfront.append hgap)
  | @run front run rest runs hfront hrun hend _ ih =>
      have hend' : Gap (rest ++ gap ++ t).head?.toList := by
        cases rest with
        | nil =>
            cases gap with
            | nil => exact absurd rfl hne
            | cons c gap => simpa [Gap] using hgap c List.mem_cons_self
        | cons c rest => simpa [Gap] using hend
      have hwhole := Runs.run hfront hrun hend' ih
      simpa only [List.append_assoc, List.cons_append] using hwhole

theorem words_append (hgap : Gap gap) (hne : gap ≠ []) :
    words (s ++ gap ++ t) = words s ++ words t :=
  ((runs_words s).append (runs_words t) hgap hne).words_eq

/-! ### Words with single spaces between them -/

/-- Words with single spaces between them have the words as their runs. -/
theorem runs_joined (h : ∀ run ∈ runs, Solid run) : Runs ([' '].intercalate runs) runs := by
  induction runs with
  | nil => exact .gap (List.forall_mem_nil _)
  | cons run others ih =>
      obtain ⟨hrun, hothers⟩ := List.forall_mem_cons.mp h
      cases others with
      | nil =>
          have hlast : Runs (run ++ []) [run] :=
            .start hrun (List.forall_mem_nil _) (.gap (List.forall_mem_nil _))
          rw [List.append_nil] at hlast
          rwa [List.intercalate_singleton]
      | cons next others =>
          have hend : Gap ([' '] ++ [' '].intercalate (next :: others)).head?.toList :=
            List.forall_mem_singleton.mpr isBlank_space
          have hrest := (ih hothers).blank isBlank_space
          rw [List.intercalate_cons_cons, List.append_assoc]
          exact .start hrun hend hrest

theorem Solid.head?_ne (h : Solid text) (rest : List Char) : (text ++ rest).head? ≠ some ' ' := by
  obtain ⟨hne, hsolid⟩ := h
  obtain ⟨c, text, rfl⟩ := List.exists_cons_of_ne_nil hne
  intro hspace
  obtain rfl := Option.some.inj hspace
  exact absurd (hsolid ' ' List.mem_cons_self) (by decide)

theorem squeezed_solid (h : Solid text) : Squeezed text where
  spaces c hc hblank := by
    rw [h.2 c hc] at hblank
    cases hblank
  single hpair := by
    have hspace : ' ' ∈ text := hpair.subset List.mem_cons_self
    exact absurd (h.2 _ hspace) (by decide)
  front := by simpa using h.head?_ne []
  back hlast := absurd (h.2 _ (List.mem_of_getLast? hlast)) (by decide)

/-- A run in front of a squeezed text, with a space between them. -/
theorem Squeezed.cons (hrun : Solid run) (hne : rest ≠ []) (h : Squeezed rest) :
    Squeezed (run ++ ' ' :: rest) := by
  obtain ⟨d, others, rfl⟩ := List.exists_cons_of_ne_nil hne
  refine ⟨fun c hc hblank => ?_, fun hpair => ?_, hrun.head?_ne _, ?_⟩
  · rcases List.mem_append.mp hc with hc | hc
    · rw [hrun.2 c hc] at hblank
      cases hblank
    · rcases List.mem_cons.mp hc with rfl | hc
      · rfl
      · exact h.spaces c hc hblank
  · -- Of two spaces side by side none is in the run, and the second is not the first of the rest.
    obtain ⟨before, after, hsplit⟩ := hpair
    have hsplit' : before ++ ' ' :: ' ' :: after = run ++ ' ' :: d :: others := by simpa using hsplit
    rcases List.append_eq_append_iff.mp hsplit' with ⟨middle, rfl, hrest⟩ | ⟨middle, rfl, hrest⟩
    · cases middle with
      | nil =>
          obtain ⟨-, rfl, -⟩ : ' ' = ' ' ∧ ' ' = d ∧ after = others := by simpa using hrest
          exact h.front rfl
      | cons e middle =>
          obtain ⟨rfl, -⟩ := List.cons.inj hrest
          exact absurd (hrun.2 ' ' (by simp)) (by decide)
    · cases middle with
      | nil =>
          obtain ⟨-, rfl, -⟩ : ' ' = ' ' ∧ d = ' ' ∧ others = after := by simpa using hrest
          exact h.front rfl
      | cons e middle =>
          obtain ⟨-, hbehind⟩ := List.cons.inj hrest
          exact h.single ⟨middle, after, by simpa using hbehind.symm⟩
  · simpa [List.getLast?_append] using h.back

theorem squeezed_joined (h : ∀ run ∈ runs, Solid run) : Squeezed ([' '].intercalate runs) := by
  induction runs with
  | nil => exact ⟨List.forall_mem_nil _, by simp [List.intercalate], by simp [List.intercalate],
      by simp [List.intercalate]⟩
  | cons run others ih =>
      obtain ⟨hrun, hothers⟩ := List.forall_mem_cons.mp h
      cases others with
      | nil =>
          rw [List.intercalate_singleton]
          exact squeezed_solid hrun
      | cons next others =>
          have hnext : [' '].intercalate (next :: others) ≠ [] := by
            intro hnil
            have hwords := (runs_joined hothers).words_eq
            rw [hnil] at hwords
            cases hwords
          rw [List.intercalate_cons_cons, List.append_assoc]
          exact (ih hothers).cons hrun hnext

/-- What stands behind the first run and a space is squeezed again. -/
theorem Squeezed.behind (hrest : rest ≠ []) (h : Squeezed (run ++ ' ' :: rest)) : Squeezed rest where
  spaces c hc := h.spaces c (by simp [hc])
  single hpair := h.single (hpair.trans ⟨run ++ [' '], [], by simp⟩)
  front hfront := by
    obtain ⟨d, others, rfl⟩ := List.exists_cons_of_ne_nil hrest
    obtain rfl := Option.some.inj hfront
    exact h.single ⟨run, others, by simp⟩
  back hback := h.back (by
    obtain ⟨d, others, rfl⟩ := List.exists_cons_of_ne_nil hrest
    simpa [List.getLast?_append] using hback)

/-- A squeezed text is its runs with single spaces between them. -/
theorem Squeezed.eq_joined (hsqueezed : Squeezed text) (h : Runs text runs) :
    text = [' '].intercalate runs := by
  induction runs generalizing text with
  | nil =>
      cases h with
      | gap hgap =>
          cases text with
          | nil => rfl
          | cons c gap =>
              obtain rfl := hsqueezed.spaces c List.mem_cons_self (hgap c List.mem_cons_self)
              exact absurd rfl hsqueezed.front
  | cons run others ih =>
      cases h with
      | @run gap _ rest _ hgap hrun hend hrest =>
          obtain rfl : gap = [] := by
            cases gap with
            | nil => rfl
            | cons c gap =>
                obtain rfl := hsqueezed.spaces c (by simp) (hgap c List.mem_cons_self)
                exact absurd rfl hsqueezed.front
          cases rest with
          | nil =>
              obtain rfl := hrest.words_eq
              simp [List.intercalate]
          | cons c rest =>
              have hc : isBlank c = true := by simpa [Gap] using hend
              obtain rfl := hsqueezed.spaces c (by simp) hc
              rw [List.nil_append] at hsqueezed
              -- The space is not the last character, so there is a next run behind it.
              have hne : rest ≠ [] := by
                rintro rfl
                exact hsqueezed.back (by simp [List.getLast?_append])
              have hbehind := hsqueezed.behind hne
              have hothers : Runs rest others := by
                rw [runs_iff, ← words_blank isBlank_space, hrest.words_eq]
              have hjoined := ih hbehind hothers
              cases others with
              | nil => exact absurd hjoined hne
              | cons next others =>
                  rw [List.intercalate_cons_cons, ← hjoined]
                  simp

/-! ### Squeezing -/

theorem toList_squeeze (text : String) :
    (squeeze text).toList = [' '].intercalate (words text.toList) := by
  rw [squeeze, String.toList_intercalate, List.map_map]
  simp [Function.comp_def]

theorem words_squeeze (text : String) : words (squeeze text).toList = words text.toList := by
  rw [toList_squeeze]
  exact (runs_joined (runs_words text.toList).solid).words_eq

theorem squeezed_squeeze (text : String) : Squeezed (squeeze text).toList := by
  rw [toList_squeeze]
  exact squeezed_joined (runs_words text.toList).solid

/-- A squeezed text is the only one with its words. -/
theorem eq_squeeze_iff {text other : String} :
    other = squeeze text ↔ words other.toList = words text.toList ∧ Squeezed other.toList := by
  constructor
  · rintro rfl
    exact ⟨words_squeeze text, squeezed_squeeze text⟩
  · rintro ⟨hwords, hsqueezed⟩
    apply String.toList_inj.mp
    rw [toList_squeeze, ← hwords]
    exact hsqueezed.eq_joined (runs_words other.toList)

theorem squeeze_eq_iff {s t : String} : squeeze s = squeeze t ↔ words s.toList = words t.toList := by
  constructor
  · intro h
    rw [← words_squeeze s, h, words_squeeze t]
  · intro h
    rw [eq_squeeze_iff, words_squeeze]
    exact ⟨h, squeezed_squeeze s⟩

/-- The numbers of the characters that separate words. -/
def blankCodes : List Nat :=
  [0x09, 0x0A, 0x0B, 0x0C, 0x0D, 0x1C, 0x1D, 0x1E, 0x1F, 0x20, 0x85, 0xA0, 0x1680, 0x2000, 0x2001,
    0x2002, 0x2003, 0x2004, 0x2005, 0x2006, 0x2007, 0x2008, 0x2009, 0x200A, 0x2028, 0x2029, 0x202F,
    0x205F, 0x3000]

theorem isBlank_iff : isBlank c = true ↔ c.toNat ∈ blankCodes := by
  simp only [isBlank, blankCodes, Bool.or_eq_true, Bool.and_eq_true, decide_eq_true_eq, beq_iff_eq,
    List.mem_cons, List.not_mem_nil, or_false]
  omega

/-- Squeezing a text leaves its runs of characters other than the twenty-nine blanks, and of the texts with
these runs it gives the only one that is squeezed. So it is idempotent, takes two texts to one exactly if
they have the same runs, and may be done to the parts on both sides of a gap before it is done to all. -/
theorem squeeze_normalizes :
    (∀ c : Char, isBlank c = true ↔ c.toNat ∈ blankCodes) ∧
    (∀ (text : String) runs, Runs text.toList runs ↔ runs = words text.toList) ∧
    (∀ text other : String, other = squeeze text ↔
      (∃ runs, Runs text.toList runs ∧ Runs other.toList runs) ∧ Squeezed other.toList) ∧
    (∀ text : String, squeeze (squeeze text) = squeeze text) ∧
    (∀ s t : String, squeeze s = squeeze t ↔ ∃ runs, Runs s.toList runs ∧ Runs t.toList runs) ∧
    ∀ s gap t : String, gap ≠ "" → Gap gap.toList →
      squeeze (s ++ gap ++ t) = squeeze (squeeze s ++ gap ++ squeeze t) := by
  have hruns (s t : String) :
      (∃ runs, Runs s.toList runs ∧ Runs t.toList runs) ↔ words s.toList = words t.toList := by
    simp only [runs_iff, exists_eq_left]
  refine ⟨fun c => isBlank_iff, fun text runs => runs_iff, ?_, ?_, ?_, ?_⟩
  · intro text other
    rw [eq_squeeze_iff, hruns, eq_comm (a := words other.toList)]
  · intro text
    rw [squeeze_eq_iff, words_squeeze]
  · intro s t
    rw [squeeze_eq_iff, hruns]
  · intro s gap t hne hgap
    have hne' : gap.toList ≠ [] := mt String.toList_eq_nil_iff.mp hne
    rw [squeeze_eq_iff]
    simp only [String.toList_append, words_append hgap hne', words_squeeze]

/-- Words between a tab, a no-break space and other spaces. -/
theorem squeeze_normalizes_title :
    squeeze "title  \u00A0a" = "title a" ∧
    squeeze ("title  \u00A0a" ++ "\t " ++ " b\n") = "title a b" ∧
    squeeze ("title  \u00A0a" ++ "\t " ++ " b\n") =
      squeeze (squeeze "title  \u00A0a" ++ "\t " ++ squeeze " b\n") ∧
    squeeze "title  \u00A0a" ≠ squeeze "titlea" := by
  obtain ⟨-, -, -, -, -, hparts⟩ := squeeze_normalizes
  exact ⟨by decide +kernel, by decide +kernel, hparts _ _ _ (by decide) (by decide), by decide +kernel⟩

end SwayControl.Text
