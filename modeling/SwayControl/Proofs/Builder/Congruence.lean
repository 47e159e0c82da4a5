import SwayControl.Proofs.Builder.Refinement
import SwayControl.Proofs.Builder.Totality

/-!
Sameness is a congruence for writing. Values may be the same although they are held in different ways: a
number as an integer or not, a text as a keyword, a builder frozen or not, its text extended or written
anew. In a store in step they stand for one text all the same.
-/

namespace SwayControl

namespace Store

variable {s : Store} {depth : Nat} {a b : Ref} {v w : Value}

/-- Criteria that are alike one by one make one clause. -/
theorem clauseText_eq {builders : Ref → Ref → Bool} {criteria criteria' : List Value}
    (hcriteria : ∀ c ∈ criteria, c.TypedCriterion) (hcriteria' : ∀ c ∈ criteria', c.TypedCriterion)
    (h : Value.sameAll builders criteria criteria' = true) :
    clauseText criteria = clauseText criteria' := by
  have hmatched := matched_of_items (fun c hc => (hcriteria c hc).1) (fun c hc => (hcriteria' c hc).1)
    (fun c hc => (hcriteria c hc).2) (fun c hc => (hcriteria' c hc).2) (Value.sameAll_iff.mp h)
  obtain ⟨read, _, hread, hread', rfl⟩ := agree_mapM (hmatched.imp fun _ _ hvw => hvw.readCriterion)
  rw [clauseText, clauseText, hread, hread']

/-- Sub-commands that are alike are written alike. -/
theorem writtenSubCommand_eq {builders : Ref → Ref → Bool}
    (h : Matched (fun _ => True) builders .subCommand v w) :
    Agree Eq (SubCommand.render <$> v.readSubCommand) (SubCommand.render <$> w.readSubCommand) := by
  obtain ⟨form, fields, rfl⟩ := h.fits
  obtain ⟨form', fields', rfl⟩ := h.fits'
  obtain ⟨⟨⟩, hfields⟩ := h.fields
  exact (Matched.readSubCommandFields hfields).map fun _ _ hab => hab

/-- Sub-commands that are alike one by one make one text behind clauses of one text. -/
theorem unitText_eq {texts : Ref → String} {builders : Ref → Ref → Bool} {clause clause' : Option Nat}
    {commands commands' : List Value} (hcommands : ∀ c ∈ commands, c.TypedSubCommand)
    (hcommands' : ∀ c ∈ commands', c.TypedSubCommand)
    (h : Value.sameAll builders commands commands' = true)
    (hclause : clause.elim "" (fun c => texts (.group c)) =
      clause'.elim "" fun c => texts (.group c)) :
    unitText texts clause commands = unitText texts clause' commands' := by
  have hmatched := matched_of_items (fun c hc => (hcommands c hc).1) (fun c hc => (hcommands' c hc).1)
    (fun c hc => (hcommands c hc).2) (fun c hc => (hcommands' c hc).2) (Value.sameAll_iff.mp h)
  obtain ⟨written, _, hwritten, hwritten', rfl⟩ :=
    agree_mapM (hmatched.imp fun _ _ hvw => writtenSubCommand_eq hvw)
  rw [unitText_of_written hwritten, unitText_of_written hwritten', hclause]

/-- In a store in step, builders that are the same hold one text. The induction is on how deep they are
looked into: a unit is looked into before its clause. -/
theorem InStep.texts_eq_of_same (hinStep : s.InStep) (ha : s.TypedBuilder a) (hb : s.TypedBuilder b)
    (h : s.sameBuilders depth a b = true) : s.texts a = s.texts b := by
  induction depth generalizing a b with
  | zero => rw [eq_of_beq h]
  | succ depth ih =>
      simp only [sameBuilders, Bool.or_eq_true, beq_iff_eq] at h
      rcases h with rfl | h
      · rfl
      cases a with
      | group i =>
          cases b with
          | group j =>
              obtain ⟨g, hg, hcriteria⟩ := ha
              obtain ⟨g', hg', hcriteria'⟩ := hb
              simp only [hg, hg', CriteriaGroup.same] at h
              have htext := clauseText_eq hcriteria hcriteria' h
              rw [hinStep.groups i g hg, hinStep.groups j g' hg'] at htext
              simpa only [texts, hg, hg', Option.elim_some] using Except.ok.inj htext
          | _ => cases h
      | unit i =>
          cases b with
          | unit j =>
              obtain ⟨u, hu, hcommands, hclause⟩ := ha
              obtain ⟨u', hu', hcommands', hclause'⟩ := hb
              simp only [hu, hu', TargetedUnit.same, Bool.and_eq_true] at h
              obtain ⟨hclauses, hsame⟩ := h
              have hclauseText : u.clause.elim "" (fun c => s.texts (.group c)) =
                  u'.clause.elim "" fun c => s.texts (.group c) := by
                cases hc : u.clause <;> cases hc' : u'.clause <;> simp only [hc, hc'] at hclauses
                case none.none => rfl
                case some.some c c' =>
                  exact ih (a := .group c) (b := .group c') (hclause c hc) (hclause' c' hc') hclauses
                all_goals cases hclauses
              have htext := unitText_eq hcommands hcommands' hsame hclauseText
              rw [hinStep.units i u hu, hinStep.units j u' hu'] at htext
              simpa only [texts, hu, hu', Option.elim_some] using Except.ok.inj htext
          | _ => cases h
      | batch i => exact ha.elim

/-- In a store in step, well-typed values that are the same stand for one text. -/
theorem InStep.standsFor_eq_of_same (hinStep : s.InStep) (hv : s.WellTyped v) (hw : s.WellTyped w)
    (hwritten : v.IsWritten) (h : s.same v w = true) :
    ∃ text, v.standsFor s.texts = .ok text ∧ w.standsFor s.texts = .ok text := by
  have halike : v.Alike (s.sameBuilders s.depth) w := Value.alike_of_same h
  have hbuilder {a : Ref} (hva : v = .builder a) :
      ∃ text, v.standsFor s.texts = .ok text ∧ w.standsFor s.texts = .ok text := by
    subst hva
    cases w with
    | builder b =>
        have htexts := hinStep.texts_eq_of_same hv.builder hw.builder (Value.alike_builder_iff.mp halike)
        exact ⟨s.texts a, rfl, by rw [Value.standsFor, htexts]⟩
    | _ => cases Value.shape_eq_of_alike halike
  have hmatched (kind : Kind) (hfits : kind.Fits v) (hfits' : kind.Fits w) :
      Matched s.TypedBuilder (s.sameBuilders s.depth) kind v w := ⟨hfits, hfits', hv, hw, halike⟩
  have hrecord {form : Form} {fields : List Value} (hvf : v = .record form fields) :
      ∃ fields', w = .record form fields' := by
    subst hvf
    cases w with
    | record form' fields' =>
        obtain ⟨rfl, -⟩ := Value.alike_record_iff.mp halike
        exact ⟨fields', rfl⟩
    | _ => cases Value.shape_eq_of_alike halike
  have hentry (hfits : v.IsEntry) (hfits' : w.IsEntry) :
      ∃ text, v.commandText s.texts = .ok text ∧ w.commandText s.texts = .ok text := by
    obtain ⟨text, _, hread, hread', rfl⟩ := (hmatched .entry hfits hfits').commandText
      fun a b => hinStep.texts_eq_of_same (a := a) (b := b)
    exact ⟨text, hread, hread'⟩
  rcases hwritten with ⟨form, fields, hvf⟩ | ⟨i, hvi⟩ | ⟨form, fields, hvf⟩ | ⟨i, hvi⟩ |
    ⟨fields, hvf⟩ | ⟨form, fields, hvf⟩ | ⟨form, fields, hvf⟩
  · obtain ⟨fields', hwf⟩ := hrecord hvf
    obtain ⟨c, _, hread, hread', rfl⟩ :=
      (hmatched .criterion ⟨form, fields, hvf⟩ ⟨form, fields', hwf⟩).readCriterion
    subst hvf hwf
    exact ⟨c.render, map_eq_ok.mpr ⟨c, hread, rfl⟩, map_eq_ok.mpr ⟨c, hread', rfl⟩⟩
  · exact hbuilder hvi
  · obtain ⟨fields', hwf⟩ := hrecord hvf
    have hsub := hmatched .subCommand ⟨form, fields, hvf⟩ ⟨form, fields', hwf⟩
    subst hvf hwf
    obtain ⟨c, c', hread, hread', hcc⟩ := Matched.readSubCommandFields hsub.fields.2
    refine ⟨c.render, ?_, ?_⟩ <;> simp only [Value.standsFor, Value.commandText]
    · exact map_eq_ok.mpr ⟨c, hread, rfl⟩
    · exact map_eq_ok.mpr ⟨c', hread', hcc.symm⟩
  · exact hbuilder hvi
  all_goals
    obtain ⟨fields', hwf⟩ := hrecord hvf
    subst hvf hwf
  · exact hentry (Or.inr (Or.inl ⟨_, rfl⟩)) (Or.inr (Or.inl ⟨_, rfl⟩))
  · exact hentry (Or.inr (Or.inr (Or.inl ⟨_, _, rfl⟩))) (Or.inr (Or.inr (Or.inl ⟨_, _, rfl⟩)))
  · exact hentry (Or.inr (Or.inr (Or.inr ⟨_, _, rfl⟩))) (Or.inr (Or.inr (Or.inr ⟨_, _, rfl⟩)))

end Store

namespace Session

/-- Numbers that are the same are written alike, and an integral one as the integer that it is, however it
is held. In every state that an orderly script leads to, well-typed criteria, groups, sub-commands and
commands that are the same are written as one text, both as they stand and from their parts. -/
theorem same_written_alike :
    (∀ x y : Number, x.same y = true → x.render = y.render) ∧
    (∀ (x : Number) (n : ℤ), x.toRat? = some (n : ℚ) → x.render = toString n) ∧
    ∀ script, Along Orderly start script → ∀ a b, (start.after script).store.WellTyped a →
      (start.after script).store.WellTyped b → a.IsWritten →
      (start.after script).store.same a b = true →
        ∃ text, a.standsFor (start.after script).store.texts = .ok text ∧
          b.standsFor (start.after script).store.texts = .ok text ∧
          a.standsFor (start.after script).store.scratch = .ok text ∧
          b.standsFor (start.after script).store.scratch = .ok text := by
  refine ⟨fun x y h => Number.render_eq_of_same h, fun x n h => Number.render_of_integral h, ?_⟩
  intro script hscript a b ha hb hwritten h
  have hinStep := after_inStep hscript
  rw [hinStep.scratch_eq (after_wellFormed wellFormed_start script).store]
  obtain ⟨text, htext, htext'⟩ := hinStep.standsFor_eq_of_same ha hb hwritten h
  exact ⟨text, htext, htext', htext, htext'⟩

/-- A mark that windows have. -/
def marked : Expression := .record (.criterion (.property .conMark)) [("value", .literal (.text "x"))]

/-- A sub-command that holds a text. -/
def titled (title : Literal) : Expression := .record (.subCommand .titleFormat) [("format", .literal title)]

/-- One unit is made with its criterion last and of a text, the other is frozen and of a keyword. -/
def twoWays : List Step :=
  [.assign "late" (.unit [(.command, titled (.text "yes")), (.criterion, marked)] false),
    .assign "early" (.unit [(.criterion, marked), (.command, titled (.keyword (Keyword.word YesNo.yes)))]
      true)]

theorem twoWays_orderly : Along Orderly start twoWays := by
  refine ⟨orderly_of_ok rfl ?_, orderly_of_ok rfl ?_, trivial⟩
  all_goals rintro i ⟨⟩

theorem typed_marked : (Value.record (.criterion (.property .conMark)) [.text "x"]).TypedCriterion :=
  ⟨⟨_, _, rfl⟩, Value.typed_record (.cons (Or.inl ⟨_, rfl⟩) .nil) rfl
    (List.forall_mem_singleton.mpr trivial)⟩

theorem typed_titled {title : Value} (htitle : title.IsText) :
    (Value.record (.subCommand .titleFormat) [title]).TypedSubCommand :=
  ⟨⟨_, _, rfl⟩, Value.typed_record (.cons htitle .nil) rfl
    (List.forall_mem_singleton.mpr htitle.typed)⟩

theorem twoWays_written_alike : Along Orderly start twoWays ∧
    (start.after twoWays).store.same (.builder (.unit 0)) (.builder (.unit 2)) = true ∧
    ∃ text, (Value.builder (.unit 0)).standsFor (start.after twoWays).store.texts = .ok text ∧
      (Value.builder (.unit 2)).standsFor (start.after twoWays).store.texts = .ok text := by
  have hlate : (start.after twoWays).store.WellTyped (.builder (.unit 0)) := by
    refine Store.wellTyped_builder
      ⟨_, rfl, List.forall_mem_singleton.mpr (typed_titled (Or.inl ⟨_, rfl⟩)), ?_⟩
    rintro c ⟨⟩
    exact ⟨_, rfl, List.forall_mem_singleton.mpr typed_marked⟩
  have hearly : (start.after twoWays).store.WellTyped (.builder (.unit 2)) := by
    refine Store.wellTyped_builder
      ⟨_, rfl, List.forall_mem_singleton.mpr (typed_titled (Or.inr ⟨_, rfl⟩)), ?_⟩
    rintro c ⟨⟩
    exact ⟨_, rfl, List.forall_mem_singleton.mpr typed_marked⟩
  have hsame : (start.after twoWays).store.same (.builder (.unit 0)) (.builder (.unit 2)) = true := by
    decide +kernel
  obtain ⟨text, hleft, hright, -⟩ := same_written_alike.2.2 twoWays twoWays_orderly _ _ hlate hearly
    (Or.inr (Or.inr (Or.inr (Or.inl ⟨0, rfl⟩)))) hsame
  exact ⟨twoWays_orderly, hsame, text, hleft, hright⟩

end Session

end SwayControl
