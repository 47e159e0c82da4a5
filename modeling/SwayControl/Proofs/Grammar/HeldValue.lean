import SwayControl.Proofs.Grammar.HeldText
import SwayControl.Proofs.Grammar.Reading

/-!
Values without a character. A text of the grammar that a value is read as holds no text but those that
the value holds, so a delimiter that is in no text of a value is not in what the value is written as.
-/

namespace SwayControl

namespace Value

mutual

/-- Whether a character is in no text that a value holds, its keywords being members of their lists.
What counts for a builder is given. -/
def Without (d : Char) (builder : Ref → Prop) : Value → Prop
  | .text t => Lacks d t
  | .keyword w => w ∈ Word.catalog
  | .tuple items => WithoutAll d builder items
  | .record _ fields => WithoutAll d builder fields
  | .builder ref => builder ref
  | _ => True

/-- Whether a character is in no text that some values hold. -/
def WithoutAll (d : Char) (builder : Ref → Prop) : List Value → Prop
  | [] => True
  | value :: rest => value.Without d builder ∧ WithoutAll d builder rest

end

section

variable {d : Char} {builder : Ref → Prop} [DecidablePred builder]

mutual

instance decidableWithout : ∀ value : Value, Decidable (value.Without d builder)
  | .text t => decidable_of_iff (Lacks d t) (by rw [Without])
  | .keyword w => decidable_of_iff (w ∈ Word.catalog) (by rw [Without])
  | .tuple items =>
      have := decidableWithoutAll items
      decidable_of_iff (WithoutAll d builder items) (by rw [Without])
  | .record _ fields =>
      have := decidableWithoutAll fields
      decidable_of_iff (WithoutAll d builder fields) (by rw [Without])
  | .builder ref => decidable_of_iff (builder ref) (by rw [Without])
  | .absent | .flag _ | .int _ | .real _ => .isTrue (by simp [Without])

instance decidableWithoutAll : ∀ values : List Value, Decidable (WithoutAll d builder values)
  | [] => .isTrue (by rw [WithoutAll]; trivial)
  | value :: rest =>
      have := decidableWithout value
      have := decidableWithoutAll rest
      decidable_of_iff (value.Without d builder ∧ WithoutAll d builder rest) (by rw [WithoutAll])

end

end

theorem withoutAll_iff {d : Char} {builder : Ref → Prop} {values : List Value} :
    WithoutAll d builder values ↔ ∀ v ∈ values, v.Without d builder := by
  induction values with
  | nil => simp [WithoutAll]
  | cons v rest ih => simp [WithoutAll, ih]

theorem Without.fields {d : Char} {builder : Ref → Prop} {form : Form} {fields : List Value}
    (h : (record form fields).Without d builder) : WithoutAll d builder fields := by
  simpa only [Without] using h

theorem Without.items {d : Char} {builder : Ref → Prop} {items : List Value}
    (h : (tuple items).Without d builder) : WithoutAll d builder items := by
  simpa only [Without] using h

/-- The words of all lists are plain. -/
theorem plain_of_catalog : ∀ w ∈ Word.catalog, Plain w.text := by
  simp only [Word.catalog, List.flatten_cons, List.flatten_nil, List.append_nil, List.forall_mem_append]
  repeat' apply And.intro
  all_goals exact plain_words

variable {d : Char} {builder : Ref → Prop} (hd : d ∈ delimiters)

include hd

theorem gives_readText {v : Value} (h : v.Without d builder) : Gives v.readText (Lacks d) := by
  cases v with
  | text t => exact gives_pure (by simpa only [Without] using h)
  | keyword w =>
      have hw : w ∈ Word.catalog := by simpa only [Without] using h
      exact gives_pure (lacks_of_plain hd (plain_of_catalog w hw))
  | _ => exact gives_refuse _ _

theorem gives_readTextOptional {v : Value} (h : v.Without d builder) :
    Gives v.readTextOptional fun t => LacksEach d t.toList := by
  cases v with
  | absent => exact gives_pure lacksEach_nil
  | _ => exact (gives_readText hd h).map fun t ht => lacksEach_singleton.mpr ht

theorem gives_readArgument (v : Value) (h : v.Without d builder) :
    Gives v.readArgument fun a => LacksEach d a.heldTexts := by
  have htext {α : Type} {x : Reading String} {f : String → α} {P : α → Prop}
      (hx : Gives x (Lacks d)) (hf : ∀ t, LacksEach d [t] → P (f t)) : Gives (f <$> x) P :=
    hx.map fun t ht => hf t (lacksEach_singleton.mpr ht)
  fun_induction readArgument v with
  | case1 | case4 | case5 | case6 => exact gives_pure lacksEach_nil
  | case2 w => exact htext (f := Argument.word) (gives_readText hd h) fun _ ht => ht
  | case3 t => exact htext (f := Argument.word) (gives_readText hd h) fun _ ht => ht
  | case7 fields => exact gives_map fun _ => lacksEach_nil
  | case8 amount unit =>
      exact gives_bind fun _ => gives_bind fun _ => gives_pure lacksEach_nil
  | case9 name => exact htext (gives_readText hd h.fields.1) fun _ ht => ht
  | case10 name number =>
      refine (gives_readText hd h.fields.1).bind fun t ht => gives_bind fun _ => gives_pure ?_
      exact lacksEach_singleton.mpr ht
  | case11 workspace ih => exact (ih h.fields.1).map fun _ ha => ha
  | case12 => exact gives_refuse _ _

theorem gives_readArgumentOptional {v : Value} (h : v.Without d builder) :
    Gives v.readArgumentOptional fun a => LacksEach d (Argument.heldOptional a) := by
  cases v with
  | absent => exact gives_pure lacksEach_nil
  | _ => exact (gives_readArgument hd _ h).map fun _ ha => ha

omit hd in
/-- Items that are read one by one hold what each of them holds. -/
theorem gives_readItems {α : Type} {read : Value → Reading α} {held : α → List String}
    (hread : ∀ v : Value, v.Without d builder → Gives (read v) fun a => LacksEach d (held a))
    {v : Value} (h : v.Without d builder) :
    Gives (v.readItems read) fun as => LacksEach d (as.flatMap held) := by
  cases v with
  | tuple items =>
      have hitems := withoutAll_iff.mp h.items
      exact (gives_mapM fun w hw => hread w (hitems w hw)).mono fun _ has =>
        lacksEach_flatMap.mpr has
  | _ => exact gives_refuse _ _

theorem gives_readArguments {v : Value} (h : v.Without d builder) :
    Gives (v.readItems readArgument) fun as => LacksEach d (as.flatMap Argument.heldTexts) :=
  gives_readItems (gives_readArgument hd) h

theorem gives_readCriterion {v : Value} (h : v.Without d builder) :
    Gives v.readCriterion fun c => LacksEach d c.heldTexts := by
  fun_cases readCriterion v with
  | case1 | case2 => exact gives_pure lacksEach_nil
  | case3 key value => exact (gives_readArgument hd value h.fields.1).map fun _ ha => ha
  | case4 => exact gives_refuse _ _

theorem gives_readFontOptions {v : Value} (h : v.Without d builder) :
    Gives v.readFontOptions fun o => LacksEach d
      ([o.style, o.variant, o.weight, o.stretch, o.gravity].flatMap Argument.heldOptional) := by
  fun_cases readFontOptions v with
  | case1 style variant weight stretch gravity =>
      obtain ⟨hstyle, hvariant, hweight, hstretch, hgravity, -⟩ := h.fields
      refine (gives_readArgumentOptional hd hstyle).bind fun _ hs => ?_
      refine (gives_readArgumentOptional hd hvariant).bind fun _ hv => ?_
      refine (gives_readArgumentOptional hd hweight).bind fun _ hw => ?_
      refine (gives_readArgumentOptional hd hstretch).bind fun _ ht => ?_
      refine (gives_readArgumentOptional hd hgravity).bind fun _ hg => gives_pure ?_
      simpa using ⟨hs, hv, hw, ht, hg⟩
  | case2 => exact gives_refuse _ _

theorem gives_readFontVariation {v : Value} (h : v.Without d builder) :
    Gives v.readFontVariation fun variation => LacksEach d [variation.axis, variation.value] := by
  fun_cases readFontVariation v with
  | case1 axis value =>
      refine (gives_readText hd h.items.1).bind fun _ haxis => ?_
      refine (gives_readText hd h.items.2.1).bind fun _ hvalue => gives_pure ?_
      exact lacksEach_cons.mpr ⟨haxis, lacksEach_singleton.mpr hvalue⟩
  | case2 => exact gives_refuse _ _

theorem gives_readFont {v : Value} (h : v.Without d builder) :
    Gives v.readFont fun f => LacksEach d f.heldTexts := by
  fun_cases readFont v with
  | case1 description pango =>
      have hdescription : Gives description.readFontDescription fun read =>
          LacksEach d (⟨read, false⟩ : Font).heldTexts := by
        replace h := h.fields.1
        fun_cases readFontDescription description with
        | case1 families options size variations =>
            obtain ⟨hfamilies, hoptions, -, hvariations, -⟩ := h.fields
            have hfamily (v : Value) (hv : v.Without d builder) :
                Gives v.readText fun t => LacksEach d [t] :=
              (gives_readText hd hv).mono fun _ ht => lacksEach_singleton.mpr ht
            have hread := gives_readItems hfamily hfamilies
            refine hread.bind fun _ hf => gives_bind fun _ => ?_
            have hvaried := gives_readItems (fun v hv => gives_readFontVariation hd hv) hvariations
            refine hvaried.bind fun _ hv => ?_
            refine (gives_readFontOptions hd hoptions).bind fun _ ho => gives_pure ?_
            rw [List.flatMap_singleton'] at hf
            exact lacksEach_append.mpr ⟨hf, lacksEach_append.mpr ⟨ho, hv⟩⟩
        | case2 => exact gives_refuse _ _
      exact hdescription.bind fun _ hread => gives_bind fun _ => gives_pure hread
  | case2 => exact gives_refuse _ _

theorem gives_readBorderStyle {v : Value} (h : v.Without d builder) :
    Gives v.readBorderStyle fun style => LacksEach d style.heldTexts := by
  fun_cases readBorderStyle v with
  | case1 word thickness =>
      refine gives_bind fun kind => ?_
      have hthickness := gives_readArgumentOptional hd h.fields.2.1
      cases kind with
      | normal | pixel => exact hthickness.bind fun _ ht => gives_pure ht
      | none | csd | toggle => exact gives_pure lacksEach_nil
  | case2 => exact gives_refuse _ _

theorem gives_readFocusTarget {v : Value} (h : v.Without d builder) :
    Gives v.readFocusTarget fun target => LacksEach d target.heldTexts := by
  fun_cases readFocusTarget v with
  | case1 direction sibling =>
      exact gives_bind fun _ => gives_bind fun _ => gives_pure lacksEach_nil
  | case2 output => exact (gives_readArgument hd output h.fields.1).map fun _ ha => ha
  | case3 => exact (gives_readArgument hd v h).map fun _ ha => ha

theorem gives_readLayoutTarget {v : Value} (h : v.Without d builder) :
    Gives v.readLayoutTarget fun target => LacksEach d target.heldTexts := by
  fun_cases readLayoutTarget v with
  | case1 => exact gives_pure lacksEach_nil
  | case2 options => exact (gives_readArguments hd (v := .tuple options) h.fields.1).map fun _ ha => ha
  | case3 cycle => exact (gives_readArgument hd cycle h.fields.1).map fun _ ha => ha
  | case4 => exact (gives_readArgument hd v h).map fun _ ha => ha

theorem gives_readMoveTarget {v : Value} (h : v.Without d builder) :
    Gives v.readMoveTarget fun target => LacksEach d target.heldTexts := by
  fun_cases readMoveTarget v with
  | case1 direction pixels =>
      exact gives_bind fun _ => gives_bind fun _ => gives_pure lacksEach_nil
  | case2 x y =>
      refine (gives_readArgument hd x h.fields.1).bind fun _ hx => ?_
      refine (gives_readArgument hd y h.fields.2.1).bind fun _ hy => gives_pure ?_
      exact lacksEach_append.mpr ⟨hx, hy⟩
  | case3 x y => exact gives_bind fun _ => gives_bind fun _ => gives_pure lacksEach_nil
  | case4 mark =>
      exact (gives_readText hd h.fields.1).map fun _ ht => lacksEach_singleton.mpr ht
  | case5 workspace noAutoBackAndForth =>
      refine (gives_readArgument hd workspace h.fields.1).bind fun _ ha => ?_
      exact gives_bind fun _ => gives_pure ha
  | case6 output | case7 output =>
      exact (gives_readArgument hd output h.fields.1).map fun _ ha => ha
  | case8 => exact (gives_readArgument hd v h).map fun _ ha => ha

theorem gives_readResize {v : Value} (h : v.Without d builder) :
    Gives v.readResize fun change => LacksEach d change.heldTexts := by
  fun_cases readResize v with
  | case1 action dimension amount =>
      refine gives_bind fun _ => gives_bind fun _ => ?_
      exact (gives_readArgument hd amount h.fields.2.2.1).bind fun _ ha => gives_pure ha
  | case2 width => exact (gives_readArgumentOptional hd h.fields.1).map fun _ ha => ha
  | case3 height => exact (gives_readArgument hd height h.fields.2.1).map fun _ ha => ha
  | case4 width height =>
      refine (gives_readArgument hd width h.fields.1).bind fun _ hwidth => ?_
      refine (gives_readArgument hd height h.fields.2.1).bind fun _ hheight => gives_pure ?_
      exact lacksEach_append.mpr ⟨hwidth, hheight⟩
  | case5 => exact gives_refuse _ _

/-- The texts that a sub-command holds are texts of the value that it is read from. -/
theorem gives_readSubCommandFields {form : SubCommandForm} {fields : List Value}
    (h : WithoutAll d builder fields) :
    Gives (readSubCommandFields form fields) fun c => LacksEach d c.heldTexts := by
  fun_cases readSubCommandFields form fields with
  | case1 style => exact (gives_readBorderStyle hd h.1).map fun _ ha => ha
  | case4 target => exact (gives_readFocusTarget hd h.1).map fun _ ha => ha
  | case9 target => exact (gives_readLayoutTarget hd h.1).map fun _ ha => ha
  | case12 target => exact (gives_readMoveTarget hd h.1).map fun _ ha => ha
  | case17 change => exact (gives_readResize hd h.1).map fun _ ha => ha
  | case13 comment => exact (gives_readArgumentOptional hd h.1).map fun _ ha => ha
  | case24 identifier => exact (gives_readArgumentOptional hd h.1).map fun _ ha => ha
  | case10 identifier mode =>
      refine (gives_readText hd h.1).bind fun _ ht => gives_bind fun _ => gives_pure ?_
      exact lacksEach_singleton.mpr ht
  | case16 newName oldName =>
      refine (gives_readText hd h.1).bind fun _ hnew => ?_
      refine (gives_readTextOptional hd h.2.1).bind fun _ hold => gives_pure ?_
      exact lacksEach_cons.mpr ⟨hnew, hold⟩
  | case22 kind value =>
      refine gives_bind fun _ => (gives_readText hd h.2.1).bind fun _ ht => gives_pure ?_
      exact lacksEach_singleton.mpr ht
  | case23 format =>
      exact (gives_readText hd h.1).map fun _ ht => lacksEach_singleton.mpr ht
  | case26 => exact gives_refuse _ _
  -- The other forms hold no text at all.
  | case2 | case8 | case15 | case18 => exact gives_pure lacksEach_nil
  | case5 | case14 => exact gives_bind fun _ => gives_bind fun _ => gives_pure lacksEach_nil
  | case6 =>
      exact gives_bind fun _ => gives_bind fun _ => gives_bind fun _ => gives_bind fun _ =>
        gives_pure lacksEach_nil
  | _ => exact gives_map fun _ => lacksEach_nil

theorem gives_readSubCommand {v : Value} (h : v.Without d builder) :
    Gives v.readSubCommand fun c => LacksEach d c.heldTexts := by
  cases v with
  | record form fields =>
      cases form with
      | subCommand form => exact gives_readSubCommandFields hd h.fields
      | _ => exact gives_refuse _ _
  | _ => exact gives_refuse _ _

theorem gives_readBindFlags {v : Value} (h : v.Without d builder) :
    Gives v.readBindFlags fun flags => LacksEach d flags.inputDevice.toList := by
  fun_cases readBindFlags v with
  | case1 =>
      iterate 6 refine gives_bind fun _ => ?_
      refine (gives_readTextOptional hd h.fields.2.2.2.2.2.2.1).bind fun _ hdevice => ?_
      exact gives_bind fun _ => gives_bind fun _ => gives_bind fun _ => gives_pure hdevice
  | case2 => exact gives_refuse _ _

theorem gives_readSymKey {v : Value} (h : v.Without d builder) :
    Gives v.readSymKey fun key => Lacks d key.key := by
  fun_cases readSymKey v with
  | case1 key modifiers group =>
      refine (gives_readText hd h.fields.1).bind fun _ hkey => ?_
      exact gives_bind fun _ => gives_bind fun _ => gives_pure hkey
  | case2 => exact gives_refuse _ _

theorem gives_readClientColors {v : Value} (h : v.Without d builder) :
    Gives v.readClientColors fun colors => LacksEach d colors.heldTexts := by
  fun_cases readClientColors v with
  | case1 state border background label indicator childBorder shown =>
      obtain ⟨-, hborder, hbackground, hlabel, hindicator, hchild, -⟩ := h.fields
      have hshown : shown.Without d builder := by
        cases indicator <;> first | exact hchild | exact trivial
      refine gives_bind fun _ => ?_
      refine (gives_readArgument hd border hborder).bind fun _ hb => ?_
      refine (gives_readArgument hd background hbackground).bind fun _ hg => ?_
      refine (gives_readArgument hd label hlabel).bind fun _ hl => ?_
      refine (gives_readArgumentOptional hd hindicator).bind fun _ hi => ?_
      refine (gives_readArgumentOptional hd hshown).bind fun _ hc => gives_pure ?_
      simpa [ClientColors.heldTexts] using ⟨hb, hg, hl, hi, hc⟩
  | case2 => exact gives_refuse _ _

theorem gives_readConfigLineFields {form : ConfigLineForm} {fields : List Value}
    (h : WithoutAll d builder fields) :
    Gives (readConfigLineFields form fields) fun line => LacksEach d line.heldTexts := by
  fun_cases readConfigLineFields form fields with
  | case1 identifier subcommands =>
      refine (gives_readArgumentOptional hd h.1).bind fun _ hidentifier => ?_
      refine (gives_readArguments hd h.2.1).bind fun _ hsubcommands => gives_pure ?_
      exact lacksEach_append.mpr ⟨hidentifier, hsubcommands⟩
  | case3 line | case4 line | case5 line =>
      exact (gives_readText hd h.1).map fun _ ht => lacksEach_singleton.mpr ht
  | case8 => exact gives_refuse _ _
  | _ => exact gives_map fun _ => lacksEach_nil

section Commands

variable {texts : Ref → String}
  (hclause : ∀ i, builder (.group i) → Lacks d (texts (.group i)))
  (hunit : ∀ i, builder (.unit i) → Lacks d (texts (.unit i)))

include hclause

omit hd in
theorem gives_readClause {v : Value} (h : v.Without d builder) :
    Gives (v.readClause texts) (Lacks d) := by
  fun_cases readClause texts v with
  | case1 i => exact gives_pure (hclause i (by simpa only [Without] using h))
  | case2 => exact gives_refuse _ _

/-- The texts that a top-level command holds are texts of the value that it is read from, the texts of
the groups it names, and the text of the command it runs. -/
theorem gives_readTopLevelFields {form : TopLevelForm} {fields : List Value}
    (h : WithoutAll d builder fields) {command : Reading String} (hcommand : Gives command (Lacks d)) :
    Gives (readTopLevelFields texts command form fields) fun c => LacksEach d c.heldTexts := by
  fun_cases readTopLevelFields texts command form fields with
  -- Rules
  | case1 clause target | case2 clause target =>
      refine (gives_readClause hclause h.1).bind fun _ hc => ?_
      refine (gives_readArgument hd target h.2.1).bind fun _ ht => gives_pure ?_
      exact lacksEach_cons.mpr ⟨hc, ht⟩
  | case22 clause command' =>
      refine (gives_readClause hclause h.1).bind fun _ hc => hcommand.bind fun _ ht => gives_pure ?_
      exact lacksEach_cons.mpr ⟨hc, lacksEach_singleton.mpr ht⟩
  | case33 clause =>
      exact (gives_readClause hclause h.1).map fun _ ht => lacksEach_singleton.mpr ht
  -- Bindings
  | case3 key command' flags =>
      refine (gives_readBindFlags hd h.2.2.1).bind fun _ hf => ?_
      refine (gives_readSymKey hd h.1).bind fun _ hk => hcommand.bind fun _ ht => gives_pure ?_
      exact lacksEach_cons.mpr ⟨hk, lacksEach_cons.mpr ⟨ht, hf⟩⟩
  | case4 key command' flags =>
      refine (gives_readBindFlags hd h.2.2.1).bind fun _ hf => ?_
      refine gives_bind fun _ => hcommand.bind fun _ ht => gives_pure ?_
      exact lacksEach_cons.mpr ⟨ht, hf⟩
  | case5 switch state command' flags =>
      refine gives_bind fun _ => gives_bind fun _ => gives_bind fun _ => ?_
      exact hcommand.bind fun _ ht => gives_pure (lacksEach_singleton.mpr ht)
  | case41 key flags =>
      refine (gives_readSymKey hd h.1).bind fun _ hk => ?_
      refine (gives_readBindFlags hd h.2.1).bind fun _ hf => gives_pure ?_
      exact lacksEach_cons.mpr ⟨hk, hf⟩
  | case42 code flags =>
      exact gives_bind fun _ => (gives_readBindFlags hd h.2.1).bind fun _ hf => gives_pure hf
  -- Looks
  | case7 fields =>
      have hfields : (record (.topLevel .clientColors) fields).Without d builder := by
        simpa only [Without] using h
      exact (gives_readClientColors hd hfields).map fun _ ha => ha
  | case8 style | case9 style => exact (gives_readBorderStyle hd h.1).map fun _ ha => ha
  | case18 font => exact (gives_readFont hd h.1).map fun _ ha => ha
  | case21 horizontal vertical =>
      exact gives_bind fun _ => (gives_readArgumentOptional hd h.2.1).bind fun _ ha => gives_pure ha
  | case14 modifier mode =>
      exact (gives_readArgumentOptional hd h.1).bind fun _ ha => gives_bind fun _ => gives_pure ha
  | case6 argument | case43 argument => exact (gives_readArgument hd argument h.1).map fun _ ha => ha
  -- Lines and names
  | case10 line | case11 line | case30 line =>
      exact (gives_readText hd h.1).map fun _ ht => lacksEach_singleton.mpr ht
  | case35 name value =>
      refine (gives_readText hd h.1).bind fun _ hn => ?_
      refine (gives_readText hd h.2.1).bind fun _ hv => gives_pure ?_
      exact lacksEach_cons.mpr ⟨hn, lacksEach_singleton.mpr hv⟩
  | case25 name settings | case26 name settings | case27 name settings =>
      refine (gives_readText hd h.1).bind fun _ hn => ?_
      refine (gives_readArguments hd h.2.1).bind fun _ hs => gives_pure ?_
      exact lacksEach_cons.mpr ⟨hn, hs⟩
  | case31 name commands pangoMarkup =>
      refine (gives_readText hd h.1).bind fun _ hn => ?_
      refine (gives_readArguments hd h.2.1).bind fun _ hs => gives_bind fun _ => gives_pure ?_
      exact lacksEach_cons.mpr ⟨hn, hs⟩
  -- Workspaces
  | case44 target side amount =>
      refine (gives_readArgument hd target h.1).bind fun _ ha => ?_
      exact gives_bind fun _ => gives_bind fun _ => gives_pure ha
  | case45 target outputs =>
      refine (gives_readArgument hd target h.1).bind fun _ ht => ?_
      refine (gives_readArguments hd h.2.1).bind fun _ ho => gives_pure ?_
      exact lacksEach_append.mpr ⟨ht, ho⟩
  | case47 => exact gives_refuse _ _
  -- The other forms hold no text at all.
  | case12 | case13 | case23 | case24 | case40 =>
      exact gives_bind fun _ => gives_bind fun _ => gives_pure lacksEach_nil
  | _ => exact gives_map fun _ => lacksEach_nil

variable (hcomma : d ≠ ',')

include hunit hcomma

set_option linter.unusedSectionVars false in
mutual

/-- What a command is written as lacks a delimiter that its texts and the builders it names lack. -/
theorem gives_commandText : ∀ v : Value, v.Without d builder →
    Gives (v.commandText texts) (Lacks d)
  | .builder (.unit i), h => gives_pure (hunit i (by simpa only [Without] using h))
  | .record .raw fields, h => by
      rcases fields with _ | ⟨line, _ | ⟨_, _⟩⟩
      case cons.nil => exact gives_readText hd h.fields.1
      all_goals exact gives_refuse _ _
  | .record (.subCommand _) _, h =>
      (gives_readSubCommandFields hd h.fields).map fun c hc => c.lacks_render hd hc
  | .record (.configLine _) _, h =>
      (gives_readConfigLineFields hd h.fields).map fun line hline => line.lacks_render hd hline
  | .record (.topLevel form) fields, h => by
      have hcommand := gives_embeddedText form fields h.fields
      exact (gives_readTopLevelFields hd hclause h.fields hcommand).map
        fun c hc => c.lacks_render hd hcomma hc
  | .record (.argument _) _, _ => gives_refuse _ _
  | .record (.criterion _) _, _ => gives_refuse _ _
  | .record (.font _) _, _ => gives_refuse _ _
  | .record (.window _) _, _ => gives_refuse _ _
  | .record (.binding _) _, _ => gives_refuse _ _
  | .builder (.group _), _ => gives_refuse _ _
  | .builder (.batch _), _ => gives_refuse _ _
  | .absent, _ => gives_refuse _ _
  | .flag _, _ => gives_refuse _ _
  | .int _, _ => gives_refuse _ _
  | .real _, _ => gives_refuse _ _
  | .text _, _ => gives_refuse _ _
  | .keyword _, _ => gives_refuse _ _
  | .tuple _, _ => gives_refuse _ _

theorem gives_embeddedText (form : TopLevelForm) : ∀ fields : List Value,
    WithoutAll d builder fields → Gives (embeddedText texts form fields) (Lacks d)
  | [], _ => gives_refuse _ _
  | value :: rest, h => by
      cases form with
      | bindsym | bindcode | forWindow => exact gives_embeddedAt 0 rest h.2
      | bindswitch => exact gives_embeddedAt 1 rest h.2
      | _ => exact gives_refuse _ _

theorem gives_embeddedAt : ∀ (index : Nat) (fields : List Value),
    WithoutAll d builder fields → Gives (embeddedAt texts index fields) (Lacks d)
  | _, [], _ => by
      simp only [embeddedAt]
      exact gives_refuse _ _
  | 0, value :: _, h => gives_commandText value h.1
  | index + 1, _ :: rest, h => gives_embeddedAt index rest h.2

end

end Commands

end Value

end SwayControl
