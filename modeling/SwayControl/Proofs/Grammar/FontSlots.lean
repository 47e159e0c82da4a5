import SwayControl.Proofs.Builder.Typing
import SwayControl.Proofs.Grammar.Pieces

/-!
Font descriptions read back from their text. Of the eight slots only the first has spaces in it, those in
the names of families, so the last seven spaces part the slots. Commas part the families in the first slot
and the variations in the last. Of a size only the text of its number is found again, as two numbers may be
written alike.
-/

namespace SwayControl

/-- The five style options of a font, each a word of its own list or absent. -/
structure FontStyles where
  style : Option FontStyle
  variant : Option FontVariant
  weight : Option FontWeight
  stretch : Option FontStretch
  gravity : Option FontGravity
deriving DecidableEq, Repr

/-- The parts of a description, with sizes of some type. -/
structure FontParts (Size : Type) where
  families : List String
  styles : FontStyles
  size : Option Size
  variations : List FontVariation
deriving DecidableEq, Repr

/-- A word as an argument. -/
def wordArgument {α : Type} [Keyword α] (a : α) : Argument := .word (Keyword.text a)

/-- The style options as the arguments of their slots. -/
def FontStyles.options (s : FontStyles) : FontOptions :=
  ⟨s.style.map wordArgument, s.variant.map wordArgument, s.weight.map wordArgument,
    s.stretch.map wordArgument, s.gravity.map wordArgument⟩

/-- What is read of a size: the text of its number, and whether it counts pixels. -/
def FontSize.written (s : FontSize) : String × Bool := (s.value.render, s.pixels)

namespace FontParts

/-- The parts as a description. -/
def description (f : FontParts FontSize) : FontDescription :=
  ⟨f.families, f.styles.options, f.size, f.variations⟩

/-- The parts with the text of the size in its place. -/
def written (f : FontParts FontSize) : FontParts (String × Bool) :=
  ⟨f.families, f.styles, f.size.map FontSize.written, f.variations⟩

/-- Whether there is a family, no family has a comma in its name, and no variation has the characters that
part it from others and its axis from its value. -/
structure Separable (f : FontParts FontSize) : Prop where
  nonempty : f.families ≠ []
  family : LacksEach ',' f.families
  axis : ∀ v ∈ f.variations, Lacks ' ' v.axis ∧ Lacks ',' v.axis ∧ Lacks '\x60' v.axis
  value : ∀ v ∈ f.variations, Lacks ' ' v.value ∧ Lacks ',' v.value

end FontParts

/-! ### Readers of the slots -/

/-- The number of a size as it is written, and whether pixels are marked behind it. -/
def writtenSize? (t : String) : Option (String × Bool) :=
  match piecesAt 'p' t with
  | [number] => some (number, false)
  | [number, "x"] => some (number, true)
  | _ => none

/-- A variation: the axis stands between the first two backquotes, and the value behind the equals sign
that follows them. -/
def FontVariation.ofText? (t : String) : Option FontVariation :=
  match firstPieces '\x60' 2 t with
  | [_, axis, marked] => FontVariation.mk axis <$> behindMark? "=" marked
  | _ => none

/-- The variations in a slot, none if it is empty. -/
def variationsOf? (slot : String) : Option (List FontVariation) :=
  if slot = "" then some [] else (piecesAt ',' slot).mapM FontVariation.ofText?

/-- The parts of a description from its eight slots. -/
def FontParts.ofPieces? : List String → Option (FontParts (String × Bool))
  | [families, style, variant, weight, stretch, gravity, size, variations] => do
    let styles : FontStyles := ⟨← slotOf? Keyword.ofText? style, ← slotOf? Keyword.ofText? variant,
      ← slotOf? Keyword.ofText? weight, ← slotOf? Keyword.ofText? stretch,
      ← slotOf? Keyword.ofText? gravity⟩
    return ⟨piecesAt ',' families, styles, ← slotOf? writtenSize? size, ← variationsOf? variations⟩
  | _ => none

/-! ### Slots -/

theorem renderOptional_word {α : Type} [Keyword α] (a : Option α) :
    Argument.renderOptional (a.map wordArgument) = a.elim "" Keyword.text := by
  cases a <;> rfl

/-- No letter of the mark of pixels is in a number, so the mark is told apart from it. -/
theorem writtenSize?_render (s : FontSize) : writtenSize? s.render = some s.written := by
  obtain ⟨number, pixels⟩ := s
  have hnumber : Lacks 'p' number.render := number.writtenWith_render.lacks (by decide)
  cases pixels with
  | false =>
      have htext : FontSize.render ⟨number, false⟩ = number.render := String.append_empty
      simp only [writtenSize?, htext, piecesAt_of_lacks hnumber, FontSize.written]
  | true =>
      have hpieces : piecesAt 'p' ("p".intercalate [number.render, "x"]) = [number.render, "x"] :=
        piecesAt_intercalate (by decide) (List.cons_ne_nil _ _)
          (lacksEach_cons.mpr ⟨hnumber, lacksEach_singleton.mpr (by decide)⟩)
      have htext : FontSize.render ⟨number, true⟩ = "p".intercalate [number.render, "x"] := by
        rw [String.intercalate_cons_cons, String.intercalate_singleton, String.append_assoc]
        rfl
      simp only [writtenSize?, htext, hpieces, FontSize.written]

theorem FontSize.render_ne_empty (s : FontSize) : s.render ≠ "" :=
  fun hempty => s.value.render_ne_empty (String.append_eq_empty_iff.mp hempty).1

theorem FontSize.lacks_space (s : FontSize) : Lacks ' ' s.render :=
  lacks_append.mpr ⟨s.value.writtenWith_render.lacks (by decide), lacks_tokenIf s.pixels (by decide)⟩

theorem FontVariation.render_eq (v : FontVariation) :
    v.render = "\x60".intercalate (["", v.axis] ++ ["=" ++ v.value]) := by
  simp only [FontVariation.render, List.cons_append, List.nil_append, String.intercalate_cons_cons,
    String.intercalate_singleton, String.empty_append]
  have hmark : ("\x60=" : String) = "\x60" ++ "=" := by decide
  rw [hmark]
  simp only [String.append_assoc]

theorem FontVariation.ofText?_render {v : FontVariation} (h : Lacks '\x60' v.axis) :
    FontVariation.ofText? v.render = some v := by
  have hpieces : firstPieces '\x60' 2 v.render = ["", v.axis, "=" ++ v.value] := by
    rw [FontVariation.render_eq]
    exact firstPieces_concat (by decide) (lacksEach_cons.mpr ⟨lacks_empty, lacksEach_singleton.mpr h⟩)
  simp only [FontVariation.ofText?, hpieces, behindMark?_append]
  rfl

theorem FontVariation.render_ne_empty (v : FontVariation) : v.render ≠ "" := by
  simp [FontVariation.render, String.append_eq_empty_iff]

/-- The slot of the variations is empty only if there are none. -/
theorem variationsOf?_intercalate {variations : List FontVariation}
    (haxis : ∀ v ∈ variations, Lacks ',' v.axis ∧ Lacks '\x60' v.axis)
    (hvalue : ∀ v ∈ variations, Lacks ',' v.value) :
    variationsOf? (",".intercalate (variations.map FontVariation.render)) = some variations := by
  cases variations with
  | nil => rfl
  | cons first rest =>
      have hlacks : LacksEach ',' ((first :: rest).map FontVariation.render) := by
        intro t ht
        obtain ⟨v, hv, rfl⟩ := List.mem_map.mp ht
        exact FontVariation.lacks_render (by decide) (by decide) (haxis v hv).1 (hvalue v hv)
      have hpieces : piecesAt ',' (",".intercalate ((first :: rest).map FontVariation.render)) =
          (first :: rest).map FontVariation.render :=
        piecesAt_intercalate (by decide) (mt List.map_eq_nil_iff.mp (List.cons_ne_nil first rest)) hlacks
      have hfilled : ",".intercalate ((first :: rest).map FontVariation.render) ≠ "" := by
        intro hempty
        rw [hempty, piecesAt_of_lacks lacks_empty, List.map_cons] at hpieces
        exact first.render_ne_empty (List.cons.inj hpieces).1.symm
      rw [variationsOf?, if_neg hfilled, hpieces]
      exact mapM_read fun v hv => FontVariation.ofText?_render (haxis v hv).2

namespace FontParts

variable {f f' : FontParts FontSize}

theorem lacksEach_slots (h : f.Separable) : LacksEach ' ' f.description.slots.tail := by
  have hword {α : Type} [Keyword α] [SlotKeyword α] (a : Option α) :
      Lacks ' ' (Argument.renderOptional (a.map wordArgument)) := by
    rw [renderOptional_word]
    exact lacks_elim (fun a => (SlotKeyword.filled a).2) a
  have hsize : Lacks ' ' (f.size.elim "" FontSize.render) := lacks_elim FontSize.lacks_space f.size
  have hvariations : Lacks ' ' (",".intercalate (f.variations.map FontVariation.render)) := by
    apply lacks_intercalate (by decide)
    intro t ht
    obtain ⟨v, hv, rfl⟩ := List.mem_map.mp ht
    exact FontVariation.lacks_render (by decide) (by decide) (h.axis v hv).1 (h.value v hv).1
  exact List.forall_iff_forall_mem.mp
    ⟨hword f.styles.style, hword f.styles.variant, hword f.styles.weight, hword f.styles.stretch,
      hword f.styles.gravity, hsize, hvariations⟩

/-- The last seven spaces part the slots, as only families have spaces in them. -/
theorem lastPieces_render (h : f.Separable) :
    lastPieces ' ' 7 f.description.render = f.description.slots :=
  lastPieces_cons (by decide) (lacksEach_slots h)

theorem ofPieces?_slots (h : f.Separable) : ofPieces? f.description.slots = some f.written := by
  have hfamilies : piecesAt ',' (",".intercalate f.families) = f.families :=
    piecesAt_intercalate (by decide) h.nonempty h.family
  have hsize : slotOf? writtenSize? (f.size.elim "" FontSize.render) =
      some (f.size.map FontSize.written) :=
    slotOf?_elim (fun size => ⟨size.render_ne_empty, writtenSize?_render size⟩) f.size
  have hvariations := variationsOf?_intercalate (fun v hv => (h.axis v hv).2) fun v hv => (h.value v hv).2
  have hslots : f.description.slots = [",".intercalate f.families, f.styles.style.elim "" Keyword.text,
      f.styles.variant.elim "" Keyword.text, f.styles.weight.elim "" Keyword.text,
      f.styles.stretch.elim "" Keyword.text, f.styles.gravity.elim "" Keyword.text,
      f.size.elim "" FontSize.render, ",".intercalate (f.variations.map FontVariation.render)] := by
    simp only [FontDescription.slots, description, FontStyles.options, FontOptions.slots, List.map_cons,
      List.map_nil, renderOptional_word]
    rfl
  rw [hslots]
  simp only [ofPieces?, slotOf?_keyword, hsize, hvariations, hfamilies]
  rfl

/-- Descriptions whose parts are read back alike differ at most in the number of a size, and those numbers
are written alike. -/
theorem written_eq_iff : f.written = f'.written ↔ f.families = f'.families ∧ f.styles = f'.styles ∧
    Option.Rel (fun a b => a.value.render = b.value.render ∧ a.pixels = b.pixels) f.size f'.size ∧
      f.variations = f'.variations := by
  obtain ⟨families, styles, size, variations⟩ := f
  obtain ⟨families', styles', size', variations'⟩ := f'
  have hsize : size.map FontSize.written = size'.map FontSize.written ↔
      Option.Rel (fun a b => a.value.render = b.value.render ∧ a.pixels = b.pixels) size size' := by
    cases size <;> cases size' <;> simp [FontSize.written, Option.rel_some_some]
  simp only [written, FontParts.mk.injEq, hsize]

end FontParts

/-! ### Descriptions as values -/

/-- A style option that is a word of its list is read as that word. -/
theorem readArgumentOptional_keyword {α : Type} [Keyword α]
    {distinct : ((Keyword.words α).map Word.text).Nodup} {v : Value}
    (h : (Kind.optional (.keyword α distinct)).Fits v) :
    ∃ a : Option α, v.readArgumentOptional = .ok (a.map wordArgument) := by
  rcases h with rfl | ⟨w, hw, rfl⟩
  · exact ⟨none, rfl⟩
  · obtain ⟨a, -, rfl⟩ := List.mem_map.mp hw
    exact ⟨some a, rfl⟩

theorem readFontOptions_typed {builder : Ref → Prop} {v : Value}
    (hfits : (Kind.record [.font .options]).Fits v) (htyped : v.Typed builder) :
    ∃ styles : FontStyles, v.readFontOptions = .ok styles.options := by
  obtain ⟨form, hform, fields, rfl⟩ := hfits
  obtain rfl := List.mem_singleton.mp hform
  obtain _ | ⟨hstyle, _ | ⟨hvariant, _ | ⟨hweight, _ | ⟨hstretch, _ | ⟨hgravity, _ | _⟩⟩⟩⟩⟩ := htyped.fits
  obtain ⟨style, hstyle⟩ := readArgumentOptional_keyword hstyle
  obtain ⟨variant, hvariant⟩ := readArgumentOptional_keyword hvariant
  obtain ⟨weight, hweight⟩ := readArgumentOptional_keyword hweight
  obtain ⟨stretch, hstretch⟩ := readArgumentOptional_keyword hstretch
  obtain ⟨gravity, hgravity⟩ := readArgumentOptional_keyword hgravity
  refine ⟨⟨style, variant, weight, stretch, gravity⟩, ?_⟩
  simp only [Value.readFontOptions, hstyle, hvariant, hweight, hstretch, hgravity]
  rfl

/-- Every well-typed description is read as one whose style options are words of their lists. -/
theorem FontParts.of_typed {builder : Ref → Prop} {fields : List Value}
    (h : (Value.record (.font .description) fields).Typed builder) :
    ∃ f : FontParts FontSize,
      (Value.record (.font .description) fields).readFontDescription = .ok f.description := by
  have hmatched := (h.matched (.record [.font .description]) ⟨_, List.mem_singleton_self _, fields, rfl⟩).fields.2
  obtain _ | ⟨families, _ | ⟨options, _ | ⟨size, _ | ⟨variations, _ | _⟩⟩⟩⟩ := hmatched
  obtain ⟨names, -, hnames, -⟩ := families.readItems fun h => h.readText
  obtain ⟨read, -, hsize, -⟩ := size.readFontSizeOptional
  obtain ⟨settings, -, hsettings, -⟩ := variations.readItems fun h => h.readFontVariation
  obtain ⟨styles, hstyles⟩ := readFontOptions_typed options.fits options.typed
  refine ⟨⟨names, styles, read, settings⟩, ?_⟩
  simp only [Value.readFontDescription, hnames, hsize, hsettings, hstyles]
  rfl

/-- Font descriptions are read back from their fixed slots. Where there is a family, no family has a comma
and no variation has one of the characters that part variations, the last seven spaces part eight slots,
and these give the families, the five style options, the text of the size with its unit, and the variations
again. So two such descriptions of one text differ at most in numbers that are written alike. All
well-typed descriptions are written as such descriptions. -/
theorem fontDescriptions_read_back :
    (∀ f : FontParts FontSize, f.Separable →
      lastPieces ' ' 7 f.description.render = f.description.slots ∧ f.description.slots.length = 8 ∧
        FontParts.ofPieces? (lastPieces ' ' 7 f.description.render) = some f.written) ∧
    (∀ f f' : FontParts FontSize, f.Separable → f'.Separable →
      f.description.render = f'.description.render →
        f.families = f'.families ∧ f.styles = f'.styles ∧
          Option.Rel (fun a b => a.value.render = b.value.render ∧ a.pixels = b.pixels) f.size f'.size ∧
          f.variations = f'.variations) ∧
    ∀ (builder : Ref → Prop) (fields : List Value),
      (Value.record (.font .description) fields).Typed builder → ∃ f : FontParts FontSize,
        (Value.record (.font .description) fields).readFontDescription = .ok f.description := by
  have hread (f : FontParts FontSize) (h : f.Separable) :
      FontParts.ofPieces? (lastPieces ' ' 7 f.description.render) = some f.written := by
    rw [FontParts.lastPieces_render h, FontParts.ofPieces?_slots h]
  refine ⟨fun f h => ⟨FontParts.lastPieces_render h, rfl, hread f h⟩, fun f f' h h' htext => ?_,
    fun builder fields => FontParts.of_typed⟩
  have hsame := hread f h
  rw [htext, hread f' h'] at hsame
  exact FontParts.written_eq_iff.mp (Option.some.inj hsame).symm

/-- A font of two families with a space in each name, two style options and two variations. -/
def codeFont (size : Option FontSize) : FontParts FontSize :=
  ⟨["Fira Code", "Noto Sans"], ⟨some .italic, none, some .bold, none, none⟩, size,
    [⟨"wght", "500"⟩, ⟨"slnt", "-8"⟩]⟩

theorem codeFont_separable (size : Option FontSize) : (codeFont size).Separable where
  nonempty := List.cons_ne_nil _ _
  family := lacksEach_cons.mpr ⟨by decide, lacksEach_singleton.mpr (by decide)⟩
  axis := List.forall_mem_cons.mpr ⟨by decide, List.forall_mem_singleton.mpr (by decide)⟩
  value := List.forall_mem_cons.mpr ⟨by decide, List.forall_mem_singleton.mpr (by decide)⟩

/-- The fields of a bare description of one family. -/
def bareFamily : List Value := [.tuple [.text "Fira Code"], noFontOptions, .absent, .tuple []]

theorem bareFamily_typed (builder : Ref → Prop) :
    (Value.record (.font .description) bareFamily).Typed builder := by
  have hoptions : noFontOptions.Typed builder := Form.typed_defaults.2.2.2
  have hfamily : (Kind.tuple .text).Fits (.tuple [.text "Fira Code"]) :=
    ⟨_, rfl, List.forall_mem_singleton.mpr (Or.inl ⟨_, rfl⟩)⟩
  have hnone : (Kind.tuple (.pair .text .text)).Fits (.tuple []) := ⟨_, rfl, List.forall_mem_nil _⟩
  refine Value.typed_record (.cons hfamily (.cons ⟨_, List.mem_singleton_self _, _, rfl⟩
    (.cons (Or.inl rfl) (.cons hnone .nil)))) rfl ?_
  exact List.forall_mem_cons.mpr ⟨Value.typed_tuple (List.forall_mem_singleton.mpr trivial),
    List.forall_mem_cons.mpr ⟨hoptions, List.forall_mem_cons.mpr ⟨trivial,
      List.forall_mem_singleton.mpr (Value.typed_tuple (List.forall_mem_nil _))⟩⟩⟩

/-- A size of zero is written alike as an integer and as a floating-point number, but is told apart from no
size. -/
theorem fontDescriptions_read_back_code :
    (codeFont (some ⟨.int 0, true⟩)).description.render =
      "Fira Code,Noto Sans Italic  Bold   0px \x60wght\x60=500,\x60slnt\x60=-8" ∧
    FontParts.ofPieces? (lastPieces ' ' 7 (codeFont (some ⟨.int 0, true⟩)).description.render) =
      some (codeFont (some ⟨.int 0, true⟩)).written ∧
    (codeFont (some ⟨.int 0, true⟩)).description.render =
      (codeFont (some ⟨.real (Binary64.zero true), true⟩)).description.render ∧
    (codeFont (some ⟨.int 0, true⟩)).description.render ≠ (codeFont none).description.render ∧
    ∃ f : FontParts FontSize,
      (Value.record (.font .description) bareFamily).readFontDescription = .ok f.description := by
  obtain ⟨hparts, hsame, hvalues⟩ := fontDescriptions_read_back
  refine ⟨by decide +kernel, (hparts _ (codeFont_separable _)).2.2, by decide +kernel, fun htext => ?_,
    hvalues (fun _ => False) bareFamily (bareFamily_typed _)⟩
  obtain ⟨-, -, hsize, -⟩ := hsame _ _ (codeFont_separable _) (codeFont_separable _) htext
  cases hsize

end SwayControl
