import SwayControl.Proofs.Builder.Typing

/-!
The builders that values name. A well-typed value names a builder only where a binding or a rule has its
clause or its command: no other field takes one. Whether values are the same, and whether they have
lasting content, depends on the builders that they name and on nothing else of the store.
-/

namespace SwayControl

/-! ### Kinds that take no builder -/

/-- Whether the records of a form hold no builder. Bindings and rules do. -/
def Form.plain : Form → Bool
  | .topLevel form => !form.targets && !form.embeds
  | _ => true

/-- Whether the values of a kind name no builder. -/
def Kind.plain : Kind → Bool
  | .group | .unit | .entry | .command => false
  | .record forms => forms.all Form.plain
  | .tuple item => item.plain
  | .pair first second | .either first second => first.plain && second.plain
  | .absent | .text | .integer | .number | .flag | .word _ _ | .criterion | .subCommand => true

theorem Form.plain_keptKinds {form : Form} (h : form.plain = true) :
    ∀ kind ∈ form.keptKinds, kind.plain = true := by
  rw [← List.all_eq_true]
  cases form with
  | topLevel f => cases f <;> first | rfl | cases h
  | argument f | font f | window f | subCommand f | binding f | configLine f => cases f <;> rfl
  | criterion f =>
      cases f with
      | property key => cases key <;> rfl
      | _ => rfl
  | raw => rfl

namespace Kind

theorem plain_builder {kind : Kind} {ref : Ref} (h : kind.plain = true) :
    ¬ kind.Fits (.builder ref) := by
  induction kind with
  | either left right ihl ihr =>
      obtain ⟨hl, hr⟩ := Bool.and_eq_true_iff.mp h
      exact fun hfits => hfits.elim (ihl hl) (ihr hr)
  | _ => simp_all [plain, Fits, Value.IsText, Value.IsSubCommand]

theorem plain_record {kind : Kind} {form : Form} {fields : List Value} (h : kind.plain = true)
    (hfits : kind.Fits (.record form fields)) : form.plain = true := by
  induction kind with
  | record forms =>
      obtain ⟨form', hmem, _, heq⟩ := hfits
      cases heq
      exact List.all_eq_true.mp h _ hmem
  | criterion | subCommand =>
      obtain ⟨_, _, heq⟩ := hfits
      cases heq
      rfl
  | either left right ihl ihr =>
      obtain ⟨hl, hr⟩ := Bool.and_eq_true_iff.mp h
      exact hfits.elim (ihl hl) (ihr hr)
  | _ => simp_all [plain, Fits, Value.IsText]

theorem plain_tuple {kind : Kind} {items : List Value} (h : kind.plain = true)
    (hfits : kind.Fits (.tuple items)) : ∀ i ∈ items, ∃ kind' : Kind, kind'.plain = true ∧ kind'.Fits i := by
  induction kind with
  | tuple item =>
      obtain ⟨_, heq, hitems⟩ := hfits
      cases heq
      exact fun i hi => ⟨item, h, hitems i hi⟩
  | pair first second =>
      obtain ⟨hfirst, hsecond⟩ := Bool.and_eq_true_iff.mp h
      obtain ⟨a, b, heq, ha, hb⟩ := hfits
      cases heq
      simpa only [List.forall_mem_cons, List.not_mem_nil, false_implies, implies_true, and_true]
        using ⟨⟨first, hfirst, ha⟩, ⟨second, hsecond, hb⟩⟩
  | either left right ihl ihr =>
      obtain ⟨hl, hr⟩ := Bool.and_eq_true_iff.mp h
      exact hfits.elim (ihl hl) (ihr hr)
  | _ => simp_all [plain, Fits, Value.IsText, Value.IsSubCommand]

end Kind

namespace Value

variable {P Q : Ref → Prop}

mutual

/-- What counts for builders is of no matter to a well-typed value of a kind that takes none. -/
theorem Typed.of_plain : ∀ (kind : Kind) (v : Value), kind.plain = true → kind.Fits v →
    v.Typed P → v.Typed Q
  | _, .tuple items, hkind, hfits, h => by
      simp only [Typed] at h ⊢
      exact TypedAll.of_plain items (Kind.plain_tuple hkind hfits) h
  | _, .record form fields, hkind, hfits, h => by
      simp only [Typed] at h ⊢
      have hform := Form.plain_keptKinds (Kind.plain_record hkind hfits)
      refine ⟨h.1, h.2.1, TypedAll.of_plain fields (fun v hv => ?_) h.2.2⟩
      obtain ⟨i, hi, rfl⟩ := List.getElem_of_mem hv
      have hi' : i < form.keptKinds.length := h.1.length_eq ▸ hi
      exact ⟨form.keptKinds[i], hform _ (List.getElem_mem hi'), h.1.get hi' hi⟩
  | _, .builder _, hkind, hfits, _ => absurd hfits (Kind.plain_builder hkind)
  | _, .absent, _, _, _ => trivial
  | _, .flag _, _, _, _ => trivial
  | _, .int _, _, _, _ => trivial
  | _, .real _, _, _, _ => trivial
  | _, .text _, _, _, _ => trivial
  | _, .keyword _, _, _, _ => trivial

theorem TypedAll.of_plain : ∀ vs : List Value,
    (∀ v ∈ vs, ∃ kind : Kind, kind.plain = true ∧ kind.Fits v) → TypedAll P vs → TypedAll Q vs
  | [], _, _ => trivial
  | v :: rest, hplain, h => by
      obtain ⟨⟨kind, hkind, hfits⟩, hrest⟩ := List.forall_mem_cons.mp hplain
      exact ⟨Typed.of_plain kind v hkind hfits h.1, TypedAll.of_plain rest hrest h.2⟩

end

/-- What holds of the builders that a well-typed command cites, once it is kept, holds of all that it
names. -/
theorem Typed.and_cited (v : Value) (hentry : v.IsEntry) (h : v.Typed P)
    (hcited : ∀ ref ∈ v.cited, Q ref) : v.Typed fun ref => P ref ∧ Q ref := by
  match v with
  | .builder (.unit i) => exact typed_builder ⟨h.ref, hcited _ (List.mem_singleton_self _)⟩
  | .builder (.group _) | .builder (.batch _) | .record (.argument _) _ | .record (.criterion _) _ |
    .record (.font _) _ | .record (.window _) _ | .record (.subCommand _) _ | .record (.binding _) _ |
    .absent | .flag _ | .int _ | .real _ | .text _ | .keyword _ | .tuple _ => simp [IsEntry] at hentry
  | .record .raw fields =>
      exact Typed.of_plain (.record [.raw]) _ rfl ⟨_, List.mem_singleton_self _, fields, rfl⟩ h
  | .record (.configLine f) fields =>
      exact Typed.of_plain (.record [.configLine f]) _ rfl
        ⟨_, List.mem_singleton_self _, fields, rfl⟩ h
  | .record (.topLevel f) fields =>
      cases hplain : (Form.topLevel f).plain with
      | true =>
          exact Typed.of_plain (.record [.topLevel f]) _ (by simp [Kind.plain, hplain])
            ⟨_, List.mem_singleton_self _, fields, rfl⟩ h
      | false =>
          have hfits := h.fits
          have htyped := h.fields
          simp only [cited, List.forall_mem_append] at hcited
          obtain ⟨hclause, hcommand⟩ := hcited
          refine typed_record hfits h.checked ?_
          cases f with
          | assignToWorkspace | assignToOutput =>
              obtain _ | ⟨⟨i, rfl⟩, _ | ⟨htarget, _ | _⟩⟩ := hfits
              obtain ⟨hgroup, htarget', -⟩ := by simpa only [List.forall_mem_cons] using htyped
              have hcited := hclause (.group i) (List.mem_singleton_self _)
              exact typedAll_iff.mp ⟨typed_builder ⟨hgroup.ref, hcited⟩,
                of_plain _ _ (by rfl) htarget htarget', trivial⟩
          | noFocus =>
              obtain _ | ⟨⟨i, rfl⟩, _ | _⟩ := hfits
              have hcited := hclause (.group i) (List.mem_singleton_self _)
              exact List.forall_mem_singleton.mpr
                (typed_builder ⟨(htyped _ List.mem_cons_self).ref, hcited⟩)
          | forWindow =>
              obtain _ | ⟨⟨i, rfl⟩, _ | ⟨hkept, _ | _⟩⟩ := hfits
              obtain ⟨hgroup, hkept', -⟩ := by simpa only [List.forall_mem_cons] using htyped
              have hcited := hclause (.group i) (List.mem_singleton_self _)
              exact typedAll_iff.mp ⟨typed_builder ⟨hgroup.ref, hcited⟩,
                and_cited _ hkept hkept' hcommand, trivial⟩
          | bindsym | bindcode =>
              obtain _ | ⟨hkey, _ | ⟨hkept, _ | ⟨hflags, _ | _⟩⟩⟩ := hfits
              obtain ⟨hkey', hkept', hflags', -⟩ := by simpa only [List.forall_mem_cons] using htyped
              exact typedAll_iff.mp ⟨of_plain _ _ (by rfl) hkey hkey', and_cited _ hkept hkept' hcommand,
                of_plain _ _ (by rfl) hflags hflags', trivial⟩
          | bindswitch =>
              obtain _ | ⟨hswitch, _ | ⟨hstate, _ | ⟨hkept, _ | ⟨hflags, _ | _⟩⟩⟩⟩ := hfits
              obtain ⟨hswitch', hstate', hkept', hflags', -⟩ := by
                simpa only [List.forall_mem_cons] using htyped
              exact typedAll_iff.mp ⟨of_plain _ _ (by rfl) hswitch hswitch',
                of_plain _ _ (by rfl) hstate hstate', and_cited _ hkept hkept' hcommand,
                of_plain _ _ (by rfl) hflags hflags', trivial⟩
          | _ => cases hplain

/-! ### Mentioned builders -/

mutual

/-- The builders that a value names, at any depth. -/
def mentions : Value → List Ref
  | .tuple items => mentionsIn items
  | .record _ fields => mentionsIn fields
  | .builder ref => [ref]
  | _ => []

/-- The builders that some values name. -/
def mentionsIn : List Value → List Ref
  | [] => []
  | value :: rest => value.mentions ++ mentionsIn rest

end

theorem mem_mentionsIn {vs : List Value} {ref : Ref} :
    ref ∈ mentionsIn vs ↔ ∃ v ∈ vs, ref ∈ v.mentions := by
  induction vs with
  | nil => simp [mentionsIn]
  | cons v rest ih => simp [mentionsIn, ih]

mutual

/-- What counts for the builders of a well-typed value holds of each that it names. -/
theorem Typed.mentioned : ∀ v : Value, v.Typed P → ∀ ref ∈ v.mentions, P ref
  | .tuple items, h => by
      simp only [Typed, mentions] at h ⊢
      exact TypedAll.mentioned items h
  | .record _ fields, h => by
      simp only [Typed, mentions] at h ⊢
      exact TypedAll.mentioned fields h.2.2
  | .builder ref, h => by
      simp only [Typed, mentions, List.mem_singleton] at h ⊢
      exact fun _ href => href ▸ h
  | .absent, _ | .flag _, _ | .int _, _ | .real _, _ | .text _, _ | .keyword _, _ => by simp [mentions]

theorem TypedAll.mentioned : ∀ vs : List Value, TypedAll P vs → ∀ ref ∈ mentionsIn vs, P ref
  | [], _ => by simp [mentionsIn]
  | v :: rest, h => List.forall_mem_append.mpr ⟨Typed.mentioned v h.1, TypedAll.mentioned rest h.2⟩

end

/-- A well-typed value of a kind that takes no builder names none. -/
theorem Typed.mentions_eq_nil {v : Value} {kind : Kind} (h : v.Typed P) (hkind : kind.plain = true)
    (hfits : kind.Fits v) : v.mentions = [] :=
  List.eq_nil_iff_forall_not_mem.mpr (Typed.mentioned v (Typed.of_plain kind v hkind hfits h))

theorem mentionsIn_eq_nil {vs : List Value} (h : ∀ v ∈ vs, v.mentions = []) : mentionsIn vs = [] := by
  refine List.eq_nil_iff_forall_not_mem.mpr fun ref href => ?_
  obtain ⟨v, hv, hmentions⟩ := mem_mentionsIn.mp href
  rw [h v hv] at hmentions
  cases hmentions

theorem mentionsIn_criteria {vs : List Value} (h : ∀ v ∈ vs, v.TypedCriterion) : mentionsIn vs = [] :=
  mentionsIn_eq_nil fun v hv => (h v hv).2.mentions_eq_nil rfl (h v hv).1

theorem mentionsIn_subCommands {vs : List Value} (h : ∀ v ∈ vs, v.TypedSubCommand) :
    mentionsIn vs = [] :=
  mentionsIn_eq_nil fun v hv => (h v hv).2.mentions_eq_nil rfl (h v hv).1

variable {B B' : Ref → Ref → Bool}

mutual

/-- Whether values are the same depends only on which of the builders that they name are. -/
theorem same_congr : ∀ v w : Value, (∀ a ∈ v.mentions, ∀ b ∈ w.mentions, B a b = B' a b) →
    Value.same B v w = Value.same B' v w
  | .tuple items, w, h => by
      cases w with
      | tuple others =>
          simp only [mentions] at h
          simp only [Value.same, sameAll_congr items others h]
      | _ => simp only [Value.same]
  | .record form fields, w, h => by
      cases w with
      | record form' others =>
          simp only [mentions] at h
          simp only [Value.same, sameAll_congr fields others h]
      | _ => simp only [Value.same]
  | .builder a, w, h => by
      cases w with
      | builder b => simpa only [Value.same, mentions, List.forall_mem_singleton] using h
      | _ => simp only [Value.same]
  | .absent, w, _ | .flag _, w, _ | .int _, w, _ | .real _, w, _ | .text _, w, _ | .keyword _, w, _ => by
      cases w <;> simp only [Value.same]

theorem sameAll_congr : ∀ vs ws : List Value,
    (∀ a ∈ mentionsIn vs, ∀ b ∈ mentionsIn ws, B a b = B' a b) →
      Value.sameAll B vs ws = Value.sameAll B' vs ws
  | [], ws, _ => by cases ws <;> simp only [Value.sameAll]
  | v :: vs, ws, h => by
      cases ws with
      | nil => simp only [Value.sameAll]
      | cons w ws =>
          simp only [mentionsIn, List.forall_mem_append] at h
          simp only [Value.sameAll, same_congr v w fun a ha b hb => (h.1 a ha).1 b hb,
            sameAll_congr vs ws fun a ha b hb => (h.2 a ha).2 b hb]

end

/-- Which builders are the same is of no matter if one side names none. -/
theorem sameAll_congr_of_nil {vs ws : List Value} (h : mentionsIn vs = [] ∨ mentionsIn ws = []) :
    Value.sameAll B vs ws = Value.sameAll B' vs ws :=
  sameAll_congr vs ws (by rcases h with h | h <;> simp [h])

variable {lasting : Ref → Option Ref}

mutual

/-- A value has lasting content if the builders that it names have. -/
theorem unsettled?_eq_none : ∀ v : Value, (∀ ref ∈ v.mentions, lasting ref = none) →
    v.unsettled? lasting = none
  | .tuple items, h => by
      simp only [mentions] at h
      simpa only [unsettled?] using unsettledIn?_eq_none items h
  | .record _ fields, h => by
      simp only [mentions] at h
      simpa only [unsettled?] using unsettledIn?_eq_none fields h
  | .builder ref, h => by
      simpa only [unsettled?, mentions, List.forall_mem_singleton] using h
  | .absent, _ | .flag _, _ | .int _, _ | .real _, _ | .text _, _ | .keyword _, _ => by
      simp only [unsettled?]

theorem unsettledIn?_eq_none : ∀ vs : List Value, (∀ ref ∈ mentionsIn vs, lasting ref = none) →
    unsettledIn? lasting vs = none
  | [], _ => by simp only [unsettledIn?]
  | v :: rest, h => by
      simp only [mentionsIn, List.forall_mem_append] at h
      simp only [unsettledIn?, unsettled?_eq_none v h.1, unsettledIn?_eq_none rest h.2, Option.or_none]

end

end Value

end SwayControl
