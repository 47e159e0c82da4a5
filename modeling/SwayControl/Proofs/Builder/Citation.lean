import SwayControl.Builder.Batch

/-!
Which builders the text of a command depends on. A unit that is a command cites itself; a binding or
rule cites the group that is its clause and whatever the command it runs cites; no other value cites
anything. The text of a command is determined by the texts of the builders it cites.
-/

namespace SwayControl

/-- Whether the records of a form start with a clause of criteria. -/
def TopLevelForm.targets : TopLevelForm → Bool
  | .assignToWorkspace | .assignToOutput | .noFocus | .forWindow => true
  | _ => false

/-- Whether the records of a form run a command. -/
def TopLevelForm.embeds : TopLevelForm → Bool
  | .bindsym | .bindcode | .bindswitch | .forWindow => true
  | _ => false

/-- The group that is the clause of a binding or rule. -/
def TopLevelForm.citedClause (form : TopLevelForm) : List Value → List Ref
  | .builder (.group i) :: _ => if form.targets then [.group i] else []
  | _ => []

mutual

/-- The builders that the text of a command depends on. -/
def Value.cited : Value → List Ref
  | .builder (.unit i) => [.unit i]
  | .record (.topLevel form) fields => form.citedClause fields ++ Value.citedCommand form fields
  | _ => []

/-- The builders that the command of a binding or rule cites. -/
def Value.citedCommand (form : TopLevelForm) : List Value → List Ref
  | [] => []
  | _ :: rest =>
    match form with
    | .bindsym | .bindcode | .forWindow => Value.citedAt 0 rest
    | .bindswitch => Value.citedAt 1 rest
    | _ => []

/-- The builders that the command at a place of a list of fields cites. -/
def Value.citedAt : Nat → List Value → List Ref
  | _, [] => []
  | 0, value :: _ => Value.cited value
  | index + 1, _ :: rest => Value.citedAt index rest

end

namespace Value

variable {texts texts' : Ref → String}

theorem readClause_congr {value : Value}
    (h : ∀ i, value = .builder (.group i) → texts (.group i) = texts' (.group i)) :
    value.readClause texts = value.readClause texts' := by
  unfold readClause
  split
  · rename_i i
    rw [h i rfl]
  · rfl

/-- Reading a top-level command looks at the texts of builders only for its clause, and at the
command it runs only if its form has one. -/
theorem readTopLevelFields_congr {command command' : Reading String} {form : TopLevelForm}
    {fields : List Value} (hclause : ∀ ref ∈ form.citedClause fields, texts ref = texts' ref)
    (hcommand : form.embeds = true → command = command') :
    readTopLevelFields texts command form fields =
      readTopLevelFields texts' command' form fields := by
  have hread (htargets : form.targets = true) (value : Value) (rest : List Value)
      (hfields : fields = value :: rest) : value.readClause texts = value.readClause texts' := by
    apply readClause_congr
    rintro i rfl
    apply hclause
    simp [hfields, TopLevelForm.citedClause, htargets]
  -- Which fields are read depends on their number alone, and no form has more than six.
  cases form with
  | assignToWorkspace | assignToOutput | noFocus =>
      rcases fields with _ | ⟨clause, _ | ⟨_, _ | ⟨_, _⟩⟩⟩ <;>
        first | rfl | simp only [readTopLevelFields, hread rfl clause _ rfl]
  | bindsym | bindcode | bindswitch =>
      rw [hcommand rfl]
      rcases fields with _ | ⟨_, _ | ⟨_, _ | ⟨_, _ | ⟨_, _ | ⟨_, _⟩⟩⟩⟩⟩ <;> rfl
  | forWindow =>
      rw [hcommand rfl]
      rcases fields with _ | ⟨clause, _ | ⟨_, _ | ⟨_, _⟩⟩⟩ <;>
        first | rfl | simp only [readTopLevelFields, hread rfl clause _ rfl]
  | _ =>
      rcases fields with _ | ⟨_, _ | ⟨_, _ | ⟨_, _ | ⟨_, _ | ⟨_, _ | ⟨_, _⟩⟩⟩⟩⟩⟩ <;> rfl

mutual

/-- The text of a command is determined by the texts of the builders it cites. -/
theorem commandText_congr :
    ∀ value : Value, (∀ ref ∈ value.cited, texts ref = texts' ref) →
      value.commandText texts = value.commandText texts'
  | .builder (.unit i), h => by
      have hunit : texts (.unit i) = texts' (.unit i) := h _ (by simp [cited])
      simp only [commandText, hunit]
  | .record (.topLevel form) fields, h => by
      simp only [cited, List.mem_append] at h
      have hcommand : embeddedText texts form fields = embeddedText texts' form fields :=
        embeddedText_congr form fields fun ref href => h ref (Or.inr href)
      simp only [commandText]
      rw [readTopLevelFields_congr (fun ref href => h ref (Or.inl href)) fun _ => hcommand]
  | .record .raw fields, _ => by
      rcases fields with _ | ⟨_, _ | ⟨_, _⟩⟩ <;> rfl
  | .record (.subCommand _) _, _ => rfl
  | .record (.configLine _) _, _ => rfl
  | .record (.argument _) _, _ => rfl
  | .record (.criterion _) _, _ => rfl
  | .record (.font _) _, _ => rfl
  | .record (.window _) _, _ => rfl
  | .record (.binding _) _, _ => rfl
  | .builder (.group _), _ => rfl
  | .builder (.batch _), _ => rfl
  | .absent, _ => rfl
  | .flag _, _ => rfl
  | .int _, _ => rfl
  | .real _, _ => rfl
  | .text _, _ => rfl
  | .keyword _, _ => rfl
  | .tuple _, _ => rfl

theorem embeddedText_congr (form : TopLevelForm) :
    ∀ fields : List Value, (∀ ref ∈ citedCommand form fields, texts ref = texts' ref) →
      embeddedText texts form fields = embeddedText texts' form fields
  | [], _ => rfl
  | value :: rest, h => by
      cases form with
      | bindsym | bindcode | forWindow => exact embeddedAt_congr 0 rest h
      | bindswitch => exact embeddedAt_congr 1 rest h
      | _ => rfl

theorem embeddedAt_congr :
    ∀ (index : Nat) (fields : List Value),
      (∀ ref ∈ citedAt index fields, texts ref = texts' ref) →
        embeddedAt texts index fields = embeddedAt texts' index fields
  | _, [], _ => by simp only [embeddedAt]
  | 0, value :: _, h => commandText_congr value h
  | index + 1, _ :: rest, h => embeddedAt_congr index rest h

end

end Value

end SwayControl
