import AsmForms.Proofs.Engine.Capacity

/-!
# Proofs/Engine/Choices — names that not every spare can serve

A high byte lies in four of the general registers only, so a name for one is not flexible.  What
counts for it are its **choices**, the spares that have its view.  A claim fails only once all of
them are **used**, and no operand uses up more than one spare.  So a run meets all operands if no
class has more registers used and asked for than each of its names has choices, whatever the order
of the operands (`unmet_eq_none_of_choices`).
-/

namespace AsmForms

/-- How many spares of its class have the view of a name. -/
def RegisterName.choices (encoding : Encoding) (name : RegisterName) : Nat :=
  (encoding.spares name.register.cls).countP fun s => (name.on s).isSome

/-- A generated operand is a name with at least so many choices as its class grants. -/
def Operand.HasChoices (encoding : Encoding) (granted : RegisterClass → Nat) (operand : Operand) :
    Prop :=
  operand.generated = true →
    ∃ name, RegisterName.ofString? operand.text = some name ∧
      granted name.register.cls ≤ name.choices encoding

theorem Operand.HasChoices.sound {encoding : Encoding} {granted : RegisterClass → Nat}
    {operand : Operand} (h : operand.HasChoices encoding granted) : operand.Sound := by
  intro hgen
  obtain ⟨name, hname, -⟩ := h hgen
  exact ⟨name, hname⟩

namespace RegisterFile

variable {cls : RegisterClass} {file next : RegisterFile} {name : RegisterName}
  {granted : RegisterClass → Nat} {assignment : Assignment} {operand : Operand}
  {operands : List Operand}

/-! ## Used spares -/

/-- How many spares of a class are **used**. -/
def used (file : RegisterFile) (cls : RegisterClass) : Nat :=
  (file.encoding.spares cls).countP fun r => r ∈ file.taken

/-- A spare is used or free. -/
theorem used_add_free (file : RegisterFile) (cls : RegisterClass) :
    file.used cls + file.free cls = (file.encoding.spares cls).length := by
  rw [List.length_eq_countP_add_countP (fun r => decide (r ∈ file.taken)), used, free]
  simp

/-- **Taking a register uses up one spare at most**, -/
theorem used_take_le (file : RegisterFile) (r : Register) (cls : RegisterClass) :
    (file.take r).used cls ≤ file.used cls + 1 := by
  by_cases hnew : r ∈ file.encoding.spares cls ∧ r ∉ file.taken
  · have hfree := free_take hnew.1 hnew.2
    have hbefore := file.used_add_free cls
    have hafter := (file.take r).used_add_free cls
    rw [encoding_take] at hafter
    omega
  · -- The register is no spare of the class, or was taken before.
    refine Nat.le_succ_of_le (List.countP_mono_left fun s hs htaken => ?_)
    rw [decide_eq_true_eq, mem_take] at htaken
    rw [decide_eq_true_eq]
    rcases htaken with rfl | htaken
    · exact not_not.mp (not_and.mp hnew hs)
    · exact htaken

/-- and none of the other classes. -/
theorem used_take_of_ne {r : Register} (h : r.cls ≠ cls) :
    (file.take r).used cls = file.used cls := by
  have hfree : (file.take r).free cls = file.free cls := free_take_of_ne h
  have hbefore := file.used_add_free cls
  have hafter := (file.take r).used_add_free cls
  rw [encoding_take] at hafter
  omega

/-! ## One operand -/

/-- **A claim fails only if all choices are used.** -/
theorem choices_le_used (h : file.claim? name = none) :
    name.choices file.encoding ≤ file.used name.register.cls := by
  obtain ⟨-, hall⟩ := claim?_eq_none_iff.mp h
  exact List.countP_mono_left fun s hs hview => decide_eq_true (hall s hs hview)

/-- An operand that is not met asks for a class of which all that it grants is used. -/
theorem granted_le_used_of_meet_eq_none (hchoices : operand.HasChoices file.encoding granted)
    (h : file.meet operand = none) :
    ∃ cls, operand.demand cls = 1 ∧ granted cls ≤ file.used cls := by
  obtain ⟨hgen, name, hname, hnone⟩ := (meet_eq_none_iff hchoices.sound).mp h
  obtain ⟨name', hname', hgranted⟩ := hchoices hgen
  obtain rfl := Option.some.inj (hname.symm.trans hname')
  exact ⟨name.register.cls, if_pos (Operand.cls?_of_name hgen hname),
    hgranted.trans (choices_le_used hnone)⟩

/-- **An operand that is met uses up no more than it asks for.** -/
theorem used_of_meet_le (hsound : operand.Sound)
    (h : file.meet operand = some (assignment, next)) (cls : RegisterClass) :
    next.used cls ≤ file.used cls + operand.demand cls := by
  rcases meet_cases hsound h with ⟨hgen, name, r, hname, hclaim, -, rfl⟩ | ⟨-, -, rfl⟩
  · have hown := Operand.cls?_of_name hgen hname
    by_cases hcls : name.register.cls = cls
    · rw [Operand.demand, if_pos (hcls ▸ hown)]
      exact used_take_le file r cls
    · rw [used_take_of_ne (cls_of_claim? hclaim ▸ hcls)]
      exact Nat.le_add_right _ _
  · exact Nat.le_add_right _ _

/-! ## All operands -/

/-- **A run meets all operands if every class grants what is used and asked for.** -/
theorem unmet_eq_none_of_choices
    (hchoices : ∀ operand ∈ operands, operand.HasChoices file.encoding granted)
    (hfits : ∀ cls, (Operand.requests cls operands).length + file.used cls ≤ granted cls) :
    (file.assign operands).unmet = none := by
  induction operands generalizing file with
  | nil => rfl
  | cons operand operands ih =>
    rw [List.forall_mem_cons] at hchoices
    simp only [Operand.length_requests_cons] at hfits
    cases hmeet : file.meet operand with
    | none =>
      obtain ⟨cls, hdemand, hused⟩ := granted_le_used_of_meet_eq_none hchoices.1 hmeet
      have hcls := hfits cls
      omega
    | some met =>
      obtain ⟨assignment, next⟩ := met
      have hencoding := (mem_taken_of_meet hchoices.1.sound hmeet).1
      rw [assign_cons_of_some hmeet]
      refine ih (by rw [hencoding]; exact hchoices.2) fun cls => ?_
      -- What the first operand uses up is what it no longer asks for.
      have hused := used_of_meet_le hchoices.1.sound hmeet cls
      have hcls := hfits cls
      omega

end RegisterFile

end AsmForms
