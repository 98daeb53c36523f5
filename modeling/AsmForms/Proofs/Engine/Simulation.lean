import AsmForms.Proofs.Engine.Assignment

/-!
# Proofs/Engine/Simulation — two runs over the same templates

Two engines, or two forms, may read the same templates as different operands, and then the registers
are handed out by two runs.  To compare them it is enough to compare one step: a relation between the
register files that every step keeps (`Simulates`) carries over to whole runs.  If the first run meets
all its operands, so does the second, and what both write for a template is related as the steps say
(`Simulates.forall₂_zip`).  If the second run is also stuck wherever the first one is, both are stuck
at the same template (`Simulates.map_unmet`).
-/

namespace AsmForms

/-- The second of two runs **simulates** the first one. -/
structure Simulates (engine engine' : Engine) (form form' : Form)
    (S : RegisterFile → RegisterFile → Prop) (Q : String → String × String → Prop) : Prop where
  /-- From related files the second run meets what the first one meets, the files stay related, and
  so are the texts written for the template. -/
  step : ∀ {template operand operand' file file' assignment next},
    engine.Reads form template operand → engine'.Reads form' template operand' → S file file' →
      file.meet operand = some (assignment, next) →
        ∃ assignment' next', file'.meet operand' = some (assignment', next') ∧ S next next' ∧
          Q template (assignment.text, assignment'.text)

namespace Simulates

variable {engine engine' : Engine} {form form' : Form} {S : RegisterFile → RegisterFile → Prop}
  {Q : String → String × String → Prop} {file file' : RegisterFile} {templates : List String}
  {operands operands' : List Operand}

/-- **A simulation of every step is one of the whole run.** -/
theorem forall₂_zip (h : Simulates engine engine' form form' S Q)
    (hreads : List.Forall₂ (engine.Reads form) templates operands)
    (hreads' : List.Forall₂ (engine'.Reads form') templates operands') (hfiles : S file file')
    (hunmet : (file.assign operands).unmet = none) :
    (file'.assign operands').unmet = none ∧
      List.Forall₂ Q templates (((file.assign operands).assigned.map Assignment.text).zip
        ((file'.assign operands').assigned.map Assignment.text)) := by
  induction hreads generalizing file file' operands' with
  | nil =>
    cases hreads'
    exact ⟨rfl, .nil⟩
  | cons hread _ ih =>
    obtain ⟨operand', rest', hread', hrest', rfl⟩ := List.forall₂_cons_left_iff.mp hreads'
    obtain ⟨assignment, next, hmeet, hnext⟩ := RegisterFile.unmet_cons_eq_none_iff.mp hunmet
    obtain ⟨assignment', next', hmeet', hfiles', hwritten⟩ := h.step hread hread' hfiles hmeet
    obtain ⟨hunmet', hrest⟩ := ih hrest' hfiles' hnext
    rw [RegisterFile.assign_cons_of_some hmeet, RegisterFile.assign_cons_of_some hmeet']
    exact ⟨hunmet', .cons hwritten hrest⟩

/-- **If both runs are stuck at the same steps, they end at the same template.** -/
theorem map_unmet (h : Simulates engine engine' form form' S Q)
    (hstuck : ∀ {template operand operand' file file'}, engine.Reads form template operand →
      engine'.Reads form' template operand' → S file file' → file.meet operand = none →
        file'.meet operand' = none)
    (hreads : List.Forall₂ (engine.Reads form) templates operands)
    (hreads' : List.Forall₂ (engine'.Reads form') templates operands') (hfiles : S file file') :
    (file'.assign operands').unmet.map Operand.template =
      (file.assign operands).unmet.map Operand.template := by
  induction hreads generalizing file file' operands' with
  | nil =>
    cases hreads'
    rfl
  | @cons template operand _ _ hread _ ih =>
    obtain ⟨operand', rest', hread', hrest', rfl⟩ := List.forall₂_cons_left_iff.mp hreads'
    cases hmeet : file.meet operand with
    | none =>
      have hmeet' := hstuck hread hread' hfiles hmeet
      rw [RegisterFile.assign_cons_of_none hmeet, RegisterFile.assign_cons_of_none hmeet']
      exact congrArg some (hread'.template_eq.trans hread.template_eq.symm)
    | some met =>
      obtain ⟨assignment', next', hmeet', hfiles', -⟩ := h.step hread hread' hfiles hmeet
      rw [RegisterFile.assign_cons_of_some hmeet, RegisterFile.assign_cons_of_some hmeet']
      exact ih hrest' hfiles'

/-- **A form whose run is simulated becomes an instruction wherever the other one does**, with
operands that are related one by one. -/
theorem exists_instruction (h : Simulates engine engine' form form' S Q)
    (hkept : engine'.kept form' = engine.kept form)
    (hread : engine.operands form = .ok operands) (hread' : engine'.operands form' = .ok operands')
    (hfiles : S (RegisterFile.ofFixed form.encoding operands)
      (RegisterFile.ofFixed form'.encoding operands'))
    {instruction : Instruction} (hok : engine.instantiate form = .ok instruction) :
    ∃ instruction', engine'.instantiate form' = .ok instruction' ∧
      instruction'.operands.length = instruction.operands.length ∧
      List.Forall₂ Q (engine.kept form) (instruction.operands.zip instruction'.operands) := by
  obtain ⟨first, hfirst, hunmet, rfl⟩ := Engine.instantiate_eq_ok_iff.mp hok
  obtain rfl := Except.ok.inj (hread.symm.trans hfirst)
  have hreads := Engine.forall₂_reads_operands hread
  have hreads' := Engine.forall₂_reads_operands hread'
  rw [hkept] at hreads'
  obtain ⟨hunmet', hwritten⟩ := h.forall₂_zip hreads hreads' hfiles hunmet
  refine ⟨_, Engine.instantiate_eq_ok_iff.mpr ⟨operands', hread', hunmet', rfl⟩, ?_, hwritten⟩
  simp only [List.length_map, Allocation.ofOperands, RegisterFile.length_assigned hunmet',
    ← hreads'.length_eq, hreads.length_eq]
  exact (RegisterFile.length_assigned hunmet).symm

end Simulates

end AsmForms
