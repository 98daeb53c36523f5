import AsmForms.Proofs.Engine.Assignment
import AsmForms.Proofs.Template.Vocabulary

/-!
# Proofs/Engine/Writing — what the operands of an instruction are written as

Whatever holds of every operand that is met, in any register file of the encoding, holds of every
operand of an instruction (`Engine.forall₂_of_meet`).  For the built-in vocabulary that gives a
short list of what an operand can be: an offered register, a branch, an inert text, or its own
template (`forall₂_written`).
-/

namespace AsmForms

namespace Engine

variable {engine : Engine} {form : Form} {P : String → String → Prop}

theorem forall₂_assigned_of_meet {file : RegisterFile} {templates : List String}
    {operands : List Operand} (hreads : List.Forall₂ (engine.Reads form) templates operands)
    (hencoding : file.encoding = form.encoding) (hunmet : (file.assign operands).unmet = none)
    (hP : ∀ {template operand mid assignment next}, engine.Reads form template operand →
      RegisterFile.encoding mid = form.encoding → mid.meet operand = some (assignment, next) →
      P template assignment.text) :
    List.Forall₂ P templates ((file.assign operands).assigned.map Assignment.text) := by
  induction hreads generalizing file with
  | nil => exact .nil
  | cons hread _ ih =>
    obtain ⟨assignment, next, hmeet, hrest⟩ := RegisterFile.unmet_cons_eq_none_iff.mp hunmet
    have hnext := (RegisterFile.mem_taken_of_meet hread.sound hmeet).1
    rw [RegisterFile.assign_cons_of_some hmeet, List.map_cons]
    exact .cons (hP hread hencoding hmeet) (ih (hnext.trans hencoding) hrest)

/-- **What holds of every operand that is met holds of every operand of an instruction.** -/
theorem forall₂_of_meet {instruction : Instruction} (h : engine.instantiate form = .ok instruction)
    (hP : ∀ {template operand mid assignment next}, engine.Reads form template operand →
      RegisterFile.encoding mid = form.encoding → mid.meet operand = some (assignment, next) →
      P template assignment.text) :
    List.Forall₂ P (engine.kept form) instruction.operands := by
  obtain ⟨operands, hread, hunmet, rfl⟩ := instantiate_eq_ok_iff.mp h
  exact forall₂_assigned_of_meet (forall₂_reads_operands hread)
    (RegisterFile.encoding_ofFixed _ _) hunmet hP

end Engine

/-! ## The built-in vocabulary -/

/-- What an operand of the built-in vocabulary is **written** as. -/
inductive Written (config : Config) (form : Form) (template : String) : String → Prop
  /-- A template that asks for a register is written as one that the encoding hands out. -/
  | register {view : View} {text : String} (hview : form.view? template = some view)
      (h : form.encoding.Offers view text) : Written config form template text
  | branch {width : BranchWidth} (hview : form.view? template = none) :
      Written config form template (config.branchText width)
  | inert {text : String} (hview : form.view? template = none) (h : Table.IsInert text) :
      Written config form template text
  /-- What the vocabulary does not know is written as it stands. -/
  | verbatim (hview : form.view? template = none)
      (htable : Table.builtin.lookup template = none)
      (hrole : form.encoding.resolve form.width template = none) :
      Written config form template template

/-- A template that asks for a register is written as an offered one. -/
theorem Written.offers {config : Config} {form : Form} {template text : String} {view : View}
    (h : Written config form template text) (hview : form.view? template = some view) :
    form.encoding.Offers view text := by
  cases h with
  | register hview' hoffers => exact Option.some.inj (hview'.symm.trans hview) ▸ hoffers
  | branch hnone => exact absurd (hnone.symm.trans hview) nofun
  | inert hnone _ => exact absurd (hnone.symm.trans hview) nofun
  | verbatim hnone _ _ => exact absurd (hnone.symm.trans hview) nofun

/-- **Every operand of the built-in vocabulary is written as its template asks.** -/
theorem forall₂_written {config : Config} {form : Form} {instruction : Instruction}
    (h : (Engine.ofConfig Table.builtin config).instantiate form = .ok instruction) :
    List.Forall₂ (Written config form) ((Engine.ofConfig Table.builtin config).kept form)
      instruction.operands := by
  refine Engine.forall₂_of_meet h fun {template operand mid assignment next} hreads hencoding
    hmeet => ?_
  have hresolves := vocabulary_resolution config form template
  rcases RegisterFile.meet_cases hreads.sound hmeet with
    ⟨hgen, name, r, hname, hclaim, hwrites, -⟩ | ⟨hfixed, rfl, -⟩
  · cases hreads with
    | verbatim _ _ => exact absurd hgen Bool.false_ne_true
    | resolved hresolution _ =>
      rw [hresolution] at hresolves
      cases hresolves with
      | register hview hoffers =>
        rw [← hencoding] at hoffers
        have hgiven := RegisterFile.offers_of_writes hoffers hname hclaim hwrites
        exact .register hview (hencoding ▸ hgiven)
      | @branch width _ =>
        have hnone := config.dialect.ofString?_branchOperand config.label width
        exact absurd (hnone.symm.trans hname) nofun
      | inert _ hinert => exact absurd (hinert.2.1.symm.trans hname) nofun
  · cases hreads with
    | verbatim hresolution _ =>
      rw [hresolution] at hresolves
      cases hresolves with
      | unhandled hview htable hrole => exact .verbatim hview htable hrole
    | resolved hresolution _ =>
      rw [hresolution] at hresolves
      cases hresolves with
      | register hview hoffers => exact .register hview hoffers
      | branch hview => exact .branch hview
      | inert hview hinert => exact .inert hview hinert

end AsmForms
