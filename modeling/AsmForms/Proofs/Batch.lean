import AsmForms.Engine.Run
import Mathlib.Data.List.Forall2

/-!
# Proofs/Batch — a batch halts at its first violation

A batch **ends** in one of two ways (`Engine.Ends`): every form becomes an instruction, and these
are the result; or some form is the first that does not, and its violation is the result.  What is
reported are the events of the forms up to there, one form after the other.

The recursion takes the forms one at a time, so two lemmas say all: what a form that becomes an
instruction adds to the rest of the batch (`runAll_cons_of_ok`), and that a violation ends it
(`runAll_cons_of_error`).
-/

namespace AsmForms

namespace Outcome

variable {α β γ : Type}

@[simp] theorem map_ok (f : α → β) (value : α) (events : List Event) :
    map f ⟨.ok value, events⟩ = ⟨.ok (f value), events⟩ := rfl

@[simp] theorem map_error (f : α → β) (violation : Violation) (events : List Event) :
    map f ⟨.error violation, events⟩ = ⟨.error violation, events⟩ := rfl

@[simp] theorem after_mk (front : List Event) (result : Except Violation α) (events : List Event) :
    after front ⟨result, events⟩ = ⟨result, front ++ events⟩ := rfl

@[simp] theorem after_nil (outcome : Outcome α) : outcome.after [] = outcome := rfl

@[simp] theorem map_self (outcome : Outcome α) : outcome.map (fun value => value) = outcome := by
  obtain ⟨result, events⟩ := outcome
  cases result <;> rfl

/-- Events in front stay in front of whatever follows. -/
theorem bind_after (front : List Event) (outcome : Outcome α) (next : α → Outcome β) :
    (outcome.after front).bind next = (outcome.bind next).after front := by
  obtain ⟨result, events⟩ := outcome
  cases result <;> simp [after]

theorem bind_map (f : α → β) (outcome : Outcome α) (next : β → Outcome γ) :
    (outcome.map f).bind next = outcome.bind fun value => next (f value) := by
  obtain ⟨result, events⟩ := outcome
  cases result <;> rfl

theorem map_bind (f : β → γ) (outcome : Outcome α) (next : α → Outcome β) :
    (outcome.bind next).map f = outcome.bind fun value => (next value).map f := by
  obtain ⟨result, events⟩ := outcome
  cases result <;> rfl

theorem map_map (f : α → β) (g : β → γ) (outcome : Outcome α) :
    (outcome.map f).map g = outcome.map fun value => g (f value) := by
  obtain ⟨result, events⟩ := outcome
  cases result <;> rfl

end Outcome

namespace Engine

variable {engine : Engine} {form : Form} {forms : List Form}

/-- What is reported while a form is instantiated. -/
def reported (engine : Engine) (form : Form) : List Event :=
  (engine.run form).events

/-- Forms **become** instructions, one for one and in order. -/
def Makes (engine : Engine) : List Form → List Instruction → Prop :=
  List.Forall₂ fun form instruction => engine.instantiate form = .ok instruction

/-- **How a batch ends.** -/
inductive Ends (engine : Engine) (forms : List Form) : Outcome (List Instruction) → Prop
  /-- Every form becomes an instruction. -/
  | made {instructions : List Instruction} (hmade : engine.Makes forms instructions) :
      Ends engine forms ⟨.ok instructions, forms.flatMap engine.reported⟩
  /-- A form is refused, and those before it become instructions. -/
  | halted {before after : List Form} {form : Form} {violation : Violation}
      (hforms : forms = before ++ form :: after)
      (hbefore : ∀ other ∈ before, ∃ instruction, engine.instantiate other = .ok instruction)
      (hrefused : engine.instantiate form = .error violation) :
      Ends engine forms ⟨.error violation, (before ++ [form]).flatMap engine.reported⟩

/-! ## One form of a batch -/

theorem run_eq (engine : Engine) (form : Form) :
    engine.run form = ⟨engine.instantiate form, engine.reported form⟩ := rfl

/-- **A form that becomes an instruction** puts it in front of what the rest of the batch makes. -/
theorem runAll_cons_of_ok {instruction : Instruction}
    (h : engine.instantiate form = .ok instruction) (forms : List Form) :
    engine.runAll (form :: forms) =
      ((engine.runAll forms).map (instruction :: ·)).after (engine.reported form) := by
  rw [runAll, run_eq, h, Outcome.bind_ok]

/-- **A form that is refused** ends the batch. -/
theorem runAll_cons_of_error {violation : Violation}
    (h : engine.instantiate form = .error violation) (forms : List Form) :
    engine.runAll (form :: forms) = ⟨.error violation, engine.reported form⟩ := by
  rw [runAll, run_eq, h, Outcome.bind_error]

/-! ## The whole batch -/

/-- A form that becomes an instruction comes before whatever way the rest ends in. -/
theorem Ends.cons {instruction : Instruction} {outcome : Outcome (List Instruction)}
    (h : engine.instantiate form = .ok instruction) (hrest : engine.Ends forms outcome) :
    engine.Ends (form :: forms)
      ((outcome.map (instruction :: ·)).after (engine.reported form)) := by
  cases hrest with
  | made hmade => exact .made (.cons h hmade)
  | halted hforms hbefore hrefused =>
    subst hforms
    exact .halted rfl (List.forall_mem_cons.mpr ⟨⟨instruction, h⟩, hbefore⟩) hrefused

/-- **Every batch ends**, with the outcome that it has. -/
theorem ends_runAll (engine : Engine) (forms : List Form) :
    engine.Ends forms (engine.runAll forms) := by
  induction forms with
  | nil => exact .made .nil
  | cons form forms ih =>
    cases h : engine.instantiate form with
    | ok instruction =>
      rw [runAll_cons_of_ok h]
      exact ih.cons h
    | error violation =>
      rw [runAll_cons_of_error h, ← List.flatMap_singleton engine.reported form]
      exact .halted (List.nil_append (form :: forms)).symm (List.forall_mem_nil _) h

theorem runAll_of_made {instructions : List Instruction} (h : engine.Makes forms instructions) :
    engine.runAll forms = ⟨.ok instructions, forms.flatMap engine.reported⟩ := by
  induction h with
  | nil => rfl
  | cons hform _ ih => rw [runAll_cons_of_ok hform, ih, Outcome.map_ok, Outcome.after_mk]; rfl

theorem runAll_of_halted {before : List Form} {violation : Violation}
    (hbefore : ∀ other ∈ before, ∃ instruction, engine.instantiate other = .ok instruction)
    (hrefused : engine.instantiate form = .error violation) (after : List Form) :
    engine.runAll (before ++ form :: after) =
      ⟨.error violation, (before ++ [form]).flatMap engine.reported⟩ := by
  induction before with
  | nil => simpa using runAll_cons_of_error hrefused after
  | cons other before ih =>
    obtain ⟨⟨instruction, hother⟩, hbefore⟩ := List.forall_mem_cons.mp hbefore
    rw [List.cons_append, runAll_cons_of_ok hother, ih hbefore, Outcome.map_error,
      Outcome.after_mk]
    rfl

/-- **A batch ends in one way only**, so that is its outcome. -/
theorem runAll_eq_iff {outcome : Outcome (List Instruction)} :
    engine.runAll forms = outcome ↔ engine.Ends forms outcome := by
  constructor
  · rintro rfl
    exact ends_runAll engine forms
  · rintro (hmade | ⟨rfl, hbefore, hrefused⟩)
    · exact runAll_of_made hmade
    · exact runAll_of_halted hbefore hrefused _

/-- **Two batches one after the other** are one batch: the second is taken up only if the first
makes all its instructions. -/
theorem runAll_append (engine : Engine) (forms more : List Form) :
    engine.runAll (forms ++ more) =
      (engine.runAll forms).bind fun instructions =>
        (engine.runAll more).map (instructions ++ ·) := by
  induction forms with
  | nil => simp [runAll]
  | cons form forms ih =>
    cases h : engine.instantiate form with
    | ok instruction =>
      rw [List.cons_append, runAll_cons_of_ok h, runAll_cons_of_ok h, ih, Outcome.bind_after,
        Outcome.map_bind, Outcome.bind_map]
      simp only [Outcome.map_map, List.cons_append]
    | error violation =>
      rw [List.cons_append, runAll_cons_of_error h, runAll_cons_of_error h, Outcome.bind_error]

theorem instantiateAll_eq_ok_iff {instructions : List Instruction} :
    engine.instantiateAll forms = .ok instructions ↔ engine.Makes forms instructions := by
  constructor
  · intro h
    have hends := ends_runAll engine forms
    generalize houtcome : engine.runAll forms = outcome at hends
    rw [instantiateAll, houtcome] at h
    cases hends with
    | made hmade =>
      obtain rfl := Except.ok.inj h
      exact hmade
    | halted => cases h
  · intro h
    rw [instantiateAll, runAll_of_made h]

end Engine

/-- **A batch halts at its first violation.**  It has a result exactly if every form becomes an
instruction, and these are the result, in order; otherwise the violation of the first refused form
is all that it returns.  What is reported are the events of the forms up to that one.  A batch in
two parts is the first part and, if that has a result, the second. -/
theorem batch_halts_at_first_violation (engine : Engine) (forms : List Form) :
    (∀ instructions, engine.instantiateAll forms = .ok instructions ↔
      engine.Makes forms instructions) ∧
    (∀ outcome, engine.runAll forms = outcome ↔ engine.Ends forms outcome) ∧
    ∀ more, engine.runAll (forms ++ more) =
      (engine.runAll forms).bind fun instructions =>
        (engine.runAll more).map (instructions ++ ·) :=
  ⟨fun _ => Engine.instantiateAll_eq_ok_iff, fun _ => Engine.runAll_eq_iff,
    Engine.runAll_append engine forms⟩

/-- Nothing is reported of the forms after a refused one, whether they could be instantiated or
would be refused too. -/
theorem batch_reports_nothing_after_its_violation :
    let engine := Engine.ofConfig (.ofDefinitions [("imm8", .literal "0x7e")]) {}
    let add : Form := ⟨"ADD", ["r32", "imm8"], .legacy⟩
    let wide : Form := ⟨"ADD", ["r32", "imm12"], .legacy⟩
    let bogus : Form := ⟨"X", ["bogus"], .legacy⟩
    let violation : Violation := ⟨.unknownTemplate, "ADD", "imm12"⟩
    engine.runAll [add, wide, bogus, add] =
        ⟨.error violation, [.instantiated add ⟨"ADD", ["ecx", "0x7e"]⟩, .violated violation]⟩ ∧
      engine.runAll ([add] ++ [wide, bogus, add]) =
        (engine.runAll [add]).bind fun instructions =>
          (engine.runAll [wide, bogus, add]).map (instructions ++ ·) := by
  intro engine add wide bogus violation
  have hadd : engine.instantiate add = .ok ⟨"ADD", ["ecx", "0x7e"]⟩ := by decide
  have hwide : engine.instantiate wide = .error violation := by decide
  have hreported : [add, wide].flatMap engine.reported =
      [.instantiated add ⟨"ADD", ["ecx", "0x7e"]⟩, .violated violation] := by decide
  obtain ⟨-, hends, -⟩ := batch_halts_at_first_violation engine [add, wide, bogus, add]
  have hforms : [add, wide, bogus, add] = [add] ++ wide :: [bogus, add] := rfl
  refine ⟨?_, (batch_halts_at_first_violation engine [add]).2.2 [wide, bogus, add]⟩
  rw [← hreported, hends]
  exact .halted hforms (by simpa using ⟨_, hadd⟩) hwide

end AsmForms
