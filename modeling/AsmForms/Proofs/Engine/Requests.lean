import AsmForms.Proofs.Engine.Classes

/-!
# Proofs/Engine/Requests — what the templates of a form ask for

The operands of a form are read from its templates.  So the class of the register that an operand
asks for, and the registers that the fixed operands have taken before the first one is met, can be
told from the templates alone (`Engine.cls?`, `Engine.FixedMention`).
-/

namespace AsmForms

namespace Engine

variable {engine : Engine} {form : Form} {template : String} {operand : Operand}
  {operands : List Operand} {templates : List String}

/-- The text that a template is read as, before registers are handed out. -/
def text? (engine : Engine) (form : Form) (template : String) : Option String :=
  match engine.resolution form template with
  | .operand text => some text
  | .absent => none
  | .unhandled => some template

/-- The class of the register that a template resolves to, if it resolves to one. -/
def cls? (engine : Engine) (form : Form) (template : String) : Option RegisterClass :=
  match engine.resolution form template with
  | .operand text => (RegisterName.ofString? text).map fun name => name.register.cls
  | .absent => none
  | .unhandled => none

/-- A fixed operand of the form **mentions** the register. -/
def FixedMention (engine : Engine) (form : Form) (r : Register) : Prop :=
  ∃ template ∈ engine.kept form, engine.cls? form template = none ∧
    ∃ text, engine.text? form template = some text ∧ Mentions text r

instance (engine : Engine) (form : Form) (r : Register) : Decidable (engine.FixedMention form r) :=
  have (template : String) : Decidable (∃ text, engine.text? form template = some text ∧
      Mentions text r) :=
    decidable_of_iff (∃ text ∈ engine.text? form template, r ∈ mentioned text) (by
      simp [mem_mentioned_iff])
  inferInstanceAs (Decidable (∃ template ∈ engine.kept form, _ ∧ _))

/-! ## The operands that the templates are read as -/

theorem Reads.cls?_eq (h : engine.Reads form template operand) :
    engine.cls? form template = operand.cls? := by
  cases h with
  | @resolved text h hne =>
    rw [cls?, h, Operand.cls?]
    cases hname : RegisterName.ofString? text <;> simp [hname]
  | verbatim h _ =>
    rw [cls?, h]
    rfl

theorem Reads.text?_eq (h : engine.Reads form template operand) :
    engine.text? form template = some operand.text := by
  cases h with
  | resolved h _ => rw [text?, h]
  | verbatim h _ => rw [text?, h]

theorem Reads.generated_eq_false_iff (h : engine.Reads form template operand) :
    operand.generated = false ↔ engine.cls? form template = none := by
  cases h with
  | resolved h _ => simp [cls?, h]
  | verbatim h _ => simp [cls?, h]

/-- Every operand of a form is read from one of its templates. -/
theorem exists_reads_of_mem (h : engine.operands form = .ok operands) (hmem : operand ∈ operands) :
    ∃ template ∈ form.templates, engine.Reads form template operand := by
  obtain ⟨i, ho⟩ := List.getElem?_of_mem hmem
  obtain ⟨template, ht, hreads⟩ := exists_template_of_getElem? h ho
  exact ⟨template, (List.mem_filter.mp (List.mem_of_getElem? ht)).1, hreads⟩

/-- A template that is omitted asks for no register. -/
theorem cls?_of_omits (h : engine.omits form template = true) :
    engine.cls? form template = none := by
  have hempty : RegisterName.ofString? "" = none := by decide
  simp only [omits, Bool.and_eq_true, Bool.or_eq_true, beq_iff_eq] at h
  rcases h.2 with h | h
  · rw [cls?, h]
  · simp only [cls?, h, hempty, Option.map_none]

theorem length_requests_of_reads (h : List.Forall₂ (engine.Reads form) templates operands)
    (cls : RegisterClass) :
    (Operand.requests cls operands).length =
      templates.countP fun template => engine.cls? form template == some cls := by
  induction h with
  | nil => rfl
  | @cons template operand _ _ hread _ ih =>
    by_cases hcls : operand.cls? = some cls
    · rw [Operand.requests_cons_of_cls hcls, List.length_cons, ih,
        List.countP_cons_of_pos (by simp [hread.cls?_eq, hcls])]
    · rw [Operand.requests_cons_of_ne hcls, ih,
        List.countP_cons_of_neg (by simp [hread.cls?_eq, hcls])]

/-- **A class is asked for once by each template that resolves to a register of it.** -/
theorem length_requests (h : engine.operands form = .ok operands) (cls : RegisterClass) :
    (Operand.requests cls operands).length =
      form.templates.countP fun template => engine.cls? form template == some cls := by
  rw [length_requests_of_reads (forall₂_reads_operands h), kept, List.countP_filter]
  refine List.countP_congr fun template _ => ?_
  cases homits : engine.omits form template with
  | false => simp
  | true => simp [cls?_of_omits homits]

theorem exists_fixed_iff (h : List.Forall₂ (engine.Reads form) templates operands) {r : Register} :
    (∃ operand ∈ operands, operand.generated = false ∧ Mentions operand.text r) ↔
      ∃ template ∈ templates, engine.cls? form template = none ∧
        ∃ text, engine.text? form template = some text ∧ Mentions text r := by
  induction h with
  | nil => simp
  | cons hread _ ih =>
    rw [List.exists_mem_cons_iff, List.exists_mem_cons_iff, ih, hread.generated_eq_false_iff,
      hread.text?_eq]
    simp only [Option.some.injEq, exists_eq_left']

/-- The registers taken at the start are those that the fixed operands mention. -/
theorem mem_taken_ofFixed_iff (h : engine.operands form = .ok operands) {r : Register} :
    r ∈ (RegisterFile.ofFixed form.encoding operands).taken ↔ engine.FixedMention form r := by
  rw [RegisterFile.mem_taken_ofFixed, exists_fixed_iff (forall₂_reads_operands h), FixedMention]

end Engine

end AsmForms
