import AsmForms.Engine.Basic
import Mathlib.Data.List.Forall2

/-!
# Proofs/Engine/Resolution — what the templates of a form resolve to

A template **resolves** to what the table says, or else to the register of its role
(`Engine.resolution`).  The reading of a form says the same with its operands in hand: they are
those of the templates that are not omitted, one for one and in order (`forall₂_reads_operands`).
-/

namespace AsmForms

/-- A generated operand is a register name. -/
def Operand.Sound (operand : Operand) : Prop :=
  operand.generated = true → ∃ name, RegisterName.ofString? operand.text = some name

namespace Engine

variable {engine : Engine} {form : Form} {template : String}

/-- **What a template of a form resolves to**: what the table says, and for a template that the
table does not know, the register of its role. -/
def resolution (engine : Engine) (form : Form) (template : String) : Resolution :=
  match engine.table.translate engine.branchText template with
  | .operand text => .operand text
  | .absent => .absent
  | .unhandled =>
    match form.encoding.resolve form.width template with
    | some name => .operand name
    | none => .unhandled

/-- A template is **omitted** if it marks the implicit vector register and resolves to nothing. -/
def omits (engine : Engine) (form : Form) (template : String) : Bool :=
  template == implicitXmm0 &&
    (engine.resolution form template == .absent || engine.resolution form template == .operand "")

/-- The templates of a form that an operand is written for. -/
def kept (engine : Engine) (form : Form) : List String :=
  form.templates.filter fun template => !engine.omits form template

/-- The operand of a template is **generated**: the template resolves to the name of a register. -/
def Generates (engine : Engine) (form : Form) (template : String) : Prop :=
  ∃ text name, engine.resolution form template = .operand text ∧
    RegisterName.ofString? text = some name

/-- The operand that a template is read as. -/
inductive Reads (engine : Engine) (form : Form) (template : String) : Operand → Prop
  /-- A template that resolves is read as the text it resolves to. -/
  | resolved {text : String} (h : engine.resolution form template = .operand text)
      (hne : text ≠ "") :
      Reads engine form template ⟨template, text, (RegisterName.ofString? text).isSome⟩
  /-- A template that does not resolve is read as it stands. -/
  | verbatim (h : engine.resolution form template = .unhandled) (hne : template ≠ "") :
      Reads engine form template ⟨template, template, false⟩

/-! ## One template -/

theorem read_eq (engine : Engine) (form : Form) (template : String) :
    engine.read form.encoding form.width template =
      match engine.resolution form template with
      | .operand text => .ofResolved template text
      | .absent => .absent
      | .unhandled => engine.fallBack template := by
  rw [read, resolution]
  cases engine.table.translate engine.branchText template with
  | operand text => rfl
  | absent => rfl
  | unhandled => cases form.encoding.resolve form.width template <;> rfl

/-- The fallback writes a template as it stands, or refuses it. -/
theorem fallBack_cases (engine : Engine) (template : String) :
    engine.fallBack template = .ofVerbatim template ∨ engine.fallBack template = .unknown := by
  rw [fallBack]
  cases engine.fallback with
  | passthrough => exact Or.inl rfl
  | strict => cases isVerbatim template <;> simp

theorem ofResolved_of_ne {text : String} (h : text ≠ "") (template : String) :
    Reading.ofResolved template text =
      .operand ⟨template, text, (RegisterName.ofString? text).isSome⟩ :=
  if_neg h

theorem ofVerbatim_of_ne (h : template ≠ "") :
    Reading.ofVerbatim template = .operand ⟨template, template, false⟩ :=
  if_neg h

/-- A template for which an operand is read is not omitted. -/
theorem Reads.omits_eq_false {operand : Operand} (h : engine.Reads form template operand) :
    engine.omits form template = false := by
  cases h with
  | resolved h hne => simp [omits, h, hne]
  | verbatim h _ => simp [omits, h]

/-- **A template is read as an operand, as nothing or not at all**; the marker of the implicit
register is read as nothing only if it is omitted. -/
theorem read_cases (engine : Engine) (form : Form) (template : String) :
    (∃ operand, engine.read form.encoding form.width template = .operand operand ∧
      engine.Reads form template operand) ∨
    engine.read form.encoding form.width template = .absent ∧
      (template = implicitXmm0 → engine.omits form template = true) ∨
    engine.read form.encoding form.width template = .unknown := by
  rw [read_eq]
  cases h : engine.resolution form template with
  | operand text =>
    by_cases hne : text = ""
    · subst hne
      exact Or.inr (Or.inl ⟨rfl, fun hmark => by subst hmark; simp [omits, h]⟩)
    · exact Or.inl ⟨_, ofResolved_of_ne hne template, .resolved h hne⟩
  | absent => exact Or.inr (Or.inl ⟨rfl, fun hmark => by subst hmark; simp [omits, h]⟩)
  | unhandled =>
    rcases fallBack_cases engine template with hback | hback
    · by_cases hne : template = ""
      · subst hne
        exact Or.inr (Or.inl ⟨hback, fun hmark => absurd hmark (by decide)⟩)
      · exact Or.inl ⟨_, hback.trans (ofVerbatim_of_ne hne), .verbatim h hne⟩
    · exact Or.inr (Or.inr hback)

/-- **A template is no violation** exactly if it is read as an operand, or as nothing where it marks
the implicit register. -/
theorem operand?_eq_ok_iff {operand? : Option Operand} :
    engine.operand? form template = .ok operand? ↔
      (∃ operand, engine.read form.encoding form.width template = .operand operand ∧
        operand? = some operand) ∨
      engine.read form.encoding form.width template = .absent ∧ template = implicitXmm0 ∧
        operand? = none := by
  rw [Engine.operand?]
  cases engine.read form.encoding form.width template with
  | operand operand => simp [eq_comm]
  | absent => by_cases hmark : template = implicitXmm0 <;> simp [hmark, eq_comm]
  | unknown => simp

/-- **A template has an operand, is omitted, or is a violation**, though never for lack of
registers. -/
theorem operand?_cases (engine : Engine) (form : Form) (template : String) :
    (∃ operand, engine.operand? form template = .ok (some operand) ∧
      engine.Reads form template operand) ∨
    engine.operand? form template = .ok none ∧ engine.omits form template = true ∨
    ∃ violation, engine.operand? form template = .error violation ∧
      violation.cause ≠ .registersExhausted := by
  rcases read_cases engine form template with ⟨operand, hread, hreads⟩ | ⟨hread, homits⟩ | hread
  · exact Or.inl ⟨operand, operand?_eq_ok_iff.mpr (Or.inl ⟨operand, hread, rfl⟩), hreads⟩
  · by_cases hmark : template = implicitXmm0
    · have hnone := operand?_eq_ok_iff.mpr (Or.inr ⟨hread, hmark, rfl⟩)
      exact Or.inr (Or.inl ⟨hnone, homits hmark⟩)
    · refine Or.inr (Or.inr ⟨⟨.unexpectedAbsence, form.mnemonic, template⟩, ?_, nofun⟩)
      rw [operand?, hread]
      exact if_neg hmark
  · refine Or.inr (Or.inr ⟨⟨.unknownTemplate, form.mnemonic, template⟩, ?_, nofun⟩)
    rw [operand?, hread]

/-- **A template is read as what it resolves to**, whatever the engine and the form. -/
theorem Reads.eq_of_resolution {engine' : Engine} {form' : Form} {operand operand' : Operand}
    (h : engine.Reads form template operand) (h' : engine'.Reads form' template operand')
    (hresolution : engine'.resolution form' template = engine.resolution form template) :
    operand' = operand := by
  cases h with
  | resolved h _ =>
    cases h' with
    | resolved h' _ =>
      obtain rfl := Resolution.operand.inj (h'.symm.trans (hresolution.trans h))
      rfl
    | verbatim h' _ => exact absurd (h'.symm.trans (hresolution.trans h)) nofun
  | verbatim h _ =>
    cases h' with
    | resolved h' _ => exact absurd (h'.symm.trans (hresolution.trans h)) nofun
    | verbatim _ _ => rfl

theorem Reads.template_eq {operand : Operand} (h : engine.Reads form template operand) :
    operand.template = template := by
  cases h <;> rfl

/-! ## All templates -/

theorem operandsOf_cons_eq_ok {templates : List String} {operands : List Operand} :
    engine.operandsOf form (template :: templates) = .ok operands ↔
      ∃ operand? rest, engine.operand? form template = .ok operand? ∧
        engine.operandsOf form templates = .ok rest ∧ operands = operand?.toList ++ rest := by
  rw [operandsOf]
  cases engine.operand? form template with
  | error violation => simp
  | ok operand? =>
    cases engine.operandsOf form templates with
    | error violation => simp
    | ok rest => simp [eq_comm]

/-- **The operands are read one for one, in order, from the templates that are not omitted.** -/
theorem forall₂_reads {templates : List String} {operands : List Operand}
    (h : engine.operandsOf form templates = .ok operands) :
    List.Forall₂ (engine.Reads form) (templates.filter fun t => !engine.omits form t)
      operands := by
  induction templates generalizing operands with
  | nil =>
    obtain rfl : [] = operands := Except.ok.inj h
    exact .nil
  | cons template templates ih =>
    obtain ⟨operand?, rest, hoperand, hrest, rfl⟩ := operandsOf_cons_eq_ok.mp h
    rcases operand?_cases engine form template with ⟨operand, hok, hreads⟩ | ⟨hok, homits⟩ |
      ⟨violation, herror, -⟩
    · obtain rfl : some operand = operand? := Except.ok.inj (hok.symm.trans hoperand)
      rw [List.filter_cons_of_pos (by simp [hreads.omits_eq_false])]
      exact .cons hreads (ih hrest)
    · obtain rfl : none = operand? := Except.ok.inj (hok.symm.trans hoperand)
      rw [List.filter_cons_of_neg (by simp [homits])]
      exact ih hrest
    · rw [herror] at hoperand
      exact absurd hoperand nofun

theorem forall₂_reads_operands {operands : List Operand}
    (h : engine.operands form = .ok operands) :
    List.Forall₂ (engine.Reads form) (engine.kept form) operands :=
  forall₂_reads h

theorem operandsOf_cons_eq_error {templates : List String} {violation : Violation} :
    engine.operandsOf form (template :: templates) = .error violation ↔
      engine.operand? form template = .error violation ∨
        ∃ operand?, engine.operand? form template = .ok operand? ∧
          engine.operandsOf form templates = .error violation := by
  rw [operandsOf]
  cases engine.operand? form template with
  | error violation' => simp
  | ok operand? => cases engine.operandsOf form templates <;> simp

/-- The operand at a position is the reading of the template there. -/
theorem exists_reads_of_getElem? {operands : List Operand} {i : Nat}
    (h : engine.operands form = .ok operands) (ht : (engine.kept form)[i]? = some template) :
    ∃ operand, operands[i]? = some operand ∧ engine.Reads form template operand := by
  obtain ⟨hlength, hget⟩ := List.forall₂_iff_get.mp (forall₂_reads_operands h)
  obtain ⟨hi, rfl⟩ := List.getElem?_eq_some_iff.mp ht
  exact ⟨operands[i], List.getElem?_eq_getElem (hlength ▸ hi), hget i hi (hlength ▸ hi)⟩

/-- …and the other way round. -/
theorem exists_template_of_getElem? {operands : List Operand} {operand : Operand} {i : Nat}
    (h : engine.operands form = .ok operands) (ho : operands[i]? = some operand) :
    ∃ template, (engine.kept form)[i]? = some template ∧ engine.Reads form template operand := by
  obtain ⟨hlength, hget⟩ := List.forall₂_iff_get.mp (forall₂_reads_operands h)
  obtain ⟨hi, rfl⟩ := List.getElem?_eq_some_iff.mp ho
  exact ⟨_, List.getElem?_eq_getElem (hlength ▸ hi), hget i (hlength ▸ hi) hi⟩

/-- A violation among the templates is never one for lack of registers. -/
theorem cause_ne_of_operandsOf {templates : List String} {violation : Violation}
    (h : engine.operandsOf form templates = .error violation) :
    violation.cause ≠ .registersExhausted := by
  induction templates with
  | nil => exact absurd h nofun
  | cons template templates ih =>
    rcases operandsOf_cons_eq_error.mp h with hhead | ⟨-, -, hrest⟩
    · rcases operand?_cases engine form template with ⟨operand, hok, -⟩ | ⟨hok, -⟩ |
        ⟨violation', herror, hcause⟩
      · exact absurd (hok.symm.trans hhead) nofun
      · exact absurd (hok.symm.trans hhead) nofun
      · rw [herror] at hhead
        exact Except.error.inj hhead ▸ hcause
    · exact ih hrest

/-! ## What is read is sound -/

theorem Reads.sound {operand : Operand} (h : engine.Reads form template operand) :
    operand.Sound := by
  cases h with
  | resolved h _ =>
    intro hgen
    simp only [Option.isSome_iff_exists] at hgen
    exact hgen
  | verbatim _ _ => exact fun hgen => absurd hgen Bool.false_ne_true

/-- The operand of a template whose operand is generated may be moved. -/
theorem Reads.generated_iff {operand : Operand} (h : engine.Reads form template operand) :
    operand.generated = true ↔ engine.Generates form template := by
  cases h with
  | resolved h _ =>
    rw [Option.isSome_iff_exists]
    constructor
    · rintro ⟨name, hname⟩
      exact ⟨_, name, h, hname⟩
    · rintro ⟨text, name, htext, hname⟩
      obtain rfl := Resolution.operand.inj (h.symm.trans htext)
      exact ⟨name, hname⟩
  | verbatim h _ =>
    constructor
    · exact fun hgen => absurd hgen Bool.false_ne_true
    · rintro ⟨text, -, htext, -⟩
      exact absurd (h.symm.trans htext) nofun

theorem sound_of_forall₂_reads {templates : List String} {operands : List Operand}
    (h : List.Forall₂ (engine.Reads form) templates operands) :
    ∀ operand ∈ operands, operand.Sound := by
  induction h with
  | nil => simp
  | cons hreads _ ih => exact List.forall_mem_cons.mpr ⟨hreads.sound, ih⟩

/-- **Every generated operand of a form is a register name.** -/
theorem sound_of_operands {operands : List Operand} (h : engine.operands form = .ok operands) :
    ∀ operand ∈ operands, operand.Sound :=
  sound_of_forall₂_reads (forall₂_reads_operands h)

end Engine

end AsmForms
