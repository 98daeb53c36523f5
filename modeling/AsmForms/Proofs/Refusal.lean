import AsmForms.Proofs.Engine.Assignment

/-!
# Proofs/Refusal — the template that a form is refused for

A template is **faulty** if nothing knows it, or if it stands for nothing without being the marker
of the implicit register (`Engine.Faulty`).  A form with faulty templates is refused for the first
of them, whatever the operands before it ask for, and only a form without any can run out of
registers (`first_faulty_template_is_reported`).
-/

namespace AsmForms

namespace Encoding

/-- **The templates that ask for no register** are those that are no role. -/
theorem resolve_eq_none_iff {encoding : Encoding} {width : Width} {template : String} :
    encoding.resolve width template = none ↔
      template ≠ wideRole ∧ ∀ role ∈ encoding.roles, role.1.template ≠ template := by
  rw [resolve]
  split
  next hwide => simp [hwide]
  next hwide => simp [hwide, roles, Role.ofTemplate?, Option.map_eq_none_iff]

end Encoding

namespace Engine

variable {engine : Engine} {form : Form} {template : String} {violation : Violation}

/-! ## What a template stands for -/

/-- What a template of a form **stands for**: a text, or nothing. -/
inductive StandsFor (engine : Engine) (form : Form) (template : String) : Option String → Prop
  /-- The table has a text for it, -/
  | literal {text : String} (h : engine.table.lookup template = some (.literal text)) :
      StandsFor engine form template (some text)
  /-- or leaves it to whatever fills branches in, -/
  | branch {width : BranchWidth} (h : engine.table.lookup template = some (.branch width)) :
      StandsFor engine form template (some (engine.branchText width))
  /-- or says that nothing is written. -/
  | absent (h : engine.table.lookup template = some .absent) :
      StandsFor engine form template none
  /-- What the table does not know may be a role of the encoding, -/
  | role {name : String} (h : engine.table.lookup template = none)
      (hrole : form.encoding.resolve form.width template = some name) :
      StandsFor engine form template (some name)
  /-- or be accepted by the fallback as it stands. -/
  | verbatim (h : engine.table.lookup template = none)
      (hrole : form.encoding.resolve form.width template = none)
      (hfallback : engine.fallback = .passthrough ∨ isVerbatim template = true) :
      StandsFor engine form template (some template)

/-- What is wrong with a **faulty** template. -/
inductive Faulty (engine : Engine) (form : Form) (template : String) : Cause → Prop
  /-- Neither the table nor a role knows it, and the fallback refuses it. -/
  | unknown (htable : engine.table.lookup template = none) (hwide : template ≠ wideRole)
      (hrole : ∀ role ∈ form.encoding.roles, role.1.template ≠ template)
      (hstrict : engine.fallback = .strict) (hverbatim : isVerbatim template = false) :
      Faulty engine form template .unknownTemplate
  /-- It stands for nothing, or for an empty text, and is not the marker of the implicit
  register. -/
  | missing (hmark : template ≠ implicitXmm0)
      (h : engine.StandsFor form template none ∨ engine.StandsFor form template (some "")) :
      Faulty engine form template .unexpectedAbsence

/-! ## One template -/

theorem fallBack_of_accepts (h : engine.fallback = .passthrough ∨ isVerbatim template = true) :
    engine.fallBack template = .ofVerbatim template := by
  rw [fallBack]
  cases hfallback : engine.fallback with
  | passthrough => rfl
  | strict => exact if_pos (h.resolve_left (by simp [hfallback]))

/-- **A template that stands for something is read as an operand**, or as nothing if what it stands
for is empty. -/
theorem read_of_standsFor {text? : Option String} (h : engine.StandsFor form template text?) :
    (text?.getD "" = "" → engine.read form.encoding form.width template = .absent) ∧
      (text?.getD "" ≠ "" →
        ∃ operand, engine.read form.encoding form.width template = .operand operand) := by
  rw [read, Table.translate]
  cases h with
  | literal h =>
    rw [h]
    exact ⟨fun hempty => if_pos hempty, fun hne => ⟨_, if_neg hne⟩⟩
  | branch h =>
    rw [h]
    exact ⟨fun hempty => if_pos hempty, fun hne => ⟨_, if_neg hne⟩⟩
  | absent h =>
    rw [h]
    exact ⟨fun _ => rfl, fun hne => absurd rfl hne⟩
  | role h hrole =>
    rw [h, hrole]
    exact ⟨fun hempty => if_pos hempty, fun hne => ⟨_, if_neg hne⟩⟩
  | verbatim h hrole hfallback =>
    simp only [h, hrole, fallBack_of_accepts hfallback]
    exact ⟨fun hempty => if_pos hempty, fun hne => ⟨_, if_neg hne⟩⟩

/-- **Every template stands for something, or is unknown.** -/
theorem unknown_or_standsFor (engine : Engine) (form : Form) (template : String) :
    engine.Faulty form template .unknownTemplate ∨
      ∃ text?, engine.StandsFor form template text? := by
  cases htable : engine.table.lookup template with
  | some expansion =>
    cases expansion with
    | literal text => exact Or.inr ⟨_, .literal htable⟩
    | branch width => exact Or.inr ⟨_, .branch htable⟩
    | absent => exact Or.inr ⟨_, .absent htable⟩
  | none =>
    cases hrole : form.encoding.resolve form.width template with
    | some name => exact Or.inr ⟨_, .role htable hrole⟩
    | none =>
      by_cases hfallback : engine.fallback = .passthrough ∨ isVerbatim template = true
      · exact Or.inr ⟨_, .verbatim htable hrole hfallback⟩
      · rw [not_or, Bool.not_eq_true] at hfallback
        have hstrict : engine.fallback = .strict := by
          cases h : engine.fallback with
          | strict => rfl
          | passthrough => exact absurd h hfallback.1
        obtain ⟨hwide, hroles⟩ := Encoding.resolve_eq_none_iff.mp hrole
        exact Or.inl (.unknown htable hwide hroles hstrict hfallback.2)

theorem read_of_unknown (h : engine.Faulty form template .unknownTemplate) :
    engine.read form.encoding form.width template = .unknown := by
  obtain ⟨htable, hwide, hroles, hstrict, hverbatim⟩ := h
  have hrole : form.encoding.resolve form.width template = none :=
    Encoding.resolve_eq_none_iff.mpr ⟨hwide, hroles⟩
  rw [read, Table.translate, htable]
  simp [hrole, fallBack, hstrict, hverbatim]

/-- **A template is a violation exactly if it is faulty**, and of the kind of its fault. -/
theorem operand?_eq_error_iff :
    engine.operand? form template = .error violation ↔
      violation.mnemonic = form.mnemonic ∧ violation.template = template ∧
        engine.Faulty form template violation.cause := by
  obtain ⟨cause, mnemonic, named⟩ := violation
  rw [operand?]
  constructor
  · intro h
    rcases unknown_or_standsFor engine form template with hunknown | ⟨text?, hstands⟩
    · rw [read_of_unknown hunknown] at h
      cases h
      exact ⟨rfl, rfl, hunknown⟩
    · by_cases hempty : text?.getD "" = ""
      · rw [(read_of_standsFor hstands).1 hempty] at h
        by_cases hmark : template = implicitXmm0
        · simp [hmark] at h
        · simp only [if_neg hmark] at h
          cases h
          refine ⟨rfl, rfl, .missing hmark ?_⟩
          cases text? with
          | none => exact Or.inl hstands
          | some text =>
            obtain rfl : text = "" := hempty
            exact Or.inr hstands
      · obtain ⟨operand, hread⟩ := (read_of_standsFor hstands).2 hempty
        rw [hread] at h
        cases h
  · rintro ⟨rfl, rfl, hfault⟩
    cases hfault with
    | unknown htable hwide hroles hstrict hverbatim =>
      rw [read_of_unknown (.unknown htable hwide hroles hstrict hverbatim)]
    | missing hmark h =>
      have hread : engine.read form.encoding form.width named = .absent := by
        rcases h with h | h
        · exact (read_of_standsFor h).1 rfl
        · exact (read_of_standsFor h).1 rfl
      rw [hread]
      exact if_neg hmark

/-! ## All templates -/

/-- **The first violation among some templates** is the one reported. -/
theorem operandsOf_eq_error_iff {templates : List String} :
    engine.operandsOf form templates = .error violation ↔
      ∃ before after, templates = before ++ violation.template :: after ∧
        engine.operand? form violation.template = .error violation ∧
        ∀ template ∈ before, ∃ operand?, engine.operand? form template = .ok operand? := by
  induction templates with
  | nil => simp [operandsOf]
  | cons template templates ih =>
    rw [operandsOf_cons_eq_error, ih]
    constructor
    · rintro (herror | ⟨operand?, hok, before, after, rfl, herror, hbefore⟩)
      · obtain rfl := (operand?_eq_error_iff.mp herror).2.1
        exact ⟨[], templates, rfl, herror, by simp⟩
      · exact ⟨template :: before, after, rfl, herror,
          List.forall_mem_cons.mpr ⟨⟨operand?, hok⟩, hbefore⟩⟩
    · rintro ⟨before, after, hsplit, herror, hbefore⟩
      cases before with
      | nil =>
        obtain ⟨rfl, -⟩ := List.cons.inj hsplit
        exact Or.inl herror
      | cons first before =>
        obtain ⟨rfl, rfl⟩ := List.cons.inj hsplit
        obtain ⟨⟨operand?, hok⟩, hbefore⟩ := List.forall_mem_cons.mp hbefore
        exact Or.inr ⟨operand?, hok, before, after, rfl, herror, hbefore⟩

/-- A template is no violation exactly if it has no fault. -/
theorem exists_operand?_iff :
    (∃ operand?, engine.operand? form template = .ok operand?) ↔
      ¬ ∃ cause, engine.Faulty form template cause := by
  constructor
  · rintro ⟨operand?, hok⟩ ⟨cause, hfault⟩
    have herror : engine.operand? form template = .error ⟨cause, form.mnemonic, template⟩ :=
      operand?_eq_error_iff.mpr ⟨rfl, rfl, hfault⟩
    exact absurd (hok.symm.trans herror) nofun
  · intro hfault
    cases hoperand : engine.operand? form template with
    | ok operand? => exact ⟨operand?, rfl⟩
    | error violation => exact absurd ⟨_, (operand?_eq_error_iff.mp hoperand).2.2⟩ hfault

/-- **Templates are read if each of them is.** -/
theorem exists_operandsOf {templates : List String}
    (h : ∀ template ∈ templates, ∃ operand?, engine.operand? form template = .ok operand?) :
    ∃ operands, engine.operandsOf form templates = .ok operands := by
  cases hread : engine.operandsOf form templates with
  | ok operands => exact ⟨operands, rfl⟩
  | error violation =>
    obtain ⟨before, after, rfl, herror, -⟩ := operandsOf_eq_error_iff.mp hread
    obtain ⟨operand?, hok⟩ := h violation.template (by simp)
    exact absurd (hok.symm.trans herror) nofun

/-- Templates that are all read have no fault. -/
theorem not_faulty_of_operandsOf {templates : List String} {operands : List Operand}
    (h : engine.operandsOf form templates = .ok operands) :
    ∀ template ∈ templates, ¬ ∃ cause, engine.Faulty form template cause := by
  induction templates generalizing operands with
  | nil => simp
  | cons template templates ih =>
    obtain ⟨operand?, rest, hoperand, hrest, -⟩ := operandsOf_cons_eq_ok.mp h
    exact List.forall_mem_cons.mpr ⟨exists_operand?_iff.mp ⟨operand?, hoperand⟩, ih hrest⟩

/-- **A form cannot be read exactly because of its first faulty template.** -/
theorem operands_eq_error_iff :
    engine.operands form = .error violation ↔
      violation.mnemonic = form.mnemonic ∧
        ∃ before after, form.templates = before ++ violation.template :: after ∧
          engine.Faulty form violation.template violation.cause ∧
          ∀ template ∈ before, ¬ ∃ cause, engine.Faulty form template cause := by
  rw [operands, operandsOf_eq_error_iff]
  simp only [operand?_eq_error_iff, exists_operand?_iff, true_and]
  constructor
  · rintro ⟨before, after, hsplit, ⟨hmnemonic, hfault⟩, hbefore⟩
    exact ⟨hmnemonic, before, after, hsplit, hfault, hbefore⟩
  · rintro ⟨hmnemonic, before, after, hsplit, hfault, hbefore⟩
    exact ⟨before, after, hsplit, ⟨hmnemonic, hfault⟩, hbefore⟩

/-- The violations of templates come first: they are those that are not about registers. -/
theorem instantiate_eq_error_iff :
    engine.instantiate form = .error violation ∧ violation.cause ≠ .registersExhausted ↔
      engine.operands form = .error violation := by
  rw [instantiate, run, Outcome.result_after]
  cases hread : engine.operands form with
  | error first =>
    simp only [refuse, Except.error.injEq, and_iff_left_iff_imp]
    rintro rfl
    exact cause_ne_of_operandsOf hread
  | ok operands =>
    simp only [finish, Outcome.result_after, reduceCtorEq, iff_false, not_and, not_not]
    cases (Allocation.ofOperands form.encoding operands).unmet with
    | none =>
      intro h
      cases h
    | some operand =>
      intro h
      obtain rfl := Except.error.inj h
      rfl

/-- All that can be wrong with a form whose templates are read is that registers run out. -/
theorem cause_of_operands {operands : List Operand} (h : engine.operands form = .ok operands)
    (herror : engine.instantiate form = .error violation) :
    violation.cause = .registersExhausted := by
  by_contra hcause
  exact absurd (h.symm.trans (instantiate_eq_error_iff.mp ⟨herror, hcause⟩)) nofun

end Engine

/-- **A form is refused for its first faulty template.**  The violation carries that template, the
kind of its fault and the mnemonic of the form; it is reported whenever there is a faulty template,
and a form that runs out of registers has none. -/
theorem first_faulty_template_is_reported (engine : Engine) (form : Form) :
    (∀ violation,
      engine.instantiate form = .error violation ∧ violation.cause ≠ .registersExhausted ↔
        violation.mnemonic = form.mnemonic ∧
          ∃ before after, form.templates = before ++ violation.template :: after ∧
            engine.Faulty form violation.template violation.cause ∧
            ∀ template ∈ before, ¬ ∃ cause, engine.Faulty form template cause) ∧
      ((∃ violation,
        engine.instantiate form = .error violation ∧ violation.cause ≠ .registersExhausted) ↔
          ∃ template ∈ form.templates, ∃ cause, engine.Faulty form template cause) ∧
      ∀ mnemonic template,
        engine.instantiate form = .error ⟨.registersExhausted, mnemonic, template⟩ →
          ¬ ∃ template ∈ form.templates, ∃ cause, engine.Faulty form template cause := by
  have hno_fault {operands : List Operand} (hread : engine.operands form = .ok operands) :
      ¬ ∃ template ∈ form.templates, ∃ cause, engine.Faulty form template cause :=
    fun ⟨template, hmem, hfault⟩ => Engine.not_faulty_of_operandsOf hread template hmem hfault
  refine ⟨fun violation => ?_, ⟨?_, fun hfault => ?_⟩, fun mnemonic template hexhausted => ?_⟩
  · rw [Engine.instantiate_eq_error_iff, Engine.operands_eq_error_iff]
  · rintro ⟨violation, hrefused⟩
    rw [Engine.instantiate_eq_error_iff, Engine.operands_eq_error_iff] at hrefused
    obtain ⟨-, before, after, hsplit, hfault, -⟩ := hrefused
    exact ⟨violation.template, by simp [hsplit], violation.cause, hfault⟩
  · cases hread : engine.operands form with
    | ok operands => exact absurd hfault (hno_fault hread)
    | error violation => exact ⟨violation, Engine.instantiate_eq_error_iff.mpr hread⟩
  · obtain ⟨-, operands, -, hread, -⟩ := Engine.instantiate_eq_exhausted_iff.mp hexhausted
    exact hno_fault hread

/-- Five byte operands are one more than there are registers for, but the template that stands for
nothing comes to light first; the mnemonic is that of the form, which would be spelled `MOVABS`. -/
theorem absent_template_outranks_exhaustion :
    let table := Table.ofDefinitions [("imm64", .literal "0x400000000002d06d"), ("gone", .absent)]
    let engine := Engine.ofConfig table {}
    let form : Form := ⟨"MOV", ["r8", "imm64", "r8", "r8", "r8", "r8", "gone", "bogus"], .legacy⟩
    engine.instantiate form = .error ⟨.unexpectedAbsence, "MOV", "gone"⟩ ∧
      ∃ before after, form.templates = before ++ "gone" :: after ∧
        engine.Faulty form "gone" .unexpectedAbsence ∧
        ∀ template ∈ before, ¬ ∃ cause, engine.Faulty form template cause := by
  intro table engine form
  have h : engine.instantiate form = .error ⟨.unexpectedAbsence, "MOV", "gone"⟩ := by decide
  have hfirst := (first_faulty_template_is_reported engine form).1
    ⟨.unexpectedAbsence, "MOV", "gone"⟩
  exact ⟨h, (hfirst.mp ⟨h, nofun⟩).2⟩

end AsmForms
