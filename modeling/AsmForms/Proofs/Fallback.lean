import AsmForms.Proofs.Refusal

/-!
# Proofs/Fallback — the lenient fallback extends the strict one

The two fallbacks differ on **foreign** templates only: those that neither the table nor a role
knows and that are no operand as they stand (`Engine.Foreign`).  The strict fallback refuses a form
for the first of them, if no other fault comes before it, and the lenient one reads on.  In all
other cases both have the same outcome, events included (`passthrough_extends_strict`).
-/

namespace AsmForms

namespace Engine

variable {engine engine' : Engine} {form : Form} {template : String}

/-- The engine with another fallback. -/
def withFallback (engine : Engine) (fallback : Fallback) : Engine :=
  { engine with fallback := fallback }

/-- A template is **foreign**: the table has no row for it, it is no role, and it cannot be written
as it stands. -/
def Foreign (engine : Engine) (form : Form) (template : String) : Prop :=
  engine.table.lookup template = none ∧
    (template ≠ wideRole ∧ ∀ role ∈ form.encoding.roles, role.1.template ≠ template) ∧
    isVerbatim template = false

/-- The form is refused because nothing knows one of its templates. -/
def RefusesAsUnknown (engine : Engine) (form : Form) : Prop :=
  ∃ violation, engine.instantiate form = .error violation ∧ violation.cause = .unknownTemplate

/-! ## Refusals as unknown -/

/-- **Only the strict fallback finds a template unknown**, and only a foreign one. -/
theorem faulty_unknownTemplate_iff :
    engine.Faulty form template .unknownTemplate ↔
      engine.fallback = .strict ∧ engine.Foreign form template := by
  constructor
  · rintro ⟨htable, hwide, hrole, hstrict, hverbatim⟩
    exact ⟨hstrict, htable, ⟨hwide, hrole⟩, hverbatim⟩
  · rintro ⟨hstrict, htable, ⟨hwide, hrole⟩, hverbatim⟩
    exact .unknown htable hwide hrole hstrict hverbatim

theorem faulty_strict_iff_foreign :
    (engine.withFallback .strict).Faulty form template .unknownTemplate ↔
      engine.Foreign form template :=
  faulty_unknownTemplate_iff.trans (and_iff_right rfl)

/-- **A form is refused as unknown exactly if its first faulty template is unknown.** -/
theorem refusesAsUnknown_iff :
    engine.RefusesAsUnknown form ↔
      ∃ before template after, form.templates = before ++ template :: after ∧
        engine.Faulty form template .unknownTemplate ∧
        ∀ other ∈ before, ¬ ∃ cause, engine.Faulty form other cause := by
  have hread (violation : Violation) (hcause : violation.cause = .unknownTemplate) :
      engine.instantiate form = .error violation ↔ engine.operands form = .error violation := by
    rw [← instantiate_eq_error_iff, hcause]
    exact (and_iff_left nofun).symm
  constructor
  · rintro ⟨violation, herror, hcause⟩
    rw [hread violation hcause, operands_eq_error_iff, hcause] at herror
    obtain ⟨-, before, after, hsplit, hfault, hbefore⟩ := herror
    exact ⟨before, violation.template, after, hsplit, hfault, hbefore⟩
  · rintro ⟨before, template, after, hsplit, hfault, hbefore⟩
    refine ⟨⟨.unknownTemplate, form.mnemonic, template⟩, ?_, rfl⟩
    rw [hread _ rfl, operands_eq_error_iff]
    exact ⟨rfl, before, after, hsplit, hfault, hbefore⟩

/-! ## Reading under both fallbacks -/

/-- A fallback is asked last. -/
theorem read_withFallback (engine : Engine) (fallback : Fallback) (form : Form)
    (template : String) :
    (engine.withFallback fallback).read form.encoding form.width template =
      match engine.resolution form template with
      | .operand text => .ofResolved template text
      | .absent => .absent
      | .unhandled => (engine.withFallback fallback).fallBack template :=
  read_eq _ _ _

/-- **A template that the strict fallback knows is read alike under both.** -/
theorem read_passthrough
    (h : (engine.withFallback .strict).read form.encoding form.width template ≠ .unknown) :
    (engine.withFallback .passthrough).read form.encoding form.width template =
      (engine.withFallback .strict).read form.encoding form.width template := by
  rw [read_withFallback] at h ⊢
  rw [read_withFallback]
  cases hresolution : engine.resolution form template with
  | operand text => rfl
  | absent => rfl
  | unhandled =>
    simp only [hresolution] at h ⊢
    rcases fallBack_cases (engine.withFallback .strict) template with hverbatim | hunknown
    · rw [hverbatim]
      rfl
    · exact absurd hunknown h

theorem operand?_passthrough
    (h : ∀ violation, (engine.withFallback .strict).operand? form template = .error violation →
      violation.cause ≠ .unknownTemplate) :
    (engine.withFallback .passthrough).operand? form template =
      (engine.withFallback .strict).operand? form template := by
  rw [operand?, operand?, read_passthrough fun hunknown => ?_]
  refine h ⟨.unknownTemplate, form.mnemonic, template⟩ ?_ rfl
  rw [operand?, hunknown]

/-- **Templates among which none is found unknown are read alike under both fallbacks.** -/
theorem operandsOf_passthrough {templates : List String}
    (h : ∀ violation, (engine.withFallback .strict).operandsOf form templates = .error violation →
      violation.cause ≠ .unknownTemplate) :
    (engine.withFallback .passthrough).operandsOf form templates =
      (engine.withFallback .strict).operandsOf form templates := by
  induction templates with
  | nil => rfl
  | cons template templates ih =>
    simp only [operandsOf_cons_eq_error] at h
    have hhead := operand?_passthrough fun violation herror => h violation (Or.inl herror)
    rw [operandsOf, operandsOf, hhead]
    cases hoperand : (engine.withFallback .strict).operand? form template with
    | error violation => rfl
    | ok operand? =>
      rw [ih fun violation herror => h violation (Or.inr ⟨operand?, hoperand, herror⟩)]

/-- An outcome depends on the engine through the operands that it reads. -/
theorem run_congr (h : engine.operands form = engine'.operands form) :
    engine.run form = engine'.run form := by
  rw [run, run, h]

end Engine

/-- **The lenient fallback extends the strict one.**  Whatever the table and the branches, both have
the same outcome, the events included, exactly if the strict one does not refuse the form as
unknown.  The lenient one never does; the strict one does exactly if the first faulty template of the
form is foreign. -/
theorem passthrough_extends_strict (engine : Engine) (form : Form) :
    ((engine.withFallback .passthrough).run form = (engine.withFallback .strict).run form ↔
      ¬ (engine.withFallback .strict).RefusesAsUnknown form) ∧
    ¬ (engine.withFallback .passthrough).RefusesAsUnknown form ∧
    ((engine.withFallback .strict).RefusesAsUnknown form ↔
      ∃ before template after, form.templates = before ++ template :: after ∧
        engine.Foreign form template ∧
        ∀ other ∈ before, ¬ ∃ cause, (engine.withFallback .strict).Faulty form other cause) := by
  have hpassthrough : ¬ (engine.withFallback .passthrough).RefusesAsUnknown form := by
    rw [Engine.refusesAsUnknown_iff]
    rintro ⟨-, template, -, -, hfault, -⟩
    exact absurd (Engine.faulty_unknownTemplate_iff.mp hfault).1 nofun
  refine ⟨⟨fun hrun hstrict => hpassthrough ?_, fun hstrict => Engine.run_congr ?_⟩,
    hpassthrough, ?_⟩
  · rwa [Engine.RefusesAsUnknown, Engine.instantiate, hrun]
  · refine Engine.operandsOf_passthrough fun violation herror hcause => hstrict ?_
    exact ⟨violation, (Engine.instantiate_eq_error_iff.mpr herror).1, hcause⟩
  · rw [Engine.refusesAsUnknown_iff]
    simp only [Engine.faulty_strict_iff_foreign]

/-- The empty template is unknown to the strict fallback, and nothing to write for the lenient one;
where a template that stands for nothing comes first, both report that one. -/
theorem empty_template_under_both_fallbacks :
    let engine := Engine.ofConfig (.ofDefinitions [("gone", .absent)]) {}
    let strict := engine.withFallback .strict
    let passthrough := engine.withFallback .passthrough
    let form : Form := ⟨"X", ["r32", "", "gone"], .legacy⟩
    let form' : Form := ⟨"X", ["r32", "gone", ""], .legacy⟩
    strict.instantiate form = .error ⟨.unknownTemplate, "X", ""⟩ ∧
      passthrough.instantiate form = .error ⟨.unexpectedAbsence, "X", ""⟩ ∧
      passthrough.run form ≠ strict.run form ∧
      strict.instantiate form' = .error ⟨.unexpectedAbsence, "X", "gone"⟩ ∧
      passthrough.run form' = strict.run form' := by
  intro engine strict passthrough form form'
  have h : strict.instantiate form = .error ⟨.unknownTemplate, "X", ""⟩ := by decide
  have h' : strict.instantiate form' = .error ⟨.unexpectedAbsence, "X", "gone"⟩ := by decide
  refine ⟨h, by decide, fun heq => ?_, h', ?_⟩
  · exact (passthrough_extends_strict engine form).1.mp heq ⟨_, h, rfl⟩
  · refine (passthrough_extends_strict engine form').1.mpr fun ⟨violation, herror, hcause⟩ => ?_
    obtain rfl := Except.error.inj (h'.symm.trans herror)
    exact absurd hcause nofun

end AsmForms
