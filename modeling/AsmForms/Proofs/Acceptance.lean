import AsmForms.Proofs.Template.Known

/-!
# Proofs/Acceptance — the built-in vocabulary is exact

The **built-in vocabulary** (`InVocabulary`) consists of the templates that the table defines, the
roles, the registers that forms name explicitly, two names of the top of the x87 stack, and the
decimal constants.  With the built-in table, the strict fallback refuses a form as unknown for the
first template outside the vocabulary, and the lenient one has no fault to find but the empty
template (`builtin_vocabulary_is_exact`).

It all comes from the faults of a single template (`faulty_builtin_iff`).  In the vocabulary there
is none; outside of it a template can only stand for itself, and then it stands for nothing only if
it is empty.
-/

namespace AsmForms

/-- The **built-in vocabulary**.  Case matters, nothing may stand around a constant, and its digits
are the ten ASCII digits. -/
inductive InVocabulary : String → Prop
  | defined {template : String} {expansion : Expansion}
      (h : (template, expansion) ∈ Table.builtinDefinitions) : InVocabulary template
  | role {template : String}
      (h : template ∈ ["r8", "r16", "r32", "r32a", "r32b", "r64", "r64a", "r64b"]) :
      InVocabulary template
  | wideRole : InVocabulary "reg"
  | register {template : String} (h : template ∈ fixedRegisters) : InVocabulary template
  | stack : InVocabulary "ST"
  | stackTop : InVocabulary "ST(0)"
  | constant {template : String} (hne : template ≠ "")
      (hdigits : ∀ c ∈ template.toList, '0' ≤ c ∧ c ≤ '9') : InVocabulary template

/-! ## What the vocabulary consists of -/

/-- **The roles** are the eight of a fixed width, and the one that is valid at two. -/
theorem Encoding.isRole_eq_true_iff {template : String} :
    Encoding.isRole template = true ↔ template = "reg" ∨
      template ∈ ["r8", "r16", "r32", "r32a", "r32b", "r64", "r64a", "r64b"] := by
  have htemplates : Role.all.map Role.template =
      ["r8", "r16", "r32", "r32a", "r32b", "r64", "r64a", "r64b"] := rfl
  rw [Encoding.isRole, Bool.or_eq_true, beq_iff_eq, AsmForms.wideRole, ← htemplates, List.mem_map,
    List.any_eq_true]
  simp only [beq_iff_eq]

/-- **The constants** are the nonempty texts of the ten ASCII digits. -/
theorem isConstant_eq_true_iff {template : String} :
    isConstant template = true ↔
      template ≠ "" ∧ ∀ c ∈ template.toList, '0' ≤ c ∧ c ≤ '9' := by
  have hdigit (c : Char) : c.isDigit = true ↔ '0' ≤ c ∧ c ≤ '9' := isDigit_iff
  rw [isConstant, Bool.and_eq_true, List.all_eq_true]
  simp only [hdigit, Bool.not_eq_true', String.isEmpty_eq_false_iff]

/-- **The vocabulary is what is known.** -/
theorem isKnown_iff_inVocabulary {template : String} :
    IsKnown template ↔ InVocabulary template := by
  rw [IsKnown, isVerbatim, Encoding.isRole_eq_true_iff, Bool.or_eq_true, Bool.or_eq_true,
    isConstant_eq_true_iff, isFixedRegister, List.contains_iff_mem, isStackTop, Bool.or_eq_true,
    beq_iff_eq, beq_iff_eq, List.mem_map]
  constructor
  · rintro (⟨entry, h, rfl⟩ | (rfl | h) | (h | rfl | rfl) | ⟨hne, hdigits⟩)
    · exact .defined h
    · exact .wideRole
    · exact .role h
    · exact .register h
    · exact .stack
    · exact .stackTop
    · exact .constant hne hdigits
  · intro h
    cases h with
    | defined h => exact .inl ⟨_, h, rfl⟩
    | role h => exact .inr (.inl (.inr h))
    | wideRole => exact .inr (.inl (.inl rfl))
    | register h => exact .inr (.inr (.inl (.inl h)))
    | stack => exact .inr (.inr (.inl (.inr (.inl rfl))))
    | stackTop => exact .inr (.inr (.inl (.inr (.inr rfl))))
    | constant hne hdigits => exact .inr (.inr (.inr ⟨hne, hdigits⟩))

instance : DecidablePred InVocabulary := fun _ => decidable_of_iff _ isKnown_iff_inVocabulary

/-! ## The faults of a template -/

section

variable {config : Config} {form : Form} {template : String} {cause : Cause}

/-- Outside the vocabulary there is nothing in the table, and no role. -/
theorem unhandled_of_not_inVocabulary (h : ¬ InVocabulary template) :
    Table.builtin.lookup template = none ∧
      (∀ encoding : Encoding, ∀ width, encoding.resolve width template = none) ∧
        isVerbatim template = false := by
  rw [← isKnown_iff_inVocabulary, IsKnown, not_or, not_or, Bool.not_eq_true, Bool.not_eq_true] at h
  exact ⟨Table.lookup_builtin_eq_none_iff.mpr h.1,
    fun _ _ => Encoding.resolve_eq_none_iff_isRole.mpr h.2.1, h.2.2⟩

/-- **Outside the vocabulary a template can only stand for itself**, with the lenient fallback. -/
theorem standsFor_of_not_inVocabulary (h : ¬ InVocabulary template) {text? : Option String} :
    (Engine.ofConfig Table.builtin config).StandsFor form template text? ↔
      text? = some template ∧ config.fallback = .passthrough := by
  obtain ⟨htable, hrole, hverbatim⟩ := unhandled_of_not_inVocabulary h
  constructor
  · intro hstands
    cases hstands with
    | literal h => exact absurd (htable.symm.trans h) nofun
    | branch h => exact absurd (htable.symm.trans h) nofun
    | absent h => exact absurd (htable.symm.trans h) nofun
    | role _ h => exact absurd ((hrole _ _).symm.trans h) nofun
    | verbatim _ _ hfallback =>
      exact ⟨rfl, hfallback.resolve_right (by simp [hverbatim])⟩
  · rintro ⟨rfl, hfallback⟩
    exact .verbatim htable (hrole _ _) (.inl hfallback)

/-- **The faults of templates**: with the strict fallback what is outside the vocabulary is unknown,
and with the lenient one the empty template stands for nothing. -/
theorem faulty_builtin_iff :
    (Engine.ofConfig Table.builtin config).Faulty form template cause ↔
      config.fallback = .strict ∧ ¬ InVocabulary template ∧ cause = .unknownTemplate ∨
        config.fallback = .passthrough ∧ template = "" ∧ cause = .unexpectedAbsence := by
  have hempty : ¬ InVocabulary "" := by decide
  constructor
  · intro hfault
    -- What is in the vocabulary is read, so it has no fault.
    have h : ¬ InVocabulary template := fun h =>
      Engine.exists_operand?_iff.mp
        (exists_operand?_of_isKnown config form (isKnown_iff_inVocabulary.mpr h)) ⟨cause, hfault⟩
    cases hfault with
    | unknown _ _ _ hstrict _ => exact .inl ⟨hstrict, h, rfl⟩
    | missing _ hstands =>
      rw [standsFor_of_not_inVocabulary h, standsFor_of_not_inVocabulary h] at hstands
      obtain ⟨hnone, -⟩ | ⟨hsome, hfallback⟩ := hstands
      · exact absurd hnone nofun
      · exact .inr ⟨hfallback, (Option.some.inj hsome).symm, rfl⟩
  · rintro (⟨hstrict, h, rfl⟩ | ⟨hfallback, rfl, rfl⟩)
    · obtain ⟨htable, hrole, hverbatim⟩ := unhandled_of_not_inVocabulary h
      obtain ⟨hwide, hroles⟩ := Encoding.resolve_eq_none_iff.mp (hrole form.encoding form.width)
      exact .unknown htable hwide hroles hstrict hverbatim
    · exact .missing (by decide)
        (.inr ((standsFor_of_not_inVocabulary hempty).mpr ⟨rfl, hfallback⟩))

end

/-! ## The violation that is reported -/

section

variable {engine : Engine} {form : Form} {cause kind : Cause} {mnemonic template : String}
  {bad : String → Prop} [DecidablePred bad]

/-- The first element that is equal to a given one is that one. -/
theorem find?_eq_iff {texts : List String} {text found : String} :
    texts.find? (· = text) = some found ↔ found = text ∧ text ∈ texts := by
  induction texts with
  | nil => simp
  | cons first texts ih =>
    rw [List.find?_cons_eq_some, ih, List.mem_cons]
    by_cases h : first = text
    · simp [h, eq_comm]
    · simp [h, Ne.symm h]

/-- **If templates have one kind of fault only**, it is reported of the first that has it, and no
other kind is. -/
theorem Engine.instantiate_eq_error_iff_find?
    (hfaulty : ∀ template kind, engine.Faulty form template kind ↔ bad template ∧ kind = cause)
    (hkind : kind ≠ .registersExhausted) :
    engine.instantiate form = .error ⟨kind, mnemonic, template⟩ ↔
      kind = cause ∧ mnemonic = form.mnemonic ∧
        form.templates.find? (fun template => bad template) = some template := by
  have hread : engine.instantiate form = .error ⟨kind, mnemonic, template⟩ ↔
      engine.operands form = .error ⟨kind, mnemonic, template⟩ :=
    (and_iff_left hkind).symm.trans instantiate_eq_error_iff
  rw [hread, operands_eq_error_iff, List.find?_eq_some_iff_append]
  simp only [hfaulty, decide_eq_true_eq, Bool.not_eq_true', decide_eq_false_iff_not]
  constructor
  · rintro ⟨rfl, before, after, hsplit, ⟨hbad, rfl⟩, hbefore⟩
    exact ⟨rfl, rfl, hbad, before, after, hsplit, fun other hmem hother =>
      hbefore other hmem ⟨_, hother, rfl⟩⟩
  · rintro ⟨rfl, rfl, hbad, before, after, hsplit, hbefore⟩
    exact ⟨rfl, before, after, hsplit, ⟨hbad, rfl⟩, fun other hmem ⟨_, hother, _⟩ =>
      hbefore other hmem hother⟩

/-- Some template is reported exactly if one has the fault. -/
theorem Engine.exists_eq_error_iff
    (hfaulty : ∀ template kind, engine.Faulty form template kind ↔ bad template ∧ kind = cause)
    (hcause : cause ≠ .registersExhausted) :
    (∃ mnemonic template, engine.instantiate form = .error ⟨cause, mnemonic, template⟩) ↔
      ∃ template ∈ form.templates, bad template := by
  simp only [instantiate_eq_error_iff_find? hfaulty hcause]
  constructor
  · rintro ⟨mnemonic, template, -, -, hfind⟩
    exact ⟨template, List.mem_of_find?_eq_some hfind, by simpa using List.find?_some hfind⟩
  · rintro ⟨template, hmem, hbad⟩
    have hsome : (form.templates.find? fun template => bad template).isSome :=
      List.find?_isSome.mpr ⟨template, hmem, decide_eq_true hbad⟩
    obtain ⟨first, hfind⟩ := Option.isSome_iff_exists.mp hsome
    exact ⟨form.mnemonic, first, trivial, rfl, hfind⟩

end

/-- **The built-in vocabulary is exact**, in every dialect and with every label.  The strict
fallback refuses a form as unknown if and only if one of its templates is outside the vocabulary,
for the first of them, and never because one stands for nothing.  The lenient one never refuses a
form as unknown, and because a template stands for nothing if and only if one is empty. -/
theorem builtin_vocabulary_is_exact (dialect : Dialect) (label : String) (form : Form) :
    let strict := Engine.ofConfig .builtin ⟨dialect, .strict, label⟩
    let passthrough := Engine.ofConfig .builtin ⟨dialect, .passthrough, label⟩
    (∀ mnemonic template,
      strict.instantiate form = .error ⟨.unknownTemplate, mnemonic, template⟩ ↔
        mnemonic = form.mnemonic ∧ form.templates.find? (¬ InVocabulary ·) = some template) ∧
    ((∃ mnemonic template,
      strict.instantiate form = .error ⟨.unknownTemplate, mnemonic, template⟩) ↔
        ∃ template ∈ form.templates, ¬ InVocabulary template) ∧
    (∀ mnemonic template,
      strict.instantiate form ≠ .error ⟨.unexpectedAbsence, mnemonic, template⟩) ∧
    (∀ mnemonic template,
      passthrough.instantiate form ≠ .error ⟨.unknownTemplate, mnemonic, template⟩) ∧
    ∀ mnemonic template,
      passthrough.instantiate form = .error ⟨.unexpectedAbsence, mnemonic, template⟩ ↔
        mnemonic = form.mnemonic ∧ template = "" ∧ "" ∈ form.templates := by
  intro strict passthrough
  have hstrict (template : String) (kind : Cause) :
      strict.Faulty form template kind ↔ ¬ InVocabulary template ∧ kind = .unknownTemplate := by
    simp [strict, faulty_builtin_iff]
  have hpassthrough (template : String) (kind : Cause) :
      passthrough.Faulty form template kind ↔ template = "" ∧ kind = .unexpectedAbsence := by
    simp [passthrough, faulty_builtin_iff]
  refine ⟨fun mnemonic template => ?_, Engine.exists_eq_error_iff hstrict (by decide),
    fun mnemonic template h => ?_, fun mnemonic template h => ?_, fun mnemonic template => ?_⟩
  · rw [Engine.instantiate_eq_error_iff_find? hstrict (by decide), eq_self, true_and]
  · obtain ⟨hkind, -⟩ := (Engine.instantiate_eq_error_iff_find? hstrict (by decide)).mp h
    cases hkind
  · obtain ⟨hkind, -⟩ := (Engine.instantiate_eq_error_iff_find? hpassthrough (by decide)).mp h
    cases hkind
  · rw [Engine.instantiate_eq_error_iff_find? hpassthrough (by decide), eq_self, true_and,
      find?_eq_iff]

/-- Near misses of the top of the x87 stack, of registers, of constants and of roles.  The lenient
fallback passes over them. -/
theorem near_misses_are_outside_the_vocabulary :
    let strict := Engine.ofConfig .builtin ⟨.nasm, .strict, "Label"⟩
    let passthrough := Engine.ofConfig .builtin ⟨.nasm, .passthrough, "Label"⟩
    (∀ template ∈ ["ST(1)", "st", "al", "XMM1", "1\n", " 1", "+1", "\u0663", "R32", "reg8", ""],
      strict.instantiate ⟨"X", ["ST", "ST(0)", "007", "reg", template, "?"], .legacy⟩ =
        .error ⟨.unknownTemplate, "X", template⟩) ∧
      passthrough.instantiate ⟨"X", ["ST(1)", "\u0663", "", "?"], .legacy⟩ =
        .error ⟨.unexpectedAbsence, "X", ""⟩ := by
  intro strict passthrough
  constructor
  · intro template hmem
    refine ((builtin_vocabulary_is_exact .nasm "Label" _).1 "X" template).mpr ⟨rfl, ?_⟩
    revert template
    decide
  · obtain ⟨-, -, -, -, habsent⟩ := builtin_vocabulary_is_exact .nasm "Label"
      ⟨"X", ["ST(1)", "\u0663", "", "?"], .legacy⟩
    exact (habsent "X" "").mpr ⟨rfl, rfl, by decide⟩

end AsmForms
