import AsmForms.Proofs.Engine.Capacity
import AsmForms.Proofs.Template.Known

/-!
# Proofs/Capacity — how many registers a form may ask for

With the built-in vocabulary every spare can stand in for every other one of its class, but for the
bytes of a form without a REX prefix.  So whether the registers suffice is a matter of counting:
neither the order of the operands nor their widths, nor anything that addresses memory, is of any
account (`capacity_is_exact`).
-/

namespace AsmForms

/-- How many registers of a class an encoding hands out. -/
def Encoding.capacity : Encoding → RegisterClass → Nat
  | .legacy, .general => 6
  | .extended, .general => 8
  | _, .mmx => 8
  | _, .vector => 12

namespace Form

/-- How many templates of a form ask for a register of a class. -/
def demand (form : Form) : RegisterClass → Nat
  | .general => form.templates.countP Encoding.isRole
  | .mmx => form.templates.count "mm"
  | .vector => form.templates.count "xmm" + form.templates.count "ymm"

/-- The registers among `rax`, `rcx`, `rdx`, `rbx`, `rbp` and `rdi` that a form names itself. -/
def pinnedGeneral (form : Form) : List String :=
  ["rax", "rcx", "rdx", "rbx", "rbp", "rdi"].filter fun register =>
    ∃ template ∈ form.templates, isFixedRegister template = true ∧ SameRegister register template

/-- How many of the registers that are handed out a form names itself.  The registers that need a
REX prefix, and the MMX registers, it cannot name. -/
def pinned (form : Form) : RegisterClass → Nat
  | .general =>
    match form.encoding with
    | .legacy => form.pinnedGeneral.length
    | .extended => 0
  | .mmx => 0
  | .vector => if "XMM0" ∈ form.templates then 1 else 0

end Form

theorem Encoding.length_spares (encoding : Encoding) (cls : RegisterClass) :
    (encoding.spares cls).length = encoding.capacity cls := by
  cases encoding <;> cases cls <;> rfl

/-! ## What is asked for -/

theorem Form.view?_implicitXmm0 (form : Form) : form.view? implicitXmm0 = none := by
  rcases form.view?_cases implicitXmm0 with ⟨hrole, -⟩ | ⟨-, view, hmem, -⟩ | ⟨-, -, hnone⟩
  · exact absurd hrole (by decide)
  · have hmarker : ∀ entry ∈ Table.registerTemplates, entry.1 ≠ implicitXmm0 := by decide
    exact absurd rfl (hmarker _ hmem)
  · exact hnone

/-- **A template asks for the class of its view.** -/
theorem Engine.cls?_eq_view? (config : Config) (form : Form) (template : String) :
    (Engine.ofConfig Table.builtin config).cls? form template =
      (form.view? template).map View.cls := by
  have hvocabulary := vocabulary_resolution config form template
  rw [cls?]
  generalize (Engine.ofConfig Table.builtin config).resolution form template = resolution
    at hvocabulary ⊢
  cases hvocabulary with
  | register hview hoffers =>
    obtain ⟨s, hs, hname⟩ := hoffers.exists_name
    simp [hname, hview, RegisterFile.cls_of_mem_spares hs]
  | branch hview => simp [hview, Config.branchText, Dialect.ofString?_branchOperand]
  | inert hview hinert => simp [hview, hinert.2.1]
  | marker hmark => simp [hmark, form.view?_implicitXmm0]
  | unhandled hview => simp [hview]

/-- The templates that ask for a class. -/
theorem Form.map_cls_view?_eq_iff (form : Form) (template : String) (cls : RegisterClass) :
    (form.view? template).map View.cls = some cls ↔
      match cls with
      | .general => Encoding.isRole template = true
      | .mmx => template = "mm"
      | .vector => template = "xmm" ∨ template = "ymm" := by
  -- Neither the roles nor what the table has no register for are its three register templates.
  have hother (h : Encoding.isRole template = true ∨ Table.view? template = none) :
      template ≠ "mm" ∧ template ≠ "xmm" ∧ template ≠ "ymm" := by
    refine ⟨?_, ?_, ?_⟩ <;> rintro rfl <;> exact absurd h (by decide)
  rcases form.view?_cases template with ⟨hrole, view, hview, hcls⟩ | ⟨hrole, view, hmem, hview⟩ |
    ⟨hrole, htable, hnone⟩
  · rw [hview, Option.map_some, hcls]
    cases cls <;> simp [hrole, hother (.inl hrole)]
  · rw [hview, Option.map_some]
    have htable : ∀ entry ∈ Table.registerTemplates,
        entry = ("xmm", .xmm) ∨ entry = ("ymm", .ymm) ∨ entry = ("mm", .mm) := by
      decide
    rcases htable _ hmem with h | h | h <;> obtain ⟨rfl, rfl⟩ := Prod.mk.inj h <;> cases cls <;>
      decide
  · rw [hnone]
    cases cls <;> simp [hrole, hother (.inr htable)]

/-- **A class is asked for as often as the form demands it.** -/
theorem Form.countP_cls? (config : Config) (form : Form) (cls : RegisterClass) :
    (form.templates.countP fun template =>
      (Engine.ofConfig Table.builtin config).cls? form template == some cls) = form.demand cls := by
  simp only [Engine.cls?_eq_view?]
  cases cls with
  | general =>
    refine List.countP_congr fun template _ => ?_
    rw [beq_iff_eq, form.map_cls_view?_eq_iff]
  | mmx =>
    refine List.countP_congr fun template _ => ?_
    rw [beq_iff_eq, form.map_cls_view?_eq_iff, beq_iff_eq]
  | vector =>
    rw [Form.demand]
    induction form.templates with
    | nil => rfl
    | cons template templates ih =>
      rw [List.countP_cons, List.count_cons, List.count_cons, ih]
      simp only [beq_iff_eq, form.map_cls_view?_eq_iff]
      by_cases hx : template = "xmm"
      · subst hx
        simp
        omega
      · by_cases hy : template = "ymm"
        · subst hy
          simp
          omega
        · simp [hx, hy]

/-! ## What is left -/

instance (form : Form) (r : Register) : Decidable (form.Pins r) :=
  inferInstanceAs (Decidable (∃ template ∈ form.templates, _ ∧ _))

section Supply

variable {config : Config} {form : Form} {r : Register} {operands : List Operand}

/-- The registers that forms name explicitly are the first eight general ones and `xmm0`. -/
theorem Form.Pins.cases (h : form.Pins r) :
    r.cls = .general ∧ r.number < 8 ∨ r = ⟨.vector, 0⟩ ∧ "XMM0" ∈ form.templates := by
  have hregisters : ∀ register ∈ fixedRegisters, ∀ name ∈ RegisterName.ofString? register,
      name.register.cls = .general ∧ name.register.number < 8 ∨
        name.register = ⟨.vector, 0⟩ ∧ register = "XMM0" := by
    decide
  obtain ⟨template, hmem, hregister, name, hname, rfl⟩ := h
  rcases hregisters template (List.contains_iff_mem.mp hregister) name hname with
    hgeneral | ⟨hvector, rfl⟩
  · exact .inl hgeneral
  · exact .inr ⟨hvector, hmem⟩

theorem Form.countP_pins_general (form : Form) :
    ((form.encoding.spares .general).countP fun r => form.Pins r) = form.pinned .general := by
  rw [Form.pinned]
  cases hencoding : form.encoding with
  | legacy =>
    -- The clobber list names the spares one for one, and so leads from names to registers.
    have hperm : ["rax", "rcx", "rdx", "rbx", "rbp", "rdi"].Perm Encoding.legacy.clobbers := by
      decide
    have hspelled : ∀ r ∈ Encoding.legacy.spares .general, (View.qword.spell r).isSome = true := by
      decide
    show _ = form.pinnedGeneral.length
    rw [Form.pinnedGeneral, ← List.countP_eq_length_filter, hperm.countP_eq, Encoding.clobbers,
      List.countP_filterMap]
    refine List.countP_congr fun r hr => ?_
    obtain ⟨name, hname⟩ := Option.isSome_iff_exists.mp (hspelled r hr)
    simp only [hname, Option.map_some, Option.getD_some, decide_eq_true_eq,
      sameRegister_iff (RegisterName.ofString?_of_spell hname)]
    rfl
  | extended =>
    have hnumber : ∀ r ∈ Encoding.extended.spares .general, 8 ≤ r.number := by decide
    show _ = 0
    rw [List.countP_eq_zero]
    intro r hr hpins
    rcases Form.Pins.cases (of_decide_eq_true hpins) with ⟨-, hlt⟩ | ⟨rfl, -⟩
    · exact Nat.not_lt_of_le (hnumber r hr) hlt
    · exact absurd (RegisterFile.cls_of_mem_spares hr) nofun

theorem Form.countP_pins_vector (form : Form) :
    ((form.encoding.spares .vector).countP fun r => form.Pins r) = form.pinned .vector := by
  have hpins : ∀ r ∈ form.encoding.spares .vector,
      form.Pins r ↔ r = ⟨.vector, 0⟩ ∧ "XMM0" ∈ form.templates := by
    intro r hr
    constructor
    · intro h
      refine h.cases.resolve_left fun ⟨hgeneral, _⟩ => ?_
      exact absurd ((RegisterFile.cls_of_mem_spares hr).symm.trans hgeneral) nofun
    · rintro ⟨rfl, hmem⟩
      exact ⟨"XMM0", hmem, by decide⟩
  rw [Form.pinned, List.countP_congr
    (q := fun r => decide (r = ⟨.vector, 0⟩ ∧ "XMM0" ∈ form.templates))
    fun r hr => by simp [hpins r hr] ]
  by_cases hmem : "XMM0" ∈ form.templates
  · simp only [hmem, and_true, if_true]
    cases form.encoding <;> decide
  · simp [hmem]

/-- **How many spares a form pins.** -/
theorem Form.countP_pins (form : Form) (cls : RegisterClass) :
    ((form.encoding.spares cls).countP fun r => form.Pins r) = form.pinned cls := by
  cases cls with
  | general => exact form.countP_pins_general
  | mmx =>
    show _ = 0
    rw [List.countP_eq_zero]
    intro r hr hpins
    have hcls := RegisterFile.cls_of_mem_spares hr
    rcases Form.Pins.cases (of_decide_eq_true hpins) with ⟨hgeneral, -⟩ | ⟨rfl, -⟩
    · exact absurd (hcls.symm.trans hgeneral) nofun
    · exact absurd hcls nofun
  | vector => exact form.countP_pins_vector

/-- How many of the registers that are handed out the fixed operands of a form mention. -/
def Engine.occupied (engine : Engine) (form : Form) (cls : RegisterClass) : Nat :=
  (form.encoding.spares cls).countP fun r => engine.FixedMention form r

/-- **What the fixed operands leave** is free at the start. -/
theorem Engine.free_ofFixed_add_occupied {engine : Engine}
    (hread : engine.operands form = .ok operands) (cls : RegisterClass) :
    (RegisterFile.ofFixed form.encoding operands).free cls + engine.occupied form cls =
      form.encoding.capacity cls := by
  rw [← Encoding.length_spares,
    List.length_eq_countP_add_countP fun r => decide (engine.FixedMention form r), Nat.add_comm,
    occupied, RegisterFile.free, RegisterFile.encoding_ofFixed]
  exact congrArg _ (List.countP_congr fun r _ => by simp [mem_taken_ofFixed_iff hread])

/-- **A form of known templates occupies what it pins.** -/
theorem Engine.occupied_eq_pinned (hlabel : ∀ r, ¬ Mentions config.label r)
    (hknown : ∀ template ∈ form.templates, IsKnown template) (cls : RegisterClass) :
    (Engine.ofConfig Table.builtin config).occupied form cls = form.pinned cls := by
  rw [← form.countP_pins, occupied]
  exact List.countP_congr fun r hr => by simp [fixedMention_iff hlabel hknown hr]

/-- **What is not pinned is free at the start.** -/
theorem RegisterFile.free_ofFixed (hlabel : ∀ r, ¬ Mentions config.label r)
    (hknown : ∀ template ∈ form.templates, IsKnown template)
    (hread : (Engine.ofConfig Table.builtin config).operands form = .ok operands)
    (cls : RegisterClass) :
    (RegisterFile.ofFixed form.encoding operands).free cls + form.pinned cls =
      form.encoding.capacity cls := by
  rw [← Engine.occupied_eq_pinned hlabel hknown, Engine.free_ofFixed_add_occupied hread]

end Supply

/-! ## Every spare will do -/

section Flexible

variable {config : Config} {form : Form} {template : String} {operands : List Operand}

/-- **All spares of a class have the views that are asked for**, but for the byte without a REX
prefix. -/
theorem Form.isSome_spell_of_view? {view : View} (hview : form.view? template = some view)
    (hbyte : form.encoding = .legacy → template ≠ "r8") :
    ∀ s ∈ form.encoding.spares view.cls, (view.spell s).isSome := by
  have htable : ∀ entry ∈ Table.registerTemplates,
      ∀ s ∈ Encoding.legacy.spares entry.2.cls, (entry.2.spell s).isSome := by
    decide
  rw [Form.view?, Option.or_eq_some_iff] at hview
  rcases hview with hview | ⟨-, hview⟩
  · have hmem := Table.mem_of_lookup hview
    -- The table has no general registers, so that the encoding does not matter.
    have hcls : ∀ entry ∈ Table.registerTemplates, entry.2.cls ≠ .general := by decide
    rw [Encoding.spares_congr fun hgeneral => absurd hgeneral (hcls _ hmem)]
    exact htable _ hmem
  · rw [Encoding.roleView?] at hview
    split at hview
    next =>
      obtain rfl := Option.some.inj hview
      cases form.encoding <;> cases form.width <;> decide
    next =>
      obtain ⟨role, hrole, rfl⟩ := Option.map_eq_some_iff.mp hview
      have htemplate : role.template = template := by simpa using List.find?_some hrole
      cases hencoding : form.encoding with
      | legacy =>
        cases role with
        | r8 => exact absurd htemplate.symm (hbyte hencoding)
        | _ => decide
      | extended => cases role <;> decide

/-- **Every generated operand asks for a spare.** -/
theorem Engine.Reads.pooled {operand : Operand}
    (h : (Engine.ofConfig Table.builtin config).Reads form template operand) :
    operand.Pooled form.encoding := by
  intro hgen
  obtain ⟨r, view, -, -, hr, hname⟩ := h.exists_view hgen
  exact ⟨_, hname, hr⟩

/-- **A generated operand is flexible**, but for the byte without a REX prefix. -/
theorem Engine.Reads.flexible {operand : Operand}
    (h : (Engine.ofConfig Table.builtin config).Reads form template operand)
    (hbyte : form.encoding = .legacy → template ≠ "r8") : operand.Flexible form.encoding := by
  intro hgen
  obtain ⟨r, view, hview, hcls, hr, hname⟩ := h.exists_view hgen
  have hspelled := form.isSome_spell_of_view? hview hbyte
  rw [← hcls] at hspelled
  exact ⟨_, hname, hr, hspelled⟩

theorem flexible_of_operands (hbyte : form.encoding = .legacy → "r8" ∉ form.templates)
    (hread : (Engine.ofConfig Table.builtin config).operands form = .ok operands) :
    ∀ operand ∈ operands, operand.Flexible form.encoding := by
  intro operand hmem
  obtain ⟨template, htemplate, hreads⟩ := Engine.exists_reads_of_mem hread hmem
  exact hreads.flexible fun hlegacy heq => hbyte hlegacy (heq ▸ htemplate)

end Flexible

/-- **The capacity is exact.**  Take a form of known templates, and a label that mentions no
register; without a REX prefix let the form ask for no byte.  Under either fallback it becomes an
instruction exactly if, in every class of registers, it asks for no more than are left beside those
that it names itself; and if it does not, it is refused for lack of registers. -/
theorem capacity_is_exact (config : Config) (form : Form)
    (hlabel : ∀ r, ¬ Mentions config.label r)
    (hknown : ∀ template ∈ form.templates, IsKnown template)
    (hbyte : form.encoding = .legacy → "r8" ∉ form.templates) :
    ((∃ instruction,
        (Engine.ofConfig Table.builtin config).instantiate form = .ok instruction) ↔
      ∀ cls, form.demand cls + form.pinned cls ≤ form.encoding.capacity cls) ∧
      ∀ violation, (Engine.ofConfig Table.builtin config).instantiate form = .error violation →
        violation.cause = .registersExhausted := by
  obtain ⟨operands, hread⟩ := exists_operands config hknown
  have hflexible := flexible_of_operands hbyte hread
  refine ⟨?_, fun violation => Engine.cause_of_operands hread⟩
  rw [Engine.exists_instantiate_iff hread, Allocation.ofOperands,
    RegisterFile.unmet_eq_none_iff (by rwa [RegisterFile.encoding_ofFixed])]
  refine forall_congr' fun cls => ?_
  rw [Engine.length_requests hread, form.countP_cls?,
    ← RegisterFile.free_ofFixed hlabel hknown hread cls, Nat.add_le_add_iff_right]

/-- Beside `CL` there are registers for five operands of whatever width, and for no sixth. -/
theorem five_operands_fit_beside_cl :
    let engine := Engine.ofConfig Table.builtin {}
    let form : Form := ⟨"X", ["r16", "CL", "r32", "m64", "reg", "r64a", "r32b"], .legacy⟩
    let form' : Form := { form with templates := form.templates ++ ["r64"] }
    (∃ instruction, engine.instantiate form = .ok instruction) ∧
      (¬ ∃ instruction, engine.instantiate form' = .ok instruction) ∧
      ∀ violation, engine.instantiate form' = .error violation →
        violation.cause = .registersExhausted := by
  intro engine form form'
  have hlabel (r : Register) : ¬ Mentions "Label" r := not_mentions_of_mentioned (by decide)
  have hknown : ∀ template ∈ form.templates ++ ["r64"], IsKnown template := by decide
  have hbyte : "r8" ∉ form.templates ++ ["r64"] := by decide
  obtain ⟨hfits, -⟩ := capacity_is_exact {} form hlabel
    (fun template hmem => hknown template (List.mem_append_left _ hmem))
    fun _ hmem => hbyte (List.mem_append_left _ hmem)
  obtain ⟨hfits', hcause⟩ := capacity_is_exact {} form' hlabel hknown fun _ => hbyte
  refine ⟨hfits.mpr fun cls => ?_, fun hok => ?_, hcause⟩
  · cases cls <;> decide
  · exact absurd (hfits'.mp hok .general) (by decide)

end AsmForms
