import AsmForms.Proofs.Capacity
import AsmForms.Proofs.Engine.Simulation
import AsmForms.Proofs.Engine.Writing
import AsmForms.Proofs.OutputShape

/-!
# Proofs/Extension — a form with and without the REX prefix

The prefix turns to the other half of the general registers.  There the roles share their registers
differently, and so the two runs of a form move different operands.  But both ask for equally many
general registers, and with the prefix there are more of them, all free at the start: the run with it
**keeps pace** with the one without (`RegisterFile.KeepsPace`).  For the other classes the prefix is
of no account.  So a form that becomes an instruction without the prefix becomes one with it, with
the same operands but for the roles (`extended_form_follows_legacy_form`).
-/

namespace AsmForms

/-- The register needs a REX prefix: it is one of `r8` to `r15`. -/
def Register.NeedsRex (r : Register) : Prop :=
  r.cls = .general ∧ 8 ≤ r.number ∧ r.number ≤ 15

instance (r : Register) : Decidable r.NeedsRex :=
  inferInstanceAs (Decidable (_ ∧ _ ∧ _))

namespace Form

/-- The form encoded with a REX prefix. -/
def extend (form : Form) : Form :=
  { form with encoding := .extended }

/-- The width that a role template of the form declares.  For `reg` that is 32 bits if the form has
another 32-bit role, and else 64 bits. -/
def declaredBits (form : Form) (template : String) : Nat :=
  if template = "r8" then 8
  else if template = "r16" then 16
  else if template ∈ ["r32", "r32a", "r32b"] then 32
  else if template ∈ ["r64", "r64a", "r64b"] then 64
  else if ∃ other ∈ form.templates, other ∈ ["r32", "r32a", "r32b"] then 32
  else 64

/-- The text names a general register **at the size** that a role template declares.  Of two bytes
the high one is meant without a REX prefix, and the low one with it. -/
def SizedAs (form : Form) (template text : String) : Prop :=
  ∃ r view, RegisterName.ofString? text = some ⟨r, view⟩ ∧ r.cls = .general ∧
    view.bits = form.declaredBits template ∧
    (template = "r8" → view = match form.encoding with
      | .legacy => .highByte
      | .extended => .byte)

end Form

/-! ## Sizes -/

section Sizes

variable {config : Config} {form : Form} {template : String}

theorem Form.bits_width (form : Form) :
    form.width.view.bits =
      if ∃ other ∈ form.templates, other ∈ ["r32", "r32a", "r32b"] then 32 else 64 := by
  have hany : (form.templates.any fun t => t == "r32" || t == "r32a" || t == "r32b") = true ↔
      ∃ other ∈ form.templates, other ∈ ["r32", "r32a", "r32b"] := by
    simp [or_assoc]
  rw [width, Width.infer]
  simp only [hany]
  split <;> rfl

/-- **A role asks for the size that its template declares.** -/
theorem Form.bits_of_view? (form : Form) (hrole : Encoding.isRole template = true) {view : View}
    (hview : form.view? template = some view) :
    view.bits = form.declaredBits template ∧
      (template = "r8" → view = match form.encoding with
        | .legacy => .highByte
        | .extended => .byte) := by
  rw [form.view?_eq_roleView? hrole, Encoding.roleView?] at hview
  split at hview
  next hwide =>
    subst hwide
    obtain rfl := Option.some.inj hview
    exact ⟨form.bits_width, fun hbyte => absurd hbyte (by decide)⟩
  next =>
    obtain ⟨role, hrole, rfl⟩ := Option.map_eq_some_iff.mp hview
    obtain rfl : role.template = template := by simpa using List.find?_some hrole
    cases form.encoding <;> cases role <;>
      exact ⟨rfl, fun hbyte => by first | rfl | exact absurd hbyte (by decide)⟩

/-- **The operands of all roles are of the declared size**, wherever they are moved. -/
theorem sizedAs_of_instantiate {instruction : Instruction}
    (h : (Engine.ofConfig Table.builtin config).instantiate form = .ok instruction) :
    List.Forall₂ (fun template text => Encoding.isRole template = true → form.SizedAs template text)
      ((Engine.ofConfig Table.builtin config).kept form) instruction.operands := by
  refine (forall₂_written h).imp fun template text hwritten hrole => ?_
  obtain ⟨view, hview, hcls⟩ := form.view?_of_isRole hrole
  obtain ⟨r, hr, hname⟩ := (hwritten.offers hview).exists_name
  exact ⟨r, view, hname, (RegisterFile.cls_of_mem_spares hr).trans hcls,
    form.bits_of_view? hrole hview⟩

end Sizes

/-! ## What the two forms read -/

namespace Engine

section

variable {config : Config} {form : Form} {template : String} {operands : List Operand}

/-- All templates but the roles resolve alike. -/
theorem resolution_extend (engine : Engine) (h : Encoding.isRole template = false) :
    engine.resolution form.extend template = engine.resolution form template := by
  have hlegacy : form.encoding.resolve form.width template = none :=
    Encoding.resolve_eq_none_iff_isRole.mpr h
  have hextended : form.extend.encoding.resolve form.extend.width template = none :=
    Encoding.resolve_eq_none_iff_isRole.mpr h
  rw [resolution, resolution, hlegacy, hextended]

/-- A template asks for the same class in both forms. -/
theorem cls?_extend (config : Config) (form : Form) (template : String) :
    (ofConfig Table.builtin config).cls? form.extend template =
      (ofConfig Table.builtin config).cls? form template := by
  refine Option.ext fun cls => ?_
  rw [cls?_eq_view?, cls?_eq_view?, Form.map_cls_view?_eq_iff, Form.map_cls_view?_eq_iff]

theorem cls?_eq_general_iff :
    (ofConfig Table.builtin config).cls? form template = some .general ↔
      Encoding.isRole template = true := by
  rw [cls?_eq_view?, Form.map_cls_view?_eq_iff]

theorem kept_extend (config : Config) (form : Form) :
    (ofConfig Table.builtin config).kept form.extend =
      (ofConfig Table.builtin config).kept form :=
  (kept_of_builtin rfl form.extend).trans (kept_of_builtin rfl form).symm

/-- **A form that is read without the prefix is read with it.** -/
theorem exists_operands_extend
    (hread : (ofConfig Table.builtin config).operands form = .ok operands) :
    ∃ operands', (ofConfig Table.builtin config).operands form.extend = .ok operands' := by
  refine exists_operandsOf fun template hmem => ?_
  cases hrole : Encoding.isRole template with
  | true => exact exists_operand?_of_isKnown config form.extend (Or.inr (Or.inl hrole))
  | false =>
    rw [operand?, read_eq, resolution_extend _ hrole, ← read_eq]
    exact exists_operand?_iff.mpr (not_faulty_of_operandsOf hread template hmem)

/-- The fixed operands of both forms mention the same registers. -/
theorem fixedMention_extend (config : Config) (form : Form) (r : Register) :
    (ofConfig Table.builtin config).FixedMention form.extend r ↔
      (ofConfig Table.builtin config).FixedMention form r := by
  rw [FixedMention, FixedMention, kept_extend]
  refine exists_congr fun template => and_congr_right fun _ => ?_
  rw [cls?_extend]
  refine and_congr_right fun hcls => ?_
  have hrole : Encoding.isRole template = false := by
    refine Bool.eq_false_iff.mpr fun hrole => ?_
    exact Option.some_ne_none _ ((cls?_eq_general_iff.mpr hrole).symm.trans hcls)
  rw [text?, text?, resolution_extend _ hrole]

end

end Engine

/-! ## Both runs -/

namespace RegisterFile

/-- The file of the form with the prefix **keeps pace** with that of the form without it: at least
as many general spares are free, and the registers of the other classes are the same. -/
structure KeepsPace (legacy extended : RegisterFile) : Prop where
  legacy_encoding : legacy.encoding = .legacy
  extended_encoding : extended.encoding = .extended
  free_le : legacy.free .general ≤ extended.free .general
  agrees : ∀ cls, cls ≠ .general → AgreesOn cls legacy extended

section

variable {config : Config} {form : Form} {operands operands' : List Operand}
  (hlabel : ∀ r : Register, r.NeedsRex → ¬ Mentions config.label r)
  (hverbatim : ∀ template ∈ form.templates, Table.builtin.lookup template = none →
    Encoding.isRole template = false → ∀ r : Register, r.NeedsRex → ¬ Mentions template r)

include hlabel hverbatim

/-- **The registers that need the prefix are all free at the start.** -/
theorem free_ofFixed_extend
    (hread' : (Engine.ofConfig Table.builtin config).operands form.extend = .ok operands') :
    (ofFixed form.extend.encoding operands').free .general = 8 := by
  have hneeds : ∀ r ∈ Encoding.extended.spares .general, r.NeedsRex := by decide
  have hlength : (form.extend.encoding.spares .general).length = 8 := rfl
  rw [← hlength, free, encoding_ofFixed, List.countP_eq_length]
  intro r hr
  rw [decide_eq_true_iff, Engine.mem_taken_ofFixed_iff hread']
  intro hfixed
  rcases fixedMention_cases hr hfixed with hmentions | ⟨template, hmem, htable, hrole, hmentions⟩
  · exact hlabel r (hneeds r hr) hmentions
  · rw [Encoding.resolve_eq_none_iff_isRole] at hrole
    exact hverbatim template hmem htable hrole r (hneeds r hr) hmentions

/-- **At the start the form with the prefix keeps pace.** -/
theorem keepsPace_ofFixed (hlegacy : form.encoding = .legacy)
    (hread : (Engine.ofConfig Table.builtin config).operands form = .ok operands)
    (hread' : (Engine.ofConfig Table.builtin config).operands form.extend = .ok operands') :
    KeepsPace (ofFixed form.encoding operands) (ofFixed form.extend.encoding operands') where
  legacy_encoding := (encoding_ofFixed _ _).trans hlegacy
  extended_encoding := encoding_ofFixed _ _
  free_le := by
    have hle : (ofFixed form.encoding operands).free .general ≤
        (form.encoding.spares .general).length := by
      rw [free, encoding_ofFixed]
      exact List.countP_le_length
    have hcapacity : (form.encoding.spares .general).length = 6 := by
      rw [Encoding.length_spares, hlegacy]
      rfl
    have hfree := free_ofFixed_extend hlabel hverbatim hread'
    omega
  agrees cls hcls := by
    refine ⟨?_, fun r _ => ?_⟩
    · rw [encoding_ofFixed, encoding_ofFixed]
      exact Encoding.spares_congr fun hgeneral => absurd hgeneral hcls
    · rw [Engine.mem_taken_ofFixed_iff hread, Engine.mem_taken_ofFixed_iff hread',
        Engine.fixedMention_extend]

end

section

variable {legacy extended next next' : RegisterFile} {operand operand' : Operand}
  {assignment assignment' : Assignment}

/-- **The pace is kept** by operands that ask for the same class, if the other classes stay alike. -/
theorem KeepsPace.of_meet (h : KeepsPace legacy extended) (hpooled : operand.Pooled legacy.encoding)
    (hpooled' : operand'.Pooled extended.encoding) (hcls : operand'.cls? = operand.cls?)
    (hmeet : legacy.meet operand = some (assignment, next))
    (hmeet' : extended.meet operand' = some (assignment', next'))
    (hagrees : ∀ cls, cls ≠ .general → AgreesOn cls next next') : KeepsPace next next' where
  legacy_encoding := (mem_taken_of_meet hpooled.sound hmeet).1.trans h.legacy_encoding
  extended_encoding := (mem_taken_of_meet hpooled'.sound hmeet').1.trans h.extended_encoding
  free_le := by
    have hfree := free_of_meet hpooled hmeet .general
    have hfree' := free_of_meet hpooled' hmeet' .general
    have hdemand : operand'.demand .general = operand.demand .general := by
      rw [Operand.demand, Operand.demand, hcls]
    have hle := h.free_le
    omega
  agrees := hagrees

/-- **Who keeps pace meets what asks for a general register**, as long as the other one does. -/
theorem KeepsPace.meet_general (h : KeepsPace legacy extended)
    (hpooled : operand.Pooled legacy.encoding) (hflexible : operand'.Flexible extended.encoding)
    (hcls : operand.cls? = some .general) (hcls' : operand'.cls? = some .general)
    (hmeet : legacy.meet operand = some (assignment, next)) :
    ∃ assignment' next', extended.meet operand' = some (assignment', next') ∧
      KeepsPace next next' := by
  cases hmeet' : extended.meet operand' with
  | none =>
    -- A general register was free for the other one, and so one is free here.
    obtain ⟨cls, hdemand', hnone⟩ := free_of_meet_eq_none hflexible hmeet'
    obtain rfl : cls = .general := by
      by_contra hne
      simp [Operand.demand, hcls', Ne.symm hne] at hdemand'
    have hdemand : operand.demand .general = 1 := if_pos hcls
    have hfree := free_of_meet hpooled hmeet .general
    have hle := h.free_le
    omega
  | some met =>
    obtain ⟨assignment', next'⟩ := met
    refine ⟨assignment', next', rfl, ?_⟩
    refine h.of_meet hpooled hflexible.pooled (hcls'.trans hcls.symm) hmeet hmeet' fun cls hne => ?_
    have hother : operand.cls? ≠ some cls := by simp [hcls, hne.symm]
    have hother' : operand'.cls? ≠ some cls := by simp [hcls', hne.symm]
    have hleft := agreesOn_of_meet hpooled.sound hother hmeet (h.agrees cls hne)
    exact (agreesOn_of_meet hflexible.sound hother' hmeet' hleft.symm).symm

/-- **All other operands are met alike.** -/
theorem KeepsPace.meet_of_ne (h : KeepsPace legacy extended)
    (hpooled : operand.Pooled legacy.encoding) (hpooled' : operand.Pooled extended.encoding)
    (hne : operand.cls? ≠ some .general)
    (hmeet : legacy.meet operand = some (assignment, next)) :
    ∃ next', extended.meet operand = some (assignment, next') ∧ KeepsPace next next' := by
  have hagrees (cls : RegisterClass) (hcls : operand.cls? = some cls) :
      AgreesOn cls legacy extended :=
    h.agrees cls fun hgeneral => hne (hgeneral ▸ hcls)
  obtain ⟨next', hmeet', hnext⟩ := meet_of_agreesOn hpooled.sound hagrees hmeet
  exact ⟨next', hmeet', h.of_meet hpooled hpooled' rfl hmeet hmeet' fun cls hcls =>
    hnext cls (h.agrees cls hcls)⟩

end

end RegisterFile

/-- **The form with the prefix simulates the one without it**, and writes everything but the roles
alike. -/
theorem simulates_extend (config : Config) {form : Form} (hlegacy : form.encoding = .legacy) :
    Simulates (Engine.ofConfig Table.builtin config) (Engine.ofConfig Table.builtin config) form
      form.extend RegisterFile.KeepsPace
      (fun template written => Encoding.isRole template = false → written.2 = written.1) := by
  refine ⟨fun {template operand operand' file file' assignment next} hreads hreads' hpace
    hmeet => ?_⟩
  have hpooled : operand.Pooled file.encoding := by
    rw [hpace.legacy_encoding, ← hlegacy]
    exact hreads.pooled
  have hflexible : operand'.Flexible file'.encoding := by
    rw [hpace.extended_encoding]
    exact hreads'.flexible nofun
  have hgeneral := hreads.cls?_eq
  have hgeneral' := hreads'.cls?_eq
  cases hrole : Encoding.isRole template with
  | true =>
    rw [Engine.cls?_eq_general_iff.mpr hrole] at hgeneral hgeneral'
    obtain ⟨assignment', next', hmeet', hnext⟩ :=
      hpace.meet_general hpooled hflexible hgeneral.symm hgeneral'.symm hmeet
    exact ⟨assignment', next', hmeet', hnext, nofun⟩
  | false =>
    obtain rfl := hreads.eq_of_resolution hreads' (Engine.resolution_extend _ hrole)
    have hne : operand'.cls? ≠ some .general := by
      rw [← hgeneral, Ne, Engine.cls?_eq_general_iff, hrole]
      exact Bool.false_ne_true
    obtain ⟨next', hmeet', hnext⟩ := hpace.meet_of_ne hpooled hflexible.pooled hne hmeet
    exact ⟨assignment, next', hmeet', hnext, fun _ => rfl⟩

/-- **A form that becomes an instruction without the prefix becomes one with it.**  Take any choices,
and a form without a REX prefix that becomes an instruction; let neither the label nor a template
that is written as it stands mention a register that needs the prefix.  Then the same form with the
prefix becomes an instruction too.  It has the same mnemonic and as many operands, those that are no
roles are the same, and in both instructions the operands of the roles are of the sizes that their
templates declare. -/
theorem extended_form_follows_legacy_form (config : Config) (form : Form)
    (hlegacy : form.encoding = .legacy)
    (hlabel : ∀ r : Register, r.NeedsRex → ¬ Mentions config.label r)
    (hverbatim : ∀ template ∈ form.templates, Table.builtin.lookup template = none →
      Encoding.isRole template = false → ∀ r : Register, r.NeedsRex → ¬ Mentions template r)
    (instruction : Instruction)
    (h : (Engine.ofConfig Table.builtin config).instantiate form = .ok instruction) :
    ∃ instruction',
      (Engine.ofConfig Table.builtin config).instantiate form.extend = .ok instruction' ∧
      instruction'.mnemonic = instruction.mnemonic ∧
      instruction'.operands.length = instruction.operands.length ∧
      List.Forall₂ (fun template written => Encoding.isRole template = false →
          written.2 = written.1)
        (form.templates.filter (· != implicitXmm0))
        (instruction.operands.zip instruction'.operands) ∧
      List.Forall₂ (fun template text => Encoding.isRole template = true →
          form.SizedAs template text)
        (form.templates.filter (· != implicitXmm0)) instruction.operands ∧
      List.Forall₂ (fun template text => Encoding.isRole template = true →
          form.extend.SizedAs template text)
        (form.templates.filter (· != implicitXmm0)) instruction'.operands := by
  have hkept : (Engine.ofConfig Table.builtin config).kept form =
      form.templates.filter (· != implicitXmm0) :=
    Engine.kept_of_builtin rfl form
  have hkept' := Engine.kept_extend config form
  obtain ⟨operands, hread, -, -⟩ := Engine.instantiate_eq_ok_iff.mp h
  obtain ⟨operands', hread'⟩ := Engine.exists_operands_extend hread
  obtain ⟨instruction', h', hlength, hwritten⟩ :=
    (simulates_extend config hlegacy).exists_instruction hkept' hread hread'
      (RegisterFile.keepsPace_ofFixed hlabel hverbatim hlegacy hread hread') h
  have hmnemonic := Engine.mnemonic_of_instantiate h
  have hsized := sizedAs_of_instantiate h
  have hsized' := sizedAs_of_instantiate h'
  rw [hkept', hkept] at hsized'
  rw [hkept] at hwritten hsized
  exact ⟨instruction', h', (Engine.mnemonic_of_instantiate h').trans hmnemonic.symm, hlength,
    hwritten, hsized, hsized'⟩

/-- A byte and a word beside `CL` and a label that is `rcx`: without the prefix both move, the byte
past the registers without a high byte.  With it the byte moves because it shares its register with
`r32a`, and the word stays. -/
theorem operands_move_apart_with_the_prefix :
    let config : Config := ⟨.nasm, .passthrough, "rcx"⟩
    let form : Form := ⟨"X", ["r32a", "reg", "r8", "mm", "rel8", "mm", "CL", "r16", "xmm", "XMM0",
      "<XMM0>", "m8", "other"], .legacy⟩
    let branch := "rcx\ntimes 64 nop\nrcx: nop"
    let instruction : Instruction := ⟨"X", ["eax", "edx", "bh", "mm6", branch, "mm0", "CL", "di",
      "xmm5", "XMM0", "byte ptr[RSI]", "other"]⟩
    let instruction' : Instruction := ⟨"X", ["r8d", "r11d", "r12b", "mm6", branch, "mm0", "CL",
      "r10w", "xmm5", "XMM0", "byte ptr[RSI]", "other"]⟩
    (Engine.ofConfig Table.builtin config).instantiate form = .ok instruction ∧
      (Engine.ofConfig Table.builtin config).instantiate form.extend = .ok instruction' ∧
      instruction'.mnemonic = instruction.mnemonic ∧
      instruction'.operands.length = instruction.operands.length ∧
      List.Forall₂ (fun template written => Encoding.isRole template = false →
          written.2 = written.1)
        (form.templates.filter (· != implicitXmm0))
        (instruction.operands.zip instruction'.operands) ∧
      List.Forall₂ (fun template text => Encoding.isRole template = true →
          form.SizedAs template text)
        (form.templates.filter (· != implicitXmm0)) instruction.operands ∧
      List.Forall₂ (fun template text => Encoding.isRole template = true →
          form.extend.SizedAs template text)
        (form.templates.filter (· != implicitXmm0)) instruction'.operands := by
  intro config form branch instruction instruction'
  have h : (Engine.ofConfig Table.builtin config).instantiate form = .ok instruction := by decide
  have h' : (Engine.ofConfig Table.builtin config).instantiate form.extend = .ok instruction' := by
    decide
  have hlabel : ∀ r ∈ mentioned config.label, ¬ r.NeedsRex := by decide
  have hverbatim : ∀ template ∈ form.templates, Encoding.isRole template = false →
      ∀ r ∈ mentioned template, ¬ r.NeedsRex := by
    decide
  obtain ⟨second, hsecond, hrest⟩ := extended_form_follows_legacy_form config form rfl
    (fun r hrex hmentions => hlabel r (mem_mentioned_iff.mpr hmentions) hrex)
    (fun template hmem _ hrole r hrex hmentions =>
      hverbatim template hmem hrole r (mem_mentioned_iff.mpr hmentions) hrex)
    instruction h
  obtain rfl : second = instruction' := Except.ok.inj (hsecond.symm.trans h')
  exact ⟨h, h', hrest⟩

end AsmForms
