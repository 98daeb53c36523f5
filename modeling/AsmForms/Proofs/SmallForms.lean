import AsmForms.Proofs.Capacity
import AsmForms.Proofs.Engine.Choices

/-!
# Proofs/SmallForms — small forms find a register for every byte

Without a REX prefix the byte operands compete with all others for the four registers that have a
high byte.  Which of them are left depends on the order of the operands, and so a form with bytes
may fail although there are registers to spare.  But four choices are enough for four registers: a
form that asks for no more, counting those that it names itself, becomes an instruction in whatever
order its operands stand (`small_forms_find_their_bytes`).
-/

namespace AsmForms

/-- How many spares of a class have any view that is asked for without a REX prefix: of the six
general ones, those that have a high byte. -/
def RegisterClass.legacyChoices : RegisterClass → Nat
  | .general => 4
  | .mmx => 8
  | .vector => 12

/-- **Every view leaves that many choices.** -/
theorem Encoding.legacyChoices_le_countP : ∀ view ∈ View.all,
    view.cls.legacyChoices ≤
      (Encoding.legacy.spares view.cls).countP fun s => (view.spell s).isSome := by
  decide

section

variable {config : Config} {form : Form} {operands : List Operand}

/-- **All generated operands have the choices of their class.** -/
theorem hasChoices_of_operands (hlegacy : form.encoding = .legacy)
    (hread : (Engine.ofConfig Table.builtin config).operands form = .ok operands) :
    ∀ operand ∈ operands, operand.HasChoices form.encoding RegisterClass.legacyChoices := by
  rw [hlegacy]
  intro operand hmem hgen
  obtain ⟨template, -, hreads⟩ := Engine.exists_reads_of_mem hread hmem
  obtain ⟨r, view, -, hcls, -, hname⟩ := hreads.exists_view hgen
  have hchoices := Encoding.legacyChoices_le_countP view (View.mem_all view)
  rw [← hcls] at hchoices
  exact ⟨_, hname, hchoices⟩

/-- **What is pinned is used at the start**, and nothing else. -/
theorem RegisterFile.used_ofFixed (hlabel : ∀ r, ¬ Mentions config.label r)
    (hknown : ∀ template ∈ form.templates, IsKnown template)
    (hread : (Engine.ofConfig Table.builtin config).operands form = .ok operands)
    (cls : RegisterClass) :
    (RegisterFile.ofFixed form.encoding operands).used cls = form.pinned cls := by
  have hsplit := (RegisterFile.ofFixed form.encoding operands).used_add_free cls
  have hfree := RegisterFile.free_ofFixed hlabel hknown hread cls
  rw [RegisterFile.encoding_ofFixed, Encoding.length_spares] at hsplit
  omega

end

/-- **Small forms find a register for every byte.**  Take a form of known templates without a REX
prefix, and a label that mentions no register.  If it asks for no more than four general registers,
eight MMX registers and twelve vector registers, those that it names itself included, it becomes an
instruction, however many of its operands are bytes and in whatever order they stand. -/
theorem small_forms_find_their_bytes (config : Config) (form : Form)
    (hlegacy : form.encoding = .legacy) (hlabel : ∀ r, ¬ Mentions config.label r)
    (hknown : ∀ template ∈ form.templates, IsKnown template)
    (hgeneral : form.demand .general + form.pinned .general ≤ 4)
    (hmmx : form.demand .mmx ≤ 8)
    (hvector : form.demand .vector + form.pinned .vector ≤ 12) :
    ∃ instruction,
      (Engine.ofConfig Table.builtin config).instantiate form = .ok instruction := by
  obtain ⟨operands, hread⟩ := exists_operands config hknown
  have hchoices := hasChoices_of_operands hlegacy hread
  rw [← RegisterFile.encoding_ofFixed form.encoding operands] at hchoices
  rw [Engine.exists_instantiate_iff hread, Allocation.ofOperands]
  refine RegisterFile.unmet_eq_none_of_choices hchoices fun cls => ?_
  rw [Engine.length_requests hread, form.countP_cls?,
    RegisterFile.used_ofFixed hlabel hknown hread]
  cases cls with
  | general => exact hgeneral
  | mmx => exact hmmx
  | vector => exact hvector

/-- Three wider operands take three of the four registers that have a high byte, and the byte finds
the fourth; a second byte would be one too many. -/
theorem byte_finds_the_last_high_register :
    let engine := Engine.ofConfig Table.builtin {}
    let form : Form := ⟨"X", ["r64", "m8", "reg", "xmm", "r32b", "r8"], .legacy⟩
    (∀ template ∈ form.templates, IsKnown template) ∧
      form.demand .general + form.pinned .general = 4 ∧
      engine.instantiate form = .ok ⟨"X", ["rcx", "byte ptr[RSI]", "edx", "xmm5", "ebx", "ah"]⟩ ∧
      (∃ instruction, engine.instantiate form = .ok instruction) ∧
      engine.instantiate { form with templates := form.templates ++ ["r8"] } =
        .error ⟨.registersExhausted, "X", "r8"⟩ := by
  intro engine form
  have hlabel (r : Register) : ¬ Mentions "Label" r := not_mentions_of_mentioned (by decide)
  have hknown : ∀ template ∈ form.templates, IsKnown template := by decide
  have hgeneral : form.demand .general + form.pinned .general = 4 := by decide
  have hfits := small_forms_find_their_bytes {} form rfl hlabel hknown hgeneral.le (by decide)
    (by decide)
  exact ⟨hknown, hgeneral, by decide, hfits, by decide⟩

end AsmForms
