import AsmForms.Proofs.Engine.Assignment

/-!
# Proofs/OutputShape — what the instruction of a form looks like

The operands of an instruction are those of the templates of its form, in order and one for one,
once the omitted markers are left out (`instantiate_shape`).  Each is written as its template
resolves, or, if that is a register name, as the same view of another register of its class:
registers move, widths do not.
-/

namespace AsmForms

theorem Form.emittedMnemonic_eq (form : Form) :
    form.emittedMnemonic =
      if form.mnemonic = "MOV" ∧ form.templates[1]? = some "imm64" then "MOVABS"
      else form.mnemonic := by
  simp [Form.emittedMnemonic, Form.isWideMove, Form.template?]

namespace Engine

variable {engine : Engine} {form : Form} {template text : String}

/-- A template is **written** as a text. -/
inductive Emits (engine : Engine) (form : Form) (template : String) : String → Prop
  /-- What does not resolve is written as it stands. -/
  | verbatim (h : engine.resolution form template = .unhandled) :
      Emits engine form template template
  /-- What resolves to no register name is written as it resolves. -/
  | fixed {text : String} (h : engine.resolution form template = .operand text)
      (hname : RegisterName.ofString? text = none) : Emits engine form template text
  /-- What resolves to a register name can be written unchanged. -/
  | unmoved {text : String} {name : RegisterName}
      (h : engine.resolution form template = .operand text)
      (hname : RegisterName.ofString? text = some name) : Emits engine form template text
  /-- …or as the same view of another register of the class. -/
  | moved {text given : String} {name : RegisterName} {r : Register}
      (h : engine.resolution form template = .operand text)
      (hname : RegisterName.ofString? text = some name)
      (hgiven : RegisterName.ofString? given = some ⟨r, name.view⟩)
      (hne : r ≠ name.register) (hcls : r.cls = name.register.cls) :
      Emits engine form template given

/-- **An operand is written as its template is**, and never as an empty text. -/
theorem Reads.emits_of_assigned {file : RegisterFile} {operands : List Operand}
    {operand : Operand} {assignment : Assignment} {i : Nat}
    (hsound : ∀ operand ∈ operands, operand.Sound)
    (hreads : engine.Reads form template operand) (ho : operands[i]? = some operand)
    (ha : (file.assign operands).assigned[i]? = some assignment) :
    engine.Emits form template assignment.text ∧ assignment.text ≠ "" := by
  by_cases hgen : operand.generated = true
  · obtain ⟨mid, name, r, -, hname, hclaim, hwrites⟩ :=
      RegisterFile.claim_of_assigned hsound ho hgen ha
    refine ⟨?_, RegisterName.ne_empty_of_ofString? (hwrites.ofString? hname)⟩
    cases hreads with
    | verbatim _ _ => exact absurd hgen Bool.false_ne_true
    | resolved h _ =>
      cases hwrites with
      | own => exact .unmoved h hname
      | spare hne hgiven =>
        exact .moved h hname (RegisterName.ofString?_of_spell hgiven) hne
          (RegisterFile.cls_of_claim? hclaim)
  · have hgen : operand.generated = false := Bool.eq_false_iff.mpr hgen
    obtain rfl := RegisterFile.assigned_of_fixed ho hgen ha
    cases hreads with
    | verbatim h hne => exact ⟨.verbatim h, hne⟩
    | resolved h hne =>
      simp only [Option.isSome_eq_false_iff, Option.isNone_iff_eq_none] at hgen
      exact ⟨.fixed h hgen, hne⟩

/-- The built-in table omits the marker of the implicit register, and nothing else. -/
theorem omits_of_builtin (h : engine.table = Table.builtin) (form : Form) (template : String) :
    engine.omits form template = (template == implicitXmm0) := by
  have hmark : Table.builtin.lookup implicitXmm0 = some .absent := by
    rw [Table.builtin, Table.lookup_ofDefinitions]
    decide
  by_cases ht : template = implicitXmm0
  · subst ht
    simp [omits, resolution, h, Table.translate, hmark, Expansion.resolve]
  · simp [omits, ht]

theorem kept_of_builtin (h : engine.table = Table.builtin) (form : Form) :
    engine.kept form = form.templates.filter (· != implicitXmm0) :=
  List.filter_congr fun template _ => by rw [omits_of_builtin h]; rfl

theorem length_kept_of_builtin (h : engine.table = Table.builtin) (form : Form) :
    (engine.kept form).length + form.templates.count implicitXmm0 = form.templates.length := by
  have hsplit := List.length_eq_countP_add_countP (· == implicitXmm0) (l := form.templates)
  rw [hsplit, List.count_eq_countP, kept, ← List.countP_eq_length_filter, Nat.add_comm]
  simp only [omits_of_builtin h]
  exact congrArg _ (List.countP_congr fun template _ => by simp)

/-- **Every kept template is written, in order**, and as a text that is not empty. -/
theorem forall₂_emits {operands : List Operand} (hread : engine.operands form = .ok operands)
    (hunmet : (Allocation.ofOperands form.encoding operands).unmet = none) :
    List.Forall₂ (fun template text => engine.Emits form template text ∧ text ≠ "")
      (engine.kept form)
      ((Allocation.ofOperands form.encoding operands).assigned.map Assignment.text) := by
  have hlength := (forall₂_reads_operands hread).length_eq
  have hmet : (Allocation.ofOperands form.encoding operands).assigned.length = operands.length :=
    RegisterFile.length_assigned hunmet
  refine List.forall₂_iff_get.mpr ⟨by rw [hlength, List.length_map, hmet], fun i hi hj => ?_⟩
  obtain ⟨operand, ho, hreads⟩ :=
    exists_reads_of_getElem? hread (List.getElem?_eq_getElem hi)
  have ha : i < (Allocation.ofOperands form.encoding operands).assigned.length := by
    rwa [List.length_map] at hj
  rw [List.get_eq_getElem, List.get_eq_getElem, List.getElem_map]
  exact hreads.emits_of_assigned (sound_of_operands hread) ho (List.getElem?_eq_getElem ha)

end Engine

/-- **The shape of an instruction.**  Its operands are the templates of the form without the omitted
markers, in order and each written as `Engine.Emits` says, and none is empty; with the built-in
table just the markers of the implicit register are missing.  The mnemonic is that of the form,
except in the move of a 64-bit immediate. -/
theorem instantiate_shape (engine : Engine) (form : Form) (instruction : Instruction)
    (h : engine.instantiate form = .ok instruction) :
    List.Forall₂ (engine.Emits form) (engine.kept form) instruction.operands ∧
      (∀ operand ∈ instruction.operands, operand ≠ "") ∧
      (engine.table = Table.builtin →
        instruction.operands.length + form.templates.count implicitXmm0 =
          form.templates.length) ∧
      instruction.mnemonic =
        if form.mnemonic = "MOV" ∧ form.templates[1]? = some "imm64" then "MOVABS"
        else form.mnemonic := by
  obtain ⟨operands, hread, hunmet, rfl⟩ := Engine.instantiate_eq_ok_iff.mp h
  have hshape := Engine.forall₂_emits hread hunmet
  refine ⟨hshape.imp fun _ _ hemits => hemits.1, fun operand hmem => ?_, fun htable => ?_,
    form.emittedMnemonic_eq⟩
  · obtain ⟨i, hi, rfl⟩ := List.getElem_of_mem hmem
    obtain ⟨hlength, hget⟩ := List.forall₂_iff_get.mp hshape
    exact (hget i (hlength ▸ hi) hi).2
  · rw [← hshape.length_eq, Engine.length_kept_of_builtin htable]

/-- A blend with the marker of its implicit register: the marker is left out, the second vector
operand moves to the first spare, and the mnemonic stays. -/
theorem blend_shape :
    let engine := Engine.ofConfig Table.builtin {}
    let form : Form := ⟨"BLENDVPD", ["xmm", "<XMM0>", "xmm", "reg"], .extended⟩
    let instruction : Instruction := ⟨"BLENDVPD", ["xmm5", "xmm6", "r11"]⟩
    engine.instantiate form = .ok instruction ∧
      List.Forall₂ (engine.Emits form) (engine.kept form) instruction.operands ∧
      (∀ operand ∈ instruction.operands, operand ≠ "") ∧
      (engine.table = Table.builtin →
        instruction.operands.length + form.templates.count implicitXmm0 =
          form.templates.length) ∧
      instruction.mnemonic =
        if form.mnemonic = "MOV" ∧ form.templates[1]? = some "imm64" then "MOVABS"
        else form.mnemonic := by
  intro engine form instruction
  have h : engine.instantiate form = .ok instruction := by decide
  exact ⟨h, instantiate_shape engine form instruction h⟩

end AsmForms
