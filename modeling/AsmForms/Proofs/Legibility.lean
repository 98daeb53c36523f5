import AsmForms.Proofs.Engine.Writing
import AsmForms.Proofs.Line
import AsmForms.Proofs.Refusal

/-!
# Proofs/Legibility — what is written can be read back

A line shows the mnemonic and the operands of a form or of an instruction, as long as no space
stands in the mnemonic and no separator in an operand (`Line.read_render`).  With the built-in table
and the strict fallback every operand is such, if the label is: a register name, a literal of the
table and a template that is written as it stands hold no comma at all, and around the label there
are only line breaks and a colon (`lines_read_back`).

The line of a form does not show its encoding, so forms of both encodings share their lines
(`same_line_in_both_encodings`).
-/

namespace AsmForms

open Line

/-! ## Texts without a separator -/

/-- **A register name holds no comma.** -/
theorem comma_notMem_of_ofString? {text : String} {name : RegisterName}
    (h : RegisterName.ofString? text = some name) : ',' ∉ text.toList := by
  intro hmem
  have hcomma : isWordChar ',' = false := by decide
  exact absurd ((ofString?_eq_none_of_mem hmem hcomma).symm.trans h) nofun

/-- **What is written as it stands holds no comma.** -/
theorem comma_notMem_of_isVerbatim {template : String} (h : isVerbatim template = true) :
    ',' ∉ template.toList := by
  have hregisters : ∀ register ∈ fixedRegisters, ',' ∉ register.toList := by decide
  have hstack : ∀ top ∈ ["ST", "ST(0)"], ',' ∉ top.toList := by decide
  simp only [isVerbatim, Bool.or_eq_true] at h
  obtain (hregister | htop) | hconstant := h
  · exact hregisters template (List.contains_iff_mem.mp hregister)
  · exact hstack template (by simpa [isStackTop] using htop)
  · have hdigits := List.all_eq_true.mp (Bool.and_eq_true_iff.mp hconstant).2
    intro hmem
    exact absurd (hdigits ',' hmem) (by decide)

set_option maxRecDepth 40000 in
theorem Table.comma_free_builtinDefinitions :
    builtinDefinitions.all (fun
      | (_, .literal text) => !text.toList.contains ','
      | _ => true) = true := by
  decide

/-- **The literals of the built-in table hold no comma.** -/
theorem Table.comma_notMem_of_lookup_builtin {template text : String}
    (h : builtin.lookup template = some (.literal text)) : ',' ∉ text.toList := by
  have hrow := List.all_eq_true.mp comma_free_builtinDefinitions _ (mem_of_lookup_builtin h)
  simpa using hrow

/-- **A branch operand holds a separator exactly if its label does.** -/
theorem Dialect.hasSeparator_branchOperand {dialect : Dialect} {label : String}
    {width : BranchWidth} :
    HasSeparator (dialect.branchOperand label width).toList ↔ HasSeparator label.toList := by
  have hfiller : ∀ width, ¬ HasSeparator (dialect.filler width).toList := by
    cases dialect <;> intro width <;> cases width <;> decide
  have hlanding : ¬ HasSeparator dialect.landing.toList := by cases dialect <;> decide
  obtain ⟨hhead, hlast, -⟩ := dialect.filler_spec width
  obtain ⟨hcolon, -⟩ := dialect.landing_spec
  simp [branchOperand_eq, hasSeparator_append_iff, hfiller, hlanding, hhead, hlast, hcolon]

/-! ## The operands of an instruction -/

namespace Engine

variable {engine : Engine} {config : Config} {form : Form} {template text : String}
  {operand : Operand} {instruction : Instruction}

/-- A template resolves to what it stands for, unless it is left to the fallback. -/
theorem StandsFor.resolution_eq {text? : Option String} (h : engine.StandsFor form template text?) :
    engine.resolution form template = text?.elim .absent .operand ∨
      engine.resolution form template = .unhandled ∧ text? = some template := by
  rw [resolution, Table.translate]
  cases h with
  | literal hlookup => exact .inl (by rw [hlookup]; rfl)
  | branch hlookup => exact .inl (by rw [hlookup]; rfl)
  | absent hlookup => exact .inl (by rw [hlookup]; rfl)
  | role hlookup hrole => exact .inl (by simp [hlookup, hrole])
  | verbatim hlookup hrole _ => exact .inr ⟨by simp [hlookup, hrole], rfl⟩

/-- **A template is read as the text that it stands for.** -/
theorem Reads.eq_some_of_standsFor (h : engine.Reads form template operand) {text? : Option String}
    (hstands : engine.StandsFor form template text?) : text? = some operand.text := by
  rcases hstands.resolution_eq with hresolution | ⟨hresolution, rfl⟩
  · cases h with
    | resolved h _ =>
      cases text? with
      | some text => rw [Resolution.operand.inj (h.symm.trans hresolution)]
      | none => exact absurd (h.symm.trans hresolution) nofun
    | verbatim h _ => cases text? <;> exact absurd (h.symm.trans hresolution) nofun
  · cases h with
    | resolved h _ => exact absurd (h.symm.trans hresolution) nofun
    | verbatim _ _ => rfl

/-- **What a template of the built-in vocabulary stands for holds no separator**, if the label holds
none. -/
theorem StandsFor.not_hasSeparator
    (h : (ofConfig Table.builtin config).StandsFor form template (some text))
    (hstrict : config.fallback = .strict) (hlabel : ¬ HasSeparator config.label.toList) :
    ¬ HasSeparator text.toList := by
  cases h with
  | literal hlookup =>
    exact not_hasSeparator_of_notMem (Table.comma_notMem_of_lookup_builtin hlookup)
  | branch _ => exact mt Dialect.hasSeparator_branchOperand.mp hlabel
  | role _ hrole =>
    rcases form.encoding.resolve_cases form.width template with ⟨view, name, -, hname, hoffers⟩ |
      ⟨-, hnone⟩
    · obtain rfl := Option.some.inj (hname.symm.trans hrole)
      obtain ⟨r, -, hread⟩ := hoffers.exists_name
      exact not_hasSeparator_of_notMem (comma_notMem_of_ofString? hread)
    · exact absurd (hnone.symm.trans hrole) nofun
  | verbatim _ _ hfallback =>
    have hverbatim := hfallback.resolve_left (by simp [ofConfig, hstrict])
    exact not_hasSeparator_of_notMem (comma_notMem_of_isVerbatim hverbatim)

/-- **No template of a form that becomes an instruction is unknown.** -/
theorem exists_standsFor_of_mem_kept (h : engine.instantiate form = .ok instruction) :
    ∀ template ∈ engine.kept form, ∃ text?, engine.StandsFor form template text? := by
  obtain ⟨operands, hread, -, -⟩ := instantiate_eq_ok_iff.mp h
  intro template hmem
  have hsound := not_faulty_of_operandsOf hread template (List.mem_filter.mp hmem).1
  exact (unknown_or_standsFor engine form template).resolve_left fun hunknown =>
    hsound ⟨_, hunknown⟩

/-- **An operand of an instruction** is a register name, or what a template stands for. -/
theorem names_or_standsFor_of_mem_operands (h : engine.instantiate form = .ok instruction)
    (hmem : text ∈ instruction.operands) :
    (∃ name, RegisterName.ofString? text = some name) ∨
      ∃ template, engine.StandsFor form template (some text) := by
  have hwritten : List.Forall₂
      (fun template text => (∃ text?, engine.StandsFor form template text?) →
        (∃ name, RegisterName.ofString? text = some name) ∨
          ∃ template, engine.StandsFor form template (some text))
      (engine.kept form) instruction.operands := by
    refine forall₂_of_meet h fun {template operand mid assignment next} hreads _ hmeet => ?_
    rintro ⟨text?, hstands⟩
    rcases RegisterFile.meet_cases hreads.sound hmeet with
      ⟨-, name, r, hname, -, hwrites, -⟩ | ⟨-, rfl, -⟩
    · exact .inl ⟨_, hwrites.ofString? hname⟩
    · exact .inr ⟨template, hreads.eq_some_of_standsFor hstands ▸ hstands⟩
  obtain ⟨i, hi, rfl⟩ := List.getElem_of_mem hmem
  obtain ⟨hlength, hget⟩ := List.forall₂_iff_get.mp hwritten
  exact hget i (hlength ▸ hi) hi (exists_standsFor_of_mem_kept h _ (List.getElem_mem _))

/-- **No operand of an instruction holds a separator.** -/
theorem not_hasSeparator_of_mem_operands (hstrict : config.fallback = .strict)
    (hlabel : ¬ HasSeparator config.label.toList)
    (h : (ofConfig Table.builtin config).instantiate form = .ok instruction) :
    ∀ operand ∈ instruction.operands, ¬ HasSeparator operand.toList := by
  intro operand hmem
  rcases names_or_standsFor_of_mem_operands h hmem with ⟨name, hname⟩ | ⟨template, hstands⟩
  · exact not_hasSeparator_of_notMem (comma_notMem_of_ofString? hname)
  · exact hstands.not_hasSeparator hstrict hlabel

end Engine

/-- A form is spelled with a space exactly if its mnemonic has one. -/
theorem Form.space_mem_emittedMnemonic_iff {form : Form} :
    ' ' ∈ form.emittedMnemonic.toList ↔ ' ' ∈ form.mnemonic.toList := by
  rw [emittedMnemonic]
  split
  next h =>
    have hmnemonic : form.mnemonic = "MOV" := by
      simpa using (Bool.and_eq_true_iff.mp h).1
    rw [hmnemonic]
    decide
  next => rfl

/-- **Lines read back.**  The mnemonic and the operands of a readable form or instruction are read
from its line, so instructions with one line are equal, and forms with one line are equal up to
their encoding.  With the built-in table and the strict fallback no operand of an instruction holds
a separator, if the label holds none; so the line of the instruction is read back as soon as there
is no space in the mnemonic of the form. -/
theorem lines_read_back :
    (∀ form : Form, Readable form.mnemonic form.templates →
      Line.read form.text = (form.mnemonic, form.templates)) ∧
    (∀ instruction : Instruction, Readable instruction.mnemonic instruction.operands →
      Line.read instruction.text = (instruction.mnemonic, instruction.operands)) ∧
    (∀ instruction other : Instruction, Readable instruction.mnemonic instruction.operands →
      Readable other.mnemonic other.operands → instruction.text = other.text →
        instruction = other) ∧
    (∀ form other : Form, Readable form.mnemonic form.templates →
      Readable other.mnemonic other.templates → form.text = other.text →
        other = { form with encoding := other.encoding }) ∧
    ∀ dialect label form instruction, ¬ HasSeparator label.toList →
      (Engine.ofConfig Table.builtin ⟨dialect, .strict, label⟩).instantiate form =
        .ok instruction →
      (∀ operand ∈ instruction.operands, ¬ HasSeparator operand.toList) ∧
        (' ' ∉ form.mnemonic.toList →
          Line.read instruction.text = (instruction.mnemonic, instruction.operands)) := by
  refine ⟨fun form h => read_render h, fun instruction h => read_render h,
    fun instruction other h h' htext => ?_, fun form other h h' htext => ?_,
    fun dialect label form instruction hlabel h => ?_⟩
  · obtain ⟨mnemonic, operands⟩ := instruction
    obtain ⟨mnemonic', operands'⟩ := other
    obtain ⟨rfl, rfl⟩ : mnemonic = mnemonic' ∧ operands = operands' := render_inj h h' htext
    rfl
  · obtain ⟨mnemonic, templates, encoding⟩ := form
    obtain ⟨mnemonic', templates', encoding'⟩ := other
    obtain ⟨rfl, rfl⟩ : mnemonic = mnemonic' ∧ templates = templates' := render_inj h h' htext
    rfl
  · have hoperands := Engine.not_hasSeparator_of_mem_operands rfl hlabel h
    refine ⟨hoperands, fun hspace => read_render ⟨?_, hoperands⟩⟩
    rwa [Engine.mnemonic_of_instantiate h, Form.space_mem_emittedMnemonic_iff]

/-- The line of an instruction whose operands are empty, begin with a space or end with a comma, and
the line of a branch over a label that ends with one. -/
theorem awkward_lines_read_back :
    let instruction : Instruction := ⟨"X", ["", " a", "b,", "", ""]⟩
    let engine := Engine.ofConfig Table.builtin ⟨.nasm, .strict, "far,"⟩
    let form : Form := ⟨"XBEGIN", ["rel8", "r32", "r8"], .legacy⟩
    let branch : Instruction := ⟨"XBEGIN", ["far,\ntimes 64 nop\nfar,: nop", "ecx", "dh"]⟩
    instruction.text = "X ,  a, b,, , " ∧
      Line.read instruction.text = (instruction.mnemonic, instruction.operands) ∧
      engine.instantiate form = .ok branch ∧
      Line.read branch.text = (branch.mnemonic, branch.operands) := by
  intro instruction engine form branch
  obtain ⟨-, hinstruction, -, -, hengine⟩ := lines_read_back
  have hbranch : engine.instantiate form = .ok branch := by decide
  obtain ⟨-, hread⟩ := hengine .nasm "far," form branch (by decide) hbranch
  exact ⟨by decide, hinstruction instruction (by decide), hbranch, hread (by decide)⟩

/-- **Two forms can have one line.**  It does not show the encoding, although the instructions that
they become are different. -/
theorem same_line_in_both_encodings :
    let engine := Engine.ofConfig Table.builtin {}
    let legacy : Form := ⟨"NOT", ["r32"], .legacy⟩
    let extended : Form := ⟨"NOT", ["r32"], .extended⟩
    Readable legacy.mnemonic legacy.templates ∧ Readable extended.mnemonic extended.templates ∧
      legacy.text = extended.text ∧ legacy ≠ extended ∧
      engine.instantiate legacy = .ok ⟨"NOT", ["ecx"]⟩ ∧
      engine.instantiate extended = .ok ⟨"NOT", ["r10d"]⟩ := by
  decide

end AsmForms
