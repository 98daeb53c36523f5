import AsmForms.Proofs.Engine.Requests
import AsmForms.Proofs.Engine.Simulation
import AsmForms.Proofs.Refusal
import AsmForms.Proofs.Register.Mentions

/-!
# Proofs/Branches — the dialect and the label change branch operands only

The text of a branch is scanned for registers like that of any other fixed operand, so it may move
every generated register.  But of its text only the registers that it mentions matter.  Engines
whose branches mention the same registers (`Engine.DifferInBranches`) therefore refuse a form alike,
or write it alike but for its branches; and so do two dialects with labels that mention the same
registers (`configs_differ_in_branches_only`).
-/

namespace AsmForms

namespace Engine

variable {engine engine' : Engine} {form : Form} {template : String}

/-- Two engines **differ in their branches** only, and these mention the same registers; a branch is
never an empty text or a register name. -/
structure DifferInBranches (engine engine' : Engine) : Prop where
  table : engine'.table = engine.table
  fallback : engine'.fallback = engine.fallback
  ne_empty : ∀ width, engine.branchText width ≠ "" ∧ engine'.branchText width ≠ ""
  no_name : ∀ width, RegisterName.ofString? (engine.branchText width) = none ∧
    RegisterName.ofString? (engine'.branchText width) = none
  mentions : ∀ width r,
    Mentions (engine.branchText width) r ↔ Mentions (engine'.branchText width) r

theorem DifferInBranches.symm (h : DifferInBranches engine engine') :
    DifferInBranches engine' engine where
  table := h.table.symm
  fallback := h.fallback.symm
  ne_empty width := (h.ne_empty width).symm
  no_name width := (h.no_name width).symm
  mentions width r := (h.mentions width r).symm

/-- **What two engines write for a template**: each its own branch, or both the same text. -/
inductive WriteApart (engine engine' : Engine) (template : String) : String × String → Prop
  | branch {width : BranchWidth} (h : engine.table.lookup template = some (.branch width)) :
      WriteApart engine engine' template (engine.branchText width, engine'.branchText width)
  | alike {text : String} (h : ∀ width, engine.table.lookup template ≠ some (.branch width)) :
      WriteApart engine engine' template (text, text)

namespace DifferInBranches

/-! ## One template -/

/-- **A template is a branch for both engines, or resolves alike.** -/
theorem resolution_cases (h : DifferInBranches engine engine') (form : Form) (template : String) :
    (∃ width, engine.table.lookup template = some (.branch width) ∧
      engine.resolution form template = .operand (engine.branchText width) ∧
      engine'.resolution form template = .operand (engine'.branchText width)) ∨
    (∀ width, engine.table.lookup template ≠ some (.branch width)) ∧
      engine'.resolution form template = engine.resolution form template := by
  rw [resolution, resolution, h.table, Table.translate, Table.translate]
  cases engine.table.lookup template with
  | none => exact Or.inr ⟨fun _ => Option.some_ne_none _ ∘ Eq.symm, rfl⟩
  | some expansion =>
    cases expansion with
    | literal text => exact Or.inr ⟨fun width heq => by simp at heq, rfl⟩
    | branch width => exact Or.inl ⟨width, rfl, rfl, rfl⟩
    | absent => exact Or.inr ⟨fun width heq => by simp at heq, rfl⟩

/-- The operand of a branch is fixed. -/
theorem reads_branch {operand : Operand} {width : BranchWidth}
    (hname : RegisterName.ofString? (engine.branchText width) = none)
    (hresolution : engine.resolution form template = .operand (engine.branchText width))
    (hreads : engine.Reads form template operand) :
    operand = ⟨template, engine.branchText width, false⟩ := by
  cases hreads with
  | resolved htext _ =>
    obtain rfl := Resolution.operand.inj (hresolution.symm.trans htext)
    rw [hname]
    rfl
  | verbatim hnone _ => exact absurd (hresolution.symm.trans hnone) nofun

/-- The engines omit the same templates. -/
theorem kept_eq (h : DifferInBranches engine engine') (form : Form) :
    engine'.kept form = engine.kept form := by
  refine List.filter_congr fun template _ => ?_
  rcases h.resolution_cases form template with ⟨width, -, hbranch, hbranch'⟩ | ⟨-, hsame⟩
  · rw [(Reads.resolved hbranch (h.ne_empty width).1).omits_eq_false,
      (Reads.resolved hbranch' (h.ne_empty width).2).omits_eq_false]
  · rw [omits, omits, hsame]

/-- What stands for nothing in one engine does so in the other. -/
theorem standsFor (h : DifferInBranches engine engine') {text? : Option String}
    (hempty : text?.getD "" = "") (hstands : engine.StandsFor form template text?) :
    engine'.StandsFor form template text? := by
  cases hstands with
  | literal htable => exact .literal (h.table ▸ htable)
  | @branch width _ => exact absurd hempty (h.ne_empty width).1
  | absent htable => exact .absent (h.table ▸ htable)
  | role htable hrole => exact .role (h.table ▸ htable) hrole
  | verbatim htable hrole hfallback => exact .verbatim (h.table ▸ htable) hrole (h.fallback ▸ hfallback)

theorem faulty (h : DifferInBranches engine engine') {cause : Cause}
    (hfault : engine.Faulty form template cause) : engine'.Faulty form template cause := by
  cases hfault with
  | unknown htable hwide hrole hstrict hverbatim =>
    exact .unknown (h.table ▸ htable) hwide hrole (h.fallback ▸ hstrict) hverbatim
  | missing hmark hmissing =>
    exact .missing hmark (hmissing.imp (h.standsFor rfl) (h.standsFor rfl))

/-- **Both engines find the same faults.** -/
theorem faulty_iff (h : DifferInBranches engine engine') {cause : Cause} :
    engine'.Faulty form template cause ↔ engine.Faulty form template cause :=
  ⟨h.symm.faulty, h.faulty⟩

/-! ## All templates -/

/-- **The engines refuse the same templates**, -/
theorem operands_eq_error (h : DifferInBranches engine engine') (form : Form)
    (violation : Violation) :
    engine'.operands form = .error violation ↔ engine.operands form = .error violation := by
  simp only [operands_eq_error_iff, h.faulty_iff]

theorem exists_operands (h : DifferInBranches engine engine') {operands : List Operand}
    (hread : engine.operands form = .ok operands) :
    ∃ operands', engine'.operands form = .ok operands' := by
  cases hread' : engine'.operands form with
  | ok operands' => exact ⟨operands', rfl⟩
  | error violation =>
    exact absurd (hread.symm.trans ((h.operands_eq_error form violation).mp hread')) nofun

theorem fixedMention (h : DifferInBranches engine engine') {r : Register}
    (hfixed : engine.FixedMention form r) : engine'.FixedMention form r := by
  obtain ⟨template, hmem, hcls, text, htext, hmentions⟩ := hfixed
  refine ⟨template, h.kept_eq form ▸ hmem, ?_⟩
  rw [cls?] at hcls
  rw [text?] at htext
  rcases h.resolution_cases form template with ⟨width, -, hbranch, hbranch'⟩ | ⟨-, hsame⟩
  · rw [hbranch] at htext
    obtain rfl := Option.some.inj htext
    refine ⟨?_, _, ?_, (h.mentions width r).mp hmentions⟩
    · rw [cls?, hbranch']
      simp only [h.no_name width, Option.map_none]
    · rw [text?, hbranch']
  · exact ⟨by rw [cls?, hsame, hcls], text, by rw [text?, hsame, htext], hmentions⟩

/-- **and start with the same registers taken.** -/
theorem agreesOn_ofFixed (h : DifferInBranches engine engine') {operands operands' : List Operand}
    (hread : engine.operands form = .ok operands) (hread' : engine'.operands form = .ok operands')
    (cls : RegisterClass) :
    RegisterFile.AgreesOn cls (RegisterFile.ofFixed form.encoding operands)
      (RegisterFile.ofFixed form.encoding operands') := by
  refine ⟨by rw [RegisterFile.encoding_ofFixed, RegisterFile.encoding_ofFixed], fun r _ => ?_⟩
  rw [mem_taken_ofFixed_iff hread, mem_taken_ofFixed_iff hread']
  exact ⟨h.fixedMention, h.symm.fixedMention⟩

/-! ## Both runs -/

/-- **One engine simulates the other**: files that hold the same registers meet the same operands,
and what is written differs in branches only. -/
theorem simulates (h : DifferInBranches engine engine') (form : Form) :
    Simulates engine engine' form form
      (fun file file' => ∀ cls, RegisterFile.AgreesOn cls file file')
      (WriteApart engine engine') := by
  refine ⟨fun {template operand operand' file file' assignment next} hreads hreads' hagree
    hmeet => ?_⟩
  rcases h.resolution_cases form template with ⟨width, htable, hbranch, hbranch'⟩ | ⟨hno, hsame⟩
  · obtain rfl := reads_branch (h.no_name width).1 hbranch hreads
    obtain rfl := reads_branch (h.no_name width).2 hbranch' hreads'
    rw [RegisterFile.meet_of_fixed rfl] at hmeet
    obtain ⟨rfl, rfl⟩ := Prod.mk.inj (Option.some.inj hmeet)
    exact ⟨_, file', RegisterFile.meet_of_fixed rfl, hagree, .branch htable⟩
  · obtain rfl := hreads.eq_of_resolution hreads' hsame
    obtain ⟨next', hmeet', hnext⟩ :=
      RegisterFile.meet_of_agreesOn hreads.sound (fun cls _ => hagree cls) hmeet
    exact ⟨_, next', hmeet', fun cls => hnext cls (hagree cls), .alike hno⟩

/-- Where one run is stuck, so is the other: it cannot be ahead of the first. -/
theorem meet_eq_none (h : DifferInBranches engine engine') {operand operand' : Operand}
    {file file' : RegisterFile} (hreads : engine.Reads form template operand)
    (hreads' : engine'.Reads form template operand')
    (hagree : ∀ cls, RegisterFile.AgreesOn cls file file') (hmeet : file.meet operand = none) :
    file'.meet operand' = none := by
  rw [Option.eq_none_iff_forall_ne_some]
  rintro ⟨assignment, next⟩ hmeet'
  obtain ⟨_, _, hmet, -, -⟩ :=
    (h.symm.simulates form).step hreads' hreads (fun cls => (hagree cls).symm) hmeet'
  exact absurd (hmet.symm.trans hmeet) nofun

/-- **What one engine refuses, the other refuses for the same template.** -/
theorem instantiate_eq_error (h : DifferInBranches engine engine') {violation : Violation}
    (herror : engine.instantiate form = .error violation) :
    engine'.instantiate form = .error violation := by
  obtain ⟨cause, mnemonic, template⟩ := violation
  by_cases hcause : cause = .registersExhausted
  · -- All templates are read, so the first run is stuck, and the second at the same template.
    subst hcause
    obtain ⟨hmnemonic, operands, operand, hread, hunmet, htemplate⟩ :=
      instantiate_eq_exhausted_iff.mp herror
    obtain ⟨operands', hread'⟩ := h.exists_operands hread
    have hreads' := forall₂_reads_operands hread'
    rw [h.kept_eq form] at hreads'
    have hmap := (h.simulates form).map_unmet h.meet_eq_none (forall₂_reads_operands hread)
      hreads' (h.agreesOn_ofFixed hread hread')
    rw [Allocation.ofOperands] at hunmet
    rw [hunmet, Option.map_some, Option.map_eq_some_iff] at hmap
    obtain ⟨operand', hunmet', htemplate'⟩ := hmap
    exact instantiate_eq_exhausted_iff.mpr
      ⟨hmnemonic, operands', operand', hread', hunmet', htemplate.trans htemplate'.symm⟩
  · have hread := instantiate_eq_error_iff.mp ⟨herror, hcause⟩
    exact (instantiate_eq_error_iff.mpr ((h.operands_eq_error form _).mpr hread)).1

/-- **What one engine writes, the other writes too**, and differently in branches only. -/
theorem exists_instruction (h : DifferInBranches engine engine') {instruction : Instruction}
    (hok : engine.instantiate form = .ok instruction) :
    ∃ instruction', engine'.instantiate form = .ok instruction' ∧
      instruction'.operands.length = instruction.operands.length ∧
      List.Forall₂ (WriteApart engine engine') (engine.kept form)
        (instruction.operands.zip instruction'.operands) := by
  obtain ⟨operands, hread, -, -⟩ := instantiate_eq_ok_iff.mp hok
  obtain ⟨operands', hread'⟩ := h.exists_operands hread
  exact (h.simulates form).exists_instruction (h.kept_eq form) hread hread'
    (h.agreesOn_ofFixed hread hread') hok

end DifferInBranches

/-- **Two configurations with one fallback differ in their branches only**, if their labels mention
the same registers. -/
theorem differInBranches_ofConfig (table : Table) {config config' : Config}
    (hfallback : config.fallback = config'.fallback)
    (hlabel : ∀ r, Mentions config.label r ↔ Mentions config'.label r) :
    DifferInBranches (Engine.ofConfig table config) (Engine.ofConfig table config') where
  table := rfl
  fallback := hfallback.symm
  ne_empty _ := ⟨Dialect.branchOperand_ne_empty _ _ _, Dialect.branchOperand_ne_empty _ _ _⟩
  no_name _ := ⟨Dialect.ofString?_branchOperand _ _ _, Dialect.ofString?_branchOperand _ _ _⟩
  mentions _ r :=
    Dialect.mentions_branchOperand.trans ((hlabel r).trans Dialect.mentions_branchOperand.symm)

end Engine

/-- **Dialect and label change the branches only.**  Take any table, and two configurations with one
fallback and with labels that mention the same registers.  A form is refused in both with the same
violation, or it becomes an instruction in both: the mnemonics and the templates written are the
same, and each template is written as the branch of the own dialect and label if the table says so,
and else as the same text. -/
theorem configs_differ_in_branches_only (table : Table) (config config' : Config) (form : Form)
    (hfallback : config.fallback = config'.fallback)
    (hlabel : ∀ r, Mentions config.label r ↔ Mentions config'.label r) :
    (∃ violation, (Engine.ofConfig table config).instantiate form = .error violation ∧
      (Engine.ofConfig table config').instantiate form = .error violation) ∨
    ∃ instruction instruction',
      (Engine.ofConfig table config).instantiate form = .ok instruction ∧
      (Engine.ofConfig table config').instantiate form = .ok instruction' ∧
      instruction'.mnemonic = instruction.mnemonic ∧
      instruction'.operands.length = instruction.operands.length ∧
      (Engine.ofConfig table config').kept form = (Engine.ofConfig table config).kept form ∧
      List.Forall₂ (Engine.WriteApart (Engine.ofConfig table config)
          (Engine.ofConfig table config'))
        ((Engine.ofConfig table config).kept form)
        (instruction.operands.zip instruction'.operands) := by
  have hdiffer := Engine.differInBranches_ofConfig table hfallback hlabel
  cases h : (Engine.ofConfig table config).instantiate form with
  | error violation => exact Or.inl ⟨violation, rfl, hdiffer.instantiate_eq_error h⟩
  | ok instruction =>
    obtain ⟨instruction', h', hlength, hwritten⟩ := hdiffer.exists_instruction h
    have hmnemonic := Engine.mnemonic_of_instantiate h
    exact Or.inr ⟨instruction, instruction', rfl, h',
      (Engine.mnemonic_of_instantiate h').trans hmnemonic.symm, hlength, hdiffer.kept_eq form,
      hwritten⟩

/-- Two dialects, with labels that name `rcx` and `rbx` in either order: both double words move, and
to the same registers, though a branch stands between them and another takes the place of a role. -/
theorem labels_that_name_registers :
    let table := Table.ofDefinitions [("rel8", .branch .rel8), ("r64", .branch .rel16)]
    let config : Config := ⟨.gas, .strict, "cl:rbx"⟩
    let config' : Config := ⟨.nasm, .strict, "BX rcx"⟩
    let form : Form := ⟨"X", ["r32", "rel8", "r32b", "r64"], .legacy⟩
    let instruction : Instruction := ⟨"X", ["edi", "cl:rbx\n.rept 64\nNOP\n.endr\ncl:rbx: NOP", "ebp",
      "cl:rbx\n.rept 256\nNOP\n.endr\ncl:rbx: NOP"]⟩
    let instruction' : Instruction := ⟨"X", ["edi", "BX rcx\ntimes 64 nop\nBX rcx: nop", "ebp",
      "BX rcx\ntimes 256 nop\nBX rcx: nop"]⟩
    config.fallback = config'.fallback ∧
      (∀ r, Mentions config.label r ↔ Mentions config'.label r) ∧
      (Engine.ofConfig table config).instantiate form = .ok instruction ∧
      (Engine.ofConfig table config').instantiate form = .ok instruction' ∧
      List.Forall₂ (Engine.WriteApart (Engine.ofConfig table config)
          (Engine.ofConfig table config'))
        ((Engine.ofConfig table config).kept form)
        (instruction.operands.zip instruction'.operands) := by
  intro table config config' form instruction instruction'
  have hlabel (r : Register) : Mentions config.label r ↔ Mentions config'.label r := by
    have hgas : mentioned config.label = [⟨.general, 1⟩, ⟨.general, 3⟩] := by decide
    have hnasm : mentioned config'.label = [⟨.general, 3⟩, ⟨.general, 1⟩] := by decide
    rw [← mem_mentioned_iff, ← mem_mentioned_iff, hgas, hnasm]
    simp [or_comm]
  have h : (Engine.ofConfig table config).instantiate form = .ok instruction := by decide
  have h' : (Engine.ofConfig table config').instantiate form = .ok instruction' := by decide
  refine ⟨rfl, hlabel, h, h', ?_⟩
  rcases configs_differ_in_branches_only table config config' form rfl hlabel with
    ⟨violation, herror, -⟩ | ⟨given, given', hok, hok', -, -, -, hwritten⟩
  · exact absurd (h.symm.trans herror) nofun
  · obtain rfl := Except.ok.inj (h.symm.trans hok)
    obtain rfl := Except.ok.inj (h'.symm.trans hok')
    exact hwritten

end AsmForms
