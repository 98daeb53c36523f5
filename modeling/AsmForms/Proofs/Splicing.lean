import AsmForms.Proofs.Aliasing
import AsmForms.Proofs.Pressure
import AsmForms.Proofs.Register.Mentions

/-!
# Proofs/Splicing — when a branch is written verbatim

Whether an operand may be moved is read off its text, wherever the text comes from.  So a branch
whose text is a register name is moved like any other operand: it is written verbatim exactly if no
other operand of the instruction mentions its register (`branch_is_verbatim_iff`).  The dialects
write branches on several lines, which no register name is, and theirs are never moved
(`dialect_branch_is_verbatim`).
-/

namespace AsmForms

namespace RegisterFile

variable {encoding : Encoding} {operands : List Operand} {operand : Operand}
  {assignment : Assignment} {i : Nat}

/-- **What is in use when a generated operand is met, another operand is written with.** -/
theorem exists_mention_of_inUse (hunmet : (Allocation.ofOperands encoding operands).unmet = none)
    (ho : operands[i]? = some operand) (hgen : operand.generated = true) {r : Register}
    (h : InUse encoding operands i r) :
    ∃ j written, j ≠ i ∧ (Allocation.ofOperands encoding operands).assigned[j]? = some written ∧
      Mentions written.text r := by
  rcases h with ⟨fixed, hmem, hfixed, hmentions⟩ | ⟨j, hlt, _, written, -, -, hj, hnames⟩
  · obtain ⟨j, hj⟩ := List.getElem?_of_mem hmem
    obtain ⟨written, ha⟩ := exists_assigned hunmet hj
    refine ⟨j, written, ?_, ha, ?_⟩
    · rintro rfl
      obtain rfl : operand = fixed := Option.some.inj (ho.symm.trans hj)
      exact absurd (hgen.symm.trans hfixed) nofun
    · rw [assigned_of_fixed hj hfixed ha]
      exact hmentions
  · exact ⟨j, written, Nat.ne_of_lt hlt, hj, hnames.mentions⟩

/-- **A generated operand keeps its text exactly if no other operand mentions its register.**  What
mentions the register is a fixed operand or stands before it, and so moves it; a generated operand
after it stays clear of the register that it keeps. -/
theorem text_eq_iff_not_mentions (hsound : ∀ operand ∈ operands, operand.Sound)
    (hunmet : (Allocation.ofOperands encoding operands).unmet = none)
    (ho : operands[i]? = some operand) (hgen : operand.generated = true)
    {name : RegisterName} (hname : RegisterName.ofString? operand.text = some name)
    (ha : (Allocation.ofOperands encoding operands).assigned[i]? = some assignment) :
    assignment.text = operand.text ↔
      ∀ j written, j ≠ i → (Allocation.ofOperands encoding operands).assigned[j]? = some written →
        ¬ Mentions written.text name.register := by
  constructor
  · intro htext j written hne hj
    have hfixed : ∀ fixed ∈ operands, fixed.generated = false → ∀ r, Mentions fixed.text r →
        r ∈ (ofFixed encoding operands).taken :=
      fun fixed hmem hfix r hr => mem_taken_ofFixed.mpr ⟨fixed, hmem, hfix, hr⟩
    exact not_mentions_of_ne hsound hfixed ho hgen ha (htext ▸ hname) hne hj
  · intro hfree
    by_contra hne
    obtain ⟨name', hname', hmoves, -⟩ := moves_iff_inUse hsound ho hgen ha
    obtain rfl : name = name' := Option.some.inj (hname.symm.trans hname')
    obtain ⟨j, written, hji, hj, hmentions⟩ :=
      exists_mention_of_inUse hunmet ho hgen (hmoves.mp hne)
    exact hfree j written hji hj hmentions

/-- **An operand that may be moved if its text is a register name** keeps the text exactly if no
other text mentions the register. -/
theorem text_eq_iff_of_generated_eq (hsound : ∀ operand ∈ operands, operand.Sound)
    (hunmet : (Allocation.ofOperands encoding operands).unmet = none)
    (ho : operands[i]? = some operand)
    (hgen : operand.generated = (RegisterName.ofString? operand.text).isSome)
    (ha : (Allocation.ofOperands encoding operands).assigned[i]? = some assignment) :
    assignment.text = operand.text ↔
      ∀ name, RegisterName.ofString? operand.text = some name → ∀ j other, j ≠ i →
        ((Allocation.ofOperands encoding operands).assigned.map Assignment.text)[j]? = some other →
          ¬ Mentions other name.register := by
  cases hname : RegisterName.ofString? operand.text with
  | none =>
    rw [hname] at hgen
    rw [assigned_of_fixed ho hgen ha]
    exact iff_of_true rfl nofun
  | some name =>
    rw [hname] at hgen
    rw [text_eq_iff_not_mentions hsound hunmet ho hgen hname ha]
    simp only [Option.some.injEq, forall_eq', List.getElem?_map, Option.map_eq_some_iff]
    constructor
    · rintro hfree j _ hne ⟨written, hj, rfl⟩
      exact hfree j written hne hj
    · exact fun hfree j written hne hj => hfree j written.text hne ⟨written, hj, rfl⟩

/-- An operand that does not keep its text names another register, through the same view. -/
theorem ofString?_of_text_ne (hsound : ∀ operand ∈ operands, operand.Sound)
    (ho : operands[i]? = some operand)
    (ha : (Allocation.ofOperands encoding operands).assigned[i]? = some assignment)
    (hne : assignment.text ≠ operand.text) :
    ∃ name r, RegisterName.ofString? operand.text = some name ∧ r ≠ name.register ∧
      RegisterName.ofString? assignment.text = some ⟨r, name.view⟩ := by
  by_cases hgen : operand.generated = true
  · obtain ⟨-, name, r, -, hname, -, hwrites⟩ := claim_of_assigned hsound ho hgen ha
    exact ⟨name, r, hname, (hwrites.text_ne_iff hname).mp hne, hwrites.ofString? hname⟩
  · rw [assigned_of_fixed ho (Bool.eq_false_iff.mpr hgen) ha] at hne
    exact absurd rfl hne

end RegisterFile

namespace Engine

variable {engine : Engine} {form : Form} {template : String} {width : BranchWidth}
  {operand : Operand} {instruction : Instruction} {i : Nat}

/-- **A branch is read as its text**, which may be moved if it is a register name. -/
theorem Reads.eq_of_branch (h : engine.Reads form template operand)
    (hbranch : engine.table.lookup template = some (.branch width)) :
    operand = ⟨template, engine.branchText width,
      (RegisterName.ofString? (engine.branchText width)).isSome⟩ := by
  have hresolution : engine.resolution form template = .operand (engine.branchText width) := by
    rw [resolution, Table.translate, hbranch]
    rfl
  cases h with
  | resolved h _ =>
    obtain rfl := Resolution.operand.inj (h.symm.trans hresolution)
    rfl
  | verbatim h _ => simp [hresolution] at h

end Engine

/-- **A branch is written verbatim exactly if no other operand wants its register.**  In the
instruction of a form, under any table, branch text and fallback, the operand of a branch is the
text of the branch, unless that is the name of a register which another operand mentions, before it
or after it.  It is then the name of another register, through the same view. -/
theorem branch_is_verbatim_iff (engine : Engine) (form : Form) (instruction : Instruction)
    (h : engine.instantiate form = .ok instruction) (i : Nat) (template : String)
    (width : BranchWidth) (ht : (engine.kept form)[i]? = some template)
    (hbranch : engine.table.lookup template = some (.branch width)) :
    (instruction.operands[i]? = some (engine.branchText width) ↔
      ∀ name, RegisterName.ofString? (engine.branchText width) = some name →
        ∀ j other, j ≠ i → instruction.operands[j]? = some other →
          ¬ Mentions other name.register) ∧
      (instruction.operands[i]? ≠ some (engine.branchText width) →
        ∃ name r text, RegisterName.ofString? (engine.branchText width) = some name ∧
          r ≠ name.register ∧ instruction.operands[i]? = some text ∧
          RegisterName.ofString? text = some ⟨r, name.view⟩) := by
  obtain ⟨operands, operand, assignment, hread, hunmet, htexts, ho, hreads, ha, htext⟩ :=
    Engine.exists_written h ht
  obtain rfl := hreads.eq_of_branch hbranch
  have hsound := Engine.sound_of_operands hread
  rw [htext, Ne, Option.some.injEq, htexts]
  refine ⟨RegisterFile.text_eq_iff_of_generated_eq hsound hunmet ho rfl ha, fun hne => ?_⟩
  obtain ⟨name, r, hname, hother, hview⟩ := RegisterFile.ofString?_of_text_ne hsound ho ha hne
  exact ⟨name, r, assignment.text, hname, hother, rfl, hview⟩

/-- A branch keeps the name `ecx` if the operand before it has another register, and the one after
it, which also asks for `ecx`, moves. -/
theorem branch_keeps_a_free_register :
    let engine : Engine := ⟨.ofDefinitions [("rel8", .branch .rel8)], fun _ => "ecx", .strict⟩
    let form : Form := ⟨"JMP", ["r32a", "rel8", "r32"], .legacy⟩
    let instruction : Instruction := ⟨"JMP", ["eax", "ecx", "edi"]⟩
    engine.instantiate form = .ok instruction ∧ (engine.kept form)[1]? = some "rel8" ∧
      engine.table.lookup "rel8" = some (.branch .rel8) ∧
      ∀ name, RegisterName.ofString? (engine.branchText .rel8) = some name →
        ∀ j other, j ≠ 1 → instruction.operands[j]? = some other →
          ¬ Mentions other name.register := by
  intro engine form instruction
  have h : engine.instantiate form = .ok instruction := by decide
  have ht : (engine.kept form)[1]? = some "rel8" := by decide
  have hbranch : engine.table.lookup "rel8" = some (.branch .rel8) := by decide
  have hverbatim := (branch_is_verbatim_iff engine form instruction h 1 "rel8" .rel8 ht hbranch).1
  exact ⟨h, ht, hbranch, hverbatim.mp (by decide)⟩

/-- After an operand that has `ecx`, a branch that is to be written as `ecx` is written as `edi`. -/
theorem branch_leaves_a_used_register :
    let engine : Engine := ⟨.ofDefinitions [("rel8", .branch .rel8)], fun _ => "ecx", .strict⟩
    let form : Form := ⟨"JMP", ["r32", "rel8"], .legacy⟩
    let instruction : Instruction := ⟨"JMP", ["ecx", "edi"]⟩
    engine.instantiate form = .ok instruction ∧ (engine.kept form)[1]? = some "rel8" ∧
      engine.table.lookup "rel8" = some (.branch .rel8) ∧
      instruction.operands[1]? ≠ some (engine.branchText .rel8) := by
  decide

/-- **The branches of a dialect are written verbatim**, whatever their label and whatever stands
beside them. -/
theorem dialect_branch_is_verbatim {dialect : Dialect} {label : String} {engine : Engine}
    {form : Form} {instruction : Instruction} {i : Nat} {template : String} {width : BranchWidth}
    (hdialect : engine.branchText = dialect.branchOperand label)
    (h : engine.instantiate form = .ok instruction) (ht : (engine.kept form)[i]? = some template)
    (hbranch : engine.table.lookup template = some (.branch width)) :
    instruction.operands[i]? = some (engine.branchText width) := by
  obtain ⟨operands, operand, assignment, hread, hunmet, -, ho, hreads, ha, htext⟩ :=
    Engine.exists_written h ht
  obtain rfl := hreads.eq_of_branch hbranch
  have hname : RegisterName.ofString? (engine.branchText width) = none := by
    rw [hdialect, Dialect.ofString?_branchOperand]
  rw [htext, RegisterFile.assigned_of_fixed ho (by rw [hname]; rfl) ha]
  rfl

end AsmForms
