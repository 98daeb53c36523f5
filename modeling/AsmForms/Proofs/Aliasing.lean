import AsmForms.Proofs.Engine.Assignment

/-!
# Proofs/Aliasing — no two operands of an instruction share a register by accident

A generated operand is written as the name of one register, and no other operand of the instruction
mentions that register, before it or after it and at whatever width
(`generated_operands_never_alias`).

Two invariants meet here.  The registers that the fixed operands mention are taken before the first
operand is met, so no claim can fall on them; and a claim takes its register, so no later claim can.
-/

namespace AsmForms

namespace RegisterFile

variable {file : RegisterFile} {operands : List Operand} {operand other : Operand}
  {assignment : Assignment} {i j : Nat}

/-- **A generated operand is written as a register that was free**: neither taken at the start nor
given to an operand before. -/
theorem fresh_of_assigned (hsound : ∀ operand ∈ operands, operand.Sound)
    (ho : operands[i]? = some operand) (hgen : operand.generated = true)
    (ha : (file.assign operands).assigned[i]? = some assignment) :
    ∃ name, RegisterName.ofString? assignment.text = some name ∧
      name.register ∉ file.taken ∧
      ¬ GivenBefore operands (file.assign operands).assigned i name.register := by
  obtain ⟨mid, name, r, hmid, hname, hclaim, hwrites⟩ := claim_of_assigned hsound ho hgen ha
  have hfree := notMem_of_claim? hclaim
  rw [(mem_taken_fileAt? hsound hmid).2, not_or] at hfree
  exact ⟨_, hwrites.ofString? hname, hfree⟩

/-- **No other operand mentions the register of a generated one**, if the fixed operands have taken
what they mention. -/
theorem not_mentions_of_ne (hsound : ∀ operand ∈ operands, operand.Sound)
    (hfixed : ∀ operand ∈ operands, operand.generated = false →
      ∀ r, Mentions operand.text r → r ∈ file.taken)
    (ho : operands[i]? = some operand) (hgen : operand.generated = true)
    (ha : (file.assign operands).assigned[i]? = some assignment)
    {name : RegisterName} (hname : RegisterName.ofString? assignment.text = some name)
    (hne : j ≠ i) {written : Assignment}
    (hj : (file.assign operands).assigned[j]? = some written) :
    ¬ Mentions written.text name.register := by
  intro hmentions
  obtain ⟨name', hname', hfree, hfirst⟩ := fresh_of_assigned hsound ho hgen ha
  obtain rfl : name = name' := Option.some.inj (hname.symm.trans hname')
  obtain ⟨other, -, -, hother, -, -⟩ := getElem?_assigned_iff.mp hj
  by_cases hgen' : other.generated = true
  · obtain ⟨name', hname', -, hfirst'⟩ := fresh_of_assigned hsound hother hgen' hj
    have hnames := (mentions_iff_names hname').mp hmentions
    rcases Nat.lt_or_gt_of_ne hne with hlt | hlt
    · exact hfirst ⟨j, hlt, other, written, hother, hgen', hj, hnames⟩
    · rw [names_iff hname'] at hnames
      exact hfirst' ⟨i, hlt, operand, assignment, ho, hgen, ha, (names_iff hname).mpr hnames.symm⟩
  · have hgen' : other.generated = false := Bool.eq_false_iff.mpr hgen'
    obtain rfl := assigned_of_fixed hother hgen' hj
    exact hfree (hfixed other (List.mem_of_getElem? hother) hgen' _ hmentions)

end RegisterFile

/-- **Generated operands never alias.**  In the instruction of any form, an operand whose template
resolves to a register name is written as a register name, and no other operand, before or after it,
generated or fixed, mentions the register of that name. -/
theorem generated_operands_never_alias (engine : Engine) (form : Form) (instruction : Instruction)
    (h : engine.instantiate form = .ok instruction) (i : Nat) (template : String)
    (ht : (engine.kept form)[i]? = some template) (hgen : engine.Generates form template) :
    ∃ text name, instruction.operands[i]? = some text ∧
      RegisterName.ofString? text = some name ∧
      ∀ j other, j ≠ i → instruction.operands[j]? = some other →
        ¬ Mentions other name.register := by
  obtain ⟨operands, hread, hunmet, rfl⟩ := Engine.instantiate_eq_ok_iff.mp h
  have hsound := Engine.sound_of_operands hread
  obtain ⟨operand, ho, hreads⟩ := Engine.exists_reads_of_getElem? hread ht
  have hgenerated := hreads.generated_iff.mpr hgen
  have hlength : i < (Allocation.ofOperands form.encoding operands).assigned.length := by
    rw [Allocation.ofOperands, RegisterFile.length_assigned hunmet]
    exact (List.getElem?_eq_some_iff.mp ho).1
  have ha := List.getElem?_eq_getElem hlength
  obtain ⟨name, hname, -⟩ := RegisterFile.fresh_of_assigned hsound ho hgenerated ha
  refine ⟨_, name, by rw [List.getElem?_map, ha]; rfl, hname, fun j other hne hj => ?_⟩
  rw [List.getElem?_map, Option.map_eq_some_iff] at hj
  obtain ⟨written, hj, rfl⟩ := hj
  refine RegisterFile.not_mentions_of_ne hsound (fun fixed hmem hfix r hr => ?_) ho hgenerated ha
    hname hne hj
  exact RegisterFile.mem_taken_ofFixed.mpr ⟨fixed, hmem, hfix, hr⟩

/-- The byte operand of a form that also names `CL` explicitly: `ch` shares its register with `CL`,
the first two spares have no high byte, and so `dh` is written. -/
theorem byte_operand_beside_cl_never_aliases :
    let table := Table.ofDefinitions
      [("xmm", .literal "xmm5"), ("vm32x", .literal "[rsp + 4* xmm9]")]
    let engine := Engine.ofConfig table {}
    let form : Form := ⟨"SHLD", ["r32", "vm32x", "CL", "r8", "xmm"], .legacy⟩
    let instruction : Instruction := ⟨"SHLD", ["edi", "[rsp + 4* xmm9]", "CL", "dh", "xmm5"]⟩
    engine.instantiate form = .ok instruction ∧ (engine.kept form)[3]? = some "r8" ∧
      engine.Generates form "r8" ∧
      ∃ text name, instruction.operands[3]? = some text ∧
        RegisterName.ofString? text = some name ∧
        ∀ j other, j ≠ 3 → instruction.operands[j]? = some other →
          ¬ Mentions other name.register := by
  intro table engine form instruction
  have h : engine.instantiate form = .ok instruction := by decide
  have ht : (engine.kept form)[3]? = some "r8" := by decide
  have hgen : engine.Generates form "r8" :=
    ⟨"ch", ⟨⟨.general, 1⟩, .highByte⟩, by decide, by decide +kernel⟩
  exact ⟨h, ht, hgen, generated_operands_never_alias engine form instruction h 3 "r8" ht hgen⟩

end AsmForms
