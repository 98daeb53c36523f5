import AsmForms.Proofs.Engine.Assignment

/-!
# Proofs/Pressure — registers move only under pressure

What is **in use** when an operand is met is never stored as such: it is what the fixed operands
mention, before and after it, and what the generated operands before it were given.  The register
file holds just that (`mem_taken_iff_inUse`), and so (`registers_move_only_under_pressure`)

* a generated operand moves exactly if the register that it resolves to is in use;
* it moves to the first spare that is free and has its view, and passes over no other;
* a form runs out of registers exactly at the first operand for which nothing is left.
-/

namespace AsmForms

/-- The registers of a class in the order in which they stand in for each other; the general ones as
they are listed for the code that saves them. -/
def spareOrder (encoding : Encoding) : RegisterClass → List Register
  | .general => encoding.clobbers.filterMap fun name =>
      (RegisterName.ofString? name).map RegisterName.register
  | .mmx => [0, 1, 2, 3, 4, 5, 6, 7].map (⟨.mmx, ·⟩)
  | .vector => [6, 4, 3, 2, 1, 8, 13, 14, 15, 7, 5, 0].map (⟨.vector, ·⟩)

theorem spares_eq_spareOrder (encoding : Encoding) (cls : RegisterClass) :
    encoding.spares cls = spareOrder encoding cls := by
  cases encoding <;> cases cls <;> decide

/-- `r` is **in use** when the operand at `i` is met: a fixed operand mentions it, wherever it
stands, or an earlier generated operand was given it. -/
def InUse (encoding : Encoding) (operands : List Operand) (i : Nat) (r : Register) : Prop :=
  (∃ operand ∈ operands, operand.generated = false ∧ Mentions operand.text r) ∨
    GivenBefore operands (Allocation.ofOperands encoding operands).assigned i r

/-- **Nothing is left** for the operand at `i`: it is generated, and its register and all spares
that have its view are in use. -/
def NothingLeft (encoding : Encoding) (operands : List Operand) (i : Nat) : Prop :=
  ∃ operand name, operands[i]? = some operand ∧ operand.generated = true ∧
    RegisterName.ofString? operand.text = some name ∧
    InUse encoding operands i name.register ∧
    ∀ s ∈ spareOrder encoding name.register.cls, (name.on s).isSome → InUse encoding operands i s

namespace RegisterFile

variable {encoding : Encoding} {operands : List Operand} {operand : Operand}
  {assignment : Assignment} {mid : RegisterFile} {i : Nat}

/-- **The register file is what is in use**, at every operand. -/
theorem mem_taken_iff_inUse (hsound : ∀ operand ∈ operands, operand.Sound)
    (h : (ofFixed encoding operands).fileAt? operands i = some mid) (r : Register) :
    r ∈ mid.taken ↔ InUse encoding operands i r := by
  rw [(mem_taken_fileAt? hsound h).2, mem_taken_ofFixed, InUse, Allocation.ofOperands]

theorem spares_fileAt? (hsound : ∀ operand ∈ operands, operand.Sound)
    (h : (ofFixed encoding operands).fileAt? operands i = some mid) (cls : RegisterClass) :
    mid.encoding.spares cls = spareOrder encoding cls := by
  rw [(mem_taken_fileAt? hsound h).1, encoding_ofFixed, spares_eq_spareOrder]

/-! ## A move -/

/-- **An operand moves only under pressure**, and no further than to the first spare. -/
theorem moves_iff_inUse (hsound : ∀ operand ∈ operands, operand.Sound)
    (ho : operands[i]? = some operand) (hgen : operand.generated = true)
    (ha : (Allocation.ofOperands encoding operands).assigned[i]? = some assignment) :
    ∃ name, RegisterName.ofString? operand.text = some name ∧
      (assignment.text ≠ operand.text ↔ InUse encoding operands i name.register) ∧
      (assignment.text ≠ operand.text →
        ∃ before chosen after,
          spareOrder encoding name.register.cls = before ++ chosen :: after ∧
          RegisterName.ofString? assignment.text = some ⟨chosen, name.view⟩ ∧
          ¬ InUse encoding operands i chosen ∧
          ∀ s ∈ before, InUse encoding operands i s ∨ name.on s = none) := by
  obtain ⟨mid, name, r, hmid, hname, hclaim, hwrites⟩ := claim_of_assigned hsound ho hgen ha
  have htaken := mem_taken_iff_inUse hsound hmid
  have hmoves : assignment.text ≠ operand.text ↔ name.register ∈ mid.taken := by
    rw [hwrites.text_ne_iff hname, ne_eq, claim?_eq_own_iff hclaim, not_not]
  refine ⟨name, hname, hmoves.trans (htaken _), fun hne => ?_⟩
  obtain ⟨⟨hfree, -⟩, before, after, hspares, hbefore⟩ :=
    (claim?_eq_some_iff_of_mem (hmoves.mp hne)).mp hclaim
  rw [spares_fileAt? hsound hmid] at hspares
  refine ⟨before, r, after, hspares, hwrites.ofString? hname, (htaken r).not.mp hfree,
    fun s hs => ?_⟩
  rw [← htaken s]
  exact hbefore s hs

/-! ## The end of a run -/

/-- **The file cannot meet an operand exactly if nothing is left for it.** -/
theorem meet_eq_none_iff_nothingLeft (hsound : ∀ operand ∈ operands, operand.Sound)
    (hmid : (ofFixed encoding operands).fileAt? operands i = some mid)
    (ho : operands[i]? = some operand) :
    mid.meet operand = none ↔ NothingLeft encoding operands i := by
  rw [meet_eq_none_iff (hsound operand (List.mem_of_getElem? ho)), NothingLeft]
  simp only [claim?_eq_none_iff, spares_fileAt? hsound hmid, mem_taken_iff_inUse hsound hmid, ho,
    Option.some.injEq, exists_and_left, exists_eq_left']

/-- If something is left for every operand before a position, that position is reached. -/
theorem exists_fileAt? (hsound : ∀ operand ∈ operands, operand.Sound) (hi : i ≤ operands.length)
    (hleft : ∀ j < i, ¬ NothingLeft encoding operands j) :
    ∃ mid, (ofFixed encoding operands).fileAt? operands i = some mid := by
  induction i with
  | zero => exact ⟨_, fileAt?_zero _ _⟩
  | succ i ih =>
    obtain ⟨mid, hmid⟩ := ih (Nat.le_of_succ_le hi) fun j hj => hleft j (Nat.lt_succ_of_lt hj)
    have ho := List.getElem?_eq_getElem (Nat.lt_of_succ_le hi)
    have hmeet :=
      (meet_eq_none_iff_nothingLeft hsound hmid ho).not.mpr (hleft i (Nat.lt_succ_self i))
    obtain ⟨met, hmet⟩ := Option.ne_none_iff_exists'.mp hmeet
    exact ⟨met.2, by rw [fileAt?_succ, hmid, ho, Option.bind_some, Option.bind_some, hmet]; rfl⟩

/-- **The run stops at the first operand for which nothing is left**, and only there. -/
theorem unmet_iff_nothingLeft (hsound : ∀ operand ∈ operands, operand.Sound) :
    (Allocation.ofOperands encoding operands).unmet = some operand ↔
      ∃ i, operands[i]? = some operand ∧ NothingLeft encoding operands i ∧
        ∀ j < i, ¬ NothingLeft encoding operands j := by
  rw [Allocation.ofOperands, unmet_eq_some_iff]
  constructor
  · rintro ⟨i, mid, ho, hmid, hmeet⟩
    refine ⟨i, ho, (meet_eq_none_iff_nothingLeft hsound hmid ho).mp hmeet, fun j hj hnothing => ?_⟩
    obtain ⟨operand', last, met, ho', hlast, hmet⟩ := meet_of_lt hmid hj
    have hnone := (meet_eq_none_iff_nothingLeft hsound hlast ho').mpr hnothing
    exact absurd (hmet.symm.trans hnone) nofun
  · rintro ⟨i, ho, hnothing, hleft⟩
    have hi : i ≤ operands.length := Nat.le_of_lt (List.getElem?_eq_some_iff.mp ho).1
    obtain ⟨mid, hmid⟩ := exists_fileAt? hsound hi hleft
    exact ⟨i, mid, ho, hmid, (meet_eq_none_iff_nothingLeft hsound hmid ho).mpr hnothing⟩

end RegisterFile

/-- **Registers move only under pressure.**  Take a form whose templates are all read, `operands`
being what they are read as.  A generated operand is written differently from what its template
resolves to exactly if its register is in use; it is then written as the first spare that is not in
use and has its view.  The form runs out of registers exactly if there is a first operand for which
nothing is left, and the violation names the template of that operand and the mnemonic of the
form. -/
theorem registers_move_only_under_pressure (engine : Engine) (form : Form)
    (operands : List Operand) (h : engine.operands form = .ok operands) :
    List.Forall₂ (engine.Reads form) (engine.kept form) operands ∧
      (∀ instruction, engine.instantiate form = .ok instruction →
        instruction.operands =
          (Allocation.ofOperands form.encoding operands).assigned.map Assignment.text) ∧
      (∀ i operand assignment, operands[i]? = some operand → operand.generated = true →
        (Allocation.ofOperands form.encoding operands).assigned[i]? = some assignment →
        ∃ name, RegisterName.ofString? operand.text = some name ∧
          (assignment.text ≠ operand.text ↔ InUse form.encoding operands i name.register) ∧
          (assignment.text ≠ operand.text →
            ∃ before chosen after,
              spareOrder form.encoding name.register.cls = before ++ chosen :: after ∧
              RegisterName.ofString? assignment.text = some ⟨chosen, name.view⟩ ∧
              ¬ InUse form.encoding operands i chosen ∧
              ∀ s ∈ before, InUse form.encoding operands i s ∨ name.on s = none)) ∧
      ∀ mnemonic template,
        engine.instantiate form = .error ⟨.registersExhausted, mnemonic, template⟩ ↔
          mnemonic = form.mnemonic ∧
            ∃ i operand, operands[i]? = some operand ∧ template = operand.template ∧
              NothingLeft form.encoding operands i ∧
              ∀ j < i, ¬ NothingLeft form.encoding operands j := by
  have hsound := Engine.sound_of_operands h
  refine ⟨Engine.forall₂_reads_operands h, fun instruction hok => ?_,
    fun i operand assignment => RegisterFile.moves_iff_inUse hsound, fun mnemonic template => ?_⟩
  · obtain ⟨operands', hread, -, rfl⟩ := Engine.instantiate_eq_ok_iff.mp hok
    obtain rfl : operands = operands' := Except.ok.inj (h.symm.trans hread)
    rfl
  · rw [Engine.instantiate_eq_exhausted_iff]
    refine and_congr_right fun _ => ⟨?_, ?_⟩
    · rintro ⟨operands', operand, hread, hunmet, htemplate⟩
      obtain rfl : operands = operands' := Except.ok.inj (h.symm.trans hread)
      obtain ⟨i, ho, hnothing, hleft⟩ := (RegisterFile.unmet_iff_nothingLeft hsound).mp hunmet
      exact ⟨i, operand, ho, htemplate, hnothing, hleft⟩
    · rintro ⟨i, operand, ho, htemplate, hnothing, hleft⟩
      exact ⟨operands, operand, h,
        (RegisterFile.unmet_iff_nothingLeft hsound).mpr ⟨i, ho, hnothing, hleft⟩, htemplate⟩

/-- Four byte operands beside `CL`: the first three take the other registers that have a high byte,
and nothing is left for the fourth. -/
theorem byte_operands_run_out_beside_cl :
    let engine := Engine.ofConfig Table.empty {}
    let form : Form := ⟨"X", ["r8", "r8", "CL", "r8", "r8"], .legacy⟩
    let operands : List Operand :=
      [⟨"r8", "ch", true⟩, ⟨"r8", "ch", true⟩, ⟨"CL", "CL", false⟩, ⟨"r8", "ch", true⟩,
        ⟨"r8", "ch", true⟩]
    engine.operands form = .ok operands ∧
      engine.instantiate form = .error ⟨.registersExhausted, "X", "r8"⟩ ∧
      ∃ i operand, operands[i]? = some operand ∧ "r8" = operand.template ∧
        NothingLeft form.encoding operands i ∧
        ∀ j < i, ¬ NothingLeft form.encoding operands j := by
  intro engine form operands
  have h : engine.operands form = .ok operands := by decide
  have hfail : engine.instantiate form = .error ⟨.registersExhausted, "X", "r8"⟩ := by
    decide
  have hfirst := (registers_move_only_under_pressure engine form operands h).2.2.2 "X" "r8"
  exact ⟨h, hfail, (hfirst.mp hfail).2⟩

end AsmForms
