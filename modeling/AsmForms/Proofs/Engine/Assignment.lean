import AsmForms.Engine.Run
import AsmForms.Proofs.Engine.Resolution
import AsmForms.Proofs.Register.Claim

/-!
# Proofs/Engine/Assignment — the register file that each operand meets

Handing registers out is one step, `meet`, repeated: a generated operand claims a register, a fixed
one leaves the file as it is.  `fileAt?` is the file that the operand at a position meets, and none
if the run stops before; the whole run can be read off it (`getElem?_assigned_iff`,
`unmet_eq_some_iff`).

The registers taken in that file are those that were taken at the start and those that earlier
generated operands were given (`mem_taken_fileAt?`), and at the start the fixed operands have taken
what they mention (`mem_taken_ofFixed`).
-/

namespace AsmForms

/-- A generated operand before position `i` was given `r`. -/
def GivenBefore (operands : List Operand) (assigned : List Assignment) (i : Nat) (r : Register) :
    Prop :=
  ∃ j < i, ∃ operand assignment, operands[j]? = some operand ∧ operand.generated = true ∧
    assigned[j]? = some assignment ∧ Names assignment.text r

theorem not_givenBefore_zero {operands : List Operand} {assigned : List Assignment}
    {r : Register} : ¬ GivenBefore operands assigned 0 r :=
  fun ⟨_, hlt, _⟩ => Nat.not_lt_zero _ hlt

theorem givenBefore_succ {operands : List Operand} {assigned : List Assignment} {i : Nat}
    {operand : Operand} {assignment : Assignment} {r : Register}
    (ho : operands[i]? = some operand) (ha : assigned[i]? = some assignment) :
    GivenBefore operands assigned (i + 1) r ↔
      GivenBefore operands assigned i r ∨ operand.generated = true ∧ Names assignment.text r := by
  constructor
  · rintro ⟨j, hlt, o, a, hj, hgen, haj, hnames⟩
    rcases Nat.lt_succ_iff_lt_or_eq.mp hlt with hlt | rfl
    · exact Or.inl ⟨j, hlt, o, a, hj, hgen, haj, hnames⟩
    · obtain rfl : operand = o := Option.some.inj (ho.symm.trans hj)
      obtain rfl : assignment = a := Option.some.inj (ha.symm.trans haj)
      exact Or.inr ⟨hgen, hnames⟩
  · rintro (⟨j, hlt, h⟩ | ⟨hgen, hnames⟩)
    · exact ⟨j, Nat.lt_succ_of_lt hlt, h⟩
    · exact ⟨i, Nat.lt_succ_self i, operand, assignment, ho, hgen, ha, hnames⟩

namespace RegisterFile

variable {file mid next : RegisterFile} {operand : Operand} {operands : List Operand}
  {assignment : Assignment} {i : Nat}

/-! ## One operand -/

/-- **What an operand is written as, and the file after it**, if it can be met. -/
def meet (file : RegisterFile) (operand : Operand) : Option (Assignment × RegisterFile) :=
  if operand.generated then file.allocate operand.text else some (.asWritten operand.text, file)

theorem meet_of_generated (h : operand.generated = true) :
    file.meet operand = file.allocate operand.text :=
  if_pos h

theorem meet_of_fixed (h : operand.generated = false) :
    file.meet operand = some (.asWritten operand.text, file) :=
  if_neg (by simp [h])

/-- **An operand that is met** claims a register, if it is generated, or is written as it was
read. -/
theorem meet_cases (hsound : operand.Sound) (h : file.meet operand = some (assignment, next)) :
    (operand.generated = true ∧ ∃ name r, RegisterName.ofString? operand.text = some name ∧
      file.claim? name = some r ∧ Writes operand.text name r assignment ∧
      next = file.take r) ∨
    operand.generated = false ∧ assignment = .asWritten operand.text ∧ next = file := by
  by_cases hgen : operand.generated = true
  · obtain ⟨name, hname⟩ := hsound hgen
    rw [meet_of_generated hgen, allocate_eq_some_iff hname] at h
    obtain ⟨r, hclaim, hwrites, rfl⟩ := h
    exact Or.inl ⟨hgen, name, r, hname, hclaim, hwrites, rfl⟩
  · have hfixed : operand.generated = false := Bool.eq_false_iff.mpr hgen
    rw [meet_of_fixed hfixed] at h
    obtain ⟨rfl, rfl⟩ := Prod.mk.inj (Option.some.inj h)
    exact Or.inr ⟨hfixed, rfl, rfl⟩

/-- **An operand is not met** exactly if it is generated and can claim no register. -/
theorem meet_eq_none_iff (hsound : operand.Sound) :
    file.meet operand = none ↔
      operand.generated = true ∧
        ∃ name, RegisterName.ofString? operand.text = some name ∧ file.claim? name = none := by
  by_cases hgen : operand.generated = true
  · obtain ⟨name, hname⟩ := hsound hgen
    rw [meet_of_generated hgen, allocate_eq_none_iff hname]
    simp only [hgen, hname, Option.some.injEq, exists_eq_left', true_and]
  · rw [meet_of_fixed (Bool.eq_false_iff.mpr hgen)]
    simp [hgen]

/-- **A generated operand adds the register it is written with, and a fixed one nothing.** -/
theorem mem_taken_of_meet (hsound : operand.Sound)
    (h : file.meet operand = some (assignment, next)) :
    next.encoding = file.encoding ∧
      ∀ r, r ∈ next.taken ↔
        r ∈ file.taken ∨ operand.generated = true ∧ Names assignment.text r := by
  rcases meet_cases hsound h with ⟨hgen, name, s, hname, -, hwrites, rfl⟩ | ⟨hfixed, -, rfl⟩
  · refine ⟨encoding_take file s, fun r => ?_⟩
    rw [mem_take, names_iff (hwrites.ofString? hname), or_comm]
    simp only [hgen, true_and]
  · exact ⟨rfl, fun r => by simp [hfixed]⟩

/-! ## All operands -/

@[simp] theorem assign_nil (file : RegisterFile) : file.assign [] = ⟨[], none⟩ := rfl

/-- **One operand is one step.** -/
theorem assign_cons (file : RegisterFile) (operand : Operand) (operands : List Operand) :
    file.assign (operand :: operands) =
      match file.meet operand with
      | none => ⟨[], some operand⟩
      | some met => ⟨met.1 :: (met.2.assign operands).assigned, (met.2.assign operands).unmet⟩ := by
  rw [assign]
  by_cases hgen : operand.generated = true
  · rw [if_pos hgen, meet_of_generated hgen]
    cases file.allocate operand.text <;> rfl
  · rw [if_neg hgen, meet_of_fixed (Bool.eq_false_iff.mpr hgen)]

theorem assign_cons_of_none (h : file.meet operand = none) (operands : List Operand) :
    file.assign (operand :: operands) = ⟨[], some operand⟩ := by
  rw [assign_cons, h]

theorem assign_cons_of_some (h : file.meet operand = some (assignment, next))
    (operands : List Operand) :
    file.assign (operand :: operands) =
      ⟨assignment :: (next.assign operands).assigned, (next.assign operands).unmet⟩ := by
  rw [assign_cons, h]

/-- All operands are met exactly if the first one is, and the rest are after it. -/
theorem unmet_cons_eq_none_iff :
    (file.assign (operand :: operands)).unmet = none ↔
      ∃ assignment next, file.meet operand = some (assignment, next) ∧
        (next.assign operands).unmet = none := by
  cases h : file.meet operand with
  | none => simp [assign_cons_of_none h]
  | some met => simp [assign_cons_of_some h, Prod.ext_iff]

/-- **The file that the operand at a position meets**, if all operands before it are met. -/
def fileAt? (file : RegisterFile) : List Operand → Nat → Option RegisterFile
  | _, 0 => some file
  | [], _ + 1 => none
  | operand :: operands, i + 1 =>
    (file.meet operand).bind fun met => met.2.fileAt? operands i

@[simp] theorem fileAt?_zero (file : RegisterFile) (operands : List Operand) :
    file.fileAt? operands 0 = some file := by
  cases operands <;> rfl

/-- One more operand is one more step. -/
theorem fileAt?_succ (file : RegisterFile) (operands : List Operand) (i : Nat) :
    file.fileAt? operands (i + 1) =
      (file.fileAt? operands i).bind fun mid =>
        operands[i]?.bind fun operand => (mid.meet operand).map Prod.snd := by
  induction operands generalizing file i with
  | nil => cases i <;> rfl
  | cons operand operands ih =>
    cases i with
    | zero => cases h : file.meet operand <;> simp [fileAt?, h]
    | succ i =>
      rw [fileAt?, fileAt?, Option.bind_assoc, List.getElem?_cons_succ]
      exact congrArg (Option.bind (file.meet operand)) (funext fun met => ih met.2 i)

/-- **What is written at a position is what the operand there is met with.** -/
theorem getElem?_assigned_iff :
    (file.assign operands).assigned[i]? = some assignment ↔
      ∃ operand mid next, operands[i]? = some operand ∧ file.fileAt? operands i = some mid ∧
        mid.meet operand = some (assignment, next) := by
  induction operands generalizing file i with
  | nil => simp
  | cons head operands ih =>
    cases h : file.meet head with
    | none =>
      rw [assign_cons_of_none h]
      cases i with
      | zero => simp [fileAt?, h]
      | succ i => simp [fileAt?, h]
    | some met =>
      rw [assign_cons_of_some h]
      cases i with
      | zero => simp [fileAt?, h, Prod.ext_iff]
      | succ i => simp [fileAt?, h, ih]

/-- **The unmet operand is the one that the file there cannot meet.** -/
theorem unmet_eq_some_iff :
    (file.assign operands).unmet = some operand ↔
      ∃ i mid, operands[i]? = some operand ∧ file.fileAt? operands i = some mid ∧
        mid.meet operand = none := by
  induction operands generalizing file with
  | nil => simp
  | cons head operands ih =>
    cases h : file.meet head with
    | none =>
      rw [assign_cons_of_none h]
      constructor
      · rintro ⟨⟩
        exact ⟨0, file, rfl, rfl, h⟩
      · rintro ⟨i, mid, ho, hmid, hmeet⟩
        cases i with
        | zero => exact ho
        | succ i => simp [fileAt?, h] at hmid
    | some met =>
      rw [assign_cons_of_some h, ih]
      constructor
      · rintro ⟨i, mid, ho, hmid, hmeet⟩
        exact ⟨i + 1, mid, ho, by simpa [fileAt?, h] using hmid, hmeet⟩
      · rintro ⟨i, mid, ho, hmid, hmeet⟩
        cases i with
        | zero =>
          obtain rfl : head = operand := Option.some.inj ho
          obtain rfl : file = mid := Option.some.inj hmid
          exact absurd (h.symm.trans hmeet) (Option.some_ne_none met)
        | succ i => exact ⟨i, mid, ho, by simpa [fileAt?, h] using hmid, hmeet⟩

/-- If every operand is met, every operand is written. -/
theorem length_assigned (h : (file.assign operands).unmet = none) :
    (file.assign operands).assigned.length = operands.length := by
  induction operands generalizing file with
  | nil => rfl
  | cons head operands ih =>
    obtain ⟨assignment, next, hmeet, hrest⟩ := unmet_cons_eq_none_iff.mp h
    rw [assign_cons_of_some hmeet]
    exact congrArg (· + 1) (ih hrest)

/-- If every operand is met, something is written at every position. -/
theorem exists_assigned (h : (file.assign operands).unmet = none)
    (ho : operands[i]? = some operand) :
    ∃ assignment, (file.assign operands).assigned[i]? = some assignment := by
  obtain ⟨hi, -⟩ := List.getElem?_eq_some_iff.mp ho
  rw [← length_assigned h] at hi
  exact ⟨_, List.getElem?_eq_getElem hi⟩

/-- If every operand is met, the run gets to its end. -/
theorem exists_fileAt?_length (h : (file.assign operands).unmet = none) :
    ∃ last, file.fileAt? operands operands.length = some last := by
  induction operands generalizing file with
  | nil => exact ⟨file, rfl⟩
  | cons operand operands ih =>
    obtain ⟨assignment, next, hmeet, hrest⟩ := unmet_cons_eq_none_iff.mp h
    obtain ⟨last, hlast⟩ := ih hrest
    exact ⟨last, by rw [List.length_cons, fileAt?, hmeet]; exact hlast⟩

/-- **The registers taken when an operand is met** are those taken at the start and those given to
earlier operands. -/
theorem mem_taken_fileAt? (hsound : ∀ operand ∈ operands, operand.Sound)
    (h : file.fileAt? operands i = some mid) :
    mid.encoding = file.encoding ∧
      ∀ r, r ∈ mid.taken ↔
        r ∈ file.taken ∨ GivenBefore operands (file.assign operands).assigned i r := by
  induction i generalizing mid with
  | zero =>
    rw [fileAt?_zero] at h
    obtain rfl : file = mid := Option.some.inj h
    exact ⟨rfl, fun r => (or_iff_left not_givenBefore_zero).symm⟩
  | succ i ih =>
    simp only [fileAt?_succ, Option.bind_eq_some_iff, Option.map_eq_some_iff] at h
    obtain ⟨last, hlast, operand, ho, ⟨assignment, _⟩, hmeet, rfl⟩ := h
    have ha : (file.assign operands).assigned[i]? = some assignment :=
      getElem?_assigned_iff.mpr ⟨operand, last, _, ho, hlast, hmeet⟩
    obtain ⟨hencoding, htaken⟩ := ih hlast
    obtain ⟨hencoding', htaken'⟩ :=
      mem_taken_of_meet (hsound operand (List.mem_of_getElem? ho)) hmeet
    refine ⟨hencoding'.trans hencoding, fun r => ?_⟩
    rw [htaken', htaken, givenBefore_succ ho ha, or_assoc]

/-- **A fixed operand is written as it was read.** -/
theorem assigned_of_fixed (ho : operands[i]? = some operand) (hgen : operand.generated = false)
    (ha : (file.assign operands).assigned[i]? = some assignment) :
    assignment = .asWritten operand.text := by
  obtain ⟨operand', mid, next, ho', -, hmeet⟩ := getElem?_assigned_iff.mp ha
  obtain rfl : operand = operand' := Option.some.inj (ho.symm.trans ho')
  rw [meet_of_fixed hgen] at hmeet
  exact (Prod.mk.inj (Option.some.inj hmeet)).1.symm

/-- **A generated operand is written for the register that it claims** in the file it meets. -/
theorem claim_of_assigned (hsound : ∀ operand ∈ operands, operand.Sound)
    (ho : operands[i]? = some operand) (hgen : operand.generated = true)
    (ha : (file.assign operands).assigned[i]? = some assignment) :
    ∃ mid name r, file.fileAt? operands i = some mid ∧
      RegisterName.ofString? operand.text = some name ∧ mid.claim? name = some r ∧
      Writes operand.text name r assignment := by
  obtain ⟨operand', mid, next, ho', hmid, hmeet⟩ := getElem?_assigned_iff.mp ha
  obtain rfl : operand = operand' := Option.some.inj (ho.symm.trans ho')
  rcases meet_cases (hsound operand (List.mem_of_getElem? ho)) hmeet with
    ⟨-, name, r, hname, hclaim, hwrites, -⟩ | ⟨hfixed, -, -⟩
  · exact ⟨mid, name, r, hmid, hname, hclaim, hwrites⟩
  · exact absurd (hgen.symm.trans hfixed) nofun

/-- An operand that is reached comes after operands that are met. -/
theorem meet_of_lt {j : Nat} (h : file.fileAt? operands i = some mid) (hlt : j < i) :
    ∃ operand last met, operands[j]? = some operand ∧ file.fileAt? operands j = some last ∧
      last.meet operand = some met := by
  induction i generalizing mid with
  | zero => exact absurd hlt (Nat.not_lt_zero j)
  | succ i ih =>
    simp only [fileAt?_succ, Option.bind_eq_some_iff, Option.map_eq_some_iff] at h
    obtain ⟨last, hlast, operand, ho, met, hmeet, -⟩ := h
    rcases Nat.lt_succ_iff_lt_or_eq.mp hlt with hlt | rfl
    · exact ih hlast hlt
    · exact ⟨operand, last, met, ho, hlast, hmeet⟩

/-! ## The file that the first operand meets -/

theorem foldl_reserve (operands : List Operand) (file : RegisterFile) :
    (operands.foldl (fun file operand => file.reserve operand.text) file).encoding =
        file.encoding ∧
      ∀ r, r ∈ (operands.foldl (fun file operand => file.reserve operand.text) file).taken ↔
        r ∈ file.taken ∨ ∃ operand ∈ operands, Mentions operand.text r := by
  induction operands generalizing file with
  | nil => exact ⟨rfl, fun r => by simp⟩
  | cons operand operands ih =>
    obtain ⟨hencoding, htaken⟩ := ih (file.reserve operand.text)
    refine ⟨hencoding.trans (encoding_reserve file operand.text), fun r => ?_⟩
    rw [List.foldl_cons, htaken, mem_reserve, or_assoc, List.exists_mem_cons_iff]

@[simp] theorem encoding_ofFixed (encoding : Encoding) (operands : List Operand) :
    (ofFixed encoding operands).encoding = encoding :=
  (foldl_reserve _ _).1

/-- **The fixed operands have taken what they mention**, wherever they stand. -/
theorem mem_taken_ofFixed {encoding : Encoding} {r : Register} :
    r ∈ (ofFixed encoding operands).taken ↔
      ∃ operand ∈ operands, operand.generated = false ∧ Mentions operand.text r := by
  rw [ofFixed, (foldl_reserve _ _).2]
  simp only [List.not_mem_nil, false_or, List.mem_filter, Bool.not_eq_true', and_assoc]

end RegisterFile

/-! ## From operands to an instruction -/

namespace Engine

variable {engine : Engine} {form : Form}

/-- **A form becomes an instruction exactly if its templates are read and all its operands are
met.** -/
theorem instantiate_eq_ok_iff {instruction : Instruction} :
    engine.instantiate form = .ok instruction ↔
      ∃ operands, engine.operands form = .ok operands ∧
        (Allocation.ofOperands form.encoding operands).unmet = none ∧
        instruction = ⟨form.emittedMnemonic,
          (Allocation.ofOperands form.encoding operands).assigned.map Assignment.text⟩ := by
  rw [instantiate, run, Outcome.result_after]
  cases engine.operands form with
  | error violation => simp [refuse]
  | ok operands =>
    simp only [finish, Outcome.result_after, Except.ok.injEq, exists_eq_left']
    cases (Allocation.ofOperands form.encoding operands).unmet with
    | none => simp [emit, eq_comm]
    | some operand => simp [refuse]

/-- **What is known of an operand of an instruction**: the operand that its template is read as, and
what that one is written as. -/
theorem exists_written {instruction : Instruction} {template : String} {i : Nat}
    (h : engine.instantiate form = .ok instruction)
    (ht : (engine.kept form)[i]? = some template) :
    ∃ operands operand assignment, engine.operands form = .ok operands ∧
      (Allocation.ofOperands form.encoding operands).unmet = none ∧
      instruction.operands =
        (Allocation.ofOperands form.encoding operands).assigned.map Assignment.text ∧
      operands[i]? = some operand ∧ engine.Reads form template operand ∧
      (Allocation.ofOperands form.encoding operands).assigned[i]? = some assignment ∧
      instruction.operands[i]? = some assignment.text := by
  obtain ⟨operands, hread, hunmet, rfl⟩ := instantiate_eq_ok_iff.mp h
  obtain ⟨operand, ho, hreads⟩ := exists_reads_of_getElem? hread ht
  obtain ⟨assignment, ha⟩ := RegisterFile.exists_assigned hunmet ho
  refine ⟨operands, operand, assignment, hread, hunmet, rfl, ho, hreads, ha, ?_⟩
  exact (List.getElem?_map ..).trans (congrArg (Option.map Assignment.text) ha)

theorem mnemonic_of_instantiate {instruction : Instruction}
    (h : engine.instantiate form = .ok instruction) :
    instruction.mnemonic = form.emittedMnemonic := by
  obtain ⟨-, -, -, rfl⟩ := instantiate_eq_ok_iff.mp h
  rfl

/-- A form whose templates are read becomes an instruction exactly if all its operands are met. -/
theorem exists_instantiate_iff {operands : List Operand} (h : engine.operands form = .ok operands) :
    (∃ instruction, engine.instantiate form = .ok instruction) ↔
      (Allocation.ofOperands form.encoding operands).unmet = none := by
  simp only [instantiate_eq_ok_iff, h, Except.ok.injEq, exists_eq_left', exists_and_left,
    exists_eq, and_true]

/-- **A form runs out of registers exactly if its templates are read and an operand is unmet.** -/
theorem instantiate_eq_exhausted_iff {mnemonic template : String} :
    engine.instantiate form = .error ⟨.registersExhausted, mnemonic, template⟩ ↔
      mnemonic = form.mnemonic ∧ ∃ operands operand, engine.operands form = .ok operands ∧
        (Allocation.ofOperands form.encoding operands).unmet = some operand ∧
        template = operand.template := by
  rw [instantiate, run, Outcome.result_after]
  cases hread : engine.operands form with
  | error violation =>
    have hcause := cause_ne_of_operandsOf hread
    simp only [refuse, reduceCtorEq, false_and, exists_false, and_false, Except.error.injEq,
      iff_false]
    rintro rfl
    exact hcause rfl
  | ok operands =>
    simp only [finish, Outcome.result_after, Except.ok.injEq]
    cases hunmet : (Allocation.ofOperands form.encoding operands).unmet with
    | none => simp [emit, hunmet]
    | some operand => simp [refuse, hunmet, eq_comm]

end Engine

end AsmForms
