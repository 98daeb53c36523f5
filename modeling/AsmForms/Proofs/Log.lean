import AsmForms.Proofs.Refusal

/-!
# Proofs/Log — the log of an instantiation is exact

What is logged while a form is instantiated can be told from the form, from what its operands are
written as, and from the result (`log_is_exact`): an entry for another mnemonic, an entry for every
operand that another register was found for, in order, and one entry that closes the log.  Operands
that were settled before the registers ran out are logged too.

The one thing to show is that an operand is **renamed** exactly if it is written differently: a
register of another number never has the same name.
-/

namespace AsmForms

/-- What a log shows of an event. -/
structure LogEntry where
  level : Level
  message : String
  fields : List (String × FieldValue)
  deriving DecidableEq

/-- The entry of an event. -/
def Event.entry (event : Event) : LogEntry :=
  ⟨event.level, event.message, event.fields⟩

namespace LogEntry

/-- The entries in front: one if a 64-bit immediate is moved. -/
def opening (form : Form) : List LogEntry :=
  if form.mnemonic = "MOV" ∧ form.templates[1]? = some "imm64" then
    [⟨.debug, "rewriting to MOVABS", [("instruction", .text form.text)]⟩]
  else []

/-- The entry of an operand with the text that it is written as: there is one if the operand may be
moved and is written differently. -/
def renaming? : Operand × String → Option LogEntry
  | (operand, given) =>
    if operand.generated = true ∧ given ≠ operand.text then
      some ⟨.trace, "register already in use",
        [("operand", .text operand.text), ("renamed", .text given)]⟩
    else none

/-- The entry that closes the log of a form. -/
def closing (form : Form) : Except Violation Instruction → LogEntry
  | .ok instruction =>
    ⟨.debug, "instantiated operands",
      [("instruction", .text form.text), ("instantiated", .text instruction.text)]⟩
  | .error violation =>
    ⟨.error, violation.message,
      [("mnemonic", .text violation.mnemonic), ("template", .text violation.template)]⟩

end LogEntry

/-- The operands of a form that are **settled**, each with the text that it is written as: all of
them if the form becomes an instruction, those before the first that no register is left for, and
none if a template cannot be read. -/
def Engine.settled (engine : Engine) (form : Form) : List (Operand × String) :=
  match engine.operands form with
  | .error _ => []
  | .ok operands =>
    operands.zip ((Allocation.ofOperands form.encoding operands).assigned.map Assignment.text)

namespace RegisterFile

variable {file next : RegisterFile} {operand : Operand} {operands : List Operand}
  {assignment : Assignment}

/-! ## The entries of a run -/

/-- **A claim is reported exactly if the name is written differently.** -/
theorem Writes.events_eq {text : String} {name : RegisterName} {r : Register}
    (h : Writes text name r assignment) (hname : RegisterName.ofString? text = some name) :
    assignment.events =
      if assignment.text ≠ text then [.renamed text assignment.text] else [] := by
  have hmoved := h.text_ne_iff hname
  cases h with
  | own => exact (if_neg fun hne => hmoved.mp hne rfl).symm
  | spare hne _ => exact (if_pos (hmoved.mpr hne)).symm

/-- **What is reported of an operand** is whether it is written differently. -/
theorem entries_of_meet (hsound : operand.Sound)
    (h : file.meet operand = some (assignment, next)) :
    assignment.events.map Event.entry = (LogEntry.renaming? (operand, assignment.text)).toList := by
  rw [LogEntry.renaming?]
  rcases meet_cases hsound h with ⟨hgen, name, r, hname, -, hwrites, -⟩ | ⟨hfixed, rfl, -⟩
  · rw [hwrites.events_eq hname]
    simp only [hgen, true_and]
    split <;> rfl
  · simp [hfixed, Assignment.events]

/-- **The entries of a run**, one for each operand that is written differently. -/
theorem entries_assign (file : RegisterFile) (hsound : ∀ operand ∈ operands, operand.Sound) :
    ((file.assign operands).assigned.flatMap Assignment.events).map Event.entry =
      (operands.zip ((file.assign operands).assigned.map Assignment.text)).filterMap
        LogEntry.renaming? := by
  induction operands generalizing file with
  | nil => rfl
  | cons operand operands ih =>
    rw [List.forall_mem_cons] at hsound
    cases hmeet : file.meet operand with
    | none =>
      rw [assign_cons_of_none hmeet]
      rfl
    | some met =>
      obtain ⟨assignment, next⟩ := met
      rw [assign_cons_of_some hmeet, List.flatMap_cons, List.map_append, List.map_cons,
        List.zip_cons_cons, ih next hsound.2, entries_of_meet hsound.1 hmeet, List.filterMap_cons]
      cases LogEntry.renaming? (operand, assignment.text) <;> rfl

/-- A run that ends early has settled the operands before the one that is not met. -/
theorem prefix_of_unmet (h : (file.assign operands).unmet = some operand) :
    (operands.zip ((file.assign operands).assigned.map Assignment.text)).map Prod.fst ++ [operand]
      <+: operands := by
  induction operands generalizing file with
  | nil => exact absurd h nofun
  | cons head operands ih =>
    cases hmeet : file.meet head with
    | none =>
      rw [assign_cons_of_none hmeet] at h ⊢
      obtain rfl := Option.some.inj h
      exact List.prefix_append [head] operands
    | some met =>
      rw [assign_cons_of_some hmeet] at h ⊢
      exact (List.prefix_cons_inj head).mpr (ih h)

end RegisterFile

namespace Engine

variable {engine : Engine} {form : Form} {operands : List Operand}

/-! ## The parts of a log -/

theorem entries_opening (form : Form) :
    (opening form).map Event.entry = LogEntry.opening form := by
  rw [opening, LogEntry.opening]
  simp only [Form.isWideMove, Form.template?, Bool.and_eq_true, beq_iff_eq]
  split <;> rfl

/-- **Handing registers out** logs the operands that are written differently, then the result. -/
theorem entries_finish (hsound : ∀ operand ∈ operands, operand.Sound) :
    (finish form (.ofOperands form.encoding operands)).events.map Event.entry =
      (operands.zip ((Allocation.ofOperands form.encoding operands).assigned.map
        Assignment.text)).filterMap LogEntry.renaming? ++
      [.closing form (finish form (.ofOperands form.encoding operands)).result] := by
  have hrenamings := RegisterFile.entries_assign (.ofFixed form.encoding operands) hsound
  simp only [finish, Outcome.events_after, Outcome.result_after, List.map_append,
    Allocation.ofOperands, hrenamings]
  cases ((RegisterFile.ofFixed form.encoding operands).assign operands).unmet with
  | none => rfl
  | some operand => rfl

/-- **The log of a form**, part by part. -/
theorem entries_run (engine : Engine) (form : Form) :
    (engine.run form).events.map Event.entry =
      LogEntry.opening form ++ (engine.settled form).filterMap LogEntry.renaming? ++
        [.closing form (engine.instantiate form)] := by
  rw [instantiate, run, Outcome.events_after, Outcome.result_after, List.map_append,
    entries_opening, settled, List.append_assoc]
  cases hread : engine.operands form with
  | error violation => rfl
  | ok operands => exact congrArg _ (entries_finish (sound_of_operands hread))

/-! ## The operands that are settled -/

/-- **All operands of an instruction are settled**, as what the instruction holds. -/
theorem settled_of_ok {instruction : Instruction} (h : engine.instantiate form = .ok instruction) :
    List.Forall₂ (engine.Reads form) (engine.kept form) ((engine.settled form).map Prod.fst) ∧
      (engine.settled form).map Prod.snd = instruction.operands := by
  obtain ⟨operands, hread, hunmet, rfl⟩ := instantiate_eq_ok_iff.mp h
  have hlength : ((Allocation.ofOperands form.encoding operands).assigned.map
      Assignment.text).length = operands.length := by
    rw [List.length_map]
    exact RegisterFile.length_assigned hunmet
  simp only [settled, hread]
  rw [List.map_fst_zip (Nat.le_of_eq hlength.symm), List.map_snd_zip (Nat.le_of_eq hlength)]
  exact ⟨forall₂_reads_operands hread, rfl⟩

/-- **No operand is settled if a template cannot be read.** -/
theorem settled_of_error {violation : Violation} (h : engine.instantiate form = .error violation)
    (hcause : violation.cause ≠ .registersExhausted) : engine.settled form = [] := by
  rw [settled, instantiate_eq_error_iff.mp ⟨h, hcause⟩]

/-- **If the registers run out, the operands before the one that is reported are settled.** -/
theorem settled_of_exhausted {violation : Violation}
    (h : engine.instantiate form = .error violation)
    (hcause : violation.cause = .registersExhausted) :
    ∃ operands operand, engine.operands form = .ok operands ∧
      (engine.settled form).map Prod.fst ++ [operand] <+: operands ∧
      violation.template = operand.template := by
  obtain ⟨cause, mnemonic, template⟩ := violation
  obtain rfl : cause = .registersExhausted := hcause
  obtain ⟨-, operands, operand, hread, hunmet, htemplate⟩ := instantiate_eq_exhausted_iff.mp h
  refine ⟨operands, operand, hread, ?_, htemplate⟩
  simp only [settled, hread]
  exact RegisterFile.prefix_of_unmet hunmet

end Engine

/-- **The log of an instantiation is exact.**  It begins with an entry for the other mnemonic, if
the form moves a 64-bit immediate, also if the form is refused; then there is an entry for each
settled operand that may be moved and is written differently, in order; and one entry for the result
closes it.  The operands of an instruction are all settled, as what is written; of a form that runs
out of registers those before the operand that the violation names; and none of a form with a
template that cannot be read. -/
theorem log_is_exact (engine : Engine) (form : Form) :
    (engine.run form).events.map Event.entry =
        LogEntry.opening form ++ (engine.settled form).filterMap LogEntry.renaming? ++
          [.closing form (engine.instantiate form)] ∧
      (∀ instruction, engine.instantiate form = .ok instruction →
        List.Forall₂ (engine.Reads form) (engine.kept form)
            ((engine.settled form).map Prod.fst) ∧
          (engine.settled form).map Prod.snd = instruction.operands) ∧
      ∀ violation, engine.instantiate form = .error violation →
        (violation.cause ≠ .registersExhausted → engine.settled form = []) ∧
          (violation.cause = .registersExhausted →
            ∃ operands operand, engine.operands form = .ok operands ∧
              (engine.settled form).map Prod.fst ++ [operand] <+: operands ∧
              violation.template = operand.template) :=
  ⟨Engine.entries_run engine form, fun _ => Engine.settled_of_ok,
    fun _ herror => ⟨Engine.settled_of_error herror, Engine.settled_of_exhausted herror⟩⟩

/-- A move of a 64-bit immediate that runs out of high bytes: the log keeps the mnemonic and the
three moves before that. -/
theorem log_keeps_the_moves_of_a_refused_form :
    let engine := Engine.ofConfig (.ofDefinitions [("imm64", .literal "0x400000000002d06d")]) {}
    let form : Form := ⟨"MOV", ["r8", "imm64", "r8", "CL", "r8", "r8"], .legacy⟩
    let violation : Violation := ⟨.registersExhausted, "MOV", "r8"⟩
    let moved (given : String) : LogEntry :=
      ⟨.trace, "register already in use", [("operand", .text "ch"), ("renamed", .text given)]⟩
    engine.instantiate form = .error violation ∧
      (engine.run form).events.map Event.entry =
        [⟨.debug, "rewriting to MOVABS",
            [("instruction", .text "MOV r8, imm64, r8, CL, r8, r8")]⟩,
          moved "dh", moved "bh", moved "ah",
          ⟨.error, "no free register left for operand `r8` of `MOV`",
            [("mnemonic", .text "MOV"), ("template", .text "r8")]⟩] ∧
      ∃ operands operand, engine.operands form = .ok operands ∧
        (engine.settled form).map Prod.fst ++ [operand] <+: operands ∧
        violation.template = operand.template := by
  intro engine form violation moved
  obtain ⟨hlog, -, herror⟩ := log_is_exact engine form
  have h : engine.instantiate form = .error violation := by decide
  refine ⟨h, ?_, (herror violation h).2 rfl⟩
  rw [hlog]
  decide

end AsmForms
