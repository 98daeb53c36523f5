import AsmForms.Engine.Allocation
import AsmForms.Engine.Outcome

/-!
# Engine/Run — instantiating forms

`Engine.run` turns a form into an instruction and reports what happened on the way.  A violation of
a template comes before any register is handed out, so it wins over a lack of registers.  A batch
stops at the first violation: `Engine.runAll` returns nothing for the forms before it and does not
look at those after it.
-/

namespace AsmForms

namespace Engine

/-- The event that opens the instantiation of a form which is spelled with another mnemonic. -/
def opening (form : Form) : List Event :=
  if form.isWideMove then [.respelled form] else []

/-- A form that became no instruction. -/
def refuse (violation : Violation) : Outcome Instruction :=
  ⟨.error violation, [.violated violation]⟩

/-- A form that became an instruction with the given operands. -/
def emit (form : Form) (operands : List String) : Outcome Instruction :=
  let instruction : Instruction := ⟨form.emittedMnemonic, operands⟩
  ⟨.ok instruction, [.instantiated form instruction]⟩

/-- The outcome of handing registers out to the operands of a form. -/
def finish (form : Form) (allocation : Allocation) : Outcome Instruction :=
  .after (allocation.assigned.flatMap Assignment.events) <|
    match allocation.unmet with
    | some operand => refuse ⟨.registersExhausted, form.mnemonic, operand.template⟩
    | none => emit form (allocation.assigned.map Assignment.text)

/-- **Instantiates a form.** -/
def run (engine : Engine) (form : Form) : Outcome Instruction :=
  .after (opening form) <|
    match engine.operands form with
    | .error violation => refuse violation
    | .ok operands => finish form (.ofOperands form.encoding operands)

/-- The instruction of a form, or its violation. -/
def instantiate (engine : Engine) (form : Form) : Except Violation Instruction :=
  (engine.run form).result

/-- **Instantiates a batch**, up to the first violation. -/
def runAll (engine : Engine) : List Form → Outcome (List Instruction)
  | [] => ⟨.ok [], []⟩
  | form :: forms =>
    (engine.run form).bind fun instruction => (engine.runAll forms).map (instruction :: ·)

/-- The instructions of a batch, or its first violation. -/
def instantiateAll (engine : Engine) (forms : List Form) : Except Violation (List Instruction) :=
  (engine.runAll forms).result

end Engine

end AsmForms
