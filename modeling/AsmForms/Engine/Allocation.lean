import AsmForms.Engine.Basic
import AsmForms.Register.File

/-!
# Engine/Allocation — handing registers out to the operands of a form

Fixed operands come first, wherever they stand: every register that one of them mentions is taken
before any generated operand is looked at.  Then the generated operands claim their registers from
left to right.
-/

namespace AsmForms

/-- What became of the operands of a form. -/
structure Allocation where
  /-- What is written for the operands, up to the first one that is not met. -/
  assigned : List Assignment
  /-- The first operand that no register is left for. -/
  unmet : Option Operand
  deriving DecidableEq

namespace RegisterFile

/-- The register file in which the fixed operands have taken their registers. -/
def ofFixed (encoding : Encoding) (operands : List Operand) : RegisterFile :=
  (operands.filter fun operand => !operand.generated).foldl
    (fun file operand => file.reserve operand.text) ⟨encoding, []⟩

/-- Claims registers for the generated operands in order, until one is not met. -/
def assign (file : RegisterFile) : List Operand → Allocation
  | [] => ⟨[], none⟩
  | operand :: operands =>
    if operand.generated then
      match file.allocate operand.text with
      | none => ⟨[], some operand⟩
      | some (assignment, after) =>
        let rest := after.assign operands
        ⟨assignment :: rest.assigned, rest.unmet⟩
    else
      let rest := file.assign operands
      ⟨.asWritten operand.text :: rest.assigned, rest.unmet⟩

end RegisterFile

/-- **What becomes of the operands of a form** of the given encoding. -/
def Allocation.ofOperands (encoding : Encoding) (operands : List Operand) : Allocation :=
  (RegisterFile.ofFixed encoding operands).assign operands

end AsmForms
