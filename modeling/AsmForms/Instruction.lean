import AsmForms.Encoding
import AsmForms.Line

/-!
# Instruction — instruction forms, and the instructions that they become

A **form** is a row of an instruction set reference: a mnemonic with a template per operand, as in
`ADD r32, imm8`.  An **instruction** is what an assembler accepts: a mnemonic with operands, as in
`ADD ecx, 0x7e`.
-/

namespace AsmForms

/-- An instruction form. -/
structure Form where
  mnemonic : String
  /-- The templates of the operands, in order. -/
  templates : List String
  encoding : Encoding := .legacy
  deriving DecidableEq

/-- An instruction ready for the assembler. -/
structure Instruction where
  mnemonic : String
  operands : List String := []
  deriving DecidableEq

namespace Form

/-- Whether the form is encoded without a REX prefix. -/
def isLegacy (form : Form) : Bool := form.encoding == .legacy

/-- The template of one operand, counted from zero. -/
def template? (form : Form) (index : Nat) : Option String := form.templates[index]?

/-- The width of the operands that are valid at two widths. -/
def width (form : Form) : Width := .infer form.templates

/-- The form as a line. -/
def text (form : Form) : String := Line.render form.mnemonic form.templates

/-- Whether the form moves a 64-bit immediate.  `MOV` leaves the assembler no way to ask for that
immediate, so the instruction has to be spelled `MOVABS`. -/
def isWideMove (form : Form) : Bool :=
  form.mnemonic == "MOV" && form.template? 1 == some "imm64"

/-- The mnemonic that the assembler is given. -/
def emittedMnemonic (form : Form) : String :=
  if form.isWideMove then "MOVABS" else form.mnemonic

end Form

namespace Instruction

/-- Adds an operand after those present. -/
def push (instruction : Instruction) (operand : String) : Instruction :=
  { instruction with operands := instruction.operands ++ [operand] }

/-- The instruction as a line. -/
def text (instruction : Instruction) : String :=
  Line.render instruction.mnemonic instruction.operands

end Instruction

end AsmForms
