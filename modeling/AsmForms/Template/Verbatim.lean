/-!
# Template/Verbatim — templates that are operands already

Some templates are valid operands as they stand: registers that a form names explicitly, such as
the `AL` of `ADD AL, imm8`, the top of the x87 stack, and small constants such as the `1` of the
shifts by one.  Case matters, and digits are the ten ASCII digits.
-/

namespace AsmForms

/-- The registers that forms name explicitly. -/
def fixedRegisters : List String :=
  ["AL", "CL", "DL", "BL", "AH", "CH", "DH", "BH",
   "AX", "CX", "DX", "BX", "SP", "BP", "SI", "DI",
   "EAX", "ECX", "EDX", "EBX", "ESP", "EBP", "ESI", "EDI",
   "RAX", "RCX", "RDX", "RBX", "RSP", "RBP", "RSI", "RDI",
   "CS", "DS", "ES", "FS", "GS", "SS",
   "XMM0"]

/-- Whether a template is a register that forms name explicitly. -/
def isFixedRegister (template : String) : Bool :=
  fixedRegisters.contains template

/-- Whether a template is the top of the x87 stack. -/
def isStackTop (template : String) : Bool :=
  template == "ST" || template == "ST(0)"

/-- Whether a template is a decimal constant. -/
def isConstant (template : String) : Bool :=
  !template.isEmpty && template.toList.all Char.isDigit

/-- **Whether a template can be written as it stands.** -/
def isVerbatim (template : String) : Bool :=
  isFixedRegister template || isStackTop template || isConstant template

end AsmForms
