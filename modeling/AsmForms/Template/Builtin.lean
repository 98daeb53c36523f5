import AsmForms.Template.Table

/-!
# Template/Builtin — the built-in table

Memory operands are addressed indirectly through a register: with a bare displacement the assembler
may choose between a ModR/M and an immediate encoding.  The vector templates stand for registers of
their own, none of which is an index register of the gathering forms.
-/

namespace AsmForms

/-- The marker of the implicit first vector register of the SSE4.1 blends, which the encoding fixes
and the syntax omits. -/
def implicitXmm0 : String := "<XMM0>"

namespace Table

/-- A memory operand of a size, based on `RSI`. -/
def memory (size : String) : Expansion := .literal (size ++ " ptr[RSI]")

/-- A memory operand of a size, based on `RSI` in the data segment. -/
def offsetMemory (size : String) : Expansion := .literal (size ++ " ptr DS:[RSI]")

/-- The built-in definitions.  The x87 stack slot is defined twice, and the second one counts. -/
def builtinDefinitions : List (String × Expansion) :=
  [("imm8", .literal "0x7e"), ("imm16", .literal "0x7ffe"), ("imm32", .literal "0x7ffffffe"),
   ("imm64", .literal "0x400000000002d06d"),
   ("ptr16:16", .literal "0x7f16:0x7f16"), ("ptr16:32", .literal "0x3039:0x30393039"),
   ("rel8", .branch .rel8), ("rel16", .branch .rel16), ("rel32", .branch .rel32),
   ("xmm", .literal "xmm5"), ("ymm", .literal "ymm7"), ("mm", .literal "mm6"),
   (implicitXmm0, .absent),
   ("Sreg", .literal "cs"), ("CR0-CR7", .literal "CR0"), ("DR0-DR7", .literal "DR0"),
   ("bnd", .literal "bnd2"),
   ("ST(i)", .literal "ST(2)"), ("ST(i)", .literal "ST(3)"),
   -- Memory by operand size.
   ("m", memory "word"), ("m8", memory "byte"), ("m16", memory "word"), ("m32", memory "dword"),
   ("m64", memory "qword"), ("m128", memory "xmmword"), ("m256", memory "ymmword"),
   ("m512", memory "ymmword"), ("mem", memory "xmmword"), ("mib", memory "qword"),
   -- Memory at an offset in the data segment.
   ("moffs8", offsetMemory "byte"), ("moffs16", offsetMemory "word"),
   ("moffs32", offsetMemory "dword"), ("moffs64", offsetMemory "qword"),
   -- Pairs and far pointers in memory.
   ("m16&16", memory "word"), ("m16&64", memory "qword"), ("m32&32", memory "dword"),
   ("m16:16", memory "word"), ("m16:32", memory "dword"), ("m16:64", memory "qword"),
   -- Numbers of the x87 unit in memory.
   ("m16int", memory "word"), ("m32int", memory "dword"), ("m64int", memory "dword"),
   ("m32fp", memory "dword"), ("m64fp", memory "qword"), ("m80fp", memory "xword"),
   ("m80dec", memory "xword"), ("m80bcd", memory "xword"),
   -- Environments and states in memory.
   ("m2byte", memory "word"), ("m14byte", memory "dword"), ("m28byte", memory "dword"),
   ("m94byte", memory "dword"), ("m108byte", memory "dword"), ("m512byte", memory "opaque"),
   -- Memory gathered through a vector of indices.
   ("vm32x", .literal "[rsp + 4* xmm9]"), ("vm32y", .literal "[rsp + 4* ymm10]"),
   ("vm64x", .literal "[rsp + 8* xmm11]"), ("vm64y", .literal "[rsp + 8* ymm12]")]

/-- **The built-in table.** -/
def builtin : Table := ofDefinitions builtinDefinitions

end Table

end AsmForms
