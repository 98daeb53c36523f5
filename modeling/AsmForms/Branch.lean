/-!
# Branch — the text that a relative branch jumps over

A relative branch operand is written as a label, then enough filler instructions to push the target
out of reach of the next narrower displacement, then the label itself.  So the assembler cannot
relax the branch to a shorter encoding.  Assemblers differ in how the repetition is written; a
`Dialect` says how.
-/

namespace AsmForms

/-- The width of the displacement of a relative branch. -/
inductive BranchWidth where
  | rel8
  | rel16
  | rel32
  deriving DecidableEq

namespace BranchWidth

/-- The template of a branch operand of the width. -/
def template : BranchWidth → String
  | .rel8 => "rel8"
  | .rel16 => "rel16"
  | .rel32 => "rel32"

/-- The width in bits. -/
def bits : BranchWidth → Nat
  | .rel8 => 8
  | .rel16 => 16
  | .rel32 => 32

/-- How many one-byte filler instructions stand between the branch and its target. -/
def fillerLength : BranchWidth → Nat
  | .rel8 => 64
  | .rel16 => 256
  | .rel32 => 65536

/-- **The filler reaches just far enough**: a signed displacement of the width can hold its length,
and no narrower one can. -/
theorem fillerLength_lt_iff (w v : BranchWidth) :
    w.fillerLength < Nat.pow 2 (v.bits - 1) ↔ w.bits ≤ v.bits := by
  cases w <;> cases v <;> decide

end BranchWidth

/-- The syntax in which branch operands are written. -/
inductive Dialect where
  /-- GNU as, and the LLVM assembler in Intel syntax. -/
  | gas
  | nasm
  deriving DecidableEq

/-- **The operand of a relative branch** to a label of the given name. -/
def Dialect.branchOperand (dialect : Dialect) (label : String) (width : BranchWidth) : String :=
  match dialect with
  | .gas =>
    label ++ "\n.rept " ++ width.fillerLength.repr ++ "\nNOP\n.endr\n" ++ label ++ ": NOP"
  | .nasm =>
    label ++ "\ntimes " ++ width.fillerLength.repr ++ " nop\n" ++ label ++ ": nop"

end AsmForms
