import AsmForms.Branch

/-!
# Template/Expansion — what the table writes for an operand template
-/

namespace AsmForms

/-- What an operand template stands for in the table. -/
inductive Expansion where
  /-- A fixed text. -/
  | literal (text : String)
  /-- A relative branch, written by whatever fills branches in. -/
  | branch (width : BranchWidth)
  /-- An operand that the encoding implies, so nothing is written. -/
  | absent
  deriving DecidableEq

/-- What a table answers for a template. -/
inductive Resolution where
  | operand (text : String)
  | absent
  /-- The table does not know the template. -/
  | unhandled
  deriving DecidableEq

namespace Expansion

/-- The text of an expansion, with branches written by `branchText`. -/
def resolve (branchText : BranchWidth → String) : Expansion → Resolution
  | .literal text => .operand text
  | .branch width => .operand (branchText width)
  | .absent => .absent

end Expansion

end AsmForms
