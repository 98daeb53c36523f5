import AsmForms.Branch

/-!
# Config — the choices of an engine
-/

namespace AsmForms

/-- What becomes of a template that no table knows. -/
inductive Fallback where
  /-- It is written as it stands if it is an explicit register or a constant; anything else is a
  violation. -/
  | strict
  /-- It is written as it stands. -/
  | passthrough
  deriving DecidableEq

/-- The choices of an engine. -/
structure Config where
  dialect : Dialect := .gas
  fallback : Fallback := .strict
  /-- The label that relative branches jump to. -/
  label : String := "Label"
  deriving DecidableEq

/-- The text of a relative branch, in the dialect and with the label of the choices. -/
def Config.branchText (config : Config) : BranchWidth → String :=
  config.dialect.branchOperand config.label

end AsmForms
