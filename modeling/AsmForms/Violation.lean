/-!
# Violation — why a form has no instruction
-/

namespace AsmForms

/-- What is wrong with an operand template. -/
inductive Cause where
  /-- It stands for nothing, which only the implicit vector register may. -/
  | unexpectedAbsence
  /-- It is no known template, and cannot be written as it stands. -/
  | unknownTemplate
  /-- Every register that could stand in for it is used by another operand. -/
  | registersExhausted
  deriving DecidableEq

/-- A template that cannot be written, in the form with the given mnemonic. -/
structure Violation where
  cause : Cause
  mnemonic : String
  template : String
  deriving DecidableEq

/-- **The text of a violation.** -/
def Violation.message (violation : Violation) : String :=
  let operand := "operand `" ++ violation.template ++ "` of `" ++ violation.mnemonic ++ "`"
  match violation.cause with
  | .unexpectedAbsence => operand ++ " could not be translated"
  | .unknownTemplate => operand ++ " is not a known operand template"
  | .registersExhausted => "no free register left for " ++ operand

end AsmForms
