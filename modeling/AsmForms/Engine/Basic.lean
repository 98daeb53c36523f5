import AsmForms.Config
import AsmForms.Register.Reading
import AsmForms.Encoding
import AsmForms.Template.Builtin
import AsmForms.Template.Verbatim
import AsmForms.Violation
import AsmForms.Instruction

/-!
# Engine/Basic — reading the operand templates of a form

A template is looked up in the table, then among the roles of the form's encoding; what neither
knows is left to the fallback.  An operand whose text the table or a role makes a register name is
**generated**: it may be moved to another register.  All other operands are **fixed**, and written
exactly as they were read — so is whatever the fallback writes, register name or not.
-/

namespace AsmForms

/-- A table, a text for every relative branch, and what to do with templates that no table knows. -/
structure Engine where
  table : Table
  branchText : BranchWidth → String
  fallback : Fallback

/-- The engine of a table and choices. -/
def Engine.ofConfig (table : Table) (config : Config) : Engine :=
  ⟨table, config.branchText, config.fallback⟩

/-- An operand before registers are handed out. -/
structure Operand where
  template : String
  text : String
  /-- Whether the operand is a register that may be replaced by another one. -/
  generated : Bool
  deriving DecidableEq

/-- What a template is read as. -/
inductive Reading where
  | operand (operand : Operand)
  /-- Nothing is to be written. -/
  | absent
  /-- Nothing knows the template. -/
  | unknown
  deriving DecidableEq

namespace Reading

/-- The reading of a template that the table or a role resolves to a text.  An empty text stands for
no operand. -/
def ofResolved (template text : String) : Reading :=
  if text = "" then .absent
  else .operand ⟨template, text, (RegisterName.ofString? text).isSome⟩

/-- The reading of a template that is written as it stands. -/
def ofVerbatim (template : String) : Reading :=
  if template = "" then .absent else .operand ⟨template, template, false⟩

end Reading

namespace Engine

/-- The reading of a template that neither the table nor a role knows. -/
def fallBack (engine : Engine) (template : String) : Reading :=
  match engine.fallback with
  | .passthrough => .ofVerbatim template
  | .strict => if isVerbatim template then .ofVerbatim template else .unknown

/-- **What a template is read as** in a form of the given encoding and width. -/
def read (engine : Engine) (encoding : Encoding) (width : Width) (template : String) : Reading :=
  match engine.table.translate engine.branchText template with
  | .operand text => .ofResolved template text
  | .absent => .absent
  | .unhandled =>
    match encoding.resolve width template with
    | some name => .ofResolved template name
    | none => engine.fallBack template

/-- The operand of a template of a form, or the violation that the template is.  Only the implicit
vector register may be absent. -/
def operand? (engine : Engine) (form : Form) (template : String) :
    Except Violation (Option Operand) :=
  match engine.read form.encoding form.width template with
  | .operand operand => .ok (some operand)
  | .absent =>
    if template = implicitXmm0 then .ok none
    else .error ⟨.unexpectedAbsence, form.mnemonic, template⟩
  | .unknown => .error ⟨.unknownTemplate, form.mnemonic, template⟩

/-- The operands of some templates of a form, or the first violation among them. -/
def operandsOf (engine : Engine) (form : Form) : List String → Except Violation (List Operand)
  | [] => .ok []
  | template :: templates =>
    match engine.operand? form template with
    | .error violation => .error violation
    | .ok operand =>
      match engine.operandsOf form templates with
      | .error violation => .error violation
      | .ok operands => .ok (operand.toList ++ operands)

/-- **The operands of a form**, or its first violation. -/
def operands (engine : Engine) (form : Form) : Except Violation (List Operand) :=
  engine.operandsOf form form.templates

end Engine

end AsmForms
