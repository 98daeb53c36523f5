import AsmForms.Instruction
import AsmForms.Register.File
import AsmForms.Template.Table
import AsmForms.Violation

/-!
# Event — what is reported while tables are built and forms are instantiated

An event carries the domain values that it is about.  Its level, message and fields are what a log
shows of it.
-/

namespace AsmForms

/-- How important an event is. -/
inductive Level where
  | trace
  | debug
  | warn
  | error
  deriving DecidableEq

/-- The name of a level in a log. -/
def Level.name : Level → String
  | .trace => "TRACE"
  | .debug => "DEBUG"
  | .warn => "WARN"
  | .error => "ERROR"

/-- A reported event. -/
inductive Event where
  /-- A definition changed what a template stands for. -/
  | redefined (conflict : Conflict)
  /-- A table was built, with so many templates. -/
  | tableBuilt (templates : Nat)
  /-- A form is spelled with another mnemonic than its own. -/
  | respelled (form : Form)
  /-- An operand got another register than it asked for. -/
  | renamed (asked : String) (given : String)
  /-- A form became an instruction. -/
  | instantiated (form : Form) (instruction : Instruction)
  /-- A form became no instruction. -/
  | violated (violation : Violation)
  deriving DecidableEq

/-- The value of a field of an event. -/
inductive FieldValue where
  | text (value : String)
  | count (value : Nat)
  | expansion (value : Expansion)
  deriving DecidableEq

namespace Event

/-- The level of an event. -/
def level : Event → Level
  | .redefined _ => .warn
  | .tableBuilt _ | .renamed .. => .trace
  | .respelled _ | .instantiated .. => .debug
  | .violated _ => .error

/-- The message of an event. -/
def message : Event → String
  | .redefined _ => "operand template defined twice, keeping the last definition"
  | .tableBuilt _ => "built operand translation table"
  | .respelled _ => "rewriting to MOVABS"
  | .renamed .. => "register already in use"
  | .instantiated .. => "instantiated operands"
  | .violated violation => violation.message

/-- The named fields of an event. -/
def fields : Event → List (String × FieldValue)
  | .redefined conflict =>
    [("template", .text conflict.template), ("discarded", .expansion conflict.discarded),
     ("kept", .expansion conflict.kept)]
  | .tableBuilt templates => [("templates", .count templates)]
  | .respelled form => [("instruction", .text form.text)]
  | .renamed asked given => [("operand", .text asked), ("renamed", .text given)]
  | .instantiated form instruction =>
    [("instruction", .text form.text), ("instantiated", .text instruction.text)]
  | .violated violation =>
    [("mnemonic", .text violation.mnemonic), ("template", .text violation.template)]

end Event

/-- The events of building a table: its conflicts in order, then its size. -/
def Table.events (table : Table) : List Event :=
  table.conflicts.map .redefined ++ [.tableBuilt table.size]

/-- **A rename is reported**; an operand written as it asked for is not. -/
def Assignment.events : Assignment → List Event
  | .asWritten _ => []
  | .renamed asked given => [.renamed asked given]

/-- The events of a step of a register file. -/
def RegisterFile.Answer.events : RegisterFile.Answer → List Event
  | .allocated (some assignment) => assignment.events
  | _ => []

end AsmForms
