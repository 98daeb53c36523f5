import AsmForms.Register.Spelling

/-!
# Encoding — the general registers that an instruction form may use

A form is encoded with or without the REX prefix, and that decides which half of the general
registers its operands come from.  Each half gives a register to every **role**: an operand template
such as `r32` that asks for a general register of some width.  `r32a`/`r32b` and `r64a`/`r64b` are
the first and second register of forms that take two, so they lie in different registers.  The role
`reg` is valid at 32 and 64 bits and has a register of its own.

When the register of an operand is in use, the **spares** of its class are tried in order.
-/

namespace AsmForms

/-- Which half of the general registers a form uses. -/
inductive Encoding where
  /-- The eight registers reachable without a REX prefix. -/
  | legacy
  /-- `r8` to `r15`, which need a REX prefix. -/
  | extended
  deriving DecidableEq

/-- A general-register operand whose template fixes its width. -/
inductive Role where
  | r8
  | r16
  | r32
  | r32a
  | r32b
  | r64
  | r64a
  | r64b
  deriving DecidableEq

namespace Role

/-- The roles, by ascending width. -/
def all : List Role := [.r8, .r16, .r32, .r32a, .r32b, .r64, .r64a, .r64b]

theorem mem_all (role : Role) : role ∈ all := by cases role <;> decide

/-- The template that asks for the role. -/
def template : Role → String
  | .r8 => "r8"
  | .r16 => "r16"
  | .r32 => "r32"
  | .r32a => "r32a"
  | .r32b => "r32b"
  | .r64 => "r64"
  | .r64a => "r64a"
  | .r64b => "r64b"

/-- The role that a template asks for, if it is one. -/
def ofTemplate? (template : String) : Option Role :=
  all.find? fun role => role.template == template

end Role

/-- The template of the role that is valid at two widths. -/
def wideRole : String := "reg"

/-- The two widths of `wideRole`. -/
inductive Width where
  | dword
  | qword
  deriving DecidableEq

namespace Width

/-- The width of `wideRole` in a form with these templates: 32 bits if the form has another 32-bit
general register, 64 bits otherwise. -/
def infer (templates : List String) : Width :=
  if templates.any fun t => t == "r32" || t == "r32a" || t == "r32b" then .dword else .qword

end Width

namespace Encoding

/-- The register that a role names, as long as nothing else uses it. -/
def roleRegister : Encoding → Role → String
  | .legacy, .r8 => "ch"
  | .legacy, .r16 => "cx"
  | .legacy, .r32 => "ecx"
  | .legacy, .r32a => "eax"
  | .legacy, .r32b => "ebx"
  | .legacy, .r64 => "rcx"
  | .legacy, .r64a => "rax"
  | .legacy, .r64b => "rbx"
  | .extended, .r8 => "r8b"
  | .extended, .r16 => "r10w"
  | .extended, .r32 => "r10d"
  | .extended, .r32a => "r8d"
  | .extended, .r32b => "r9d"
  | .extended, .r64 => "r10"
  | .extended, .r64a => "r8"
  | .extended, .r64b => "r9"

/-- The register that `wideRole` names at a width. -/
def wideRegister : Encoding → Width → String
  | .legacy, .dword => "edx"
  | .legacy, .qword => "rdx"
  | .extended, .dword => "r11d"
  | .extended, .qword => "r11"

/-- Every role with the register it names. -/
def roles (encoding : Encoding) : List (Role × String) :=
  Role.all.map fun role => (role, encoding.roleRegister role)

/-- The register that a template asks for, if it is a role.  The width matters for `wideRole`
only. -/
def resolve (encoding : Encoding) (width : Width) (template : String) : Option String :=
  if template = wideRole then some (encoding.wideRegister width)
  else (Role.ofTemplate? template).map encoding.roleRegister

/-- The general registers that can be handed out, in the order in which spares are tried. -/
def generalSpares : Encoding → List Nat
  | .legacy => [7, 5, 2, 3, 0, 1]
  | .extended => [12, 13, 14, 15, 8, 9, 10, 11]

/-- The vector spares.  The index registers of the gathering forms, 9 to 12, are none of them. -/
def vectorSpares : List Nat := [6, 4, 3, 2, 1, 8, 13, 14, 15, 7, 5, 0]

/-- **The spares of a class**, in the order in which they are tried. -/
def spares (encoding : Encoding) : RegisterClass → List Register
  | .general => encoding.generalSpares.map (⟨.general, ·⟩)
  | .mmx => (List.range 8).map (⟨.mmx, ·⟩)
  | .vector => vectorSpares.map (⟨.vector, ·⟩)

/-- The 64-bit names of all general registers that the encoding hands out — what the code around an
instruction has to save. -/
def clobbers (encoding : Encoding) : List String :=
  (encoding.spares .general).filterMap View.qword.spell

end Encoding

end AsmForms
