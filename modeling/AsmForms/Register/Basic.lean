/-!
# Register/Basic — registers, and the views that name them

A **register** is a storage location, whatever the width it is accessed at: `ch`, `cx`, `ecx` and
`rcx` lie in one general register, `xmm3` and `ymm3` in one vector register.  The width is the
**view**; a register name is a register seen through a view.
-/

namespace AsmForms

/-- The three register sets.  Registers of different classes never share storage. -/
inductive RegisterClass where
  /-- The sixteen integer registers. -/
  | general
  /-- The eight registers that the x87 stack shares its storage with. -/
  | mmx
  /-- The thirty-two vector registers. -/
  | vector
  deriving DecidableEq

/-- A storage location: its class, and its encoding number inside the class (`rax` is 0, `r15` is
15). -/
structure Register where
  cls : RegisterClass
  number : Nat
  deriving DecidableEq

/-- The part of a register that a name gives access to. -/
inductive View where
  | byte
  /-- The second byte of one of the first four general registers. -/
  | highByte
  | word
  | dword
  | qword
  | mm
  | xmm
  | ymm
  deriving DecidableEq

/-- A register seen through a view. -/
structure RegisterName where
  register : Register
  view : View
  deriving DecidableEq

namespace RegisterClass

/-- The place of a class in a listing: general, then MMX, then vector. -/
def rank : RegisterClass → Nat
  | .general => 0
  | .mmx => 1
  | .vector => 2

end RegisterClass

namespace Register

/-- The order of a listing: by class, and by number inside a class. -/
def le (r s : Register) : Bool :=
  r.cls.rank < s.cls.rank || (r.cls.rank == s.cls.rank && r.number ≤ s.number)

end Register

namespace View

/-- The views, in ascending width of their class. -/
def all : List View := [.byte, .highByte, .word, .dword, .qword, .mm, .xmm, .ymm]

theorem mem_all (view : View) : view ∈ all := by cases view <;> decide

/-- The class of the registers that have the view. -/
def cls : View → RegisterClass
  | .byte | .highByte | .word | .dword | .qword => .general
  | .mm => .mmx
  | .xmm | .ymm => .vector

/-- The width of the view. -/
def bits : View → Nat
  | .byte | .highByte => 8
  | .word => 16
  | .dword => 32
  | .qword | .mm => 64
  | .xmm => 128
  | .ymm => 256

end View

end AsmForms
