import AsmForms.Encoding
import AsmForms.Register.Reading

/-!
# Register/File — the registers already used by the operands of one instruction

A register file grows by two operations.  `reserve` takes every register that a text mentions.
`allocate` claims the one register that a text names: unchanged if it is free, else **renamed**, to
the same view of the first free spare.
-/

namespace AsmForms

/-- The registers taken so far by the operands of an instruction. -/
structure RegisterFile where
  encoding : Encoding
  taken : List Register := []

/-- The text that an operand is written with. -/
inductive Assignment where
  /-- The text it asked for. -/
  | asWritten (text : String)
  /-- Another register than it asked for. -/
  | renamed (asked : String) (given : String)
  deriving DecidableEq

namespace Assignment

/-- What is written. -/
def text : Assignment → String
  | .asWritten text => text
  | .renamed _ given => given

end Assignment

namespace RegisterFile

/-- Takes a register; one that is taken already stays so. -/
def take (file : RegisterFile) (r : Register) : RegisterFile :=
  { file with taken := file.taken.insert r }

/-- **Takes every register that a text mentions**, the base and index of a memory operand
included. -/
def reserve (file : RegisterFile) (text : String) : RegisterFile :=
  (mentioned text).foldl take file

/-- The first free spare that has the view of a name, with its name through that view. -/
def firstSpare? (file : RegisterFile) (name : RegisterName) : Option (Register × String) :=
  (file.encoding.spares name.register.cls).findSome? fun spare =>
    if spare ∈ file.taken then none else (name.on spare).map (spare, ·)

/-- **Claims the register that a text names.**  If that one is taken, the first free spare with the
same view is claimed in its place; none is the answer if there is no such spare.  A text that is not
a register name is reserved and written as it is. -/
def allocate (file : RegisterFile) (text : String) : Option (Assignment × RegisterFile) :=
  match RegisterName.ofString? text with
  | none => some (.asWritten text, file.reserve text)
  | some name =>
    if name.register ∈ file.taken then
      (file.firstSpare? name).map fun (spare, given) => (.renamed text given, file.take spare)
    else some (.asWritten text, file.take name.register)

/-- The taken registers in listing order. -/
def listing (file : RegisterFile) : List Register :=
  file.taken.mergeSort Register.le

/-! ## What is taken afterwards -/

@[simp] theorem encoding_take (file : RegisterFile) (r : Register) :
    (file.take r).encoding = file.encoding := rfl

@[simp] theorem mem_take {file : RegisterFile} {r s : Register} :
    s ∈ (file.take r).taken ↔ s = r ∨ s ∈ file.taken := by
  simp [take]

theorem mem_foldl_take {file : RegisterFile} {registers : List Register} {s : Register} :
    s ∈ (registers.foldl take file).taken ↔ s ∈ file.taken ∨ s ∈ registers := by
  induction registers generalizing file with
  | nil => simp
  | cons r registers ih => simp [ih, or_assoc, or_left_comm]

@[simp] theorem encoding_reserve (file : RegisterFile) (text : String) :
    (file.reserve text).encoding = file.encoding := by
  rw [reserve]
  induction mentioned text generalizing file with
  | nil => rfl
  | cons r registers ih => exact ih (file.take r)

/-- **Reserving a text takes what it mentions**, and nothing else. -/
theorem mem_reserve {file : RegisterFile} {text : String} {s : Register} :
    s ∈ (file.reserve text).taken ↔ s ∈ file.taken ∨ Mentions text s := by
  rw [reserve, mem_foldl_take, mem_mentioned_iff]

/-! ## Runs of a register file -/

/-- One thing asked of a register file. -/
inductive Step where
  | reserve (text : String)
  | allocate (text : String)
  | isTaken (r : Register)

/-- What a register file answers to a step. -/
inductive Answer where
  | reserved
  | allocated (assignment : Option Assignment)
  | isTaken (taken : Bool)

/-- The answer to a step, and the file after it.  An allocation that fails leaves the file as it
is. -/
def step (file : RegisterFile) : Step → Answer × RegisterFile
  | .reserve text => (.reserved, file.reserve text)
  | .allocate text =>
    match file.allocate text with
    | some (assignment, after) => (.allocated (some assignment), after)
    | none => (.allocated none, file)
  | .isTaken r => (.isTaken (r ∈ file.taken), file)

/-- The answers to a sequence of steps, each with the file after it. -/
def run (file : RegisterFile) : List Step → List (Answer × RegisterFile)
  | [] => []
  | s :: steps => file.step s :: (file.step s).2.run steps

end RegisterFile

end AsmForms
