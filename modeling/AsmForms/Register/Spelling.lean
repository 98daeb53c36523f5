import AsmForms.Register.Basic

/-!
# Register/Spelling — the name of a register through a view

The first eight general registers have names of their own; all others are numbered.
`View.spell view r` is the name of `r` through `view`, or none if `r` has no such view.  Of the
first eight registers only the first four are spelled through the byte view — `spl`, `bpl`, `sil`
and `dil` need a REX prefix — and only these four have a high byte.
-/

namespace AsmForms

namespace View

/-- The names of the first registers through a view, by number. -/
def legacyNames : View → List String
  | .byte => ["al", "cl", "dl", "bl", "spl", "bpl", "sil", "dil"]
  | .highByte => ["ah", "ch", "dh", "bh"]
  | .word => ["ax", "cx", "dx", "bx", "sp", "bp", "si", "di"]
  | .dword => ["eax", "ecx", "edx", "ebx", "esp", "ebp", "esi", "edi"]
  | .qword => ["rax", "rcx", "rdx", "rbx", "rsp", "rbp", "rsi", "rdi"]
  | .mm | .xmm | .ymm => []

/-- How many of the first eight registers are spelled through a view. -/
def legacySpan : View → Nat
  | .byte | .highByte => 4
  | .word | .dword | .qword => 8
  | .mm | .xmm | .ymm => 0

/-- What follows the number in the name of one of `r8` to `r15`; these have no high byte. -/
def extendedSuffix? : View → Option String
  | .byte => some "b"
  | .word => some "w"
  | .dword => some "d"
  | .qword => some ""
  | .highByte | .mm | .xmm | .ymm => none

/-- The letters before the number in the name of a numbered register of another class. -/
def stem? : View → Option String
  | .mm => some "mm"
  | .xmm => some "xmm"
  | .ymm => some "ymm"
  | .byte | .highByte | .word | .dword | .qword => none

/-- **The name of a register through a view**, if it can be encoded. -/
def spell (view : View) : Register → Option String
  | ⟨.general, n⟩ =>
    if n < view.legacySpan then view.legacyNames[n]?
    else if 8 ≤ n ∧ n < 16 then view.extendedSuffix?.map fun suffix => "r" ++ n.repr ++ suffix
    else none
  | ⟨.mmx, n⟩ =>
    if view.cls = .mmx ∧ n < 8 then view.stem?.map fun stem => stem ++ n.repr else none
  | ⟨.vector, n⟩ =>
    if view.cls = .vector ∧ n < 32 then view.stem?.map fun stem => stem ++ n.repr else none

/-! ## Which registers have a view -/

theorem legacySpan_le (view : View) :
    view.legacySpan ≤ 8 ∧ view.legacySpan ≤ view.legacyNames.length := by
  cases view <;> decide

/-- **The general registers that are spelled through a view.** -/
theorem isSome_spell_general {view : View} {n : Nat} :
    (view.spell ⟨.general, n⟩).isSome ↔
      n < view.legacySpan ∨ (8 ≤ n ∧ n < 16) ∧ view.extendedSuffix?.isSome := by
  have hspan := view.legacySpan_le
  rw [spell]
  split
  next h => simp [h, Nat.lt_of_lt_of_le h hspan.2]
  next h =>
    split
    next hn => simp [h, hn]
    next hn => simp [h, hn]

end View

/-- The same view of another register, if it can be encoded. -/
def RegisterName.on (name : RegisterName) (r : Register) : Option String :=
  name.view.spell r

end AsmForms
