import AsmForms.Proofs.Register.History

/-!
# Proofs/Register/Agreement — allocating a text is reserving the answer

An allocation reads its text as one name; a reservation searches it for words.  A text that is a
name is a single word, and the one name found in it is itself (`mentioned_of_ofString?`), so the two
take the same registers: the file after an allocation is the one that reserving the answer leads to
(`RegisterFile.eq_reserve_of_allocate`).

A file that **holds** a text, with all its registers taken, is one that a reservation of the text
leaves as it is (`RegisterFile.reserve_eq_self_iff`).  An allocation leads to a file that holds the
answer, and every later file does too, so what has been answered is visible to both operations from
then on (`RegisterFile.allocation_agrees_with_reservation`).
-/

namespace AsmForms

/-- **A register name is the only name found in it.** -/
theorem mentioned_of_ofString? {text : String} {name : RegisterName}
    (h : RegisterName.ofString? text = some name) : mentioned text = [name.register] := by
  have hspelling : isSpelling text.toList = true := RegisterName.isSpelling_of_ofChars? h
  have hread : RegisterName.ofChars? text.toList = some name := h
  rw [mentioned, tokens_eq, words_of_ofString? h, List.filter_cons_of_pos hspelling,
    List.filter_nil, List.filterMap_cons, hread]
  rfl

namespace RegisterFile

variable {file next : RegisterFile} {text : String} {name : RegisterName} {r : Register}
  {assignment : Assignment}

/-! ## Holding a text -/

/-- A file **holds** a text: all registers that the text mentions are taken. -/
def Holds (file : RegisterFile) (text : String) : Prop :=
  ∀ r, Mentions text r → r ∈ file.taken

/-- Nothing is given back, so a text that is held stays so. -/
theorem Holds.after (h : file.Holds text) (steps : List Step) : (file.after steps).Holds text :=
  fun r hr => file.subset_after steps (h r hr)

/-- Taking a register again changes nothing. -/
theorem take_eq_self (h : r ∈ file.taken) : file.take r = file := by
  rw [take, List.insert_of_mem h]

theorem foldl_take_eq_self {registers : List Register} (h : ∀ r ∈ registers, r ∈ file.taken) :
    registers.foldl take file = file := by
  induction registers with
  | nil => rfl
  | cons r registers ih =>
    rw [List.forall_mem_cons] at h
    rw [List.foldl_cons, take_eq_self h.1, ih h.2]

theorem holds_reserve (file : RegisterFile) (text : String) : (file.reserve text).Holds text :=
  fun _ hr => mem_reserve.mpr (Or.inr hr)

/-- **A reservation changes nothing exactly if the text is held.** -/
theorem reserve_eq_self_iff : file.reserve text = file ↔ file.Holds text := by
  constructor
  · intro h
    rw [← h]
    exact file.holds_reserve text
  · intro h
    exact foldl_take_eq_self fun r hr => h r (mem_mentioned_iff.mp hr)

/-! ## One text, two ways to read it -/

/-- **Reserving a name takes its register**, as claiming it would. -/
theorem reserve_of_name (file : RegisterFile) (hname : RegisterName.ofString? text = some name) :
    file.reserve text = file.take name.register := by
  rw [reserve, mentioned_of_ofString? hname]
  rfl

/-- **Allocating a text is reserving the answer.** -/
theorem eq_reserve_of_allocate (h : file.allocate text = some (assignment, next)) :
    next = file.reserve assignment.text := by
  cases hname : RegisterName.ofString? text with
  | none =>
    rw [file.allocate_of_no_name hname] at h
    cases h
    rfl
  | some name =>
    -- Moved or not, what is written names the register claimed.
    obtain ⟨r, -, hwrites, rfl⟩ := (allocate_eq_some_iff hname).mp h
    exact (file.reserve_of_name (hwrites.ofString? hname)).symm

theorem holds_of_allocate (h : file.allocate text = some (assignment, next)) :
    next.Holds assignment.text := by
  rw [eq_reserve_of_allocate h]
  exact file.holds_reserve assignment.text

/-- **A name that is held is answered with another register**, through the same view. -/
theorem Holds.exists_other (h : file.Holds text) (hname : RegisterName.ofString? text = some name)
    (hallocate : file.allocate text = some (assignment, next)) :
    assignment.text ≠ text ∧
      ∃ r, r ≠ name.register ∧ RegisterName.ofString? assignment.text = some ⟨r, name.view⟩ := by
  have htaken : name.register ∈ file.taken :=
    h _ ((mentions_iff_names hname).mpr ⟨name, hname, rfl⟩)
  obtain ⟨r, hclaim, hwrites, -⟩ := (allocate_eq_some_iff hname).mp hallocate
  have hother : r ≠ name.register := fun heq => (claim?_eq_own_iff hclaim).mp heq htaken
  exact ⟨(hwrites.text_ne_iff hname).mpr hother, r, hother, hwrites.ofString? hname⟩

/-- **Allocation and reservation agree on every text.**  To reserve a register name takes its
register and no other.  To allocate a text, be it a free name, a name that is moved to a spare or no
name at all, takes what reserving the answer takes.  From then on, whatever steps follow, reserving
the answer changes nothing; and if it is a name, allocating it never answers with that name again,
but with the name of another register through the same view. -/
theorem allocation_agrees_with_reservation (file : RegisterFile) (text : String) :
    (∀ name, RegisterName.ofString? text = some name →
      ∀ r, r ∈ (file.reserve text).taken ↔ r ∈ file.taken ∨ r = name.register) ∧
    ∀ assignment next, file.allocate text = some (assignment, next) →
      next = file.reserve assignment.text ∧
      ∀ steps : List Step,
        (next.after steps).reserve assignment.text = next.after steps ∧
        ∀ name, RegisterName.ofString? assignment.text = some name →
          ∀ again last, (next.after steps).allocate assignment.text = some (again, last) →
            again.text ≠ assignment.text ∧
              ∃ r, r ≠ name.register ∧ RegisterName.ofString? again.text = some ⟨r, name.view⟩ := by
  refine ⟨fun name hname r => ?_, fun assignment next hallocate =>
    ⟨eq_reserve_of_allocate hallocate, fun steps => ?_⟩⟩
  · rw [mem_reserve, mentions_iff_names hname, names_iff hname]
  · have hheld : (next.after steps).Holds assignment.text :=
      (holds_of_allocate hallocate).after steps
    exact ⟨reserve_eq_self_iff.mpr hheld, fun name hname again last => hheld.exists_other hname⟩

/-- Where `CH` is reserved, `ch` is moved to `dh`.  That one stays taken: beside a memory operand at
`rbx`, whoever asks for `dh` is given `ah`. -/
theorem moved_byte_is_reserved :
    let start : RegisterFile := { encoding := .legacy }
    let file := start.reserve "CH"
    let rcx : Register := ⟨.general, 1⟩
    let rdx : Register := ⟨.general, 2⟩
    let steps : List Step := [.reserve "[rbx + 8]"]
    (∀ r, r ∈ file.taken ↔ r ∈ start.taken ∨ r = rcx) ∧
      ∃ next last, file.allocate "ch" = some (.renamed "ch" "dh", next) ∧
        RegisterName.ofString? "dh" = some ⟨rdx, .highByte⟩ ∧
        (next.after steps).allocate "dh" = some (.renamed "dh" "ah", last) ∧
        next = file.reserve "dh" ∧
        (next.after steps).reserve "dh" = next.after steps ∧
        "ah" ≠ "dh" ∧
        ∃ r, r ≠ rdx ∧ RegisterName.ofString? "ah" = some ⟨r, .highByte⟩ := by
  intro start file rcx rdx steps
  have hch : RegisterName.ofString? "CH" = some ⟨rcx, .highByte⟩ := by decide
  have hdh : RegisterName.ofString? "dh" = some ⟨rdx, .highByte⟩ := by decide
  have hmoved : (file.allocate "ch").map Prod.fst = some (.renamed "ch" "dh") := by decide
  obtain ⟨⟨_, next⟩, hallocate, rfl⟩ := Option.map_eq_some_iff.mp hmoved
  obtain ⟨hreserved, -⟩ := start.allocation_agrees_with_reservation "CH"
  obtain ⟨-, hagree⟩ := file.allocation_agrees_with_reservation "ch"
  obtain ⟨hnext, hlater⟩ := hagree _ next hallocate
  obtain ⟨hkept, hother⟩ := hlater steps
  have hagain : ((next.after steps).allocate "dh").map Prod.fst = some (.renamed "dh" "ah") := by
    rw [hnext]
    decide
  obtain ⟨⟨_, last⟩, hlast, rfl⟩ := Option.map_eq_some_iff.mp hagain
  obtain ⟨hne, r, hr, hread⟩ := hother _ hdh _ last hlast
  exact ⟨hreserved _ hch, next, last, hallocate, hdh, hlast, hnext, hkept, hne, r, hr, hread⟩

end RegisterFile

end AsmForms
