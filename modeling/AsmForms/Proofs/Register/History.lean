import AsmForms.Proofs.Register.Claim
import Mathlib.Data.List.Nodup

/-!
# Proofs/Register/History — a register file after any sequence of steps

What a step can do is listed once (`RegisterFile.Does`).  It takes the registers that it **uses**,
those that its text or the answer mentions, and gives none back; a refusal changes nothing, since
the register asked for is taken already.  So a file that starts empty holds just the registers that
the steps so far have used (`mem_taken_after`), each of them once, and what is handed out next is
none of them (`no_register_is_handed_out_twice`).
-/

namespace AsmForms

namespace RegisterFile

/-! ## The history of a file -/

/-- The text that a step is about, unless it only asks whether a register is taken. -/
def Step.text? : Step → Option String
  | .reserve text | .allocate text => some text
  | .isTaken _ => none

/-- The text that a step is answered with, if one is handed out. -/
def Answer.text? : Answer → Option String
  | .allocated (some assignment) => some assignment.text
  | .reserved | .allocated none | .isTaken _ => none

/-- A step **uses** a register: its text mentions it, or the text that it is answered with does. -/
def Step.Uses (step : Step) (answer : Answer) (r : Register) : Prop :=
  (∃ text ∈ step.text?, Mentions text r) ∨ ∃ text ∈ answer.text?, Mentions text r

/-- The file after a sequence of steps. -/
def after (file : RegisterFile) (steps : List Step) : RegisterFile :=
  steps.foldl (fun file step => (file.step step).2) file

/-- Some step of a sequence **uses** the register. -/
def Used (file : RegisterFile) (steps : List Step) (r : Register) : Prop :=
  ∃ made ∈ steps.zip (file.run steps), made.1.Uses made.2.1 r

variable {file next : RegisterFile} {step : Step} {steps : List Step} {answer : Answer}
  {text : String} {name : RegisterName} {r : Register}

@[simp] theorem after_nil (file : RegisterFile) : file.after [] = file := rfl

@[simp] theorem after_cons (file : RegisterFile) (step : Step) (steps : List Step) :
    file.after (step :: steps) = (file.step step).2.after steps := rfl

/-- **A run goes on from the file that it has come to.** -/
theorem run_append (file : RegisterFile) (steps later : List Step) :
    file.run (steps ++ later) = file.run steps ++ (file.after steps).run later := by
  induction steps generalizing file with
  | nil => rfl
  | cons step steps ih => exact congrArg (file.step step :: ·) (ih (file.step step).2)

theorem used_nil : ¬ file.Used [] r := by
  simp [Used]

theorem used_cons :
    file.Used (step :: steps) r ↔
      step.Uses (file.step step).1 r ∨ (file.step step).2.Used steps r := by
  rw [Used, run, List.zip_cons_cons, List.exists_mem_cons_iff, Used]

/-! ## One step -/

theorem nodup_reserve (h : file.taken.Nodup) (text : String) : (file.reserve text).taken.Nodup := by
  rw [reserve]
  induction mentioned text generalizing file with
  | nil => exact h
  | cons r registers ih => exact ih h.insert

/-- **All that a step can do**: how it is answered, and the file after it. -/
inductive Does (file : RegisterFile) : Step → Answer → RegisterFile → Prop
  | reserve (text : String) : Does file (.reserve text) .reserved (file.reserve text)
  /-- A name is given the register that it claims. -/
  | claim {text : String} {name : RegisterName} {r : Register} {assignment : Assignment}
      (hname : RegisterName.ofString? text = some name) (hclaim : file.claim? name = some r)
      (hwrites : Writes text name r assignment) :
      Does file (.allocate text) (.allocated (some assignment)) (file.take r)
  /-- A name that can claim no register is refused. -/
  | refuse {text : String} {name : RegisterName}
      (hname : RegisterName.ofString? text = some name) (hclaim : file.claim? name = none) :
      Does file (.allocate text) (.allocated none) file
  /-- A text that is no name is reserved. -/
  | keep {text : String} (hname : RegisterName.ofString? text = none) :
      Does file (.allocate text) (.allocated (some (.asWritten text))) (file.reserve text)
  | isTaken (r : Register) : Does file (.isTaken r) (.isTaken (r ∈ file.taken)) file

theorem step_allocate_of_some {assignment : Assignment}
    (h : file.allocate text = some (assignment, next)) :
    file.step (.allocate text) = (.allocated (some assignment), next) := by
  rw [RegisterFile.step, h]

theorem step_allocate_of_none (h : file.allocate text = none) :
    file.step (.allocate text) = (.allocated none, file) := by
  rw [RegisterFile.step, h]

theorem step_does (file : RegisterFile) (step : Step) :
    Does file step (file.step step).1 (file.step step).2 := by
  cases step with
  | reserve text => exact .reserve text
  | isTaken r => exact .isTaken r
  | allocate text =>
    cases hname : RegisterName.ofString? text with
    | none =>
      rw [step_allocate_of_some (file.allocate_of_no_name hname)]
      exact .keep hname
    | some name =>
      cases hallocate : file.allocate text with
      | none =>
        rw [step_allocate_of_none hallocate]
        exact .refuse hname ((allocate_eq_none_iff hname).mp hallocate)
      | some met =>
        obtain ⟨r, hclaim, hwrites, hnext⟩ := (allocate_eq_some_iff hname).mp hallocate
        rw [step_allocate_of_some hallocate, hnext]
        exact .claim hname hclaim hwrites

/-- A name's own register is taken, unless it is what the name claims. -/
theorem own_of_claim? (h : file.claim? name = some r) :
    name.register = r ∨ name.register ∈ file.taken := by
  by_cases hmem : name.register ∈ file.taken
  · exact Or.inr hmem
  · exact Or.inl ((claim?_eq_own_iff h).mpr hmem).symm

namespace Does

theorem encoding_eq (h : Does file step answer next) : next.encoding = file.encoding := by
  cases h with
  | reserve text => exact encoding_reserve file text
  | claim => exact encoding_take file _
  | refuse => rfl
  | keep => exact encoding_reserve file _
  | isTaken => rfl

/-- **A step takes what it uses**, and nothing else. -/
theorem mem_taken_iff (h : Does file step answer next) :
    r ∈ next.taken ↔ r ∈ file.taken ∨ step.Uses answer r := by
  cases h with
  | reserve text => simp [mem_reserve, Step.Uses, Step.text?, Answer.text?]
  | @claim text name own assignment hname hclaim hwrites =>
    have hgiven := hwrites.ofString? hname
    simp only [Step.Uses, Step.text?, Answer.text?, Option.mem_some_iff, exists_eq_left',
      mentions_iff_names hname, mentions_iff_names hgiven, names_iff hname, names_iff hgiven,
      mem_take]
    -- The register asked for is the one claimed, or was taken before.
    constructor
    · rintro (rfl | hmem)
      · exact Or.inr (Or.inr rfl)
      · exact Or.inl hmem
    · rintro (hmem | rfl | rfl)
      · exact Or.inr hmem
      · exact own_of_claim? hclaim
      · exact Or.inl rfl
  | @refuse text name hname hclaim =>
    have htaken := (claim?_eq_none_iff.mp hclaim).1
    simp only [Step.Uses, Step.text?, Answer.text?, Option.mem_some_iff, exists_eq_left',
      Option.not_mem_none, false_and, exists_false, or_false, mentions_iff_names hname,
      names_iff hname]
    exact ⟨Or.inl, fun h => h.elim id fun heq => heq ▸ htaken⟩
  | keep hname => simp [mem_reserve, Step.Uses, Step.text?, Answer.text?, Assignment.text]
  | isTaken => simp [Step.Uses, Step.text?, Answer.text?]

/-- **No step takes a register twice.** -/
theorem nodup (h : Does file step answer next) (hnodup : file.taken.Nodup) : next.taken.Nodup := by
  cases h with
  | reserve text => exact nodup_reserve hnodup text
  | claim => exact hnodup.insert
  | refuse => exact hnodup
  | keep => exact nodup_reserve hnodup _
  | isTaken => exact hnodup

/-- **What a name is answered with names a free register**, through the view asked for, and takes
just that one. -/
theorem exists_fresh {assignment : Assignment}
    (h : Does file (.allocate text) (.allocated (some assignment)) next)
    (hname : RegisterName.ofString? text = some name) :
    ∃ r, RegisterName.ofString? assignment.text = some ⟨r, name.view⟩ ∧ r ∉ file.taken ∧
      ∀ s, s ∈ next.taken ↔ s = r ∨ s ∈ file.taken := by
  cases h with
  | claim hname' hclaim hwrites =>
    obtain rfl := Option.some.inj (hname.symm.trans hname')
    exact ⟨_, hwrites.ofString? hname, notMem_of_claim? hclaim, fun s => mem_take⟩
  | keep hnone => exact absurd (hnone.symm.trans hname) nofun

/-- **A refusal changes nothing.** -/
theorem eq_of_refused (h : Does file (.allocate text) (.allocated none) next) : next = file := by
  cases h
  rfl

end Does

/-- **A name is refused exactly if it can claim nothing.** -/
theorem step_allocate_eq_none_iff :
    (file.step (.allocate text)).1 = .allocated none ↔
      ∃ name, RegisterName.ofString? text = some name ∧ file.claim? name = none := by
  have hdoes := file.step_does (.allocate text)
  generalize (file.step (.allocate text)).1 = answer at hdoes ⊢
  generalize (file.step (.allocate text)).2 = next at hdoes
  cases hdoes with
  | claim hname hclaim _ => simp [hname, hclaim]
  | refuse hname hclaim => simp [hname, hclaim]
  | keep hname => simp [hname]

/-! ## All steps -/

theorem encoding_after (file : RegisterFile) (steps : List Step) :
    (file.after steps).encoding = file.encoding := by
  induction steps generalizing file with
  | nil => rfl
  | cons step steps ih => exact (ih _).trans (file.step_does step).encoding_eq

theorem nodup_after (h : file.taken.Nodup) (steps : List Step) :
    (file.after steps).taken.Nodup := by
  induction steps generalizing file with
  | nil => exact h
  | cons step steps ih => exact ih ((file.step_does step).nodup h)

/-- **A file holds what it held and what its history has used.** -/
theorem mem_taken_after :
    r ∈ (file.after steps).taken ↔ r ∈ file.taken ∨ file.Used steps r := by
  induction steps generalizing file with
  | nil => simp [used_nil]
  | cons step steps ih =>
    rw [after_cons, ih, (file.step_does step).mem_taken_iff, used_cons, or_assoc]

theorem subset_after (file : RegisterFile) (steps : List Step) :
    file.taken ⊆ (file.after steps).taken :=
  fun _ hmem => mem_taken_after.mpr (Or.inl hmem)

/-- **What cannot be claimed can never be claimed again.** -/
theorem claim?_after_eq_none (h : file.claim? name = none) (steps : List Step) :
    (file.after steps).claim? name = none := by
  obtain ⟨hown, hspares⟩ := claim?_eq_none_iff.mp h
  have hsubset := file.subset_after steps
  rw [claim?_eq_none_iff, encoding_after]
  exact ⟨hsubset hown, fun s hs hview => hsubset (hspares s hs hview)⟩

/-- **No register is handed out twice.**  Take a fresh register file, any steps, then the allocation
of any text, and any steps after that.  At every point the file holds each register once, and it
holds those that the steps so far have used; none is ever given back.  A name is given a register
that no step before has used, through the view that it asks for, and takes just that one; any other
text is returned, and takes what reserving it takes.  A refusal changes nothing, and it is final. -/
theorem no_register_is_handed_out_twice (encoding : Encoding) (before later : List Step)
    (text : String) :
    let start : RegisterFile := { encoding }
    let file := start.after before
    let answer := (file.step (.allocate text)).1
    let next := (file.step (.allocate text)).2
    start.run (before ++ .allocate text :: later) =
        start.run before ++ (answer, next) :: next.run later ∧
      file.taken.Nodup ∧
      file.taken ⊆ (file.after later).taken ∧
      (∀ r, r ∈ file.taken ↔ start.Used before r) ∧
      (∀ name assignment, RegisterName.ofString? text = some name →
        answer = .allocated (some assignment) →
        ∃ r, RegisterName.ofString? assignment.text = some ⟨r, name.view⟩ ∧ r ∉ file.taken ∧
          ∀ s, s ∈ next.taken ↔ s = r ∨ s ∈ file.taken) ∧
      (RegisterName.ofString? text = none →
        answer = .allocated (some (.asWritten text)) ∧ next = (file.step (.reserve text)).2) ∧
      (answer = .allocated none →
        next = file ∧ ((next.after later).step (.allocate text)).1 = .allocated none) := by
  intro start file answer next
  have hdoes : Does file (.allocate text) answer next := file.step_does (.allocate text)
  refine ⟨run_append start before _, nodup_after List.nodup_nil before, file.subset_after later,
    fun r => ?_, fun name assignment hname hanswer => ?_, fun hname => ?_, fun hanswer => ?_⟩
  · rw [mem_taken_after]
    exact or_iff_right List.not_mem_nil
  · rw [hanswer] at hdoes
    exact hdoes.exists_fresh hname
  · exact Prod.ext_iff.mp (step_allocate_of_some (file.allocate_of_no_name hname))
  · rw [hanswer] at hdoes
    have hnext : next = file := hdoes.eq_of_refused
    obtain ⟨name, hname, hclaim⟩ := step_allocate_eq_none_iff.mp hanswer
    rw [hnext]
    exact ⟨rfl, step_allocate_eq_none_iff.mpr ⟨name, hname, claim?_after_eq_none hclaim later⟩⟩

/-- Beside a memory operand at `rbx` and `rcx` two high bytes are left.  A third one is refused,
then and after further steps, though a word still finds a register that no step has used. -/
theorem high_bytes_run_out_for_good :
    let start : RegisterFile := { encoding := .legacy }
    let file := start.after [.reserve "[rbx + 4*rcx]", .allocate "ch", .allocate "ch"]
    let later : List Step := [.reserve "AX, bp", .allocate "esi", .allocate "$cx"]
    (file.step (.allocate "ch")).1 = .allocated none ∧
      ((file.after later).step (.allocate "ch")).1 = .allocated none ∧
      (file.step (.allocate "CX")).1 = .allocated (some (.renamed "CX" "di")) ∧
      ∃ r, RegisterName.ofString? "di" = some ⟨r, .word⟩ ∧ r ∉ file.taken := by
  intro start file later
  have hnone : file.allocate "ch" = none := Option.isNone_iff_eq_none.mp (by decide)
  have hsome : (file.allocate "CX").map Prod.fst = some (.renamed "CX" "di") := by decide
  obtain ⟨⟨_, next⟩, hallocate, rfl⟩ := Option.map_eq_some_iff.mp hsome
  have hrefused := congrArg Prod.fst (step_allocate_of_none hnone)
  have hmoved := congrArg Prod.fst (step_allocate_of_some hallocate)
  have hname : RegisterName.ofString? "CX" = some ⟨⟨.general, 1⟩, .word⟩ := by decide
  obtain ⟨-, -, -, -, -, -, hfinal⟩ := no_register_is_handed_out_twice .legacy
    [.reserve "[rbx + 4*rcx]", .allocate "ch", .allocate "ch"] later "ch"
  obtain ⟨-, -, -, -, hfresh, -⟩ := no_register_is_handed_out_twice .legacy
    [.reserve "[rbx + 4*rcx]", .allocate "ch", .allocate "ch"] later "CX"
  obtain ⟨hsame, hlater⟩ := hfinal hrefused
  rw [hsame] at hlater
  obtain ⟨r, hr, hfree, -⟩ := hfresh _ _ hname hmoved
  exact ⟨hrefused, hlater, hmoved, r, hr, hfree⟩

end RegisterFile

end AsmForms
