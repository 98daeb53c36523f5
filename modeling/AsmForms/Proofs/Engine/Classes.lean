import AsmForms.Proofs.Engine.Assignment
import Mathlib.Data.List.Find

/-!
# Proofs/Engine/Classes — a run, one register class at a time

All classes share one register file, but a claim looks at the registers of its own class only and
takes one of them.  So files that **agree on** a class give the operands of that class the same
registers (`allocate_of_agreesOn`), and all other operands leave the agreement as it is
(`agreesOn_of_meet`).  The class's part of a run is thus a run of its own: what is given to the
operands of the class is what `serve` gives to their requests (`given_eq_serve`).
-/

namespace AsmForms

namespace Operand

/-- The class of the register that an operand asks for, if it may be moved. -/
def cls? (operand : Operand) : Option RegisterClass :=
  if operand.generated then (RegisterName.ofString? operand.text).map fun name => name.register.cls
  else none

theorem cls?_of_name {operand : Operand} (hgen : operand.generated = true) {name : RegisterName}
    (hname : RegisterName.ofString? operand.text = some name) :
    operand.cls? = some name.register.cls := by
  rw [cls?, if_pos hgen, hname]
  rfl

theorem exists_name_of_cls? {operand : Operand} {cls : RegisterClass}
    (h : operand.cls? = some cls) :
    operand.generated = true ∧ ∃ name, RegisterName.ofString? operand.text = some name ∧
      name.register.cls = cls := by
  rw [cls?] at h
  split at h
  next hgen => exact ⟨hgen, Option.map_eq_some_iff.mp h⟩
  next => exact absurd h nofun

/-- What the operands of a class ask for, in order. -/
def requests (cls : RegisterClass) (operands : List Operand) : List String :=
  (operands.filter fun operand => operand.cls? == some cls).map text

/-- What the operands of a class are given, in order. -/
def given (cls : RegisterClass) (operands : List Operand) (texts : List String) : List String :=
  ((operands.zip texts).filter fun written => written.1.cls? == some cls).map Prod.snd

section

variable {cls : RegisterClass} {operand : Operand} {operands : List Operand}

@[simp] theorem requests_nil : requests cls [] = [] := rfl

theorem requests_cons_of_cls (h : operand.cls? = some cls) :
    requests cls (operand :: operands) = operand.text :: requests cls operands := by
  simp [requests, h]

theorem requests_cons_of_ne (h : operand.cls? ≠ some cls) :
    requests cls (operand :: operands) = requests cls operands := by
  simp [requests, h]

theorem given_cons_of_cls (h : operand.cls? = some cls) (text : String) (texts : List String) :
    given cls (operand :: operands) (text :: texts) = text :: given cls operands texts := by
  simp [given, h]

theorem given_cons_of_ne (h : operand.cls? ≠ some cls) (text : String) (texts : List String) :
    given cls (operand :: operands) (text :: texts) = given cls operands texts := by
  simp [given, h]

end

end Operand

theorem Encoding.spares_congr {cls : RegisterClass} {e e' : Encoding}
    (h : cls = .general → e = e') : e.spares cls = e'.spares cls := by
  cases cls with
  | general => rw [h rfl]
  | mmx => rfl
  | vector => rfl

namespace RegisterFile

variable {cls : RegisterClass} {file file' next : RegisterFile} {name : RegisterName}
  {text : String} {assignment : Assignment} {operand : Operand} {operands : List Operand}
  {r : Register}

/-! ## Agreement on a class -/

/-- Two files **agree on** a class: it has the same spares in both, and the same registers of it are
taken. -/
def AgreesOn (cls : RegisterClass) (file file' : RegisterFile) : Prop :=
  file.encoding.spares cls = file'.encoding.spares cls ∧
    ∀ r : Register, r.cls = cls → (r ∈ file.taken ↔ r ∈ file'.taken)

theorem AgreesOn.symm (h : AgreesOn cls file file') : AgreesOn cls file' file :=
  ⟨h.1.symm, fun r hr => (h.2 r hr).symm⟩

theorem AgreesOn.take (h : AgreesOn cls file file') (r : Register) :
    AgreesOn cls (file.take r) (file'.take r) :=
  ⟨h.1, fun s hs => by rw [mem_take, mem_take, h.2 s hs]⟩

theorem AgreesOn.take_left (h : AgreesOn cls file file') (hr : r.cls ≠ cls) :
    AgreesOn cls (file.take r) file' := by
  refine ⟨h.1, fun s hs => ?_⟩
  have hne : s ≠ r := fun heq => hr (heq ▸ hs)
  rw [mem_take, or_iff_right hne, h.2 s hs]

/-- **A claim looks at its own class only.** -/
theorem claim?_congr (h : AgreesOn name.register.cls file file') :
    file.claim? name = file'.claim? name := by
  have hserve : ∀ s ∈ file.encoding.spares name.register.cls,
      file.canServe name s = file'.canServe name s := by
    intro s hs
    rw [canServe, canServe, decide_eq_decide.mpr (h.2 s (cls_of_mem_spares hs))]
  rw [claim?, claim?, ← h.1]
  simp only [h.2 name.register rfl, List.find?_congr hserve]

/-- **Files that agree on a class give its names the same registers**, and still agree. -/
theorem allocate_of_agreesOn (h : AgreesOn cls file file')
    (hname : RegisterName.ofString? text = some name) (hcls : name.register.cls = cls)
    (hallocate : file.allocate text = some (assignment, next)) :
    ∃ next', file'.allocate text = some (assignment, next') ∧ AgreesOn cls next next' := by
  obtain ⟨r, hclaim, hwrites, rfl⟩ := (allocate_eq_some_iff hname).mp hallocate
  subst hcls
  rw [claim?_congr h] at hclaim
  exact ⟨_, (allocate_eq_some_iff hname).mpr ⟨r, hclaim, hwrites, rfl⟩, h.take r⟩

/-- **An operand that asks for no register of a class leaves the class alone.** -/
theorem agreesOn_of_meet (hsound : operand.Sound) (hne : operand.cls? ≠ some cls)
    (hmeet : file.meet operand = some (assignment, next)) (h : AgreesOn cls file file') :
    AgreesOn cls next file' := by
  rcases meet_cases hsound hmeet with ⟨hgen, name, r, hname, hclaim, -, rfl⟩ | ⟨-, -, rfl⟩
  · refine h.take_left fun hr => hne ?_
    rw [Operand.cls?_of_name hgen hname, ← cls_of_claim? hclaim, hr]
  · exact h

/-- **An operand is met alike in files that agree on its class**, and whatever else they agree on,
they agree on afterwards. -/
theorem meet_of_agreesOn (hsound : operand.Sound)
    (h : ∀ cls, operand.cls? = some cls → AgreesOn cls file file')
    (hmeet : file.meet operand = some (assignment, next)) :
    ∃ next', file'.meet operand = some (assignment, next') ∧
      ∀ cls, AgreesOn cls file file' → AgreesOn cls next next' := by
  rcases meet_cases hsound hmeet with ⟨hgen, name, r, hname, hclaim, hwrites, rfl⟩ |
    ⟨hfixed, rfl, rfl⟩
  · rw [claim?_congr (h _ (Operand.cls?_of_name hgen hname))] at hclaim
    refine ⟨file'.take r, ?_, fun cls hagree => hagree.take r⟩
    rw [meet_of_generated hgen, allocate_eq_some_iff hname]
    exact ⟨r, hclaim, hwrites, rfl⟩
  · exact ⟨file', meet_of_fixed hfixed, fun _ hagree => hagree⟩

/-- **What is handed out is of the class that is asked for.** -/
theorem cls?_of_names_assigned {i : Nat} (hsound : ∀ operand ∈ operands, operand.Sound)
    (ho : operands[i]? = some operand) (hgen : operand.generated = true)
    (ha : (file.assign operands).assigned[i]? = some assignment) (h : Names assignment.text r) :
    operand.cls? = some r.cls := by
  obtain ⟨_, name, s, -, hname, hclaim, hwrites⟩ := claim_of_assigned hsound ho hgen ha
  obtain rfl := (names_iff (hwrites.ofString? hname)).mp h
  rw [Operand.cls?_of_name hgen hname, cls_of_claim? hclaim]

/-! ## The part of a class in a run -/

/-- What some requests are given in turn, up to the first that cannot be met. -/
def serve (file : RegisterFile) : List String → List String
  | [] => []
  | text :: texts =>
    match file.allocate text with
    | none => []
    | some (assignment, next) => assignment.text :: next.serve texts

theorem serve_cons_of_some (h : file.allocate text = some (assignment, next))
    (texts : List String) :
    file.serve (text :: texts) = assignment.text :: next.serve texts := by
  rw [serve, h]

/-- **Later requests do not change what earlier ones are given.** -/
theorem serve_prefix_append (file : RegisterFile) (texts texts' : List String) :
    file.serve texts <+: file.serve (texts ++ texts') := by
  induction texts generalizing file with
  | nil => exact List.nil_prefix
  | cons text texts ih =>
    rw [List.cons_append, serve, serve]
    cases file.allocate text with
    | none => exact List.prefix_rfl
    | some met => exact (List.prefix_cons_inj _).mpr (ih met.2)

/-- **What a class is given in a run depends on its requests only**, and on the registers of the
class that are taken at the start. -/
theorem given_eq_serve (hsound : ∀ operand ∈ operands, operand.Sound)
    (hunmet : (file.assign operands).unmet = none) (h : AgreesOn cls file file') :
    Operand.given cls operands ((file.assign operands).assigned.map Assignment.text) =
      file'.serve (Operand.requests cls operands) := by
  induction operands generalizing file file' with
  | nil => rfl
  | cons operand operands ih =>
    rw [List.forall_mem_cons] at hsound
    obtain ⟨assignment, next, hmeet, hrest⟩ := unmet_cons_eq_none_iff.mp hunmet
    rw [assign_cons_of_some hmeet, List.map_cons]
    by_cases hcls : operand.cls? = some cls
    · obtain ⟨hgen, name, hname, hclass⟩ := Operand.exists_name_of_cls? hcls
      rw [meet_of_generated hgen] at hmeet
      obtain ⟨next', hmeet', hnext⟩ := allocate_of_agreesOn h hname hclass hmeet
      rw [Operand.given_cons_of_cls hcls, Operand.requests_cons_of_cls hcls,
        serve_cons_of_some hmeet']
      exact congrArg (assignment.text :: ·) (ih hsound.2 hrest hnext)
    · rw [Operand.given_cons_of_ne hcls, Operand.requests_cons_of_ne hcls]
      exact ih hsound.2 hrest (agreesOn_of_meet hsound.1 hcls hmeet h)

end RegisterFile

end AsmForms
