import AsmForms.Proofs.Engine.Requests

/-!
# Proofs/Interference — register classes and later operands do not interfere

Two forms, in whatever engines, may differ in everything but the registers of one class: if the
first asks for some registers of the class, the second asks for these and then perhaps for more, and
the fixed operands of both mention the same registers of it, then the second writes what the first
writes for the class, and then perhaps more (`classes_do_not_interfere`).
-/

namespace AsmForms

namespace Engine

variable {engine : Engine} {form : Form} {template : String} {operand : Operand}
  {operands : List Operand} {templates : List String}

/-- What the templates of a form **ask for** in a class: the register names of the class that they
resolve to, in order. -/
def asked (engine : Engine) (form : Form) (cls : RegisterClass) : List String :=
  ((engine.kept form).filter fun template => engine.cls? form template == some cls).filterMap
    (engine.text? form)

/-- What these templates are **given** in an instruction of the form, in order. -/
def given (engine : Engine) (form : Form) (instruction : Instruction) (cls : RegisterClass) :
    List String :=
  (((engine.kept form).zip instruction.operands).filter fun written =>
    engine.cls? form written.1 == some cls).map Prod.snd

/-! ## The operands that the templates are read as -/

theorem asked_eq_requests (h : List.Forall₂ (engine.Reads form) templates operands)
    (cls : RegisterClass) :
    (templates.filter fun template => engine.cls? form template == some cls).filterMap
        (engine.text? form) = Operand.requests cls operands := by
  induction h with
  | nil => rfl
  | @cons template operand _ _ hread _ ih =>
    by_cases hcls : operand.cls? = some cls
    · rw [Operand.requests_cons_of_cls hcls,
        List.filter_cons_of_pos (by simp [hread.cls?_eq, hcls]),
        List.filterMap_cons_some hread.text?_eq, ih]
    · rw [Operand.requests_cons_of_ne hcls, List.filter_cons_of_neg (by simp [hread.cls?_eq, hcls]),
        ih]

theorem given_eq_given (h : List.Forall₂ (engine.Reads form) templates operands)
    (cls : RegisterClass) (texts : List String) :
    ((templates.zip texts).filter fun written =>
        engine.cls? form written.1 == some cls).map Prod.snd =
      Operand.given cls operands texts := by
  induction h generalizing texts with
  | nil => rfl
  | @cons template operand _ _ hread _ ih =>
    cases texts with
    | nil => rfl
    | cons text texts =>
      by_cases hcls : operand.cls? = some cls
      · rw [Operand.given_cons_of_cls hcls, List.zip_cons_cons,
          List.filter_cons_of_pos (by simp [hread.cls?_eq, hcls]), List.map_cons, ih]
      · rw [Operand.given_cons_of_ne hcls, List.zip_cons_cons,
          List.filter_cons_of_neg (by simp [hread.cls?_eq, hcls]), ih]

/-- **What a class is given depends on its requests**, from any file that agrees on the class with
the one the form starts in. -/
theorem given_eq_serve {instruction : Instruction} {cls : RegisterClass} {file : RegisterFile}
    (h : engine.instantiate form = .ok instruction)
    (hspares : form.encoding.spares cls = file.encoding.spares cls)
    (htaken : ∀ r : Register, r.cls = cls → (engine.FixedMention form r ↔ r ∈ file.taken)) :
    engine.given form instruction cls = file.serve (engine.asked form cls) := by
  obtain ⟨operands, hread, hunmet, rfl⟩ := instantiate_eq_ok_iff.mp h
  have hreads := forall₂_reads_operands hread
  rw [asked, asked_eq_requests hreads, given, given_eq_given hreads]
  refine RegisterFile.given_eq_serve (sound_of_operands hread) hunmet ⟨?_, fun r hr => ?_⟩
  · rw [RegisterFile.encoding_ofFixed, hspares]
  · rw [mem_taken_ofFixed_iff hread, htaken r hr]

end Engine

/-- **Classes and later operands do not interfere.**  Take two forms, in any two engines, that
become instructions, and a class of registers; general registers are compared within one encoding.
If what the first form asks for in the class begins what the second asks for, and the fixed operands
of both mention the same registers of the class, then what the first form is given begins what the
second is given. -/
theorem classes_do_not_interfere (engine engine' : Engine) (form form' : Form)
    (instruction instruction' : Instruction) (cls : RegisterClass)
    (h : engine.instantiate form = .ok instruction)
    (h' : engine'.instantiate form' = .ok instruction')
    (hencoding : cls = .general → form.encoding = form'.encoding)
    (hasked : engine.asked form cls <+: engine'.asked form' cls)
    (hfixed : ∀ r : Register, r.cls = cls →
      (engine.FixedMention form r ↔ engine'.FixedMention form' r)) :
    engine.given form instruction cls <+: engine'.given form' instruction' cls := by
  -- Both parts are runs of their own from the file that the second form starts in.
  obtain ⟨operands', hread', -, -⟩ := Engine.instantiate_eq_ok_iff.mp h'
  let file := RegisterFile.ofFixed form'.encoding operands'
  have hstart (r : Register) : engine'.FixedMention form' r ↔ r ∈ file.taken :=
    (Engine.mem_taken_ofFixed_iff hread').symm
  have hencoding' : file.encoding = form'.encoding := RegisterFile.encoding_ofFixed _ _
  have hgiven : engine.given form instruction cls = file.serve (engine.asked form cls) := by
    refine Engine.given_eq_serve h ?_ fun r hr => (hfixed r hr).trans (hstart r)
    rw [hencoding', Encoding.spares_congr hencoding]
  have hgiven' : engine'.given form' instruction' cls = file.serve (engine'.asked form' cls) :=
    Engine.given_eq_serve h' (by rw [hencoding']) fun r _ => hstart r
  obtain ⟨more, hmore⟩ := hasked
  rw [hgiven, hgiven', ← hmore]
  exact RegisterFile.serve_prefix_append file _ more

/-- A vector operand, another spelling of the fixed register and a byte operand are added to
`SHL r32, CL`, in another engine: the double word still becomes `edi`. -/
theorem shift_operand_keeps_its_register :
    let engine := Engine.ofConfig Table.empty {}
    let engine' := Engine.ofConfig (.ofDefinitions [("xmm", .literal "xmm5")])
      ⟨.nasm, .passthrough, "top"⟩
    let form : Form := ⟨"SHL", ["r32", "CL"], .legacy⟩
    let form' : Form := ⟨"X", ["xmm", "cx", "CL", "r32", "r8"], .legacy⟩
    let instruction : Instruction := ⟨"SHL", ["edi", "CL"]⟩
    let instruction' : Instruction := ⟨"X", ["xmm5", "cx", "CL", "edi", "dh"]⟩
    engine.instantiate form = .ok instruction ∧ engine'.instantiate form' = .ok instruction' ∧
      engine.asked form .general <+: engine'.asked form' .general ∧
      (∀ r : Register, r.cls = .general →
        (engine.FixedMention form r ↔ engine'.FixedMention form' r)) ∧
      engine.given form instruction .general <+: engine'.given form' instruction' .general := by
  intro engine engine' form form' instruction instruction'
  have h : engine.instantiate form = .ok instruction := by decide
  have h' : engine'.instantiate form' = .ok instruction' := by decide
  have hasked : engine.asked form .general <+: engine'.asked form' .general := ⟨["ch"], by decide⟩
  have hread : engine.operands form = .ok [⟨"r32", "ecx", true⟩, ⟨"CL", "CL", false⟩] := by decide
  have hread' : engine'.operands form' = .ok [⟨"xmm", "xmm5", true⟩, ⟨"cx", "cx", false⟩,
      ⟨"CL", "CL", false⟩, ⟨"r32", "ecx", true⟩, ⟨"r8", "ch", true⟩] := by
    decide
  have hfixed (r : Register) (_ : r.cls = .general) :
      engine.FixedMention form r ↔ engine'.FixedMention form' r := by
    rw [← Engine.mem_taken_ofFixed_iff hread, ← Engine.mem_taken_ofFixed_iff hread']
    exact Iff.of_eq (congrArg (r ∈ ·) (by decide))
  exact ⟨h, h', hasked, hfixed, classes_do_not_interfere engine engine' form form' instruction
    instruction' .general h h' (fun _ => rfl) hasked hfixed⟩

end AsmForms
