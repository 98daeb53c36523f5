import AsmForms.Proofs.Engine.Assignment
import AsmForms.Proofs.Register.Pool

/-!
# Proofs/Deletion — a form without some of its operands is still an instruction

Leaving operands out changes which registers the others are given, and it may change the width of
the role that has two.  Still, if a form becomes an instruction, so does every form of the same
encoding with fewer operands (`instantiate_of_sublist`).

The two runs are compared step by step.  They choose differently, but the registers taken in the
smaller run are always among those taken in the larger one (`RegisterFile.Within`): where the
choices differ, the smaller run has chosen a register that the larger one has taken already.
-/

namespace AsmForms

/-! ## Searches and lists -/

section Search

variable {α β : Type*}

/-- A search that accepts more finds something, and something new or the same. -/
theorem exists_find?_of_imp {p q : α → Bool} (hpq : ∀ x, p x = true → q x = true) {l : List α}
    {a : α} (h : l.find? p = some a) : ∃ b, l.find? q = some b ∧ (p b = true → b = a) := by
  induction l with
  | nil => exact absurd h nofun
  | cons x l ih =>
    by_cases hp : p x = true
    · rw [List.find?_cons_of_pos hp] at h
      exact ⟨x, List.find?_cons_of_pos (hpq x hp), fun _ => Option.some.inj h⟩
    · rw [List.find?_cons_of_neg hp] at h
      by_cases hq : q x = true
      · exact ⟨x, List.find?_cons_of_pos hq, fun hp' => absurd hp' hp⟩
      · obtain ⟨b, hb, hba⟩ := ih h
        exact ⟨b, by rw [List.find?_cons_of_neg hq, hb], hba⟩

theorem exists_mem_of_sublistForall₂ {R : α → β → Prop} {l : List α} {l' : List β}
    (h : List.SublistForall₂ R l l') {a : α} (ha : a ∈ l) : ∃ b ∈ l', R a b := by
  induction h with
  | nil => exact absurd ha List.not_mem_nil
  | cons hab _ ih =>
    rcases List.mem_cons.mp ha with rfl | ha
    · exact ⟨_, List.mem_cons_self, hab⟩
    · obtain ⟨b, hb, hab⟩ := ih ha
      exact ⟨b, List.mem_cons_of_mem _ hb, hab⟩
  | cons_right _ ih =>
    obtain ⟨b, hb, hab⟩ := ih ha
    exact ⟨b, List.mem_cons_of_mem _ hb, hab⟩

end Search

/-! ## Operands that ask for the same register -/

/-- Names of one register, through views that the same registers have. -/
def RegisterName.Alike (name' name : RegisterName) : Prop :=
  name'.register = name.register ∧ ∀ r, (name'.on r).isSome = (name.on r).isSome

/-- Operands that mention the same registers if they are fixed, and ask for the same one if they are
generated. -/
def Operand.Alike (operand' operand : Operand) : Prop :=
  operand'.generated = operand.generated ∧
    (operand.generated = false → operand'.text = operand.text) ∧
    ∀ name, RegisterName.ofString? operand.text = some name →
      ∃ name', RegisterName.ofString? operand'.text = some name' ∧ name'.Alike name

theorem RegisterName.Alike.refl (name : RegisterName) : name.Alike name :=
  ⟨rfl, fun _ => rfl⟩

theorem Operand.Alike.refl (operand : Operand) : operand.Alike operand :=
  ⟨rfl, fun _ => rfl, fun name hname => ⟨name, hname, .refl name⟩⟩

/-! ## The role with two widths -/

/-- What is resolved for the role at two widths is alike. -/
theorem Reading.exists_alike_wideRegister (encoding : Encoding) (w w' : Width)
    (template : String) :
    ∃ operand operand', Reading.ofResolved template (encoding.wideRegister w) = .operand operand ∧
      Reading.ofResolved template (encoding.wideRegister w') = .operand operand' ∧
      operand'.Alike operand := by
  obtain ⟨r, hr⟩ := encoding.exists_ofString?_wideRegister
  refine ⟨_, _, Engine.ofResolved_of_ne (RegisterName.ne_empty_of_ofString? (hr w)) template,
    Engine.ofResolved_of_ne (RegisterName.ne_empty_of_ofString? (hr w')) template, ?_, ?_, ?_⟩
  · rw [hr w, hr w']
    rfl
  · intro hfixed
    rw [hr w] at hfixed
    exact absurd hfixed nofun
  · intro name hname
    obtain rfl := Option.some.inj ((hr w).symm.trans hname)
    exact ⟨_, hr w', rfl, Width.isSome_spell_view w w'⟩

/-! ## Reading with fewer templates -/

namespace Engine

variable {engine : Engine} {form form' : Form}

/-- **The width of a form makes no difference** to whether a template is read, nor to the register
that it asks for. -/
theorem read_alike (engine : Engine) (encoding : Encoding) (w w' : Width) (template : String) :
    (∀ operand, engine.read encoding w template = .operand operand →
      ∃ operand', engine.read encoding w' template = .operand operand' ∧
        operand'.Alike operand) ∧
    (engine.read encoding w template = .absent → engine.read encoding w' template = .absent) := by
  simp only [read]
  cases engine.table.translate engine.branchText template with
  | operand text => exact ⟨fun operand h => ⟨operand, h, .refl operand⟩, id⟩
  | absent => exact ⟨fun operand h => ⟨operand, h, .refl operand⟩, id⟩
  | unhandled =>
    by_cases hwide : template = wideRole
    · subst hwide
      obtain ⟨operand, operand', hread, hread', halike⟩ :=
        Reading.exists_alike_wideRegister encoding w w' wideRole
      simp only [Encoding.resolve_wideRole, hread, hread']
      refine ⟨fun asked h => ?_, fun h => by cases h⟩
      obtain rfl := Reading.operand.inj h
      exact ⟨operand', rfl, halike⟩
    · simp only [Encoding.resolve, if_neg hwide]
      exact ⟨fun operand h => ⟨operand, h, .refl operand⟩, id⟩

/-- A template that is no violation is none in another form of the same encoding, and its operands
in both are alike. -/
theorem operand?_alike (hencoding : form'.encoding = form.encoding) {template : String}
    {operand? : Option Operand} (h : engine.operand? form template = .ok operand?) :
    ∃ operand?', engine.operand? form' template = .ok operand?' ∧
      Option.Rel Operand.Alike operand?' operand? := by
  obtain ⟨hoperand, habsent⟩ :=
    read_alike engine form.encoding form.width form'.width template
  rw [← hencoding] at hoperand habsent
  rcases operand?_eq_ok_iff.mp h with ⟨operand, hread, rfl⟩ | ⟨hread, hmark, rfl⟩
  · rw [← hencoding] at hread
    obtain ⟨operand', hread', halike⟩ := hoperand operand hread
    exact ⟨_, operand?_eq_ok_iff.mpr (Or.inl ⟨operand', hread', rfl⟩), .some halike⟩
  · rw [← hencoding] at hread
    exact ⟨_, operand?_eq_ok_iff.mpr (Or.inr ⟨habsent hread, hmark, rfl⟩), .none⟩

/-- **If templates can be read, so can fewer of them**, as operands alike. -/
theorem operandsOf_of_sublist (hencoding : form'.encoding = form.encoding)
    {templates templates' : List String} (hsub : templates'.Sublist templates)
    {operands : List Operand} (h : engine.operandsOf form templates = .ok operands) :
    ∃ operands', engine.operandsOf form' templates' = .ok operands' ∧
      List.SublistForall₂ Operand.Alike operands' operands := by
  induction hsub generalizing operands with
  | slnil => exact ⟨[], rfl, .nil⟩
  | cons template hsub ih =>
    obtain ⟨operand?, rest, -, hrest, rfl⟩ := operandsOf_cons_eq_ok.mp h
    obtain ⟨operands', hread, halike⟩ := ih hrest
    refine ⟨operands', hread, ?_⟩
    cases operand? with
    | none => exact halike
    | some operand => exact .cons_right halike
  | cons_cons template hsub ih =>
    obtain ⟨operand?, rest, hoperand, hrest, rfl⟩ := operandsOf_cons_eq_ok.mp h
    obtain ⟨operands', hread, halike⟩ := ih hrest
    obtain ⟨operand?', hoperand', hrel⟩ := operand?_alike hencoding hoperand
    refine ⟨_, operandsOf_cons_eq_ok.mpr ⟨_, _, hoperand', hread, rfl⟩, ?_⟩
    cases hrel with
    | none => exact halike
    | some hhead => exact .cons hhead halike

end Engine

namespace RegisterFile

variable {small large next : RegisterFile} {name name' : RegisterName} {r : Register}
  {operand operand' : Operand} {operands operands' : List Operand} {assignment : Assignment}

/-- The registers taken in one file are **within** those of another. -/
def Within (small large : RegisterFile) : Prop :=
  small.encoding = large.encoding ∧ ∀ r ∈ small.taken, r ∈ large.taken

/-! ## Two runs, step by step -/

/-- **With fewer registers taken something can still be claimed**: what is claimed with more, or a
register that is taken there. -/
theorem claim?_of_within (hwithin : small.Within large) (halike : name'.Alike name)
    (h : large.claim? name = some r) :
    ∃ s, small.claim? name' = some s ∧ (s ∈ large.taken ∨ s = r) := by
  obtain ⟨hencoding, hsub⟩ := hwithin
  obtain ⟨hregister, hviews⟩ := halike
  by_cases hsmall : name'.register ∈ small.taken
  · have hlarge : name.register ∈ large.taken := hregister ▸ hsub _ hsmall
    rw [claim?_of_mem hlarge] at h
    have hserve : ∀ s, large.canServe name s = true → small.canServe name' s = true := by
      intro s hs
      rw [canServe_iff] at hs ⊢
      exact ⟨fun hmem => hs.1 (hsub s hmem), (hviews s).trans hs.2⟩
    obtain ⟨s, hs, hsame⟩ := exists_find?_of_imp hserve h
    refine ⟨s, by rw [claim?_of_mem hsmall, hencoding, hregister, hs], ?_⟩
    by_cases hmem : s ∈ large.taken
    · exact Or.inl hmem
    · have hview := (canServe_iff.mp (List.find?_some hs)).2
      exact Or.inr (hsame (canServe_iff.mpr ⟨hmem, (hviews s).symm.trans hview⟩))
  · refine ⟨name'.register, claim?_of_notMem hsmall, ?_⟩
    by_cases hlarge : name.register ∈ large.taken
    · exact Or.inl (hregister ▸ hlarge)
    · rw [claim?_of_notMem hlarge] at h
      exact Or.inr (hregister.trans (Option.some.inj h))

/-- **What the larger run meets, the smaller run meets**, and stays within it. -/
theorem meet_of_within (hsound : operand.Sound) (halike : operand'.Alike operand)
    (hwithin : small.Within large) (h : large.meet operand = some (assignment, next)) :
    ∃ assignment' next', small.meet operand' = some (assignment', next') ∧
      next'.Within next := by
  obtain ⟨hgenerated, -, hnames⟩ := halike
  rcases meet_cases hsound h with ⟨hgen, name, r, hname, hclaim, -, rfl⟩ | ⟨hfixed, -, rfl⟩
  · obtain ⟨name', hname', hname_alike⟩ := hnames name hname
    obtain ⟨s, hclaim', hs⟩ := claim?_of_within hwithin hname_alike hclaim
    obtain ⟨assignment', hwrites⟩ := exists_writes_of_claim? hclaim' operand'.text
    refine ⟨assignment', small.take s, ?_, hwithin.1, fun t ht => ?_⟩
    · rw [meet_of_generated (hgenerated.trans hgen), allocate_eq_some_iff hname']
      exact ⟨s, hclaim', hwrites, rfl⟩
    · rw [mem_take] at ht ⊢
      rcases ht with rfl | ht
      · exact hs.symm
      · exact Or.inr (hwithin.2 t ht)
  · exact ⟨_, small, meet_of_fixed (hgenerated.trans hfixed), hwithin⟩

/-- What only the larger run meets leaves the smaller run within it. -/
theorem within_of_meet (hsound : operand.Sound) (hwithin : small.Within large)
    (h : large.meet operand = some (assignment, next)) : small.Within next := by
  obtain ⟨hencoding, htaken⟩ := mem_taken_of_meet hsound h
  exact ⟨hwithin.1.trans hencoding.symm, fun r hr => (htaken r).mpr (Or.inl (hwithin.2 r hr))⟩

/-- **If all operands of the larger run are met, so are those of the smaller run.** -/
theorem unmet_of_within
    (halike : List.SublistForall₂ Operand.Alike operands' operands)
    (hsound : ∀ operand ∈ operands, operand.Sound) (hwithin : small.Within large)
    (h : (large.assign operands).unmet = none) : (small.assign operands').unmet = none := by
  induction halike generalizing small large with
  | nil => rfl
  | cons hhead _ ih =>
    rw [List.forall_mem_cons] at hsound
    obtain ⟨assignment, next, hmeet, hrest⟩ := unmet_cons_eq_none_iff.mp h
    obtain ⟨assignment', next', hmeet', hwithin'⟩ := meet_of_within hsound.1 hhead hwithin hmeet
    exact unmet_cons_eq_none_iff.mpr ⟨_, _, hmeet', ih hsound.2 hwithin' hrest⟩
  | cons_right _ ih =>
    rw [List.forall_mem_cons] at hsound
    obtain ⟨assignment, next, hmeet, hrest⟩ := unmet_cons_eq_none_iff.mp h
    exact ih hsound.2 (within_of_meet hsound.1 hwithin hmeet) hrest

/-- **The smaller run starts within the larger one**: fewer fixed operands take fewer registers. -/
theorem within_ofFixed {encoding : Encoding}
    (halike : List.SublistForall₂ Operand.Alike operands' operands) :
    (ofFixed encoding operands').Within (ofFixed encoding operands) := by
  refine ⟨by rw [encoding_ofFixed, encoding_ofFixed], fun r hr => ?_⟩
  obtain ⟨operand', hmem', hfixed', hmentions⟩ := mem_taken_ofFixed.mp hr
  obtain ⟨operand, hmem, hgenerated, htext, -⟩ := exists_mem_of_sublistForall₂ halike hmem'
  have hfixed : operand.generated = false := hgenerated.symm.trans hfixed'
  exact mem_taken_ofFixed.mpr ⟨operand, hmem, hfixed, htext hfixed ▸ hmentions⟩

end RegisterFile

/-- **A form with fewer operands is still an instruction.**  If a form becomes an instruction, so
does every form of the same encoding whose templates are some of its templates, in order. -/
theorem instantiate_of_sublist (engine : Engine) (form form' : Form)
    (hencoding : form'.encoding = form.encoding)
    (hsub : form'.templates.Sublist form.templates) (instruction : Instruction)
    (h : engine.instantiate form = .ok instruction) :
    ∃ instruction', engine.instantiate form' = .ok instruction' := by
  obtain ⟨operands, hread, hunmet, -⟩ := Engine.instantiate_eq_ok_iff.mp h
  obtain ⟨operands', hread', halike⟩ := Engine.operandsOf_of_sublist hencoding hsub hread
  refine ⟨_, Engine.instantiate_eq_ok_iff.mpr ⟨operands', hread', ?_, rfl⟩⟩
  rw [hencoding]
  exact RegisterFile.unmet_of_within halike (Engine.sound_of_operands hread)
    (RegisterFile.within_ofFixed halike) hunmet

/-- Without `r32` and `CL` the remaining operands are given other registers, and `reg` another
width: `XADD edi, edx, bh, CL` becomes `XADD rdx, ch`. -/
theorem xadd_without_two_operands :
    let engine := Engine.ofConfig Table.empty {}
    let form : Form := ⟨"XADD", ["r32", "reg", "r8", "CL"], .legacy⟩
    let form' : Form := ⟨"XADD", ["reg", "r8"], .legacy⟩
    form'.encoding = form.encoding ∧ form'.templates.Sublist form.templates ∧
      engine.instantiate form = .ok ⟨"XADD", ["edi", "edx", "bh", "CL"]⟩ ∧
      engine.instantiate form' = .ok ⟨"XADD", ["rdx", "ch"]⟩ ∧
      ∃ instruction', engine.instantiate form' = .ok instruction' := by
  intro engine form form'
  have hsub : form'.templates.Sublist form.templates := by decide
  have h : engine.instantiate form = .ok ⟨"XADD", ["edi", "edx", "bh", "CL"]⟩ := by
    decide
  have h' : engine.instantiate form' = .ok ⟨"XADD", ["rdx", "ch"]⟩ := by decide
  exact ⟨rfl, hsub, h, h', instantiate_of_sublist engine form form' rfl hsub _ h⟩

end AsmForms
