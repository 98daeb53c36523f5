import AsmForms.Proofs.Register.Claim

/-!
# Proofs/Register/Pool — the registers that an encoding hands out

A template asks for a register through a view: the roles through a general view, which the width of
the form decides for the role that has two.  A text that names a spare of its class through a view
is **offered** for it (`Encoding.Offers`).  All roles ask for offered names, and what is claimed for
an offered name is offered for the same view (`RegisterFile.offers_of_writes`): the pool of a class
is closed under moves.
-/

namespace AsmForms

/-! ## The views of the roles -/

namespace Width

/-- The view that a width gives access to. -/
def view : Width → View
  | .dword => .dword
  | .qword => .qword

/-- **The same registers are spelled at both widths.** -/
theorem isSome_spell_view (w w' : Width) (r : Register) :
    (w'.view.spell r).isSome = (w.view.spell r).isSome := by
  obtain ⟨cls, n⟩ := r
  cases cls with
  | general =>
    rw [Bool.eq_iff_iff, View.isSome_spell_general, View.isSome_spell_general]
    cases w <;> cases w' <;> rfl
  | mmx => cases w <;> cases w' <;> rfl
  | vector => cases w <;> cases w' <;> rfl

end Width

/-- **The role names one register**, at whatever width. -/
theorem Encoding.exists_ofString?_wideRegister (encoding : Encoding) :
    ∃ r, ∀ w, RegisterName.ofString? (encoding.wideRegister w) = some ⟨r, w.view⟩ := by
  cases encoding with
  | legacy => exact ⟨⟨.general, 2⟩, fun w => by cases w <;> decide⟩
  | extended => exact ⟨⟨.general, 11⟩, fun w => by cases w <;> decide⟩

theorem Encoding.resolve_wideRole (encoding : Encoding) (w : Width) :
    encoding.resolve w wideRole = some (encoding.wideRegister w) :=
  if_pos rfl

/-- The view that a role asks for.  The byte is the high one where only the first four registers
have a low one. -/
def Role.view : Encoding → Role → View
  | .legacy, .r8 => .highByte
  | .extended, .r8 => .byte
  | _, .r16 => .word
  | _, .r32 => .dword
  | _, .r32a => .dword
  | _, .r32b => .dword
  | _, .r64 => .qword
  | _, .r64a => .qword
  | _, .r64b => .qword

/-! ## What is offered -/

namespace Encoding

variable {encoding : Encoding} {view : View} {text : String} {r : Register} {n : Nat}

@[simp] theorem mem_spares_mmx : (⟨.mmx, n⟩ : Register) ∈ encoding.spares .mmx ↔ n < 8 := by
  simp [spares]

@[simp] theorem mem_spares_vector :
    (⟨.vector, n⟩ : Register) ∈ encoding.spares .vector ↔ n ∈ vectorSpares := by
  simp [spares]

/-- `text` is **offered** for a view: it is the name, through the view, of a register that the
encoding hands out. -/
def Offers (encoding : Encoding) (view : View) (text : String) : Prop :=
  ∃ r ∈ encoding.spares view.cls, view.spell r = some text

instance : Decidable (encoding.Offers view text) :=
  inferInstanceAs (Decidable (∃ r ∈ encoding.spares view.cls, view.spell r = some text))

/-- **Every role asks for an offered name.** -/
theorem offers_roleRegister (encoding : Encoding) (role : Role) :
    encoding.Offers (role.view encoding) (encoding.roleRegister role) := by
  cases encoding <;> cases role <;> decide

theorem offers_wideRegister (encoding : Encoding) (width : Width) :
    encoding.Offers width.view (encoding.wideRegister width) := by
  cases encoding <;> cases width <;> decide

/-- Whether a template is a role: one of the eight of fixed width, or the one with two. -/
def isRole (template : String) : Bool :=
  template == wideRole || Role.all.any fun role => role.template == template

/-- The view of the register that a role template asks for. -/
def roleView? (encoding : Encoding) (width : Width) (template : String) : Option View :=
  if template = wideRole then some width.view
  else (Role.ofTemplate? template).map (Role.view encoding)

/-- **A role is resolved to an offered name**, and no other template is resolved. -/
theorem resolve_cases (encoding : Encoding) (width : Width) (template : String) :
    (∃ view text, encoding.roleView? width template = some view ∧
      encoding.resolve width template = some text ∧ encoding.Offers view text) ∨
    encoding.roleView? width template = none ∧ encoding.resolve width template = none := by
  rw [roleView?, resolve]
  split
  next => exact Or.inl ⟨_, _, rfl, rfl, encoding.offers_wideRegister width⟩
  next =>
    cases Role.ofTemplate? template with
    | some role => exact Or.inl ⟨_, _, rfl, rfl, encoding.offers_roleRegister role⟩
    | none => exact Or.inr ⟨rfl, rfl⟩

/-- **The roles, and they alone, ask for general registers.** -/
theorem roleView?_cases (encoding : Encoding) (width : Width) (template : String) :
    isRole template = true ∧
        (∃ view, encoding.roleView? width template = some view ∧ view.cls = .general) ∨
      isRole template = false ∧ encoding.roleView? width template = none := by
  rw [isRole, roleView?]
  by_cases hwide : template = wideRole
  · refine Or.inl ⟨by simp [hwide], width.view, if_pos hwide, ?_⟩
    cases width <;> rfl
  · rw [if_neg hwide, Role.ofTemplate?]
    cases hfind : Role.all.find? fun role => role.template == template with
    | some role =>
      have htemplate := List.find?_some hfind
      refine Or.inl ⟨?_, role.view encoding, rfl, by cases encoding <;> cases role <;> rfl⟩
      rw [Bool.or_eq_true, List.any_eq_true]
      exact Or.inr ⟨role, Role.mem_all role, htemplate⟩
    | none =>
      rw [List.find?_eq_none] at hfind
      refine Or.inr ⟨?_, rfl⟩
      simp only [Bool.or_eq_false_iff, beq_eq_false_iff_ne, List.any_eq_false]
      exact ⟨hwide, hfind⟩

/-- An offered text is the name of a spare. -/
theorem Offers.exists_name (h : encoding.Offers view text) :
    ∃ r ∈ encoding.spares view.cls, RegisterName.ofString? text = some ⟨r, view⟩ := by
  obtain ⟨r, hr, hspell⟩ := h
  exact ⟨r, hr, RegisterName.ofString?_of_spell hspell⟩

/-- **Every general register that is handed out is on the clobber list.** -/
theorem exists_clobber_of_mem_spares (h : r ∈ encoding.spares .general) :
    ∃ clobber ∈ encoding.clobbers, Names clobber r := by
  have hspelled : ∀ r ∈ encoding.spares .general, (View.qword.spell r).isSome = true := by
    cases encoding <;> decide
  obtain ⟨clobber, hclobber⟩ := Option.isSome_iff_exists.mp (hspelled r h)
  exact ⟨clobber, List.mem_filterMap.mpr ⟨r, h, hclobber⟩, _,
    RegisterName.ofString?_of_spell hclobber, rfl⟩

end Encoding

namespace RegisterFile

variable {file : RegisterFile} {name : RegisterName} {r : Register} {view : View} {text : String}

/-- **What is claimed for an offered name is offered**, for the same view. -/
theorem offers_of_writes (hoffers : file.encoding.Offers view text)
    (hname : RegisterName.ofString? text = some name) (hclaim : file.claim? name = some r)
    {assignment : Assignment} (hwrites : Writes text name r assignment) :
    file.encoding.Offers view assignment.text := by
  obtain ⟨own, hown, hread⟩ := hoffers.exists_name
  obtain rfl := Option.some.inj (hread.symm.trans hname)
  cases hwrites with
  | own => exact hoffers
  | spare hne hgiven =>
    have hmem : own ∈ file.taken := by
      by_contra hfree
      exact hne ((claim?_eq_own_iff hclaim).mpr hfree)
    rw [claim?_of_mem hmem] at hclaim
    have hspare := List.mem_of_find?_eq_some hclaim
    rw [cls_of_mem_spares hown] at hspare
    exact ⟨r, hspare, hgiven⟩

end RegisterFile

end AsmForms
