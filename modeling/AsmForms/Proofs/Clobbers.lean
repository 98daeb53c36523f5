import AsmForms.Proofs.Engine.Writing
import AsmForms.Proofs.OutputShape

/-!
# Proofs/Clobbers — the clobber list is complete

The code around an instruction saves the registers on the clobber list of its encoding, so every
general register that the instruction mentions has to be on it.  With the built-in table that holds
for all operands (`clobbers_are_complete`), up to the two registers that memory is addressed
through and what the form or the label names itself.
-/

namespace AsmForms

namespace Encoding

variable {encoding : Encoding} {view : View} {text : String} {r : Register}

/-- What an operand of a role may be: the name of a register of the encoding's own half, and none
that the encoding cannot express. -/
def IsRoleOperand : Encoding → String → Prop
  | .legacy, text =>
    (∃ register ∈ ["rdi", "rbp", "rdx", "rbx", "rax", "rcx"], SameRegister register text) ∧
      text ∉ ["spl", "bpl", "sil", "dil"]
  | .extended, text =>
    (∃ register ∈ ["r8", "r9", "r10", "r11", "r12", "r13", "r14", "r15"],
      SameRegister register text) ∧
      text ∉ ["ah", "ch", "dh", "bh"]

/-- An offered general register is on the clobber list. -/
theorem Offers.exists_clobber (h : encoding.Offers view text) (hcls : view.cls = .general) :
    ∃ clobber ∈ encoding.clobbers, SameRegister clobber text := by
  obtain ⟨r, hr, hname⟩ := h.exists_name
  rw [hcls] at hr
  obtain ⟨clobber, hmem, hclobber⟩ := exists_clobber_of_mem_spares hr
  exact ⟨clobber, hmem, r, hclobber, _, hname, rfl⟩

/-- Without a REX prefix no role is written as one of the low bytes that need one, and with it none
as a high byte. -/
theorem encodable_of_spell : ∀ view ∈ View.all,
    (∀ r ∈ legacy.spares .general, ∀ text ∈ view.spell r, text ∉ ["spl", "bpl", "sil", "dil"]) ∧
      ∀ r ∈ extended.spares .general, ∀ text ∈ view.spell r, text ∉ ["ah", "ch", "dh", "bh"] := by
  decide

theorem Offers.isRoleOperand (h : encoding.Offers view text) (hcls : view.cls = .general) :
    encoding.IsRoleOperand text := by
  obtain ⟨clobber, hmem, hsame⟩ := h.exists_clobber hcls
  obtain ⟨r, hr, hspell⟩ := h
  rw [hcls] at hr
  obtain ⟨hlegacy, hextended⟩ := encodable_of_spell view (View.mem_all view)
  cases encoding with
  | legacy =>
    have hlist : legacy.clobbers = ["rdi", "rbp", "rdx", "rbx", "rax", "rcx"] := by decide
    exact ⟨⟨clobber, hlist ▸ hmem, hsame⟩, hlegacy r hr text hspell⟩
  | extended =>
    have hlist : ∀ clobber ∈ extended.clobbers,
        clobber ∈ ["r8", "r9", "r10", "r11", "r12", "r13", "r14", "r15"] := by
      decide
    exact ⟨⟨clobber, hlist clobber hmem, hsame⟩, hextended r hr text hspell⟩

/-- **An offered vector or MMX name is its stem and the number of a spare.** -/
theorem Offers.exists_number (h : encoding.Offers view text) {stem : String}
    (hstem : view.stem? = some stem) :
    ∃ n, (⟨view.cls, n⟩ : Register) ∈ encoding.spares view.cls ∧ text = stem ++ n.repr := by
  obtain ⟨⟨cls, n⟩, hr, hspell⟩ := h
  obtain rfl : cls = view.cls := RegisterFile.cls_of_mem_spares hr
  refine ⟨n, hr, ?_⟩
  cases view <;> simp_all [View.spell, View.cls, View.stem?]

end Encoding

/-! ## What the operands mention -/

/-- A register that addresses memory is one of two, if it is a general one. -/
theorem names_of_mem_addressRegisters {r : Register} (hcls : r.cls = .general)
    (h : r ∈ Table.addressRegisters) : Names "rsi" r ∨ Names "rsp" r := by
  obtain ⟨cls, n⟩ := r
  obtain rfl : cls = .general := hcls
  have hn : n = 4 ∨ n = 6 := by simpa [Table.addressRegisters] using h
  rcases hn with rfl | rfl
  · exact Or.inr ⟨⟨⟨.general, 4⟩, .qword⟩, by decide, rfl⟩
  · exact Or.inl ⟨⟨⟨.general, 6⟩, .qword⟩, by decide, rfl⟩

namespace Written

variable {config : Config} {form : Form} {template text : String}

/-- **What an operand mentions is saved**, addresses memory, or is named by the label or the
form. -/
theorem mentions_cases (h : Written config form template text) {r : Register}
    (hcls : r.cls = .general) (hr : Mentions text r) :
    (∃ clobber ∈ form.encoding.clobbers, Names clobber r) ∨ Names "rsi" r ∨ Names "rsp" r ∨
      Mentions config.label r ∨
      Table.builtin.lookup template = none ∧
        form.encoding.resolve form.width template = none ∧ Mentions template r := by
  cases h with
  | register _ hoffers =>
    obtain ⟨s, hs, hname⟩ := hoffers.exists_name
    obtain rfl : r = s := (names_iff hname).mp ((mentions_iff_names hname).mp hr)
    rw [← RegisterFile.cls_of_mem_spares hs, hcls] at hs
    exact Or.inl (Encoding.exists_clobber_of_mem_spares hs)
  | branch _ => exact Or.inr (Or.inr (Or.inr (Or.inl (Dialect.mentions_branchOperand.mp hr))))
  | inert _ hinert =>
    have haddress := names_of_mem_addressRegisters hcls
      (hinert.2.2 r (mem_mentioned_iff.mpr hr))
    exact Or.inr (haddress.imp_right Or.inl)
  | verbatim _ htable hrole => exact Or.inr (Or.inr (Or.inr (Or.inr ⟨htable, hrole, hr⟩)))

end Written

/-- An operand leaves alone what the code around the instruction does not save. -/
structure IsContained (config : Config) (form : Form) (template text : String) : Prop where
  /-- A general register that is mentioned is on the clobber list, or is one of the two that
  address memory, or comes from the label or from a template that is written as it stands. -/
  saved : ∀ r, r.cls = .general → Mentions text r →
    (∃ clobber ∈ form.encoding.clobbers, Names clobber r) ∨ Names "rsi" r ∨ Names "rsp" r ∨
      Mentions config.label r ∨
      Table.builtin.lookup template = none ∧
        form.encoding.resolve form.width template = none ∧ Mentions template r
  role : Encoding.isRole template = true → form.encoding.IsRoleOperand text
  vector : template = "xmm" ∨ template = "ymm" →
    ∃ n ∈ [6, 4, 3, 2, 1, 8, 13, 14, 15, 7, 5, 0], text = template ++ Nat.repr n
  mmx : template = "mm" → ∃ n < 8, text = template ++ Nat.repr n

theorem Written.isContained {config : Config} {form : Form} {template text : String}
    (h : Written config form template text) : IsContained config form template text where
  saved _ := h.mentions_cases
  role hrole := by
    obtain ⟨view, hview, hcls⟩ := form.view?_of_isRole hrole
    exact (h.offers hview).isRoleOperand hcls
  vector hvector := by
    rcases hvector with rfl | rfl
    · have hview : form.view? "xmm" = some .xmm := rfl
      obtain ⟨n, hn, htext⟩ := (h.offers hview).exists_number rfl
      exact ⟨n, Encoding.mem_spares_vector.mp hn, htext⟩
    · have hview : form.view? "ymm" = some .ymm := rfl
      obtain ⟨n, hn, htext⟩ := (h.offers hview).exists_number rfl
      exact ⟨n, Encoding.mem_spares_vector.mp hn, htext⟩
  mmx hmmx := by
    subst hmmx
    have hview : form.view? "mm" = some .mm := rfl
    obtain ⟨n, hn, htext⟩ := (h.offers hview).exists_number rfl
    exact ⟨n, Encoding.mem_spares_mmx.mp hn, htext⟩

/-- **The clobber list is complete.**  With the built-in table and any choices, every operand of
an instruction is contained, one for one with the templates of its form without the marker of the
implicit register. -/
theorem clobbers_are_complete (config : Config) (form : Form) (instruction : Instruction)
    (h : (Engine.ofConfig Table.builtin config).instantiate form = .ok instruction) :
    List.Forall₂ (IsContained config form) (form.templates.filter (· != implicitXmm0))
      instruction.operands := by
  have hkept : (Engine.ofConfig Table.builtin config).kept form =
      form.templates.filter (· != implicitXmm0) :=
    List.filter_congr fun template _ => by rw [Engine.omits_of_builtin rfl]; rfl
  rw [← hkept]
  exact (forall₂_written h).imp fun _ _ => Written.isContained

/-- A form under pressure, with a label that is a register: the byte operand moves to `bh`, past the
two registers that have no high byte. -/
theorem byte_operands_stay_on_the_clobber_list :
    let config : Config := ⟨.nasm, .passthrough, "r9"⟩
    let form : Form := ⟨"X", ["r32", "r8", "DX", "rel8", "r15", "m", "<XMM0>", "mm", "mm"], .legacy⟩
    let instruction : Instruction := ⟨"X", ["ecx", "bh", "DX",
      "r9\ntimes 64 nop\nr9: nop", "r15", "word ptr[RSI]", "mm6", "mm0"]⟩
    (Engine.ofConfig Table.builtin config).instantiate form = .ok instruction ∧
      List.Forall₂ (IsContained config form) (form.templates.filter (· != implicitXmm0))
        instruction.operands := by
  intro config form instruction
  have h : (Engine.ofConfig Table.builtin config).instantiate form = .ok instruction := by decide
  exact ⟨h, clobbers_are_complete config form instruction h⟩

end AsmForms
