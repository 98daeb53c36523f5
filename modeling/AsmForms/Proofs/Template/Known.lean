import AsmForms.Proofs.Engine.Requests
import AsmForms.Proofs.Refusal
import AsmForms.Proofs.Template.Vocabulary

/-!
# Proofs/Template/Known — forms whose templates are all known

The built-in vocabulary consists of the templates of the table, the roles, and what can be written
as it stands.  Forms of such templates are read (`exists_operands`), and so all that can go wrong
with them is that they run out of registers.  Of the registers that can be handed out, their fixed
operands mention just those that the form **pins** (`fixedMention_iff`): the ones that it names
explicitly.
-/

namespace AsmForms

/-- A template is **known**: the built-in table has it, it is a role, or it can be written as it
stands. -/
def IsKnown (template : String) : Prop :=
  template ∈ Table.builtinDefinitions.map Prod.fst ∨ Encoding.isRole template = true ∨
    isVerbatim template = true

instance (template : String) : Decidable (IsKnown template) :=
  inferInstanceAs (Decidable (_ ∨ _ ∨ _))

/-- A form **pins** the registers that it names explicitly. -/
def Form.Pins (form : Form) (r : Register) : Prop :=
  ∃ template ∈ form.templates, isFixedRegister template = true ∧ Names template r

/-! ## What is written as it stands -/

/-- **A constant mentions no register.** -/
theorem not_mentions_of_isConstant {template : String} (h : isConstant template = true)
    {r : Register} : ¬ Mentions template r := by
  rintro ⟨run, ⟨-, -, before, after, htext, -, -⟩, name, hname, -⟩
  have hspelling := RegisterName.isSpelling_of_ofChars? hname
  cases run with
  | nil => exact absurd hspelling nofun
  | cons c rest =>
    have halpha : c.isAlpha = true := (Bool.and_eq_true_iff.mp hspelling).1
    have hdigits := List.all_eq_true.mp (Bool.and_eq_true_iff.mp h).2
    exact not_isAlpha_of_isDigit (hdigits c (by simp [htext])) halpha

/-- **What is written as it stands mentions at most the register that it names.** -/
theorem names_of_isVerbatim {template : String} (h : isVerbatim template = true) {r : Register}
    (hmentions : Mentions template r) : isFixedRegister template = true ∧ Names template r := by
  have hregisters : ∀ register ∈ fixedRegisters, ∀ r ∈ mentioned register,
      (RegisterName.ofString? register).map RegisterName.register = some r := by
    decide
  have hstack : ∀ top ∈ ["ST", "ST(0)"], mentioned top = [] := by decide
  simp only [isVerbatim, Bool.or_eq_true] at h
  obtain (hregister | htop) | hconstant := h
  · have hname := hregisters template (List.contains_iff_mem.mp hregister) r
      (mem_mentioned_iff.mpr hmentions)
    exact ⟨hregister, Option.map_eq_some_iff.mp hname⟩
  · have hmem : template ∈ ["ST", "ST(0)"] := by simpa [isStackTop] using htop
    exact absurd hmentions (not_mentions_of_mentioned (hstack template hmem))
  · exact absurd hmentions (not_mentions_of_isConstant hconstant)

/-! ## Known templates -/

/-- The templates that the built-in table has no row for. -/
theorem Table.lookup_builtin_eq_none_iff {template : String} :
    builtin.lookup template = none ↔ template ∉ builtinDefinitions.map Prod.fst :=
  lookup_ofDefinitions_eq_none_iff

/-- The templates that are no role. -/
theorem Encoding.resolve_eq_none_iff_isRole {encoding : Encoding} {width : Width}
    {template : String} :
    encoding.resolve width template = none ↔ isRole template = false := by
  rcases encoding.resolve_cases width template with ⟨view, text, hview, hresolve, -⟩ |
    ⟨hnone, hresolve⟩
  · rcases encoding.roleView?_cases width template with ⟨hrole, -⟩ | ⟨-, hnone⟩
    · simp [hresolve, hrole]
    · exact absurd (hview.symm.trans hnone) nofun
  · rcases encoding.roleView?_cases width template with ⟨-, view, hview, -⟩ | ⟨hrole, -⟩
    · exact absurd (hview.symm.trans hnone) nofun
    · exact iff_of_true hresolve hrole

section

variable {config : Config} {form : Form} {template : String} {r : Register}

/-- A known template that is neither in the table nor a role can be written as it stands. -/
theorem IsKnown.isVerbatim (h : IsKnown template) (htable : Table.builtin.lookup template = none)
    (hrole : form.encoding.resolve form.width template = none) : isVerbatim template = true := by
  rw [Table.lookup_builtin_eq_none_iff] at htable
  rw [Encoding.resolve_eq_none_iff_isRole] at hrole
  obtain hmem | hknown | hverbatim := h
  · exact absurd hmem htable
  · exact absurd (hknown.symm.trans hrole) nofun
  · exact hverbatim

/-- The registers that forms name explicitly are neither in the table nor roles. -/
theorem resolution_of_isFixedRegister (config : Config) (form : Form)
    (h : isFixedRegister template = true) :
    (Engine.ofConfig Table.builtin config).resolution form template = .unhandled := by
  have hregisters : ∀ register ∈ fixedRegisters,
      register ∉ Table.builtinDefinitions.map Prod.fst ∧ Encoding.isRole register = false := by
    decide
  obtain ⟨htable, hrole⟩ := hregisters template (List.contains_iff_mem.mp h)
  rw [← Table.lookup_builtin_eq_none_iff] at htable
  have hresolve : form.encoding.resolve form.width template = none :=
    Encoding.resolve_eq_none_iff_isRole.mpr hrole
  rw [Engine.resolution, Engine.ofConfig, Table.translate, htable]
  simp only [hresolve]

/-- **A known template is read as an operand**, or as nothing if it is the marker of the implicit
register. -/
theorem read_of_isKnown (config : Config) (form : Form) (h : IsKnown template) :
    (∃ operand, (Engine.ofConfig Table.builtin config).read form.encoding form.width template =
      .operand operand) ∨
    (Engine.ofConfig Table.builtin config).read form.encoding form.width template = .absent ∧
      template = implicitXmm0 := by
  rw [Engine.read_eq]
  have hvocabulary := vocabulary_resolution config form template
  generalize (Engine.ofConfig Table.builtin config).resolution form template = resolution
    at hvocabulary ⊢
  cases hvocabulary with
  | register _ hoffers =>
    obtain ⟨r, -, hname⟩ := hoffers.exists_name
    exact .inl ⟨_, Engine.ofResolved_of_ne (RegisterName.ne_empty_of_ofString? hname) template⟩
  | branch =>
    exact .inl ⟨_, Engine.ofResolved_of_ne (Dialect.branchOperand_ne_empty _ _ _) template⟩
  | inert _ hinert => exact .inl ⟨_, Engine.ofResolved_of_ne hinert.1 template⟩
  | marker hmark => exact .inr ⟨rfl, hmark⟩
  | unhandled _ htable hrole =>
    have hverbatim := h.isVerbatim htable hrole
    have hne : template ≠ "" := by
      rintro rfl
      exact absurd hverbatim (by decide)
    have haccepts : (Engine.ofConfig Table.builtin config).fallBack template = _ :=
      Engine.fallBack_of_accepts (.inr hverbatim)
    exact .inl ⟨_, haccepts.trans (Engine.ofVerbatim_of_ne hne)⟩

/-- **A known template is no violation.** -/
theorem exists_operand?_of_isKnown (config : Config) (form : Form) (h : IsKnown template) :
    ∃ operand?, (Engine.ofConfig Table.builtin config).operand? form template = .ok operand? := by
  rcases read_of_isKnown config form h with ⟨operand, hread⟩ | ⟨hread, hmark⟩
  · exact ⟨some operand, Engine.operand?_eq_ok_iff.mpr (.inl ⟨operand, hread, rfl⟩)⟩
  · exact ⟨none, Engine.operand?_eq_ok_iff.mpr (.inr ⟨hread, hmark, rfl⟩)⟩

/-- **A form of known templates is read.** -/
theorem exists_operands (config : Config)
    (hknown : ∀ template ∈ form.templates, IsKnown template) :
    ∃ operands, (Engine.ofConfig Table.builtin config).operands form = .ok operands :=
  Engine.exists_operandsOf fun template hmem =>
    exists_operand?_of_isKnown config form (hknown template hmem)

/-! ## What the fixed operands mention -/

/-- The registers that memory is addressed through are not handed out. -/
theorem Encoding.notMem_spares_of_mem_addressRegisters (encoding : Encoding) (cls : RegisterClass) :
    ∀ r ∈ Table.addressRegisters, r ∉ encoding.spares cls := by
  cases encoding <;> cases cls <;> decide

/-- **A register that is handed out is mentioned by the label, or by a template that is written as it
stands**, if a fixed operand mentions it: neither branches nor inert texts mention any. -/
theorem fixedMention_cases {cls : RegisterClass} (hr : r ∈ form.encoding.spares cls)
    (h : (Engine.ofConfig Table.builtin config).FixedMention form r) :
    Mentions config.label r ∨
      ∃ template ∈ form.templates, Table.builtin.lookup template = none ∧
        form.encoding.resolve form.width template = none ∧ Mentions template r := by
  obtain ⟨template, hmem, hcls, text, htext, hmentions⟩ := h
  have hmem : template ∈ form.templates := (List.mem_filter.mp hmem).1
  have hvocabulary := vocabulary_resolution config form template
  rw [Engine.cls?] at hcls
  rw [Engine.text?] at htext
  generalize (Engine.ofConfig Table.builtin config).resolution form template = resolution
    at hvocabulary hcls htext
  cases hvocabulary with
  | register _ hoffers =>
    obtain ⟨s, -, hname⟩ := hoffers.exists_name
    simp [hname] at hcls
  | branch =>
    obtain rfl := Option.some.inj htext
    exact Or.inl (Dialect.mentions_branchOperand.mp hmentions)
  | inert _ hinert =>
    obtain rfl := Option.some.inj htext
    have haddress := hinert.2.2 r (mem_mentioned_iff.mpr hmentions)
    exact absurd hr (form.encoding.notMem_spares_of_mem_addressRegisters cls r haddress)
  | marker => cases htext
  | unhandled _ htable hrole =>
    obtain rfl := Option.some.inj htext
    exact Or.inr ⟨template, hmem, htable, hrole, hmentions⟩

/-- **Of the registers that are handed out, fixed operands mention those that the form pins.** -/
theorem fixedMention_iff (hlabel : ∀ r, ¬ Mentions config.label r)
    (hknown : ∀ template ∈ form.templates, IsKnown template) {cls : RegisterClass}
    (hr : r ∈ form.encoding.spares cls) :
    (Engine.ofConfig Table.builtin config).FixedMention form r ↔ form.Pins r := by
  constructor
  · intro h
    rcases fixedMention_cases hr h with hmentions | ⟨template, hmem, htable, hrole, hmentions⟩
    · exact absurd hmentions (hlabel r)
    · obtain ⟨hregister, hnames⟩ :=
        names_of_isVerbatim ((hknown template hmem).isVerbatim htable hrole) hmentions
      exact ⟨template, hmem, hregister, hnames⟩
  · rintro ⟨template, hmem, hregister, hnames⟩
    have hresolution := resolution_of_isFixedRegister config form hregister
    refine ⟨template, List.mem_filter.mpr ⟨hmem, ?_⟩, ?_, template, ?_, hnames.mentions⟩
    · simp [Engine.omits, hresolution]
    · rw [Engine.cls?, hresolution]
    · rw [Engine.text?, hresolution]

end

end AsmForms
