import AsmForms.Proofs.Engine.Resolution
import AsmForms.Proofs.Register.Mentions
import AsmForms.Proofs.Register.Pool

/-!
# Proofs/Template/Vocabulary — what the built-in vocabulary resolves to
-/

namespace AsmForms

/-! ## The rows of the table -/

namespace Table

/-- The registers that the built-in texts address memory through: `rsp`, `rsi` and the four index
registers of the gathering forms. -/
def addressRegisters : List Register :=
  [⟨.general, 4⟩, ⟨.general, 6⟩, ⟨.vector, 9⟩, ⟨.vector, 10⟩, ⟨.vector, 11⟩, ⟨.vector, 12⟩]

/-- A text is **inert** if it is written as it stands and mentions no register but those that
address memory. -/
def IsInert (text : String) : Prop :=
  text ≠ "" ∧ RegisterName.ofString? text = none ∧ ∀ r ∈ mentioned text, r ∈ addressRegisters

instance (text : String) : Decidable (IsInert text) :=
  inferInstanceAs (Decidable (_ ∧ _ ∧ _))

/-- The templates of the table that ask for a register, with the view that they ask for. -/
def registerTemplates : List (String × View) := [("xmm", .xmm), ("ymm", .ymm), ("mm", .mm)]

/-- The view of the register that a template of the table asks for, if it does. -/
def view? (template : String) : Option View := registerTemplates.lookup template

/-- What a row of the built-in table writes. -/
def RowSpec : String × Expansion → Prop
  | (template, .literal text) =>
    match view? template with
    | some view => Encoding.legacy.Offers view text ∧ Encoding.extended.Offers view text
    | none => IsInert text
  | (template, .branch _) => view? template = none
  | (template, .absent) => template = implicitXmm0

instance : (entry : String × Expansion) → Decidable (RowSpec entry)
  | (template, .literal text) =>
    match h : view? template with
    | some view =>
      decidable_of_iff (Encoding.legacy.Offers view text ∧ Encoding.extended.Offers view text)
        (by simp [RowSpec, h])
    | none => decidable_of_iff (IsInert text) (by simp [RowSpec, h])
  | (template, .branch _) => inferInstanceAs (Decidable (view? template = none))
  | (template, .absent) => inferInstanceAs (Decidable (template = implicitXmm0))

set_option maxRecDepth 40000 in
/-- **Every row of the built-in table** writes an offered register, a branch, an inert text, or
nothing. -/
theorem rowSpec_of_mem : ∀ entry ∈ builtinDefinitions, RowSpec entry := by
  decide

/-- No template of the built-in table is a role. -/
theorem roleView?_of_mem : ∀ entry ∈ builtinDefinitions, ∀ encoding width,
    Encoding.roleView? encoding width entry.1 = none := by
  have hrole : ∀ entry ∈ builtinDefinitions,
      entry.1 ≠ wideRole ∧ Role.ofTemplate? entry.1 = none := by
    decide
  intro entry hmem encoding width
  obtain ⟨hwide, hnone⟩ := hrole entry hmem
  rw [Encoding.roleView?, if_neg hwide, hnone]
  rfl

/-- What is looked up in a list is one of its entries. -/
theorem mem_of_lookup {α : Type} {entries : List (String × α)} {template : String} {a : α}
    (h : entries.lookup template = some a) : (template, a) ∈ entries := by
  obtain ⟨before, after, rfl, -⟩ := List.lookup_eq_some_iff.mp h
  simp

theorem mem_of_lookup_builtin {template : String} {expansion : Expansion}
    (h : builtin.lookup template = some expansion) :
    (template, expansion) ∈ builtinDefinitions := by
  rw [builtin, lookup_ofDefinitions] at h
  exact List.mem_reverse.mp (mem_of_lookup h)

/-- The templates that the table has a register for are among its rows. -/
theorem view?_of_lookup_builtin {template : String} (h : builtin.lookup template = none) :
    view? template = none := by
  have hdefined : ∀ entry ∈ registerTemplates,
      (builtinDefinitions.reverse.lookup entry.1).isSome = true := by
    decide
  cases hview : view? template with
  | none => rfl
  | some view =>
    have hsome := hdefined _ (mem_of_lookup hview)
    rw [builtin, lookup_ofDefinitions] at h
    rw [h] at hsome
    exact absurd hsome nofun

end Table

/-! ## What a template resolves to -/

/-- The view of the register that a template of a form asks for, if it does. -/
def Form.view? (form : Form) (template : String) : Option View :=
  (Table.view? template).or (form.encoding.roleView? form.width template)

/-- **The templates that ask for a register** are the roles and those of the table. -/
theorem Form.view?_cases (form : Form) (template : String) :
    (Encoding.isRole template = true ∧
      ∃ view, form.view? template = some view ∧ view.cls = .general) ∨
    (Encoding.isRole template = false ∧
      ∃ view, (template, view) ∈ Table.registerTemplates ∧ form.view? template = some view) ∨
    Encoding.isRole template = false ∧ Table.view? template = none ∧
      form.view? template = none := by
  have hdisjoint : ∀ entry ∈ Table.registerTemplates, Encoding.isRole entry.1 = false := by decide
  rw [view?]
  cases htable : Table.view? template with
  | some view =>
    have hmem := Table.mem_of_lookup htable
    exact Or.inr (Or.inl ⟨hdisjoint _ hmem, view, hmem, rfl⟩)
  | none =>
    rcases form.encoding.roleView?_cases form.width template with hrole | ⟨hrole, hnone⟩
    · exact Or.inl hrole
    · exact Or.inr (Or.inr ⟨hrole, rfl, hnone⟩)

/-- A role asks for the view that the encoding gives it. -/
theorem Form.view?_eq_roleView? (form : Form) {template : String}
    (h : Encoding.isRole template = true) :
    form.view? template = form.encoding.roleView? form.width template := by
  have hdisjoint : ∀ entry ∈ Table.registerTemplates, Encoding.isRole entry.1 = false := by decide
  have htable : Table.view? template = none := by
    refine Option.eq_none_iff_forall_ne_some.mpr fun view hview => ?_
    exact absurd (h.symm.trans (hdisjoint _ (Table.mem_of_lookup hview))) nofun
  rw [view?, htable]
  rfl

theorem Form.view?_of_isRole (form : Form) {template : String}
    (h : Encoding.isRole template = true) :
    ∃ view, form.view? template = some view ∧ view.cls = .general := by
  rcases form.view?_cases template with ⟨-, hview⟩ | ⟨hrole, -⟩ | ⟨hrole, -⟩
  · exact hview
  · exact absurd (h.symm.trans hrole) nofun
  · exact absurd (h.symm.trans hrole) nofun

/-- What a template of the built-in vocabulary **resolves** to. -/
inductive Vocabulary (config : Config) (form : Form) (template : String) : Resolution → Prop
  /-- What asks for a register resolves to one that the encoding hands out. -/
  | register {view : View} {text : String} (hview : form.view? template = some view)
      (h : form.encoding.Offers view text) : Vocabulary config form template (.operand text)
  /-- Relative branches resolve to the text of the configured dialect. -/
  | branch {width : BranchWidth} (hview : form.view? template = none) :
      Vocabulary config form template (.operand (config.branchText width))
  /-- All other rows of the table but the marker are inert. -/
  | inert {text : String} (hview : form.view? template = none) (h : Table.IsInert text) :
      Vocabulary config form template (.operand text)
  /-- The marker of the implicit register resolves to nothing. -/
  | marker (h : template = implicitXmm0) : Vocabulary config form template .absent
  /-- What is left goes to the fallback. -/
  | unhandled (hview : form.view? template = none)
      (htable : Table.builtin.lookup template = none)
      (hrole : form.encoding.resolve form.width template = none) :
      Vocabulary config form template .unhandled

/-- **The built-in vocabulary.** -/
theorem vocabulary_resolution (config : Config) (form : Form) (template : String) :
    Vocabulary config form template
      ((Engine.ofConfig Table.builtin config).resolution form template) := by
  rw [Engine.resolution, Engine.ofConfig, Table.translate]
  cases hlookup : Table.builtin.lookup template with
  | some expansion =>
    have hmem := Table.mem_of_lookup_builtin hlookup
    have hrow := Table.rowSpec_of_mem _ hmem
    have hrole := Table.roleView?_of_mem _ hmem form.encoding form.width
    cases expansion with
    | literal text =>
      rw [Table.RowSpec] at hrow
      cases hview : Table.view? template with
      | some view =>
        rw [hview] at hrow
        refine .register (by rw [Form.view?, hview]; rfl) ?_
        cases form.encoding with
        | legacy => exact hrow.1
        | extended => exact hrow.2
      | none =>
        rw [hview] at hrow
        exact .inert (by rw [Form.view?, hview, hrole]; rfl) hrow
    | branch width =>
      have hview : Table.view? template = none := hrow
      exact .branch (by rw [Form.view?, hview, hrole]; rfl)
    | absent => exact .marker hrow
  | none =>
    have hview := Table.view?_of_lookup_builtin hlookup
    rcases form.encoding.resolve_cases form.width template with
      ⟨view, text, hrole, hresolve, hoffers⟩ | ⟨hrole, hresolve⟩
    · rw [hresolve]
      exact .register (by rw [Form.view?, hview, hrole]; rfl) hoffers
    · rw [hresolve]
      exact .unhandled (by rw [Form.view?, hview, hrole]; rfl) hlookup hresolve

/-- **An operand that may be moved** is that of a template that asks for a register, and it is read
as the name of a spare. -/
theorem Engine.Reads.exists_view {config : Config} {form : Form} {template : String}
    {operand : Operand} (h : (Engine.ofConfig Table.builtin config).Reads form template operand)
    (hgen : operand.generated = true) :
    ∃ r view, form.view? template = some view ∧ r.cls = view.cls ∧
      r ∈ form.encoding.spares r.cls ∧ RegisterName.ofString? operand.text = some ⟨r, view⟩ := by
  have hvocabulary := vocabulary_resolution config form template
  cases h with
  | resolved hresolution _ =>
    rw [hresolution] at hvocabulary
    cases hvocabulary with
    | @register view _ hview hoffers =>
      obtain ⟨r, hr, hname⟩ := hoffers.exists_name
      have hcls := RegisterFile.cls_of_mem_spares hr
      exact ⟨r, view, hview, hcls, hcls ▸ hr, hname⟩
    | branch => simp [Config.branchText, Dialect.ofString?_branchOperand] at hgen
    | inert _ hinert => simp [hinert.2.1] at hgen
  | verbatim _ _ => exact absurd hgen Bool.false_ne_true

end AsmForms
