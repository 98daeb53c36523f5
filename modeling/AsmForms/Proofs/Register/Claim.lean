import AsmForms.Register.File
import Mathlib.Data.List.Basic

/-!
# Proofs/Register/Claim — the register that a name is given

`RegisterFile.allocate` takes and answers texts.  On registers it is `claim?`: a name is given its
own register if that one is free, and else the first free spare that has its view
(`allocate_eq_some_iff`, `allocate_eq_none_iff`).

A text that **names** a register mentions that register only (`mentions_iff_names`), so what is
claimed for a name and what its text mentions are one and the same.
-/

namespace AsmForms

theorem RegisterName.ne_empty_of_ofString? {text : String} {name : RegisterName}
    (h : ofString? text = some name) : text ≠ "" := by
  rintro rfl
  have hnone : ofString? "" = none := by decide
  exact Option.some_ne_none name (h.symm.trans hnone)

/-! ## Naming is mentioning -/

/-- `text` **names** `r`: as a whole, it is a name of `r`. -/
def Names (text : String) (r : Register) : Prop :=
  ∃ name, RegisterName.ofString? text = some name ∧ name.register = r

theorem names_iff {text : String} {name : RegisterName}
    (h : RegisterName.ofString? text = some name) {r : Register} :
    Names text r ↔ r = name.register := by
  constructor
  · rintro ⟨name', hname', rfl⟩
    rw [h] at hname'
    exact congrArg RegisterName.register (Option.some.inj hname').symm
  · rintro rfl
    exact ⟨name, h, rfl⟩

instance (text : String) (r : Register) : Decidable (Names text r) :=
  decidable_of_iff ((RegisterName.ofString? text).map RegisterName.register = some r)
    Option.map_eq_some_iff

/-- Two texts name one register. -/
def SameRegister (a b : String) : Prop :=
  ∃ r, Names a r ∧ Names b r

theorem sameRegister_iff {a b : String} {name : RegisterName}
    (h : RegisterName.ofString? a = some name) : SameRegister a b ↔ Names b name.register := by
  simp only [SameRegister, names_iff h, exists_eq_left]

instance (a b : String) : Decidable (SameRegister a b) :=
  match h : RegisterName.ofString? a with
  | some _ => decidable_of_iff _ (sameRegister_iff h).symm
  | none => .isFalse fun ⟨_, ⟨_, hname, _⟩, _⟩ => Option.some_ne_none _ (hname.symm.trans h)

theorem isWordChar_of_isSpelling {word : List Char} (h : isSpelling word = true) :
    ∀ c ∈ word, isWordChar c = true := by
  cases word with
  | nil => simp
  | cons c rest =>
    obtain ⟨hc, hrest⟩ := Bool.and_eq_true_iff.mp h
    intro d hd
    rcases List.mem_cons.mp hd with rfl | hd
    · exact isWordChar_of_isAlphanum (isAlphanum_of_isAlpha hc)
    · exact isWordChar_of_isAlphanum (List.all_eq_true.mp hrest d hd)

/-- A text that is a register name is a single word. -/
theorem words_of_ofString? {text : String} {name : RegisterName}
    (h : RegisterName.ofString? text = some name) : words text.toList = [text.toList] := by
  have hspelling : isSpelling text.toList = true := RegisterName.isSpelling_of_ofChars? h
  refine words_eq_singleton (fun hnil => ?_) (isWordChar_of_isSpelling hspelling)
  rw [hnil] at hspelling
  exact Bool.false_ne_true hspelling

/-- **What names a register mentions that register only.** -/
theorem mentions_iff_names {text : String} {name : RegisterName}
    (h : RegisterName.ofString? text = some name) {r : Register} :
    Mentions text r ↔ Names text r := by
  simp only [Mentions, ← mem_words_iff, words_of_ofString? h, List.mem_singleton, Names,
    RegisterName.ofString?]
  constructor
  · rintro ⟨run, rfl, hname⟩
    exact hname
  · exact fun hname => ⟨_, rfl, hname⟩

namespace RegisterFile

variable {file next : RegisterFile} {text : String} {name : RegisterName} {r s : Register}

/-! ## The register claimed for a name -/

/-- Whether a register can stand in for that of a name: it is free and has the view. -/
def canServe (file : RegisterFile) (name : RegisterName) (r : Register) : Bool :=
  !decide (r ∈ file.taken) && (name.on r).isSome

/-- **The register that a name is given**: its own if that one is free, else the first free spare
with its view. -/
def claim? (file : RegisterFile) (name : RegisterName) : Option Register :=
  if name.register ∈ file.taken then
    (file.encoding.spares name.register.cls).find? (file.canServe name)
  else some name.register

theorem canServe_iff : file.canServe name r = true ↔ r ∉ file.taken ∧ (name.on r).isSome := by
  simp [canServe]

theorem not_canServe_iff :
    ¬ file.canServe name r = true ↔ r ∈ file.taken ∨ name.on r = none := by
  rw [canServe_iff, not_and_or, not_not, Option.not_isSome_iff_eq_none]

theorem claim?_of_mem (h : name.register ∈ file.taken) :
    file.claim? name = (file.encoding.spares name.register.cls).find? (file.canServe name) :=
  if_pos h

theorem claim?_of_notMem (h : name.register ∉ file.taken) :
    file.claim? name = some name.register :=
  if_neg h

/-- **What is claimed was free.** -/
theorem notMem_of_claim? (h : file.claim? name = some r) : r ∉ file.taken := by
  by_cases hmem : name.register ∈ file.taken
  · rw [claim?_of_mem hmem] at h
    exact (canServe_iff.mp (List.find?_some h)).1
  · rw [claim?_of_notMem hmem] at h
    exact Option.some.inj h ▸ hmem

/-- …and it is the name's own register exactly if that one was free. -/
theorem claim?_eq_own_iff (h : file.claim? name = some r) :
    r = name.register ↔ name.register ∉ file.taken := by
  constructor
  · rintro rfl
    exact notMem_of_claim? h
  · intro hmem
    rw [claim?_of_notMem hmem] at h
    exact (Option.some.inj h).symm

/-- A spare is of the class that it is a spare of. -/
theorem cls_of_mem_spares {encoding : Encoding} {cls : RegisterClass}
    (h : r ∈ encoding.spares cls) : r.cls = cls := by
  cases cls <;> simp only [Encoding.spares, List.mem_map] at h <;> obtain ⟨n, -, rfl⟩ := h <;> rfl

/-- **A claim stays in the class of the name.** -/
theorem cls_of_claim? (h : file.claim? name = some r) : r.cls = name.register.cls := by
  by_cases hmem : name.register ∈ file.taken
  · rw [claim?_of_mem hmem] at h
    exact cls_of_mem_spares (List.mem_of_find?_eq_some h)
  · rw [claim?_of_notMem hmem] at h
    rw [Option.some.inj h]

/-- **The spare claimed is the first that serves.** -/
theorem claim?_eq_some_iff_of_mem (h : name.register ∈ file.taken) :
    file.claim? name = some r ↔
      (r ∉ file.taken ∧ (name.on r).isSome) ∧
        ∃ before after, file.encoding.spares name.register.cls = before ++ r :: after ∧
          ∀ s ∈ before, s ∈ file.taken ∨ name.on s = none := by
  rw [claim?_of_mem h, List.find?_eq_some_iff_append, canServe_iff]
  simp only [Bool.not_eq_true', ← Bool.not_eq_true, not_canServe_iff]

/-- **Nothing can be claimed exactly if every register that could serve is taken.** -/
theorem claim?_eq_none_iff :
    file.claim? name = none ↔
      name.register ∈ file.taken ∧
        ∀ s ∈ file.encoding.spares name.register.cls, (name.on s).isSome → s ∈ file.taken := by
  by_cases hmem : name.register ∈ file.taken
  · rw [claim?_of_mem hmem, List.find?_eq_none]
    simp only [canServe_iff, not_and', not_not, hmem, true_and]
  · simp [claim?_of_notMem hmem, hmem]

/-! ## Allocating is claiming -/

/-- How the claim of `r` for the name at `text` is written. -/
inductive Writes (text : String) (name : RegisterName) : Register → Assignment → Prop
  /-- The name's own register is written as it was asked for. -/
  | own : Writes text name name.register (.asWritten text)
  /-- Another register is written through the view of the name. -/
  | spare {r : Register} {given : String} (hne : r ≠ name.register)
      (hgiven : name.on r = some given) : Writes text name r (.renamed text given)

/-- What is written names the register claimed, through the view asked for. -/
theorem Writes.ofString? {a : Assignment} (h : Writes text name r a)
    (hname : RegisterName.ofString? text = some name) :
    RegisterName.ofString? a.text = some ⟨r, name.view⟩ := by
  cases h with
  | own => exact hname
  | spare _ hgiven => exact RegisterName.ofString?_of_spell hgiven

/-- **A text is rewritten exactly if another register is claimed.** -/
theorem Writes.text_ne_iff {a : Assignment} (h : Writes text name r a)
    (hname : RegisterName.ofString? text = some name) : a.text ≠ text ↔ r ≠ name.register := by
  constructor
  · rintro hne rfl
    cases h with
    | own => exact hne rfl
    | spare hreg _ => exact hreg rfl
  · intro hne htext
    have hwritten := h.ofString? hname
    rw [htext, hname] at hwritten
    exact hne (congrArg RegisterName.register (Option.some.inj hwritten)).symm

/-- **Whatever is claimed can be written.** -/
theorem exists_writes_of_claim? (h : file.claim? name = some r) (text : String) :
    ∃ a, Writes text name r a := by
  by_cases hmem : name.register ∈ file.taken
  · obtain ⟨⟨-, hview⟩, -⟩ := (claim?_eq_some_iff_of_mem hmem).mp h
    obtain ⟨given, hgiven⟩ := Option.isSome_iff_exists.mp hview
    exact ⟨_, .spare (fun heq => (claim?_eq_own_iff h).mp heq hmem) hgiven⟩
  · obtain rfl := (claim?_eq_own_iff h).mpr hmem
    exact ⟨_, .own⟩

theorem firstSpare?_eq (file : RegisterFile) (name : RegisterName) :
    file.firstSpare? name =
      ((file.encoding.spares name.register.cls).find? (file.canServe name)).bind fun r =>
        (name.on r).map (r, ·) := by
  rw [firstSpare?]
  induction file.encoding.spares name.register.cls with
  | nil => rfl
  | cons s spares ih =>
    by_cases hmem : s ∈ file.taken
    · simp [canServe, hmem, ih]
    · cases hon : name.on s with
      | none => simp [canServe, hmem, hon, ih]
      | some given => simp [canServe, hmem, hon]

theorem allocate_of_name (file : RegisterFile) (hname : RegisterName.ofString? text = some name) :
    file.allocate text =
      if name.register ∈ file.taken then
        (file.firstSpare? name).map fun spare => (.renamed text spare.2, file.take spare.1)
      else some (.asWritten text, file.take name.register) := by
  rw [allocate, hname]

/-- A text that is no name is reserved. -/
theorem allocate_of_no_name (file : RegisterFile) (hname : RegisterName.ofString? text = none) :
    file.allocate text = some (.asWritten text, file.reserve text) := by
  rw [allocate, hname]

theorem allocate_of_notMem (hname : RegisterName.ofString? text = some name)
    (h : name.register ∉ file.taken) :
    file.allocate text = some (.asWritten text, file.take name.register) := by
  rw [allocate_of_name file hname, if_neg h]

theorem allocate_of_mem (hname : RegisterName.ofString? text = some name)
    (h : name.register ∈ file.taken) :
    file.allocate text = (file.claim? name).bind fun r =>
      (name.on r).map fun given => (.renamed text given, file.take r) := by
  simp only [allocate_of_name file hname, if_pos h, firstSpare?_eq, claim?_of_mem h,
    Option.map_bind, Function.comp_def, Option.map_map]

/-- **A name is allocated the register that it claims.** -/
theorem allocate_eq_some_iff (hname : RegisterName.ofString? text = some name) {a : Assignment} :
    file.allocate text = some (a, next) ↔
      ∃ r, file.claim? name = some r ∧ Writes text name r a ∧ next = file.take r := by
  by_cases hmem : name.register ∈ file.taken
  · rw [allocate_of_mem hname hmem]
    simp only [Option.bind_eq_some_iff, Option.map_eq_some_iff, Prod.mk.injEq]
    constructor
    · rintro ⟨r, hr, given, hgiven, rfl, rfl⟩
      have hne : r ≠ name.register := fun heq => (claim?_eq_own_iff hr).mp heq hmem
      exact ⟨r, hr, .spare hne hgiven, rfl⟩
    · rintro ⟨r, hr, hwrites, rfl⟩
      cases hwrites with
      | own => exact absurd hmem (notMem_of_claim? hr)
      | spare _ hgiven => exact ⟨r, hr, _, hgiven, rfl, rfl⟩
  · rw [allocate_of_notMem hname hmem, claim?_of_notMem hmem]
    constructor
    · rintro ⟨⟩
      exact ⟨_, rfl, .own, rfl⟩
    · rintro ⟨r, ⟨⟩, hwrites, rfl⟩
      cases hwrites with
      | own => rfl
      | spare hne _ => exact absurd rfl hne

/-- **…and is refused exactly if it can claim none.** -/
theorem allocate_eq_none_iff (hname : RegisterName.ofString? text = some name) :
    file.allocate text = none ↔ file.claim? name = none := by
  simp only [Option.eq_none_iff_forall_ne_some]
  constructor
  · intro h r hr
    obtain ⟨a, ha⟩ := exists_writes_of_claim? hr text
    exact h (a, file.take r) ((allocate_eq_some_iff hname).mpr ⟨r, hr, ha, rfl⟩)
  · rintro h ⟨a, next⟩ hallocate
    obtain ⟨r, hr, -, -⟩ := (allocate_eq_some_iff hname).mp hallocate
    exact h r hr

end RegisterFile

end AsmForms
