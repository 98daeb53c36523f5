import AsmForms.Proofs.Engine.Classes
import Mathlib.Data.List.Nodup

/-!
# Proofs/Engine/Capacity — how many requests a register file meets

A name is **flexible** if its register is a spare and every spare of its class has its view.  A
claim for such a name fails only if no spare of the class is free, and else takes exactly one of
them.  So a run meets all requests exactly if no class has more of them than free spares
(`unmet_eq_none_iff`), whatever the order of the requests and the registers that they prefer.
-/

namespace AsmForms

theorem Encoding.nodup_spares (encoding : Encoding) (cls : RegisterClass) :
    (encoding.spares cls).Nodup := by
  cases encoding <;> cases cls <;> decide

/-- **Any spare will do** for the name, and its own register is one of them. -/
def RegisterName.Flexible (encoding : Encoding) (name : RegisterName) : Prop :=
  name.register ∈ encoding.spares name.register.cls ∧
    ∀ s ∈ encoding.spares name.register.cls, (name.on s).isSome

namespace Operand

variable {encoding : Encoding} {cls : RegisterClass} {operand : Operand}

/-- A generated operand is **pooled**: it asks for a spare. -/
def Pooled (encoding : Encoding) (operand : Operand) : Prop :=
  operand.generated = true →
    ∃ name, RegisterName.ofString? operand.text = some name ∧
      name.register ∈ encoding.spares name.register.cls

/-- A generated operand is a flexible name. -/
def Flexible (encoding : Encoding) (operand : Operand) : Prop :=
  operand.generated = true →
    ∃ name, RegisterName.ofString? operand.text = some name ∧ name.Flexible encoding

theorem Pooled.sound (h : operand.Pooled encoding) : operand.Sound := by
  intro hgen
  obtain ⟨name, hname, -⟩ := h hgen
  exact ⟨name, hname⟩

theorem Flexible.pooled (h : operand.Flexible encoding) : operand.Pooled encoding := by
  intro hgen
  obtain ⟨name, hname, hspare, -⟩ := h hgen
  exact ⟨name, hname, hspare⟩

theorem Flexible.sound (h : operand.Flexible encoding) : operand.Sound :=
  h.pooled.sound

/-- How many registers of a class an operand asks for: one or none. -/
def demand (cls : RegisterClass) (operand : Operand) : Nat :=
  if operand.cls? = some cls then 1 else 0

theorem length_requests_cons (cls : RegisterClass) (operand : Operand) (operands : List Operand) :
    (requests cls (operand :: operands)).length =
      (requests cls operands).length + operand.demand cls := by
  by_cases h : operand.cls? = some cls
  · rw [requests_cons_of_cls h, demand, if_pos h, List.length_cons]
  · rw [requests_cons_of_ne h, demand, if_neg h, Nat.add_zero]

end Operand

namespace RegisterFile

variable {cls : RegisterClass} {file file' next : RegisterFile} {name : RegisterName}
  {assignment : Assignment} {operand : Operand} {operands : List Operand} {r : Register}

/-! ## Free spares -/

/-- How many spares of a class are **free**. -/
def free (file : RegisterFile) (cls : RegisterClass) : Nat :=
  (file.encoding.spares cls).countP fun r => r ∉ file.taken

theorem free_congr (h : AgreesOn cls file file') : file.free cls = file'.free cls := by
  rw [free, free, ← h.1]
  exact List.countP_congr fun r hr => by simp [h.2 r (cls_of_mem_spares hr)]

theorem free_eq_zero_iff : file.free cls = 0 ↔ ∀ s ∈ file.encoding.spares cls, s ∈ file.taken := by
  simp [free, List.countP_eq_zero]

/-- **Taking a free spare leaves one spare less**, -/
theorem free_take (hspare : r ∈ file.encoding.spares cls) (hfree : r ∉ file.taken) :
    (file.take r).free cls + 1 = file.free cls := by
  obtain ⟨before, after, hsplit⟩ := List.append_of_mem hspare
  have hnodup := file.encoding.nodup_spares cls
  rw [hsplit, List.nodup_middle, List.nodup_cons, List.mem_append, not_or] at hnodup
  obtain ⟨⟨hbefore, hafter⟩, -⟩ := hnodup
  -- The spare stands in the list once, and all others are counted as before.
  have hother {rest : List Register} (hr : r ∉ rest) :
      (rest.countP fun s => s ∉ (file.take r).taken) = rest.countP fun s => s ∉ file.taken := by
    refine List.countP_congr fun s hs => ?_
    have hne : s ≠ r := fun heq => hr (heq ▸ hs)
    simp [hne]
  rw [free, free, encoding_take, hsplit, List.countP_append, List.countP_append,
    List.countP_cons_of_neg (by simp), List.countP_cons_of_pos (by simpa using hfree),
    hother hbefore, hother hafter]
  rfl

/-- and as many of the other classes as before. -/
theorem free_take_of_ne (h : r.cls ≠ cls) : (file.take r).free cls = file.free cls :=
  free_congr (AgreesOn.take_left ⟨rfl, fun _ _ => Iff.rfl⟩ h)

/-! ## One claim -/

/-- **A claim for a flexible name fails exactly if no spare is free.** -/
theorem claim?_eq_none_iff_free (h : name.Flexible file.encoding) :
    file.claim? name = none ↔ file.free name.register.cls = 0 := by
  rw [claim?_eq_none_iff, free_eq_zero_iff]
  constructor
  · exact fun hnone s hs => hnone.2 s hs (h.2 s hs)
  · exact fun hall => ⟨hall _ h.1, fun s hs _ => hall s hs⟩

/-- **What is claimed for the name of a spare is a spare.** -/
theorem mem_spares_of_claim? (h : name.register ∈ file.encoding.spares name.register.cls)
    (hclaim : file.claim? name = some r) : r ∈ file.encoding.spares name.register.cls := by
  by_cases hmem : name.register ∈ file.taken
  · rw [claim?_of_mem hmem] at hclaim
    exact List.mem_of_find?_eq_some hclaim
  · rw [claim?_of_notMem hmem] at hclaim
    exact Option.some.inj hclaim ▸ h

/-! ## One operand -/

/-- An operand that is not met asks for a class without free spares. -/
theorem free_of_meet_eq_none (hflexible : operand.Flexible file.encoding)
    (h : file.meet operand = none) : ∃ cls, operand.demand cls = 1 ∧ file.free cls = 0 := by
  obtain ⟨hgen, name, hname, hnone⟩ := (meet_eq_none_iff hflexible.sound).mp h
  obtain ⟨name', hname', hflex⟩ := hflexible hgen
  obtain rfl := Option.some.inj (hname.symm.trans hname')
  exact ⟨name.register.cls, if_pos (Operand.cls?_of_name hgen hname),
    (claim?_eq_none_iff_free hflex).mp hnone⟩

/-- **An operand that is met takes what it asks for.** -/
theorem free_of_meet (hpooled : operand.Pooled file.encoding)
    (h : file.meet operand = some (assignment, next)) (cls : RegisterClass) :
    next.free cls + operand.demand cls = file.free cls := by
  rcases meet_cases hpooled.sound h with ⟨hgen, name, r, hname, hclaim, -, rfl⟩ | ⟨hfixed, -, rfl⟩
  · obtain ⟨name', hname', hspare⟩ := hpooled hgen
    obtain rfl := Option.some.inj (hname.symm.trans hname')
    have hown := Operand.cls?_of_name hgen hname
    by_cases hcls : name.register.cls = cls
    · subst hcls
      rw [Operand.demand, if_pos hown,
        free_take (mem_spares_of_claim? hspare hclaim) (notMem_of_claim? hclaim)]
    · rw [Operand.demand, if_neg (by simp [hown, hcls]), Nat.add_zero]
      exact free_take_of_ne (cls_of_claim? hclaim ▸ hcls)
  · simp [Operand.demand, Operand.cls?, hfixed]

/-! ## All operands -/

/-- **What is free at a position** is what the operands before it have left. -/
theorem free_fileAt? {i : Nat} (hpooled : ∀ operand ∈ operands, operand.Pooled file.encoding)
    (h : file.fileAt? operands i = some next) (cls : RegisterClass) :
    next.free cls + (Operand.requests cls (operands.take i)).length = file.free cls := by
  induction i generalizing file operands with
  | zero =>
    rw [fileAt?_zero] at h
    obtain rfl := Option.some.inj h
    rfl
  | succ i ih =>
    cases operands with
    | nil => exact absurd h nofun
    | cons operand operands =>
      rw [List.forall_mem_cons] at hpooled
      obtain ⟨⟨assignment, mid⟩, hmeet, hrest⟩ := Option.bind_eq_some_iff.mp h
      have hencoding := (mem_taken_of_meet hpooled.1.sound hmeet).1
      have hfirst := free_of_meet hpooled.1 hmeet cls
      have hothers : next.free cls + _ = mid.free cls := ih (hencoding ▸ hpooled.2) hrest
      rw [List.take_succ_cons, Operand.length_requests_cons]
      omega

/-- **A run meets all operands exactly if no class has more requests than free spares.** -/
theorem unmet_eq_none_iff (hflexible : ∀ operand ∈ operands, operand.Flexible file.encoding) :
    (file.assign operands).unmet = none ↔
      ∀ cls, (Operand.requests cls operands).length ≤ file.free cls := by
  induction operands generalizing file with
  | nil => simp
  | cons operand operands ih =>
    rw [List.forall_mem_cons] at hflexible
    simp only [Operand.length_requests_cons]
    cases hmeet : file.meet operand with
    | none =>
      obtain ⟨cls, hdemand, hfree⟩ := free_of_meet_eq_none hflexible.1 hmeet
      rw [assign_cons_of_none hmeet]
      refine iff_of_false nofun fun hfits => ?_
      have hcls := hfits cls
      omega
    | some met =>
      obtain ⟨assignment, next⟩ := met
      have hencoding := (mem_taken_of_meet hflexible.1.sound hmeet).1
      -- Both sides of the bound lose what the first operand demands.
      have hfree := free_of_meet hflexible.1.pooled hmeet
      rw [assign_cons_of_some hmeet, ih (by rw [hencoding]; exact hflexible.2)]
      refine forall_congr' fun cls => ?_
      rw [← hfree cls, Nat.add_le_add_iff_right]

end RegisterFile

end AsmForms
