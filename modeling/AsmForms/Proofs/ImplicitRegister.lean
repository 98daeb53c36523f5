import AsmForms.Proofs.Aliasing
import AsmForms.Proofs.Capacity

/-!
# Proofs/ImplicitRegister — when a vector operand is the implicit register

The marker of the implicit register has no operand, so nothing is taken for it.  What keeps the
vector operands clear of the register is that none of their templates asks for it, and that it comes
last among the vector spares.  So it is handed out exactly if a form asks for as many vector
registers as its fixed operands leave (`implicit_register_stays_clear_iff`).

The invariant of a run is that no spare is free any more once the last one is taken
(`free_eq_zero_of_meet`); how many are free at the end is known from the requests (`free_fileAt?`).
-/

namespace AsmForms

/-! ## The last spare of a class -/

/-- A register is the **last spare** of its class. -/
def Encoding.IsLastSpare (encoding : Encoding) (r : Register) : Prop :=
  (encoding.spares r.cls).getLast? = some r

/-- An operand **avoids** a register: it asks for a spare, and if for one of the same class, then
for another one, and any spare will do. -/
def Operand.Avoids (encoding : Encoding) (r : Register) (operand : Operand) : Prop :=
  operand.Pooled encoding ∧
    (operand.cls? = some r.cls → operand.Flexible encoding ∧ ¬ Names operand.text r)

/-- Nothing comes after the last entry, if no entry is repeated. -/
theorem eq_nil_of_getLast? {α : Type} {before after : List α} {a : α}
    (hnodup : (before ++ a :: after).Nodup) (hlast : (before ++ a :: after).getLast? = some a) :
    after = [] := by
  cases after with
  | nil => rfl
  | cons b rest =>
    rw [List.getLast?_append_cons, List.getLast?_cons_cons] at hlast
    have hmem : a ∈ b :: rest := List.mem_of_getLast? hlast
    exact absurd hmem (List.nodup_cons.mp (List.nodup_append.mp hnodup).2.1).1

namespace RegisterFile

variable {file mid next : RegisterFile} {cls : RegisterClass} {name : RegisterName}
  {operand : Operand} {operands : List Operand} {assignment : Assignment} {r : Register} {i : Nat}

/-- **The last spare is claimed last**: if it is claimed in place of another register, no spare is
left. -/
theorem free_eq_zero_of_claim? (hlast : file.encoding.IsLastSpare r)
    (hflexible : name.Flexible file.encoding) (hne : name.register ≠ r)
    (hclaim : file.claim? name = some r) : (file.take r).free r.cls = 0 := by
  have hmem : name.register ∈ file.taken := by
    by_contra hfree
    exact hne ((claim?_eq_own_iff hclaim).mpr hfree).symm
  obtain ⟨-, before, after, hspares, hbefore⟩ := (claim?_eq_some_iff_of_mem hmem).mp hclaim
  rw [← cls_of_claim? hclaim] at hspares
  have hnodup := file.encoding.nodup_spares r.cls
  rw [Encoding.IsLastSpare, hspares] at hlast
  rw [hspares] at hnodup
  obtain rfl := eq_nil_of_getLast? hnodup hlast
  rw [free_eq_zero_iff, encoding_take, hspares]
  intro s hs
  rw [mem_take]
  rcases List.mem_append.mp hs with hs | hs
  · rcases hbefore s hs with htaken | hnone
    · exact Or.inr htaken
    · have hview := hflexible.2 s (by rw [← cls_of_claim? hclaim, hspares]; simp [hs])
      simp [hnone] at hview
  · exact Or.inl (List.mem_singleton.mp hs)

/-- **Once the last spare is taken, no spare is free**: this is what every operand preserves. -/
theorem free_eq_zero_of_meet (hlast : file.encoding.IsLastSpare r)
    (havoids : operand.Avoids file.encoding r)
    (h : file.meet operand = some (assignment, next))
    (hfile : r ∈ file.taken → file.free r.cls = 0) (hmem : r ∈ next.taken) :
    next.free r.cls = 0 := by
  by_cases htaken : r ∈ file.taken
  · have hfree := free_of_meet havoids.1 h r.cls
    have hzero := hfile htaken
    omega
  · rcases meet_cases havoids.1.sound h with ⟨hgen, name, s, hname, hclaim, -, rfl⟩ | ⟨-, -, rfl⟩
    · rw [mem_take, or_iff_left htaken] at hmem
      subst hmem
      have hcls : operand.cls? = some r.cls := by
        rw [Operand.cls?_of_name hgen hname, cls_of_claim? hclaim]
      obtain ⟨hflexible, hasks⟩ := havoids.2 hcls
      obtain ⟨name', hname', hflexible⟩ := hflexible hgen
      obtain rfl := Option.some.inj (hname.symm.trans hname')
      rw [names_iff hname] at hasks
      exact free_eq_zero_of_claim? hlast hflexible (Ne.symm hasks) hclaim
    · exact absurd hmem htaken

/-! ## The whole run -/

/-- **Wherever a run gets, no spare is free once the last one is taken.** -/
theorem free_eq_zero_fileAt? (hlast : file.encoding.IsLastSpare r)
    (havoids : ∀ operand ∈ operands, operand.Avoids file.encoding r)
    (hfile : r ∈ file.taken → file.free r.cls = 0)
    (h : file.fileAt? operands i = some mid) (hmem : r ∈ mid.taken) : mid.free r.cls = 0 := by
  induction i generalizing mid with
  | zero =>
    rw [fileAt?_zero] at h
    obtain rfl := Option.some.inj h
    exact hfile hmem
  | succ i ih =>
    simp only [fileAt?_succ, Option.bind_eq_some_iff, Option.map_eq_some_iff] at h
    obtain ⟨before, hbefore, operand, ho, ⟨assignment, _⟩, hmeet, rfl⟩ := h
    have hsound : ∀ operand ∈ operands, operand.Sound :=
      fun operand hmem => (havoids operand hmem).1.sound
    have hencoding := (mem_taken_fileAt? hsound hbefore).1
    refine free_eq_zero_of_meet (hencoding ▸ hlast) ?_ hmeet (ih hbefore) hmem
    rw [hencoding]
    exact havoids operand (List.mem_of_getElem? ho)

/-- **The last spare is not handed out exactly if fewer are asked for than are free.** -/
theorem not_givenBefore_length_iff (hlast : file.encoding.IsLastSpare r)
    (havoids : ∀ operand ∈ operands, operand.Avoids file.encoding r)
    (hunmet : (file.assign operands).unmet = none) (hfree : r ∉ file.taken) :
    ¬ GivenBefore operands (file.assign operands).assigned operands.length r ↔
      (Operand.requests r.cls operands).length < file.free r.cls := by
  obtain ⟨last, hend⟩ := exists_fileAt?_length hunmet
  have hpooled : ∀ operand ∈ operands, operand.Pooled file.encoding :=
    fun operand hmem => (havoids operand hmem).1
  obtain ⟨hencoding, htaken⟩ := mem_taken_fileAt? (fun o ho => (hpooled o ho).sound) hend
  have hzero : r ∈ last.taken ↔ last.free r.cls = 0 := by
    refine ⟨free_eq_zero_fileAt? hlast havoids (absurd · hfree) hend, fun hzero => ?_⟩
    exact free_eq_zero_iff.mp hzero r (hencoding ▸ List.mem_of_getLast? hlast)
  have hgiven := htaken r
  rw [or_iff_right hfree, hzero] at hgiven
  have hcount := free_fileAt? hpooled hend r.cls
  rw [List.take_length] at hcount
  rw [← hgiven]
  omega

/-- What is taken at the start is not handed out. -/
theorem not_givenBefore_of_mem (hsound : ∀ operand ∈ operands, operand.Sound)
    (h : r ∈ file.taken) : ¬ GivenBefore operands (file.assign operands).assigned i r := by
  rintro ⟨j, -, operand, assignment, ho, hgen, ha, hnames⟩
  obtain ⟨name, hname, hfree, -⟩ := fresh_of_assigned hsound ho hgen ha
  rw [names_iff hname] at hnames
  exact hfree (hnames ▸ h)

end RegisterFile

/-! ## The vector operands of the built-in vocabulary -/

namespace Engine

variable {config : Config} {form : Form} {template : String} {operand : Operand}
  {operands : List Operand}

/-- **The vector operands** are those of two templates. -/
theorem Reads.cls?_eq_vector_iff
    (h : (ofConfig Table.builtin config).Reads form template operand) :
    operand.cls? = some .vector ↔ template = "xmm" ∨ template = "ymm" := by
  rw [← h.cls?_eq, cls?_eq_view?, form.map_cls_view?_eq_iff]

/-- The vector templates ask for other registers than the implicit one. -/
theorem Reads.not_names_implicit (h : (ofConfig Table.builtin config).Reads form template operand)
    (hvector : template = "xmm" ∨ template = "ymm") : ¬ Names operand.text ⟨.vector, 0⟩ := by
  have hrows : ∀ row ∈ [("xmm", "xmm5"), ("ymm", "ymm7")],
      Table.builtin.lookup row.1 = some (.literal row.2) ∧ ¬ Names row.2 ⟨.vector, 0⟩ := by
    decide
  obtain ⟨text, hmem⟩ : ∃ text, (template, text) ∈ [("xmm", "xmm5"), ("ymm", "ymm7")] := by
    rcases hvector with rfl | rfl
    · exact ⟨"xmm5", by simp⟩
    · exact ⟨"ymm7", by simp⟩
  obtain ⟨hlookup, hother⟩ := hrows _ hmem
  have htext := h.text?_eq
  simp only [text?, resolution, ofConfig, Table.translate, hlookup, Expansion.resolve,
    Option.some.injEq] at htext
  rwa [htext] at hother

/-- What a template of the built-in vocabulary is read as avoids the implicit register. -/
theorem Reads.avoids (h : (ofConfig Table.builtin config).Reads form template operand) :
    operand.Avoids form.encoding ⟨.vector, 0⟩ := by
  refine ⟨h.pooled, fun hcls => ?_⟩
  have hvector := h.cls?_eq_vector_iff.mp hcls
  refine ⟨h.flexible fun _ => ?_, h.not_names_implicit hvector⟩
  rcases hvector with rfl | rfl <;> decide

/-- **The vector operands stay clear of the implicit register exactly if it is not handed
out.** -/
theorem clear_iff_not_givenBefore
    (hread : (ofConfig Table.builtin config).operands form = .ok operands) :
    (∀ (i : Nat) (template text : String),
        ((ofConfig Table.builtin config).kept form)[i]? = some template →
        template = "xmm" ∨ template = "ymm" →
        ((Allocation.ofOperands form.encoding operands).assigned.map Assignment.text)[i]? =
          some text → ¬ Names text ⟨.vector, 0⟩) ↔
      ¬ GivenBefore operands (Allocation.ofOperands form.encoding operands).assigned
        operands.length ⟨.vector, 0⟩ := by
  simp only [List.getElem?_map, Option.map_eq_some_iff]
  constructor
  · rintro hclear ⟨i, -, operand, assignment, ho, hgen, ha, hnames⟩
    obtain ⟨template, ht, hreads⟩ := exists_template_of_getElem? hread ho
    have hcls := RegisterFile.cls?_of_names_assigned (sound_of_operands hread) ho hgen ha hnames
    exact hclear i template assignment.text ht (hreads.cls?_eq_vector_iff.mp hcls)
      ⟨assignment, ha, rfl⟩ hnames
  · rintro hgiven i template _ ht hvector ⟨assignment, ha, rfl⟩ hnames
    obtain ⟨operand, ho, hreads⟩ := exists_reads_of_getElem? hread ht
    obtain ⟨hgen, -⟩ := Operand.exists_name_of_cls? (hreads.cls?_eq_vector_iff.mpr hvector)
    exact hgiven ⟨i, (List.getElem?_eq_some_iff.mp ho).1, operand, assignment, ho, hgen, ha, hnames⟩

/-- **Every operand avoids the implicit register.** -/
theorem avoids_of_operands (hread : (ofConfig Table.builtin config).operands form = .ok operands) :
    ∀ operand ∈ operands, operand.Avoids form.encoding ⟨.vector, 0⟩ := by
  intro operand hmem
  obtain ⟨template, -, hreads⟩ := exists_reads_of_mem hread hmem
  exact hreads.avoids

end Engine

/-- **The implicit register stays clear exactly if registers are left over.**  With the built-in
vocabulary and any choices, and whether or not a form contains the marker, no vector operand of its
instruction is the implicit register exactly if a fixed operand mentions that register, or the form
asks for fewer vector registers than its fixed operands leave. -/
theorem implicit_register_stays_clear_iff (config : Config) (form : Form)
    (instruction : Instruction)
    (h : (Engine.ofConfig Table.builtin config).instantiate form = .ok instruction) :
    let engine := Engine.ofConfig Table.builtin config
    (∀ (i : Nat) (template text : String), (engine.kept form)[i]? = some template →
        template = "xmm" ∨ template = "ymm" → instruction.operands[i]? = some text →
        ¬ Names text ⟨.vector, 0⟩) ↔
      engine.FixedMention form ⟨.vector, 0⟩ ∨
        form.demand .vector + engine.occupied form .vector < form.encoding.capacity .vector := by
  intro engine
  obtain ⟨operands, hread, hunmet, rfl⟩ := Engine.instantiate_eq_ok_iff.mp h
  rw [Engine.clear_iff_not_givenBefore hread, Allocation.ofOperands]
  by_cases hfixed : engine.FixedMention form ⟨.vector, 0⟩
  · have htaken := (Engine.mem_taken_ofFixed_iff hread).mpr hfixed
    refine iff_of_true ?_ (Or.inl hfixed)
    exact RegisterFile.not_givenBefore_of_mem (Engine.sound_of_operands hread) htaken
  · have hlast : form.encoding.IsLastSpare ⟨.vector, 0⟩ := rfl
    have havoids := Engine.avoids_of_operands hread
    rw [← RegisterFile.encoding_ofFixed form.encoding operands] at hlast havoids
    have hfree := (Engine.mem_taken_ofFixed_iff hread).not.mpr hfixed
    rw [or_iff_right hfixed, RegisterFile.not_givenBefore_length_iff hlast havoids hunmet hfree,
      Engine.length_requests hread, form.countP_cls?, ← Engine.free_ofFixed_add_occupied hread,
      Nat.add_lt_add_iff_right]

/-- Eleven vector operands beside the marker stay clear of the implicit register, -/
theorem eleven_vector_operands_stay_clear :
    let engine := Engine.ofConfig Table.builtin {}
    let form : Form := ⟨"PBLENDVB", List.replicate 11 "xmm" ++ [implicitXmm0], .legacy⟩
    let instruction : Instruction := ⟨"PBLENDVB",
      ["xmm5", "xmm6", "xmm4", "xmm3", "xmm2", "xmm1", "xmm8", "xmm13", "xmm14", "xmm15", "xmm7"]⟩
    engine.instantiate form = .ok instruction ∧
      ∀ (i : Nat) (template text : String), (engine.kept form)[i]? = some template →
        template = "xmm" ∨ template = "ymm" → instruction.operands[i]? = some text →
        ¬ Names text ⟨.vector, 0⟩ := by
  intro engine form instruction
  have h : engine.instantiate form = .ok instruction := by decide
  exact ⟨h, (implicit_register_stays_clear_iff {} form instruction h).mpr (Or.inr (by decide))⟩

/-- and a twelfth one is given it. -/
theorem twelfth_vector_operand_is_the_implicit_register :
    let engine := Engine.ofConfig Table.builtin {}
    let form : Form := ⟨"PBLENDVB", List.replicate 12 "xmm" ++ [implicitXmm0], .legacy⟩
    let instruction : Instruction := ⟨"PBLENDVB",
      ["xmm5", "xmm6", "xmm4", "xmm3", "xmm2", "xmm1", "xmm8", "xmm13", "xmm14", "xmm15", "xmm7",
        "xmm0"]⟩
    implicitXmm0 ∈ form.templates ∧ engine.instantiate form = .ok instruction ∧
      (engine.kept form)[11]? = some "xmm" ∧ instruction.operands[11]? = some "xmm0" ∧
      Names "xmm0" ⟨.vector, 0⟩ := by
  decide

end AsmForms
