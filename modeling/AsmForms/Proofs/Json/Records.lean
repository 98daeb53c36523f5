import AsmForms.Proofs.Json.RoundTrip

/-!
# Proofs/Json/Records — which values are read as a record

The **format** of a record says of each field which values may stand for it and whether it may be
left out, whatever the record holds.  A value that **fits** the format is read, and no other is;
what is read takes each field from the value, or else from the defaults
(`records_follow_their_formats`).

The fields are independent of each other: fields that are valid one by one belong to one record
(`exists_spellsRecord_iff`).  Choices may be given **in part** (`FitsInPart`), forms and
instructions only **in full** (`FitsInFull`).
-/

namespace AsmForms

open Json

namespace Json

/-- A field that any value of its type may stand for. -/
def Field.ofType (α : Type) [Spelled α] (name : String) (mayOmit : Prop) : Field where
  name := name
  Spells value := ∃ a : α, Spelled.Spells value a
  MayOmit := mayOmit

@[simp] theorem Field.name_ofType {α : Type} [Spelled α] (name : String) (mayOmit : Prop) :
    (ofType α name mayOmit).name = name := rfl

/-- A value fits a format **in part**. -/
inductive FitsInPart (format : List Field) : Value → Prop
  /-- An object may have any members, but those with the name of a field must be valid. -/
  | object {members : List (String × Value)}
      (hmembers : ∀ field ∈ format, ∀ given, (field.name, given) ∈ members → field.Spells given) :
      FitsInPart format (.object members)
  /-- An array may have as many items as there are fields, or fewer, each valid at its place. -/
  | array {items : List Value} (hlength : items.length ≤ format.length)
      (hitems : List.Forall₂ Field.Spells (format.take items.length) items) :
      FitsInPart format (.array items)

/-- A value fits a format **in full**. -/
inductive FitsInFull (format : List Field) : Value → Prop
  /-- An object may have any further members, but each field must be there and be valid. -/
  | object {members : List (String × Value)}
      (hmembers : ∀ field ∈ format, ∃ given, (field.name, given) ∈ members ∧ field.Spells given) :
      FitsInFull format (.object members)
  /-- An array must have exactly one item for each field, in order. -/
  | array {items : List Value} (hitems : List.Forall₂ Field.Spells format items) :
      FitsInFull format (.array items)

/-- What a value **gives** for a field: the member with its name, or the item at its place. -/
inductive Gives (names : List String) (name : String) (given : Value) : Value → Prop
  | member {members : List (String × Value)} (h : (name, given) ∈ members) :
      Gives names name given (.object members)
  | item {items : List Value} (h : (name, given) ∈ names.zip items) :
      Gives names name given (.array items)

/-- A field is **taken from** a value: it is spelled by what is given for it, or left out if nothing
is. -/
def Field.TakenFrom (field : Field) (names : List String) (value : Value) : Prop :=
  (∃ given, Gives names field.name given value ∧ field.Spells given) ∨
    (∀ given, ¬ Gives names field.name given value) ∧ field.MayOmit

/-- The values of a type **follow a format**. -/
structure Follows (α : Type) [Codec α] (format : List Field) (fields : α → List Field)
    (Fits : List Field → Value → Prop) : Prop where
  /-- What is read is what fits. -/
  accepted (value : Value) (hvalue : value.Distinct) :
    (decode? value : Option α).isSome ↔ Fits format value
  /-- Every field of what is read is taken from the value. -/
  taken (value : Value) (hvalue : value.Distinct) (a : α) (ha : decode? value = some a) :
    ∀ field ∈ fields a, field.TakenFrom (format.map Field.name) value
  /-- **One invalid field** anywhere rejects the whole value. -/
  rejected (value : Value) (hvalue : value.Distinct) (field : Field) (hfield : field ∈ format)
    (given : Value) (hgiven : Gives (format.map Field.name) field.name given value)
    (hinvalid : ¬ field.Spells given) : (decode? value : Option α) = none
  /-- Null is never valid. -/
  null (field : Field) (hfield : field ∈ format) : ¬ field.Spells .null

/-! ## What is given -/

section

variable {format : List Field} {names : List String} {value given : Value}

@[simp] theorem gives_object_iff {members : List (String × Value)} {name : String} :
    Gives names name given (.object members) ↔ (name, given) ∈ members := by
  refine ⟨fun h => ?_, .member⟩
  cases h with
  | member hmem => exact hmem

@[simp] theorem gives_array_iff {items : List Value} {name : String} :
    Gives names name given (.array items) ↔ (name, given) ∈ names.zip items := by
  refine ⟨fun h => ?_, .item⟩
  cases h with
  | item hmem => exact hmem

theorem nodup_map_fst_zip {β : Type} (hnames : names.Nodup) (items : List β) :
    ((names.zip items).map Prod.fst).Nodup := by
  rw [List.zip_eq_zip_take_min, List.map_fst_zip (by simp)]
  exact hnames.sublist (List.take_sublist _ _)

/-- **What is given is what is looked up.** -/
theorem gives_iff {members : List (String × Value)} (hnames : names.Nodup)
    (hvalue : value.Distinct) (h : value.members? names = some members) {name : String} :
    Gives names name given value ↔ members.lookup name = some given := by
  cases hvalue with
  | object hkeys _ =>
    obtain rfl := Option.some.inj h
    rw [gives_object_iff, lookup_eq_some_iff_mem hkeys]
  | array _ =>
    simp only [Value.members?, Option.ite_none_right_eq_some, Option.some.injEq] at h
    obtain ⟨-, rfl⟩ := h
    rw [gives_array_iff, lookup_eq_some_iff_mem (nodup_map_fst_zip hnames _)]
  | _ => cases h

theorem takenFrom_iff {members : List (String × Value)} (hnames : names.Nodup)
    (hvalue : value.Distinct) (h : value.members? names = some members) {field : Field} :
    field.TakenFrom names value ↔ field.SpelledBy (members.lookup field.name) := by
  simp only [Field.TakenFrom, gives_iff hnames hvalue h]
  cases members.lookup field.name <;> simp [Field.SpelledBy]

/-- **Each field of a record is taken from what spells it.** -/
theorem SpellsRecord.takenFrom (hnames : (format.map Field.name).Nodup) (hvalue : value.Distinct)
    (h : SpellsRecord format value) :
    ∀ field ∈ format, field.TakenFrom (format.map Field.name) value := by
  obtain ⟨members, hmembers, hfields⟩ := (spellsRecord_iff hnames hvalue).mp h
  exact fun field hmem => (takenFrom_iff hnames hvalue hmembers).mpr (hfields field hmem)

/-- What is given for a field of a record spells it. -/
theorem SpellsRecord.spells_of_gives (hnames : (format.map Field.name).Nodup)
    (hvalue : value.Distinct) (h : SpellsRecord format value) {field : Field}
    (hfield : field ∈ format) (hgiven : Gives (format.map Field.name) field.name given value) :
    field.Spells given := by
  obtain ⟨members, hmembers, hfields⟩ := (spellsRecord_iff hnames hvalue).mp h
  have hspelled := hfields field hfield
  rwa [(gives_iff hnames hvalue hmembers).mp hgiven] at hspelled

/-! ## Fitting in part and in full -/

/-- **If every field may be left out**, a record may be given in part. -/
theorem spellsRecord_iff_fitsInPart (homit : ∀ field ∈ format, field.MayOmit)
    (hvalue : value.Distinct) : SpellsRecord format value ↔ FitsInPart format value := by
  constructor
  · rintro (⟨hfields⟩ | ⟨rfl, hgiven, -⟩)
    · cases hvalue with
      | object hkeys _ =>
        refine .object fun field hfield given hmem => ?_
        have hspelled := (spelledBy_lookup_iff hkeys field).mpr (hfields field hfield)
        rwa [(lookup_eq_some_iff_mem hkeys).mpr hmem] at hspelled
    · exact .array (by simp [← hgiven.length_eq]) (by rwa [← hgiven.length_eq, List.take_left])
  · rintro (@⟨members, hmembers⟩ | ⟨-, hitems⟩)
    · refine .object fun field hfield => ?_
      by_cases hgiven : ∃ given, (field.name, given) ∈ members
      · obtain ⟨given, hmem⟩ := hgiven
        exact .inl ⟨given, hmem, hmembers field hfield given hmem⟩
      · exact .inr ⟨not_exists.mp hgiven, homit field hfield⟩
    · exact .array (List.take_append_drop _ _).symm hitems fun field hfield =>
        homit field (List.mem_of_mem_drop hfield)

/-- **If no field may be left out**, a record is given in full. -/
theorem spellsRecord_iff_fitsInFull (homit : ∀ field ∈ format, ¬ field.MayOmit) :
    SpellsRecord format value ↔ FitsInFull format value := by
  constructor
  · rintro (⟨hfields⟩ | @⟨given, omitted, _, rfl, hgiven, homitted⟩)
    · exact .object fun field hfield =>
        (hfields field hfield).resolve_right fun h => homit field hfield h.2
    · have hnone : omitted = [] := List.eq_nil_iff_forall_not_mem.mpr fun field hfield =>
        homit field (List.mem_append_right _ hfield) (homitted field hfield)
      subst hnone
      exact .array (by rwa [List.append_nil])
  · rintro (⟨hmembers⟩ | ⟨hitems⟩)
    · exact .object fun field hfield => .inl (hmembers field hfield)
    · exact .array (List.append_nil _).symm hitems (by simp)

/-- An array has as many items as there are fields. -/
theorem FitsInFull.length_eq {items : List Value} (h : FitsInFull format (.array items)) :
    format.length = items.length := by
  cases h with
  | array hitems => exact hitems.length_eq

end

/-! ## Records follow their formats -/

section

variable {α : Type} {format : List Field} {fields : α → List Field}

/-- **Independent fields make one record.**  If fields that are valid one by one, whatever is given
for them, belong to one record, then whatever fits the format spells some record. -/
theorem exists_spellsRecord_iff (hnames : (format.map Field.name).Nodup)
    (hfields : ∀ a, (fields a).map Field.name = format.map Field.name)
    (hindependent : ∀ given : String → Option Value,
      (∃ a, ∀ field ∈ fields a, field.SpelledBy (given field.name)) ↔
        ∀ field ∈ format, field.SpelledBy (given field.name))
    {value : Value} (hvalue : value.Distinct) :
    (∃ a, SpellsRecord (fields a) value) ↔ SpellsRecord format value := by
  have hlookup : ∀ a, SpellsRecord (fields a) value ↔
      ∃ members, value.members? (format.map Field.name) = some members ∧
        ∀ field ∈ fields a, field.SpelledBy (members.lookup field.name) := by
    intro a
    rw [spellsRecord_iff (hfields a ▸ hnames) hvalue, hfields a]
  simp only [hlookup, spellsRecord_iff hnames hvalue]
  rw [exists_comm]
  exact exists_congr fun members => by rw [exists_and_left, hindependent (members.lookup ·)]

/-- A type whose values are spelled as records of independent fields follows their format. -/
theorem Follows.of_lawful [Codec α] [Spelled α] [LawfulCodec α]
    {Fits : List Field → Value → Prop}
    (hspells : ∀ value (a : α), Spells value a ↔ SpellsRecord (fields a) value)
    (hnames : (format.map Field.name).Nodup)
    (hfields : ∀ a, (fields a).map Field.name = format.map Field.name)
    (hindependent : ∀ given : String → Option Value,
      (∃ a, ∀ field ∈ fields a, field.SpelledBy (given field.name)) ↔
        ∀ field ∈ format, field.SpelledBy (given field.name))
    (hfits : ∀ value, value.Distinct → (SpellsRecord format value ↔ Fits format value))
    (hnull : ∀ field ∈ format, ¬ field.Spells .null) : Follows α format fields Fits := by
  have hread : ∀ value : Value, value.Distinct → ∀ a : α,
      decode? value = some a ↔ SpellsRecord (fields a) value := fun value hvalue a =>
    (decode?_eq_some_iff hvalue).trans (hspells value a)
  refine ⟨fun value hvalue => ?_, fun value hvalue a ha => ?_,
    fun value hvalue field hfield given hgiven hinvalid => ?_, hnull⟩
  · simp only [Option.isSome_iff_exists, hread value hvalue]
    rw [exists_spellsRecord_iff hnames hfields hindependent hvalue, hfits value hvalue]
  · rw [← hfields a]
    exact ((hread value hvalue a).mp ha).takenFrom (hfields a ▸ hnames) hvalue
  · refine Option.eq_none_iff_forall_ne_some.mpr fun a ha => hinvalid ?_
    have hspelled := (exists_spellsRecord_iff hnames hfields hindependent hvalue).mp
      ⟨a, (hread value hvalue a).mp ha⟩
    exact hspelled.spells_of_gives hnames hvalue hfield hgiven

end

section

variable {α : Type} [Spelled α] {name : String} {given : Option Value}

theorem exists_optional_iff (default : α) :
    (∃ a, (Field.optional name default a).SpelledBy given) ↔
      (Field.ofType α name True).SpelledBy given := by
  cases given <;> simp [Field.SpelledBy, Field.optional, Field.ofType]

theorem exists_required_iff :
    (∃ a : α, (Field.required name a).SpelledBy given) ↔
      (Field.ofType α name False).SpelledBy given := by
  cases given <;> simp [Field.SpelledBy, Field.required, Field.ofType]

/-- A type that reads nothing from null has no value that null stands for. -/
theorem Field.not_spells_null_ofType [Codec α] [LawfulCodec α] {mayOmit : Prop}
    (h : (decode? Value.null : Option α) = none) : ¬ (ofType α name mayOmit).Spells .null := by
  rintro ⟨a, hspells⟩
  have hread : decode? Value.null = some a := (decode?_eq_some_iff .null).mpr hspells
  exact absurd (h.symm.trans hread) nofun

end

end Json

variable {given : String → Option Value}

/-! ### Choices -/

/-- The format of choices. -/
def Config.format : List Field :=
  [.ofType Dialect "dialect" True, .ofType Fallback "fallback" True, .ofType String "label" True]

theorem Config.exists_spelledBy_iff :
    (∃ config : Config, ∀ field ∈ config.spelling, field.SpelledBy (given field.name)) ↔
      ∀ field ∈ format, field.SpelledBy (given field.name) := by
  simp only [format, spelling, List.forall_mem_cons, List.not_mem_nil, Field.name_optional,
    Field.name_ofType, ← exists_optional_iff ({} : Config).dialect,
    ← exists_optional_iff ({} : Config).fallback, ← exists_optional_iff ({} : Config).label]
  constructor
  · rintro ⟨config, hdialect, hfallback, hlabel, -⟩
    exact ⟨⟨_, hdialect⟩, ⟨_, hfallback⟩, ⟨_, hlabel⟩, nofun⟩
  · rintro ⟨⟨dialect, hdialect⟩, ⟨fallback, hfallback⟩, ⟨label, hlabel⟩, -⟩
    exact ⟨⟨dialect, fallback, label⟩, hdialect, hfallback, hlabel, nofun⟩

theorem Config.follows : Follows Config format spelling FitsInPart :=
  .of_lawful (fun _ _ => Iff.rfl) (by decide) (fun _ => rfl) (fun _ => exists_spelledBy_iff)
    (fun _ => spellsRecord_iff_fitsInPart (by simp [format, Field.ofType]))
    (by
      simp only [format, List.forall_mem_cons]
      refine ⟨?_, ?_, ?_, nofun⟩ <;> exact Field.not_spells_null_ofType rfl)

/-! ### Forms and instructions -/

/-- The format of a form. -/
def Form.format : List Field :=
  [.ofType String "mnemonic" False, .ofType (List String) "operands" False,
   .ofType Encoding "encoding" False]

theorem Form.exists_spelledBy_iff :
    (∃ form : Form, ∀ field ∈ form.spelling, field.SpelledBy (given field.name)) ↔
      ∀ field ∈ format, field.SpelledBy (given field.name) := by
  simp only [format, spelling, List.forall_mem_cons, List.not_mem_nil, Field.name_required,
    Field.name_ofType, ← exists_required_iff]
  constructor
  · rintro ⟨form, hmnemonic, htemplates, hencoding, -⟩
    exact ⟨⟨_, hmnemonic⟩, ⟨_, htemplates⟩, ⟨_, hencoding⟩, nofun⟩
  · rintro ⟨⟨mnemonic, hmnemonic⟩, ⟨templates, htemplates⟩, ⟨encoding, hencoding⟩, -⟩
    exact ⟨⟨mnemonic, templates, encoding⟩, hmnemonic, htemplates, hencoding, nofun⟩

theorem Form.follows : Follows Form format spelling FitsInFull :=
  .of_lawful (fun _ _ => Iff.rfl) (by decide) (fun _ => rfl) (fun _ => exists_spelledBy_iff)
    (fun _ _ => spellsRecord_iff_fitsInFull (by simp [format, Field.ofType]))
    (by
      simp only [format, List.forall_mem_cons]
      refine ⟨?_, ?_, ?_, nofun⟩ <;> exact Field.not_spells_null_ofType rfl)

/-- The format of an instruction. -/
def Instruction.format : List Field :=
  [.ofType String "mnemonic" False, .ofType (List String) "operands" False]

theorem Instruction.exists_spelledBy_iff :
    (∃ instruction : Instruction,
      ∀ field ∈ instruction.spelling, field.SpelledBy (given field.name)) ↔
      ∀ field ∈ format, field.SpelledBy (given field.name) := by
  simp only [format, spelling, List.forall_mem_cons, List.not_mem_nil, Field.name_required,
    Field.name_ofType, ← exists_required_iff]
  constructor
  · rintro ⟨instruction, hmnemonic, hoperands, -⟩
    exact ⟨⟨_, hmnemonic⟩, ⟨_, hoperands⟩, nofun⟩
  · rintro ⟨⟨mnemonic, hmnemonic⟩, ⟨operands, hoperands⟩, -⟩
    exact ⟨⟨mnemonic, operands⟩, hmnemonic, hoperands, nofun⟩

theorem Instruction.follows : Follows Instruction format spelling FitsInFull :=
  .of_lawful (fun _ _ => Iff.rfl) (by decide) (fun _ => rfl) (fun _ => exists_spelledBy_iff)
    (fun _ _ => spellsRecord_iff_fitsInFull (by simp [format, Field.ofType]))
    (by
      simp only [format, List.forall_mem_cons]
      refine ⟨?_, ?_, nofun⟩ <;> exact Field.not_spells_null_ofType rfl)

/-! ### All records -/

/-- **Records are read by their formats.**  Choices may be given in part, as an object or as an
array that ends early; forms and instructions are given in full.  Every field of what is read is
what is given for it, or else the default.  One invalid field rejects the whole value, and null is
never valid. -/
theorem records_follow_their_formats :
    Follows Config Config.format Config.spelling FitsInPart ∧
      Follows Form Form.format Form.spelling FitsInFull ∧
      Follows Instruction Instruction.format Instruction.spelling FitsInFull :=
  ⟨Config.follows, Form.follows, Instruction.follows⟩

/-- Choices with a further key and without two of their fields, choices with a null, and an array of
three items, which is a form but no instruction. -/
theorem partial_and_invalid_records :
    let passthrough : Value := .object [("passthrough", .null)]
    let partly : Value := .object [("note", .null), ("fallback", passthrough)]
    let invalid : Value := .object [("label", .string "L"), ("dialect", .null)]
    let three : Value := .array [.string "NOT", .array [.string "r32"], .string "legacy"]
    let config : Config := { fallback := .passthrough }
    decode? partly = some config ∧ (decode? partly : Option Config).isSome ∧
      (∀ field ∈ config.spelling, field.TakenFrom Config.fields partly) ∧
      (decode? invalid : Option Config) = none ∧ (decode? three : Option Form).isSome ∧
      ¬ (decode? three : Option Instruction).isSome := by
  intro passthrough partly invalid three config
  obtain ⟨hconfig, hform, hinstruction⟩ := records_follow_their_formats
  have hpassthrough : passthrough.Distinct := .object (by decide) (by simp [Value.Distinct.null])
  have hpartly : partly.Distinct :=
    .object (by decide) (by simp [hpassthrough, Value.Distinct.null])
  have hinvalid : invalid.Distinct :=
    .object (by decide) (by simp [Value.Distinct.null, Value.Distinct.string])
  have htemplates : (Value.array [.string "r32"]).Distinct :=
    .array (by simp [Value.Distinct.string])
  have hthree : three.Distinct := .array (by simp [htemplates, Value.Distinct.string])
  have hread : decode? partly = some config := by decide
  have hfallback : ∃ fallback : Fallback, Spells passthrough fallback := ⟨.passthrough, .key⟩
  have hfits : FitsInPart Config.format partly :=
    .object (by simpa [Config.format, Field.ofType] using hfallback)
  have hdialect : Field.ofType Dialect "dialect" True ∈ Config.format := List.mem_cons_self
  have hitems : FitsInFull Form.format three :=
    .array (.cons ⟨"NOT", rfl⟩ (.cons ⟨["r32"], _, rfl, .cons rfl .nil⟩
      (.cons ⟨.legacy, .text⟩ .nil)))
  have hgiven : Gives Config.fields "dialect" .null invalid := .member (by simp)
  have hnull := hconfig.null _ hdialect
  refine ⟨hread, (hconfig.accepted partly hpartly).mpr hfits,
    hconfig.taken partly hpartly config hread,
    hconfig.rejected invalid hinvalid _ hdialect .null hgiven hnull,
    (hform.accepted three hthree).mpr hitems, fun hsome => ?_⟩
  exact absurd ((hinstruction.accepted three hthree).mp hsome).length_eq (by decide)

end AsmForms
