import AsmForms.Proofs.Json.Spelling

/-!
# Proofs/Json/RoundTrip — what is written is read back, however it is spelled

The choices of an engine, forms and instructions, and the three enumerations in them, **read back**:
each value is read from exactly its spellings, and what it is written as is one of these
(`values_read_back`).  The names of the enumerations and the fields of the records are written out
here once more, apart from the codecs; one that drifts away from them, in a name or in the order of
the fields, would not be lawful.
-/

namespace AsmForms

open Json

namespace Json

/-- The values of a type **read back**. -/
structure ReadsBack (α : Type) [Codec α] [Spelled α] : Prop where
  /-- What a value is written as is one of its spellings. -/
  spells (a : α) : Spells (encode a) a
  /-- What a value is written as is read as that value. -/
  written (a : α) : decode? (encode a) = some a
  /-- A value is read from its spellings, and from nothing else. -/
  spelled (value : Value) (hvalue : value.Distinct) (a : α) :
    decode? value = some a ↔ Spells value a
  /-- Whatever is read can be written and read again. -/
  rewritten (value : Value) :
    ((decode? value : Option α).bind fun a => (decode? (encode a) : Option α)) = decode? value

/-- A lawful codec reads back. -/
theorem ReadsBack.of_lawful (α : Type) [Codec α] [Spelled α] [LawfulCodec α] :
    ReadsBack α where
  spells := spells_encode
  written := decode?_encode
  spelled _ hvalue _ := decode?_eq_some_iff hvalue
  rewritten value := by
    cases (decode? value : Option α) with
    | none => rfl
    | some a => exact decode?_encode a

end Json

/-! ## Enumerations -/

instance : Spelled Encoding where
  Spells value
    | .legacy => SpellsName "legacy" value
    | .extended => SpellsName "extended" value

instance : Spelled Dialect where
  Spells value
    | .gas => SpellsName "gas" value
    | .nasm => SpellsName "nasm" value

instance : Spelled Fallback where
  Spells value
    | .strict => SpellsName "strict" value
    | .passthrough => SpellsName "passthrough" value

theorem Encoding.spells_iff (value : Value) (encoding : Encoding) :
    Spells value encoding ↔ SpellsName encoding.name value := by
  cases encoding <;> rfl

theorem Dialect.spells_iff (value : Value) (dialect : Dialect) :
    Spells value dialect ↔ SpellsName dialect.name value := by
  cases dialect <;> rfl

theorem Fallback.spells_iff (value : Value) (fallback : Fallback) :
    Spells value fallback ↔ SpellsName fallback.name value := by
  cases fallback <;> rfl

instance : LawfulCodec Encoding :=
  .of_names [.legacy, .extended] Encoding.name Encoding.spells_iff (fun _ => rfl) (fun _ => rfl)
    (by rintro (_ | _) <;> decide) (by rintro (_ | _) (_ | _) <;> decide)

instance : LawfulCodec Dialect :=
  .of_names [.gas, .nasm] Dialect.name Dialect.spells_iff (fun _ => rfl) (fun _ => rfl)
    (by rintro (_ | _) <;> decide) (by rintro (_ | _) (_ | _) <;> decide)

instance : LawfulCodec Fallback :=
  .of_names [.strict, .passthrough] Fallback.name Fallback.spells_iff (fun _ => rfl)
    (fun _ => rfl) (by rintro (_ | _) <;> decide) (by rintro (_ | _) (_ | _) <;> decide)

/-! ## Records -/

/-- How the fields of choices are spelled.  Each of them may be left out. -/
def Config.spelling (config : Config) : List Field :=
  [.optional "dialect" ({} : Config).dialect config.dialect,
   .optional "fallback" ({} : Config).fallback config.fallback,
   .optional "label" ({} : Config).label config.label]

/-- How the fields of a form are spelled. -/
def Form.spelling (form : Form) : List Field :=
  [.required "mnemonic" form.mnemonic, .required "operands" form.templates,
   .required "encoding" form.encoding]

/-- How the fields of an instruction are spelled. -/
def Instruction.spelling (instruction : Instruction) : List Field :=
  [.required "mnemonic" instruction.mnemonic, .required "operands" instruction.operands]

instance : Spelled Config where
  Spells value config := SpellsRecord config.spelling value

instance : Spelled Form where
  Spells value form := SpellsRecord form.spelling value

instance : Spelled Instruction where
  Spells value instruction := SpellsRecord instruction.spelling value

instance : LawfulCodec Config where
  decode?_eq_some_iff := by
    rintro value hvalue ⟨dialect, fallback, label⟩
    have hnames : Config.fields.Nodup := by decide
    refine members?_bind_eq_some_iff hnames rfl hvalue fun members hmembers => ?_
    simp [Option.bind_eq_some_iff, optional_eq_some_iff hmembers, Config.spelling]
  spells_encode config := spellsRecord_of_forall₂ <| by
    simp [Config.spelling, Field.optional, spells_encode]
  distinct_encode config := .object (by simp) (by simp [distinct_encode])

instance : LawfulCodec Form where
  decode?_eq_some_iff := by
    rintro value hvalue ⟨mnemonic, templates, encoding⟩
    have hnames : Form.fields.Nodup := by decide
    refine members?_bind_eq_some_iff hnames rfl hvalue fun members hmembers => ?_
    simp [Option.bind_eq_some_iff, required_eq_some_iff hmembers, Form.spelling]
  spells_encode form := spellsRecord_of_forall₂ <| by
    simp [Form.spelling, Field.required, spells_encode]
  distinct_encode form := .object (by simp) (by simp [distinct_encode])

instance : LawfulCodec Instruction where
  decode?_eq_some_iff := by
    rintro value hvalue ⟨mnemonic, operands⟩
    have hnames : Instruction.fields.Nodup := by decide
    refine members?_bind_eq_some_iff hnames rfl hvalue fun members hmembers => ?_
    simp [Option.bind_eq_some_iff, required_eq_some_iff hmembers, Instruction.spelling]
  spells_encode instruction := spellsRecord_of_forall₂ <| by
    simp [Instruction.spelling, Field.required, spells_encode]
  distinct_encode instruction := .object (by simp) (by simp [distinct_encode])

/-- **Choices, forms, instructions and the enumerations in them read back.**  What they are written
as is read as the same value, and so is every other spelling: the object of the fields in any order
and with any further keys, the array of the fields, and for an enumeration, at any place, its name
in lower case as a string or as the only key of an object.  Nothing else is read as that value. -/
theorem values_read_back :
    ReadsBack Config ∧ ReadsBack Form ∧ ReadsBack Instruction ∧ ReadsBack Encoding ∧
      ReadsBack Dialect ∧ ReadsBack Fallback :=
  ⟨ReadsBack.of_lawful Config, ReadsBack.of_lawful Form, ReadsBack.of_lawful Instruction,
    ReadsBack.of_lawful Encoding, ReadsBack.of_lawful Dialect, ReadsBack.of_lawful Fallback⟩

/-- A form whose keys are out of order, with a further member that has keys of the same names, and
with the encoding as an object; and choices as an array that ends after the dialect. -/
theorem shuffled_form_and_short_choices_read_back :
    let extended : Value := .object [("extended", .null)]
    let templates : Value := .array [.string "r64", .string "imm64"]
    let note : Value := .object [("mnemonic", .null), ("encoding", .bool false)]
    let value : Value := .object
      [("encoding", extended), ("note", note), ("operands", templates), ("mnemonic", .string "MOV")]
    let form : Form := ⟨"MOV", ["r64", "imm64"], .extended⟩
    let nasm : Value := .object [("nasm", .null)]
    let config : Config := { dialect := .nasm }
    value.Distinct ∧ Spells value form ∧ decode? value = some form ∧
      (Value.array [nasm]).Distinct ∧ Spells (.array [nasm]) config ∧
      decode? (.array [nasm]) = some config := by
  intro extended templates note value form nasm config
  obtain ⟨hconfig, hform, -⟩ := values_read_back
  have hextended : extended.Distinct := .object (by decide) (by simp [Value.Distinct.null])
  have hnote : note.Distinct :=
    .object (by decide) (by simp [Value.Distinct.null, Value.Distinct.bool])
  have htemplates : templates.Distinct := .array (by simp [Value.Distinct.string])
  have hvalue : value.Distinct :=
    .object (by decide) (by simp [hextended, hnote, htemplates, Value.Distinct.string])
  have hfields : Spells value form := by
    refine .object (List.forall_mem_cons.mpr ⟨.inl ⟨.string "MOV", by simp, rfl⟩,
      List.forall_mem_cons.mpr ⟨.inl ⟨templates, by simp, ⟨_, rfl, ?_⟩⟩,
        List.forall_mem_cons.mpr ⟨.inl ⟨extended, by simp, .key⟩, by simp⟩⟩⟩)
    exact .cons rfl (.cons rfl .nil)
  have hnasm : nasm.Distinct := .object (by decide) (by simp [Value.Distinct.null])
  have hshort : (Value.array [nasm]).Distinct := .array (by simp [hnasm])
  have hsplit : config.spelling = config.spelling.take 1 ++ config.spelling.drop 1 := rfl
  have hitems : Spells (.array [nasm]) config :=
    .array hsplit (.cons SpellsName.key .nil) (by simp [Config.spelling, Field.optional, config])
  exact ⟨hvalue, hfields, (hform.spelled value hvalue form).mpr hfields, hshort, hitems,
    (hconfig.spelled _ hshort config).mpr hitems⟩

end AsmForms
