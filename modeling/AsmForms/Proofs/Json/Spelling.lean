import AsmForms.Json.Format
import Mathlib.Data.List.Forall2
import Mathlib.Data.List.Nodup

/-!
# Proofs/Json/Spelling — the spellings of a value

A value is written in one way, but it may be **spelled** in others: a record with its keys in any
order and further keys among them, or as the array of its fields; the name of an enumeration as a
string, or as the only key of an object.  `Spelled` says this type by type, without a decoder.

A codec is **lawful** if it reads exactly the spellings and writes one of them (`LawfulCodec`).  For
records all comes down to one fact: whichever way a record is spelled, its fields can be looked up
by name (`spellsRecord_iff`).
-/

namespace AsmForms

namespace Json

/-- In a **distinct** value no object has a key twice, at any depth. -/
inductive Value.Distinct : Value → Prop
  | null : Distinct .null
  | bool (value : Bool) : Distinct (.bool value)
  | number (mantissa : Int) (exponent : Nat) : Distinct (.number mantissa exponent)
  | string (value : String) : Distinct (.string value)
  | array {items : List Value} (hitems : ∀ item ∈ items, Distinct item) : Distinct (.array items)
  | object {members : List (String × Value)} (hkeys : (members.map Prod.fst).Nodup)
      (hmembers : ∀ member ∈ members, Distinct member.2) : Distinct (.object members)

/-- How the values of a type may be spelled. -/
class Spelled (α : Type) where
  Spells : Value → α → Prop

export Spelled (Spells)

/-- What is read are exactly the spellings, and what is written is one of them. -/
class LawfulCodec (α : Type) [Codec α] [Spelled α] : Prop where
  decode?_eq_some_iff {value : Value} (hvalue : value.Distinct) {a : α} :
    decode? value = some a ↔ Spells value a
  spells_encode (a : α) : Spells (encode a) a
  distinct_encode (a : α) : (encode a).Distinct

export LawfulCodec (decode?_eq_some_iff spells_encode distinct_encode)

/-- **What is written is read back.** -/
theorem decode?_encode {α : Type} [Codec α] [Spelled α] [LawfulCodec α] (a : α) :
    decode? (encode a) = some a :=
  (decode?_eq_some_iff (distinct_encode a)).mpr (spells_encode a)

/-! ## Texts and lists -/

instance : Spelled String where
  Spells value text := value = .string text

instance : LawfulCodec String where
  decode?_eq_some_iff := by
    intro value _ text
    cases value <;> simp [decode?, Spells]
  spells_encode _ := rfl
  distinct_encode := .string

/-- A list is spelled as the array of spellings of its items. -/
instance {α : Type} [Spelled α] : Spelled (List α) where
  Spells value as := ∃ items, value = .array items ∧ List.Forall₂ Spells items as

theorem mapM_decode?_eq_some_iff {α : Type} [Codec α] [Spelled α] [LawfulCodec α]
    {items : List Value} (hitems : ∀ item ∈ items, item.Distinct) {as : List α} :
    items.mapM decode? = some as ↔ List.Forall₂ Spells items as := by
  induction items generalizing as with
  | nil => simp [eq_comm]
  | cons item items ih =>
    rw [List.forall_mem_cons] at hitems
    rw [List.mapM_cons, List.forall₂_cons_left_iff]
    simp only [Option.bind_eq_bind, Option.bind_eq_some_iff, Option.pure_def, Option.some.injEq,
      decode?_eq_some_iff hitems.1, ih hitems.2, eq_comm (b := as)]
    grind

instance {α : Type} [Codec α] [Spelled α] [LawfulCodec α] : LawfulCodec (List α) where
  decode?_eq_some_iff := by
    intro value hvalue as
    cases hvalue with
    | array hitems => simp [decode?, Spells, mapM_decode?_eq_some_iff hitems]
    | _ => simp [decode?, Spells]
  spells_encode as :=
    ⟨as.map encode, rfl, List.forall₂_map_left_iff.mpr
      (List.forall₂_same.mpr fun a _ => spells_encode a)⟩
  distinct_encode as := .array (by simp [distinct_encode])

/-! ## Enumerations -/

/-- A name may stand by itself, or as the only key of an object, with null beside it. -/
inductive SpellsName (name : String) : Value → Prop
  | text : SpellsName name (.string name)
  | key : SpellsName name (.object [(name, .null)])

theorem variant?_eq_some_iff {value : Value} {name : String} :
    value.variant? = some name ↔ SpellsName name value := by
  constructor
  · intro h
    unfold Value.variant? at h
    split at h
    · obtain rfl := Option.some.inj h
      exact .text
    · obtain rfl := Option.some.inj h
      exact .key
    · cases h
  · rintro (_ | _) <;> rfl

/-- **A name is read as the value that has it**, if there is only one. -/
theorem variant?_bind_eq_some_iff {α : Type} {all : List α} {nameOf : α → String}
    (hall : ∀ a, a ∈ all) (hinj : ∀ a b, nameOf a = nameOf b → a = b) {value : Value} {a : α} :
    (value.variant?.bind fun name => all.find? (nameOf · == name)) = some a ↔
      SpellsName (nameOf a) value := by
  have hfind (name : String) : all.find? (nameOf · == name) = some a ↔ nameOf a = name := by
    constructor
    · intro h
      simpa using List.find?_some h
    · rintro rfl
      cases hb : all.find? (nameOf · == nameOf a) with
      | some b => rw [hinj b a (by simpa using List.find?_some hb)]
      | none => exact absurd (List.find?_eq_none.mp hb a (hall a)) (by simp)
  simp only [Option.bind_eq_some_iff, hfind, variant?_eq_some_iff]
  exact ⟨fun ⟨name, hspells, hname⟩ => hname ▸ hspells, fun h => ⟨_, h, rfl⟩⟩

/-- **An enumeration is lawful** if each value is written as its name and spelled by that name only,
and no two values share one. -/
theorem LawfulCodec.of_names {α : Type} [Codec α] [Spelled α] (all : List α) (nameOf : α → String)
    (hspells : ∀ (value : Value) (a : α), Spells value a ↔ SpellsName (nameOf a) value)
    (hencode : ∀ a : α, encode a = .string (nameOf a))
    (hdecode : ∀ value : Value,
      decode? value = value.variant?.bind fun name => all.find? (nameOf · == name))
    (hall : ∀ a, a ∈ all) (hinj : ∀ a b, nameOf a = nameOf b → a = b) : LawfulCodec α where
  decode?_eq_some_iff := by
    intro value _ a
    rw [hdecode, hspells, variant?_bind_eq_some_iff hall hinj]
  spells_encode a := by
    rw [hencode, hspells]
    exact .text
  distinct_encode a := by
    rw [hencode]
    exact .string _

/-! ## Records -/

/-- How one field of a record is spelled. -/
structure Field where
  name : String
  /-- The values that may stand for it. -/
  Spells : Value → Prop
  /-- Whether it may be left out. -/
  MayOmit : Prop

namespace Field

/-- A field that must be there. -/
def required {α : Type} [Spelled α] (name : String) (a : α) : Field where
  name := name
  Spells value := Spelled.Spells value a
  MayOmit := False

/-- A field that may be left out if it has its default. -/
def optional {α : Type} [Spelled α] (name : String) (default a : α) : Field where
  name := name
  Spells value := Spelled.Spells value a
  MayOmit := a = default

@[simp] theorem name_required {α : Type} [Spelled α] (name : String) (a : α) :
    (required name a).name = name := rfl

@[simp] theorem name_optional {α : Type} [Spelled α] (name : String) (default a : α) :
    (optional name default a).name = name := rfl

/-- The field is spelled by a value, or by there being none. -/
def SpelledBy (field : Field) : Option Value → Prop
  | some value => field.Spells value
  | none => field.MayOmit

end Field

/-- The **spellings of a record** with the given fields. -/
inductive SpellsRecord (fields : List Field) : Value → Prop
  /-- An object spells it that has every field among its members, wherever it stands there, but for
  fields that may be left out.  Members of other names do not matter. -/
  | object {members : List (String × Value)}
      (hfields : ∀ field ∈ fields,
        (∃ value, (field.name, value) ∈ members ∧ field.Spells value) ∨
          (∀ value, (field.name, value) ∉ members) ∧ field.MayOmit) :
      SpellsRecord fields (.object members)
  /-- So does the array of its fields in order, in which the last ones may be left out. -/
  | array {given omitted : List Field} {items : List Value} (hfields : fields = given ++ omitted)
      (hgiven : List.Forall₂ Field.Spells given items)
      (homitted : ∀ field ∈ omitted, field.MayOmit) : SpellsRecord fields (.array items)

/-! ### Looking fields up -/

/-- **Among distinct keys** a look-up finds what there is. -/
theorem lookup_eq_some_iff_mem {members : List (String × Value)}
    (hkeys : (members.map Prod.fst).Nodup) {key : String} {value : Value} :
    members.lookup key = some value ↔ (key, value) ∈ members := by
  rw [List.lookup_eq_some_iff]
  constructor
  · rintro ⟨before, after, rfl, -⟩
    simp
  · intro hmem
    obtain ⟨before, after, rfl⟩ := List.append_of_mem hmem
    refine ⟨before, after, rfl, fun member hmember => bne_iff_ne.mpr fun hkey => ?_⟩
    rw [List.map_append, List.map_cons, List.nodup_middle, List.nodup_cons] at hkeys
    exact hkeys.1 (by simp [hkey, List.mem_map_of_mem hmember])

theorem spelledBy_lookup_iff {members : List (String × Value)}
    (hkeys : (members.map Prod.fst).Nodup) (field : Field) :
    field.SpelledBy (members.lookup field.name) ↔
      (∃ value, (field.name, value) ∈ members ∧ field.Spells value) ∨
        (∀ value, (field.name, value) ∉ members) ∧ field.MayOmit := by
  simp only [← lookup_eq_some_iff_mem hkeys]
  cases members.lookup field.name <;> simp [Field.SpelledBy]

/-- **Items get the names of the fields in order**, so they spell them exactly if they are an array
of the fields. -/
theorem spelledBy_lookup_zip_iff {fields : List Field} (hnames : (fields.map Field.name).Nodup)
    {items : List Value} (hlength : items.length ≤ fields.length) :
    (∀ field ∈ fields,
        field.SpelledBy (((fields.map Field.name).zip items).lookup field.name)) ↔
      ∃ given omitted, fields = given ++ omitted ∧ List.Forall₂ Field.Spells given items ∧
        ∀ field ∈ omitted, field.MayOmit := by
  induction fields generalizing items with
  | nil =>
    obtain rfl := List.length_eq_zero_iff.mp (Nat.le_zero.mp hlength)
    simp
  | cons field fields ih =>
    cases items with
    | nil => simp [Field.SpelledBy]
    | cons item items =>
      rw [List.map_cons, List.nodup_cons] at hnames
      have hrest : ∀ other ∈ fields,
          ((field.name, item) :: (fields.map Field.name).zip items).lookup other.name =
            ((fields.map Field.name).zip items).lookup other.name := by
        intro other hmem
        have hne : (other.name == field.name) = false :=
          beq_false_of_ne fun heq => hnames.1 (heq ▸ List.mem_map_of_mem hmem)
        rw [List.lookup_cons, hne]
      have hfirst : ((field.name, item) :: (fields.map Field.name).zip items).lookup field.name =
          some item := by
        rw [List.lookup_cons, beq_self_eq_true]
      rw [List.map_cons, List.zip_cons_cons, List.forall_mem_cons, hfirst,
        forall₂_congr fun other hmem => by rw [hrest other hmem],
        ih hnames.2 (Nat.le_of_succ_le_succ hlength)]
      constructor
      · rintro ⟨hspells, given, omitted, rfl, hgiven, homitted⟩
        exact ⟨field :: given, omitted, rfl, .cons hspells hgiven, homitted⟩
      · rintro ⟨given, omitted, hsplit, hgiven, homitted⟩
        cases hgiven with
        | cons hspells hgiven =>
          obtain ⟨rfl, hfields⟩ := List.cons.inj hsplit
          exact ⟨hspells, _, omitted, hfields, hgiven, homitted⟩

/-- The members of a record are distinct if the record is. -/
theorem distinct_of_members? {names : List String} {value : Value} (hvalue : value.Distinct)
    {members : List (String × Value)} (h : value.members? names = some members) :
    ∀ member ∈ members, member.2.Distinct := by
  cases hvalue with
  | object _ hmembers =>
    obtain rfl := Option.some.inj h
    exact hmembers
  | array hitems =>
    simp only [Value.members?, Option.ite_none_right_eq_some, Option.some.injEq] at h
    obtain ⟨-, rfl⟩ := h
    exact fun member hmember => hitems _ (List.of_mem_zip hmember).2
  | _ => cases h

/-- **A record is spelled exactly if each of its fields is**, as it is looked up by name. -/
theorem spellsRecord_iff {fields : List Field} (hnames : (fields.map Field.name).Nodup)
    {value : Value} (hvalue : value.Distinct) :
    SpellsRecord fields value ↔
      ∃ members, value.members? (fields.map Field.name) = some members ∧
        ∀ field ∈ fields, field.SpelledBy (members.lookup field.name) := by
  constructor
  · rintro (⟨hfields⟩ | ⟨rfl, hgiven, homitted⟩)
    · cases hvalue with
      | object hkeys _ =>
        exact ⟨_, rfl, fun field hmem =>
          (spelledBy_lookup_iff hkeys field).mpr (hfields field hmem)⟩
    · have hlength := hgiven.length_eq
      refine ⟨_, if_pos (by simp [← hlength]), ?_⟩
      exact (spelledBy_lookup_zip_iff hnames (by simp [← hlength])).mpr
        ⟨_, _, rfl, hgiven, homitted⟩
  · rintro ⟨members, hmembers, hfields⟩
    cases hvalue with
    | object hkeys _ =>
      obtain rfl := Option.some.inj hmembers
      exact .object fun field hmem => (spelledBy_lookup_iff hkeys field).mp (hfields field hmem)
    | array hitems =>
      simp only [Value.members?, List.length_map, Option.ite_none_right_eq_some,
        Option.some.injEq] at hmembers
      obtain ⟨hlength, rfl⟩ := hmembers
      obtain ⟨given, omitted, hsplit, hgiven, homitted⟩ :=
        (spelledBy_lookup_zip_iff hnames hlength).mp hfields
      exact .array hsplit hgiven homitted
    | _ => cases hmembers

/-! ### Reading fields -/

section

variable {α : Type} [Codec α] [Spelled α] [LawfulCodec α] {members : List (String × Value)}
  {name : String} {default a : α}

theorem distinct_of_lookup (hmembers : ∀ member ∈ members, member.2.Distinct) {value : Value}
    (h : members.lookup name = some value) : value.Distinct := by
  obtain ⟨before, after, rfl, -⟩ := List.lookup_eq_some_iff.mp h
  exact hmembers (name, value) (by simp)

theorem required_eq_some_iff (hmembers : ∀ member ∈ members, member.2.Distinct) :
    required members name = some a ↔
      (Field.required name a).SpelledBy (members.lookup name) := by
  rw [required]
  cases hlookup : members.lookup name with
  | none => simp [Field.SpelledBy, Field.required]
  | some value => exact decode?_eq_some_iff (distinct_of_lookup hmembers hlookup)

theorem optional_eq_some_iff (hmembers : ∀ member ∈ members, member.2.Distinct) :
    optional members name default = some a ↔
      (Field.optional name default a).SpelledBy (members.lookup name) := by
  rw [optional]
  cases hlookup : members.lookup name with
  | none => simp [Field.SpelledBy, Field.optional, eq_comm]
  | some value => exact decode?_eq_some_iff (distinct_of_lookup hmembers hlookup)

/-- **A record is read from its spellings**, if what reads it asks each field for the spelling. -/
theorem members?_bind_eq_some_iff {β : Type} {fields : List Field} {names : List String}
    (hnames : names.Nodup) (hfields : fields.map Field.name = names) {value : Value}
    (hvalue : value.Distinct) {read : List (String × Value) → Option β} {b : β}
    (hread : ∀ members, (∀ member ∈ members, member.2.Distinct) →
      (read members = some b ↔ ∀ field ∈ fields, field.SpelledBy (members.lookup field.name))) :
    (value.members? names).bind read = some b ↔ SpellsRecord fields value := by
  subst hfields
  rw [Option.bind_eq_some_iff, spellsRecord_iff hnames hvalue]
  exact exists_congr fun members => and_congr_right fun hmembers =>
    hread members (distinct_of_members? hvalue hmembers)

/-- **The object of all fields in order spells a record.** -/
theorem spellsRecord_of_forall₂ {fields : List Field}
    (h : List.Forall₂ (fun field member => field.name = member.1 ∧ field.Spells member.2)
      fields members) : SpellsRecord fields (.object members) := by
  refine .object fun field hmem => Or.inl ?_
  induction h with
  | nil => cases hmem
  | cons hhead _ ih =>
    rcases List.mem_cons.mp hmem with rfl | hmem
    · exact ⟨_, by simp [hhead.1], hhead.2⟩
    · obtain ⟨value, hvalue, hspells⟩ := ih hmem
      exact ⟨value, List.mem_cons_of_mem _ hvalue, hspells⟩

end

end Json

end AsmForms
