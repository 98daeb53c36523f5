import AsmForms.Config
import AsmForms.Instruction
import AsmForms.Json.Value

/-!
# Json/Format — choices, forms and instructions as JSON

Every enumeration is written as the name of its value in lower case, and every record as an object
of its fields.  The fields of a form and of an instruction must all be there; those of a `Config`
have defaults.
-/

namespace AsmForms

open Json

/-! ## Enumerations -/

/-- The name of an encoding. -/
def Encoding.name : Encoding → String
  | .legacy => "legacy"
  | .extended => "extended"

/-- The encoding of a name. -/
def Encoding.ofName? (name : String) : Option Encoding :=
  [.legacy, .extended].find? fun encoding : Encoding => encoding.name == name

/-- The name of a dialect. -/
def Dialect.name : Dialect → String
  | .gas => "gas"
  | .nasm => "nasm"

/-- The dialect of a name. -/
def Dialect.ofName? (name : String) : Option Dialect :=
  [.gas, .nasm].find? fun dialect : Dialect => dialect.name == name

/-- The name of a fallback. -/
def Fallback.name : Fallback → String
  | .strict => "strict"
  | .passthrough => "passthrough"

/-- The fallback of a name. -/
def Fallback.ofName? (name : String) : Option Fallback :=
  [.strict, .passthrough].find? fun fallback : Fallback => fallback.name == name

instance : Codec Encoding where
  encode encoding := .string encoding.name
  decode? value := value.variant?.bind Encoding.ofName?

instance : Codec Dialect where
  encode dialect := .string dialect.name
  decode? value := value.variant?.bind Dialect.ofName?

instance : Codec Fallback where
  encode fallback := .string fallback.name
  decode? value := value.variant?.bind Fallback.ofName?

/-! ## Records -/

/-- The fields of the choices, in order. -/
def Config.fields : List String := ["dialect", "fallback", "label"]

instance : Codec Config where
  encode config := .object
    [("dialect", encode config.dialect), ("fallback", encode config.fallback),
     ("label", encode config.label)]
  decode? value := do
    let members ← value.members? Config.fields
    let dialect ← optional members "dialect" ({} : Config).dialect
    let fallback ← optional members "fallback" ({} : Config).fallback
    let label ← optional members "label" ({} : Config).label
    some ⟨dialect, fallback, label⟩

/-- The fields of a form, in order. -/
def Form.fields : List String := ["mnemonic", "operands", "encoding"]

instance : Codec Form where
  encode form := .object
    [("mnemonic", encode form.mnemonic), ("operands", encode form.templates),
     ("encoding", encode form.encoding)]
  decode? value := do
    let members ← value.members? Form.fields
    let mnemonic ← required members "mnemonic"
    let templates ← required members "operands"
    let encoding ← required members "encoding"
    some ⟨mnemonic, templates, encoding⟩

/-- The fields of an instruction, in order. -/
def Instruction.fields : List String := ["mnemonic", "operands"]

instance : Codec Instruction where
  encode instruction := .object
    [("mnemonic", encode instruction.mnemonic), ("operands", encode instruction.operands)]
  decode? value := do
    let members ← value.members? Instruction.fields
    let mnemonic ← required members "mnemonic"
    let operands ← required members "operands"
    some ⟨mnemonic, operands⟩

end AsmForms
