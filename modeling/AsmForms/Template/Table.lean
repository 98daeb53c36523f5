import AsmForms.Template.Expansion

/-!
# Template/Table — the table of operand templates

A table is built from definitions in order.  The last definition of a template is the one that
counts; a definition that changes the expansion of a template leaves a `Conflict`, while a repeated
one leaves no trace.
-/

namespace AsmForms

/-- A redefinition: the template, what it stood for, and what it stands for from then on. -/
structure Conflict where
  template : String
  discarded : Expansion
  kept : Expansion
  deriving DecidableEq

/-- What every defined template stands for, and the redefinitions on the way there. -/
structure Table where
  /-- One entry per template, the last defined first. -/
  entries : List (String × Expansion)
  /-- The redefinitions, in order. -/
  conflicts : List Conflict

namespace Table

/-- The table that defines no template. -/
def empty : Table := ⟨[], []⟩

/-- What a template stands for. -/
def lookup (table : Table) (template : String) : Option Expansion :=
  table.entries.lookup template

/-- The conflict that a definition causes, if it changes what the template stood for. -/
def conflict? (table : Table) (template : String) (expansion : Expansion) : Option Conflict :=
  match table.lookup template with
  | some old => if old = expansion then none else some ⟨template, old, expansion⟩
  | none => none

/-- Adds a definition, which replaces an earlier one of the same template. -/
def define (table : Table) (definition : String × Expansion) : Table where
  entries := definition :: table.entries.filter (·.1 != definition.1)
  conflicts := table.conflicts ++ (table.conflict? definition.1 definition.2).toList

/-- **The table of a list of definitions**, applied in order. -/
def ofDefinitions (definitions : List (String × Expansion)) : Table :=
  definitions.foldl define empty

/-- The number of templates defined. -/
def size (table : Table) : Nat := table.entries.length

/-- Whether no template is defined. -/
def isEmpty (table : Table) : Bool := table.entries.isEmpty

/-- The entries by ascending template, character by character. -/
def sorted (table : Table) : List (String × Expansion) :=
  table.entries.mergeSort fun a b => a.1 ≤ b.1

/-- **What a template is written as**, with branches written by `branchText`. -/
def translate (table : Table) (branchText : BranchWidth → String) (template : String) :
    Resolution :=
  match table.lookup template with
  | some expansion => expansion.resolve branchText
  | none => .unhandled

/-! ## Looking up after a definition -/

@[simp] theorem lookup_empty (template : String) : empty.lookup template = none := rfl

/-- Removing the entries of a template touches no other template. -/
theorem lookup_filter_ne (entries : List (String × Expansion)) {s t : String} (h : t ≠ s) :
    (entries.filter (·.1 != s)).lookup t = entries.lookup t := by
  have hts : (t == s) = false := beq_false_of_ne h
  induction entries with
  | nil => rfl
  | cons entry entries ih =>
    obtain ⟨k, e⟩ := entry
    by_cases hk : k = s
    · simp [hk, List.lookup_cons, ih, hts]
    · simp [hk, List.lookup_cons, ih]

/-- **The last definition counts**, and no other template is touched. -/
theorem lookup_define (table : Table) (s : String) (e : Expansion) (t : String) :
    (table.define (s, e)).lookup t = if t = s then some e else table.lookup t := by
  by_cases h : t = s
  · simp [lookup, define, h]
  · have hts : (t == s) = false := beq_false_of_ne h
    simp [lookup, define, h, hts, List.lookup_cons, lookup_filter_ne]

theorem lookup_foldl_define (definitions : List (String × Expansion)) (table : Table) (t : String) :
    (definitions.foldl define table).lookup t =
      (definitions.reverse.lookup t).or (table.lookup t) := by
  induction definitions generalizing table with
  | nil => rfl
  | cons definition definitions ih =>
    obtain ⟨s, e⟩ := definition
    rw [List.foldl_cons, ih, lookup_define, List.reverse_cons, List.lookup_append, Option.or_assoc]
    by_cases h : t = s
    · simp [h]
    · have hts : (t == s) = false := beq_false_of_ne h
      simp [List.lookup_cons, h, hts]

/-- **A table looks its definitions up from the last one**, so a later definition of a template
replaces all earlier ones. -/
theorem lookup_ofDefinitions (definitions : List (String × Expansion)) (t : String) :
    (ofDefinitions definitions).lookup t = definitions.reverse.lookup t := by
  rw [ofDefinitions, lookup_foldl_define, lookup_empty, Option.or_none]

/-- The templates without a definition stand for nothing. -/
theorem lookup_ofDefinitions_eq_none_iff {definitions : List (String × Expansion)}
    {template : String} :
    (ofDefinitions definitions).lookup template = none ↔ template ∉ definitions.map Prod.fst := by
  rw [lookup_ofDefinitions, List.lookup_eq_none_iff]
  simp only [List.mem_reverse, bne_iff_ne, List.mem_map, not_exists, not_and]
  exact forall₂_congr fun _ _ => ne_comm

end Table

end AsmForms
