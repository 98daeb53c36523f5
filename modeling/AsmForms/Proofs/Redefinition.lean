import AsmForms.Proofs.Log
import Mathlib.Data.Finset.Card
import Mathlib.Data.List.Chain
import Mathlib.Data.List.Induction

/-!
# Proofs/Redefinition — what a table keeps of its definitions

A table is built from a list of definitions, and all that it answers can be told from the positions
in that list (`table_of_definitions`).  A template stands for its last definition (`LastBefore`).  A
conflict stands for a position at which the template was defined before, and whose nearest earlier
definition was another one (`RedefinesAt`); every such position has one, in order.  So the conflicts
of one template form a chain, from one expansion to the next, that ends with what the template
stands for.

Everything is shown by adding one definition at the end of the list: the positions before it stay as
they are.
-/

namespace AsmForms

/-- The entry of a redefinition: the template, with what it stood for and what it stands for. -/
def LogEntry.redefinition (conflict : Conflict) : LogEntry :=
  ⟨.warn, "operand template defined twice, keeping the last definition",
    [("template", .text conflict.template), ("discarded", .expansion conflict.discarded),
     ("kept", .expansion conflict.kept)]⟩

/-- The entry of a table of so many templates. -/
def LogEntry.tableBuilt (templates : Nat) : LogEntry :=
  ⟨.trace, "built operand translation table", [("templates", .count templates)]⟩

namespace Table

variable {definitions more : List (String × Expansion)} {definition : String × Expansion}
  {template : String} {expansion other : Expansion} {conflict : Conflict} {table : Table}
  {i j n : Nat}

/-- The templates that are defined. -/
def templates (table : Table) : List String := table.entries.map Prod.fst

/-- The definition at position `i` is the **last before** position `n` that the template has. -/
structure LastBefore (definitions : List (String × Expansion)) (n i : Nat) (template : String)
    (expansion : Expansion) : Prop where
  lt : i < n
  getElem?_eq : definitions[i]? = some (template, expansion)
  last : ∀ k, i < k → k < n → ∀ other, definitions[k]? ≠ some (template, other)

/-- The definition at a position **redefines** its template: the nearest earlier definition of the
template is another one. -/
structure RedefinesAt (definitions : List (String × Expansion)) (j : Nat) (conflict : Conflict) :
    Prop where
  getElem?_eq : definitions[j]? = some (conflict.template, conflict.kept)
  earlier : ∃ i, LastBefore definitions j i conflict.template conflict.discarded
  differs : conflict.discarded ≠ conflict.kept

/-- The conflicts of one template, in order. -/
def conflictsOf (table : Table) (template : String) : List Conflict :=
  table.conflicts.filter (·.template == template)

/-- The conflicts of a template are **chained**: each begins with what the one before it ended with,
and the last ends with what the template stands for. -/
structure Chained (table : Table) (template : String) : Prop where
  linked : (table.conflictsOf template).IsChain fun conflict next => conflict.kept = next.discarded
  last : ∀ conflict ∈ (table.conflictsOf template).getLast?,
    table.lookup template = some conflict.kept

/-- What is reported while definitions are added to a table one by one: the conflict that one
causes, as it is added, and the size in the end. -/
def building (table : Table) : List (String × Expansion) → List Event
  | [] => [.tableBuilt table.size]
  | definition :: definitions =>
    (table.conflict? definition.1 definition.2).toList.map .redefined ++
      (table.define definition).building definitions

/-! ## One more definition -/

theorem ofDefinitions_concat (definitions : List (String × Expansion))
    (definition : String × Expansion) :
    ofDefinitions (definitions ++ [definition]) =
      (ofDefinitions definitions).define definition := by
  rw [ofDefinitions, List.foldl_concat, ofDefinitions]

/-- **A definition causes a conflict** if the template stood for something else. -/
theorem conflict?_eq_some_iff :
    table.conflict? template expansion = some conflict ↔
      (template, expansion) = (conflict.template, conflict.kept) ∧
        table.lookup template = some conflict.discarded ∧
          conflict.discarded ≠ conflict.kept := by
  obtain ⟨named, discarded, kept⟩ := conflict
  rw [conflict?]
  cases table.lookup template with
  | none => simp
  | some old =>
    by_cases h : old = expansion
    · simp only [h, if_true, reduceCtorEq, Option.some.injEq, Prod.mk.injEq, false_iff]
      rintro ⟨⟨-, rfl⟩, rfl, hne⟩
      exact hne rfl
    · simp only [h, if_false, Option.some.injEq, Conflict.mk.injEq, Prod.mk.injEq]
      constructor
      · rintro ⟨rfl, rfl, rfl⟩
        exact ⟨⟨rfl, rfl⟩, rfl, h⟩
      · rintro ⟨⟨rfl, rfl⟩, rfl, -⟩
        exact ⟨rfl, rfl, rfl⟩

theorem eq_of_conflict?_eq_none (h : table.conflict? template expansion = none)
    (hlookup : table.lookup template = some other) : other = expansion := by
  by_contra hne
  have hconflict : table.conflict? template expansion = some ⟨template, other, expansion⟩ :=
    conflict?_eq_some_iff.mpr ⟨rfl, hlookup, hne⟩
  exact absurd (h.symm.trans hconflict) nofun

/-! ## The last definition of a template -/

theorem lastBefore_append_iff (hn : n ≤ definitions.length) :
    LastBefore (definitions ++ more) n i template expansion ↔
      LastBefore definitions n i template expansion := by
  have hget (k : Nat) (hk : k < n) : (definitions ++ more)[k]? = definitions[k]? :=
    List.getElem?_append_left (by omega)
  constructor
  · rintro ⟨hlt, hi, hlast⟩
    exact ⟨hlt, hget i hlt ▸ hi, fun k hik hkn => hget k hkn ▸ hlast k hik hkn⟩
  · rintro ⟨hlt, hi, hlast⟩
    exact ⟨hlt, (hget i hlt).trans hi, fun k hik hkn => (hget k hkn).symm ▸ hlast k hik hkn⟩

/-- A definition of the template is the last before the position after it. -/
theorem lastBefore_succ_iff_of_eq (h : definitions[n]? = some (template, other)) :
    LastBefore definitions (n + 1) i template expansion ↔ i = n ∧ expansion = other := by
  constructor
  · rintro ⟨hlt, hi, hlast⟩
    obtain rfl : i = n := by
      by_contra hne
      exact hlast n (by omega) (by omega) other h
    rw [h] at hi
    exact ⟨rfl, (Prod.mk.inj (Option.some.inj hi)).2.symm⟩
  · rintro ⟨rfl, rfl⟩
    exact ⟨by omega, h, fun k hik hkn => by omega⟩

/-- A definition of another template does not matter. -/
theorem lastBefore_succ_iff_of_ne (h : ∀ other, definitions[n]? ≠ some (template, other)) :
    LastBefore definitions (n + 1) i template expansion ↔
      LastBefore definitions n i template expansion := by
  constructor
  · rintro ⟨hlt, hi, hlast⟩
    have hne : i ≠ n := by
      rintro rfl
      exact h expansion hi
    exact ⟨by omega, hi, fun k hik hkn => hlast k hik (by omega)⟩
  · rintro ⟨hlt, hi, hlast⟩
    refine ⟨by omega, hi, fun k hik hkn => ?_⟩
    rcases Nat.lt_succ_iff_lt_or_eq.mp hkn with hkn | rfl
    · exact hlast k hik hkn
    · exact h

/-- **A template stands for its last definition.** -/
theorem lookup_ofDefinitions_eq_some_iff :
    (ofDefinitions definitions).lookup template = some expansion ↔
      ∃ i, LastBefore definitions definitions.length i template expansion := by
  induction definitions using List.reverseRecOn with
  | nil =>
    refine iff_of_false nofun ?_
    rintro ⟨i, hlt, -⟩
    exact Nat.not_lt_zero i hlt
  | append_singleton definitions definition ih =>
    obtain ⟨s, e⟩ := definition
    have hget : (definitions ++ [(s, e)])[definitions.length]? = some (s, e) :=
      List.getElem?_concat_length
    rw [ofDefinitions_concat, lookup_define, List.length_append, List.length_singleton]
    -- The definition at the end is the last of its own template, and does not matter to another.
    by_cases hs : template = s
    · subst hs
      simp [lastBefore_succ_iff_of_eq hget, eq_comm]
    · have hne (other : Expansion) :
          (definitions ++ [(s, e)])[definitions.length]? ≠ some (template, other) := by
        rw [hget]
        simp [Ne.symm hs]
      simp only [if_neg hs, ih, lastBefore_succ_iff_of_ne hne, lastBefore_append_iff le_rfl]

/-! ## The positions of the conflicts -/

theorem RedefinesAt.lt (h : RedefinesAt definitions j conflict) : j < definitions.length :=
  (List.getElem?_eq_some_iff.mp h.getElem?_eq).1

theorem redefinesAt_append_iff (hj : j < definitions.length) :
    RedefinesAt (definitions ++ more) j conflict ↔ RedefinesAt definitions j conflict := by
  have hget : (definitions ++ more)[j]? = definitions[j]? := List.getElem?_append_left hj
  constructor
  · rintro ⟨hj', ⟨i, hi⟩, hne⟩
    exact ⟨hget ▸ hj', ⟨i, (lastBefore_append_iff hj.le).mp hi⟩, hne⟩
  · rintro ⟨hj', ⟨i, hi⟩, hne⟩
    exact ⟨hget.trans hj', ⟨i, (lastBefore_append_iff hj.le).mpr hi⟩, hne⟩

/-- **The definition at the end** redefines its template exactly if it causes a conflict. -/
theorem redefinesAt_length_iff :
    RedefinesAt (definitions ++ [definition]) definitions.length conflict ↔
      (ofDefinitions definitions).conflict? definition.1 definition.2 = some conflict := by
  obtain ⟨s, e⟩ := definition
  obtain ⟨named, discarded, kept⟩ := conflict
  rw [conflict?_eq_some_iff, lookup_ofDefinitions_eq_some_iff]
  have hget : (definitions ++ [(s, e)])[definitions.length]? = some (s, e) :=
    List.getElem?_concat_length
  constructor
  · rintro ⟨hj, ⟨i, hi⟩, hne⟩
    obtain ⟨rfl, rfl⟩ := Prod.mk.inj (Option.some.inj (hget.symm.trans hj))
    exact ⟨rfl, ⟨i, (lastBefore_append_iff le_rfl).mp hi⟩, hne⟩
  · rintro ⟨hdefinition, ⟨i, hi⟩, hne⟩
    obtain ⟨rfl, rfl⟩ := Prod.mk.inj hdefinition
    exact ⟨hget, ⟨i, (lastBefore_append_iff le_rfl).mpr hi⟩, hne⟩

/-- **The redefinitions** of a longer list are those before, and the one that the definition at the
end may be. -/
theorem redefinesAt_concat_iff :
    RedefinesAt (definitions ++ [definition]) j conflict ↔
      RedefinesAt definitions j conflict ∨ j = definitions.length ∧
        (ofDefinitions definitions).conflict? definition.1 definition.2 = some conflict := by
  constructor
  · intro h
    have hlt := h.lt
    rw [List.length_append, List.length_singleton] at hlt
    rcases Nat.lt_succ_iff_lt_or_eq.mp hlt with hj | rfl
    · exact .inl ((redefinesAt_append_iff hj).mp h)
    · exact .inr ⟨rfl, redefinesAt_length_iff.mp h⟩
  · rintro (h | ⟨rfl, hconflict⟩)
    · exact (redefinesAt_append_iff h.lt).mpr h
    · exact redefinesAt_length_iff.mpr hconflict

theorem conflicts_concat (definitions : List (String × Expansion))
    (definition : String × Expansion) :
    (ofDefinitions (definitions ++ [definition])).conflicts =
      (ofDefinitions definitions).conflicts ++
        ((ofDefinitions definitions).conflict? definition.1 definition.2).toList := by
  rw [ofDefinitions_concat, define]

/-- **The conflicts stand for the positions at which a template is redefined**, one for each, in
order. -/
theorem exists_positions (definitions : List (String × Expansion)) :
    ∃ positions : List Nat, positions.Pairwise (· < ·) ∧
      List.Forall₂ (RedefinesAt definitions) positions (ofDefinitions definitions).conflicts ∧
        ∀ j conflict, RedefinesAt definitions j conflict → j ∈ positions := by
  induction definitions using List.reverseRecOn with
  | nil => exact ⟨[], .nil, .nil, fun j _ h => absurd h.lt (Nat.not_lt_zero j)⟩
  | append_singleton definitions definition ih =>
    obtain ⟨positions, hsorted, hconflicts, hall⟩ := ih
    have hbefore : List.Forall₂ (RedefinesAt (definitions ++ [definition])) positions
        (ofDefinitions definitions).conflicts :=
      hconflicts.imp fun _ _ h => redefinesAt_concat_iff.mpr (.inl h)
    have hbounded : ∀ j ∈ positions, j < definitions.length :=
      ((List.forall₂_and_left positions _).mp (hconflicts.imp fun _ _ h => ⟨h.lt, h⟩)).1
    rw [conflicts_concat]
    cases hconflict : (ofDefinitions definitions).conflict? definition.1 definition.2 with
    | none =>
      refine ⟨positions, hsorted, by simpa using hbefore, fun j conflict h => ?_⟩
      rw [redefinesAt_concat_iff, hconflict] at h
      exact hall j conflict (h.resolve_right (by simp))
    | some last =>
      have hlast : RedefinesAt (definitions ++ [definition]) definitions.length last :=
        redefinesAt_concat_iff.mpr (.inr ⟨rfl, hconflict⟩)
      refine ⟨positions ++ [definitions.length], ?_, List.rel_append hbefore (.cons hlast .nil),
        fun j conflict h => ?_⟩
      · rw [List.pairwise_append]
        exact ⟨hsorted, List.pairwise_singleton _ _, fun j hj k hk =>
          List.mem_singleton.mp hk ▸ hbounded j hj⟩
      · rcases redefinesAt_concat_iff.mp h with hj | ⟨rfl, -⟩
        · exact List.mem_append_left _ (hall j conflict hj)
        · exact List.mem_concat_self

/-! ## The conflicts of one template -/

theorem conflictsOf_define (table : Table) (definition : String × Expansion) (template : String) :
    (table.define definition).conflictsOf template =
      table.conflictsOf template ++
        if definition.1 = template then (table.conflict? definition.1 definition.2).toList
        else [] := by
  rw [conflictsOf, conflictsOf, define, List.filter_append]
  congr 1
  cases hconflict : table.conflict? definition.1 definition.2 with
  | none => simp
  | some conflict =>
    have htemplate := (Prod.mk.inj (conflict?_eq_some_iff.mp hconflict).1).1
    by_cases h : definition.1 = template
    · simp [h, ← htemplate]
    · simp [h, ← htemplate]

/-- **A definition keeps the conflicts chained.** -/
theorem Chained.define (h : table.Chained template) (definition : String × Expansion) :
    (table.define definition).Chained template := by
  obtain ⟨s, e⟩ := definition
  by_cases hs : s = template
  · subst hs
    have hlookup : (table.define (s, e)).lookup s = some e := by rw [lookup_define, if_pos rfl]
    have hconflicts : (table.define (s, e)).conflictsOf s =
        table.conflictsOf s ++ (table.conflict? s e).toList := by
      rw [conflictsOf_define, if_pos rfl]
    cases hconflict : table.conflict? s e with
    | none =>
      rw [hconflict, Option.toList_none, List.append_nil] at hconflicts
      refine ⟨hconflicts ▸ h.linked, fun conflict hlast => ?_⟩
      rw [hconflicts] at hlast
      rw [hlookup, eq_of_conflict?_eq_none hconflict (h.last conflict hlast)]
    | some next =>
      obtain ⟨hdefinition, hold, -⟩ := conflict?_eq_some_iff.mp hconflict
      obtain ⟨-, rfl⟩ := Prod.mk.inj hdefinition
      rw [hconflict, Option.toList_some] at hconflicts
      constructor
      · -- The new conflict begins with what the template stood for, where the last one ended.
        rw [hconflicts, List.isChain_append]
        refine ⟨h.linked, .singleton next, fun conflict hlast first hfirst => ?_⟩
        obtain rfl := Option.some.inj hfirst
        exact Option.some.inj ((h.last conflict hlast).symm.trans hold)
      · intro conflict hlast
        rw [hconflicts, List.getLast?_concat] at hlast
        obtain rfl := Option.some.inj hlast
        exact hlookup
  · have hconflicts : (table.define (s, e)).conflictsOf template = table.conflictsOf template := by
      rw [conflictsOf_define, if_neg hs, List.append_nil]
    constructor
    · exact hconflicts ▸ h.linked
    · intro conflict hlast
      rw [lookup_define, if_neg (Ne.symm hs)]
      exact h.last conflict (hconflicts ▸ hlast)

/-- **The conflicts of a template form a chain** that ends with what the template stands for. -/
theorem chained_ofDefinitions (definitions : List (String × Expansion)) (template : String) :
    (ofDefinitions definitions).Chained template := by
  induction definitions using List.reverseRecOn with
  | nil =>
    have hnone : (ofDefinitions []).conflictsOf template = [] := rfl
    exact ⟨.nil, fun conflict hlast => absurd hlast (by simp [hnone])⟩
  | append_singleton definitions definition ih =>
    rw [ofDefinitions_concat]
    exact ih.define definition

/-! ## The templates of a table -/

theorem templates_define (table : Table) (definition : String × Expansion) :
    (table.define definition).templates =
      definition.1 :: table.templates.filter (· != definition.1) := by
  rw [templates, templates, define, List.map_cons, List.filter_map]
  rfl

/-- **A table has one entry for each template that is defined.** -/
theorem templates_ofDefinitions (definitions : List (String × Expansion)) :
    (ofDefinitions definitions).templates.Nodup ∧
      (ofDefinitions definitions).templates.toFinset = (definitions.map Prod.fst).toFinset := by
  induction definitions using List.reverseRecOn with
  | nil => exact ⟨.nil, rfl⟩
  | append_singleton definitions definition ih =>
    rw [ofDefinitions_concat, templates_define]
    constructor
    · rw [List.nodup_cons]
      exact ⟨by simp, ih.1.filter _⟩
    · ext template
      have hmem : template ∈ (ofDefinitions definitions).templates ↔
          template ∈ definitions.map Prod.fst := by
        rw [← List.mem_toFinset, ih.2, List.mem_toFinset]
      by_cases h : template = definition.1
      · simp [h]
      · simp [h, hmem]

theorem size_ofDefinitions (definitions : List (String × Expansion)) :
    (ofDefinitions definitions).size = (definitions.map Prod.fst).toFinset.card := by
  obtain ⟨hnodup, heq⟩ := templates_ofDefinitions definitions
  rw [← heq, List.toFinset_card_of_nodup hnodup, templates, List.length_map, size]

/-! ## More definitions -/

theorem conflicts_prefix_foldl (definitions : List (String × Expansion)) (table : Table) :
    table.conflicts <+: (definitions.foldl define table).conflicts := by
  induction definitions generalizing table with
  | nil => exact List.prefix_rfl
  | cons definition definitions ih =>
    exact (List.prefix_append _ _).trans (ih (table.define definition))

/-- **What is defined later counts**, and what is not defined again stays. -/
theorem lookup_ofDefinitions_append (definitions more : List (String × Expansion))
    (template : String) :
    (ofDefinitions (definitions ++ more)).lookup template =
      if template ∈ more.map Prod.fst then (ofDefinitions more).lookup template
      else (ofDefinitions definitions).lookup template := by
  have hor : (ofDefinitions (definitions ++ more)).lookup template =
      ((ofDefinitions more).lookup template).or ((ofDefinitions definitions).lookup template) := by
    simp only [lookup_ofDefinitions, List.reverse_append, List.lookup_append]
  split
  case isTrue hmem =>
    have hsome : ((ofDefinitions more).lookup template).isSome := by
      rw [Option.isSome_iff_ne_none, Ne, lookup_ofDefinitions_eq_none_iff, not_not]
      exact hmem
    rw [hor, Option.or_of_isSome hsome]
  case isFalse hmem =>
    rw [hor, lookup_ofDefinitions_eq_none_iff.mpr hmem, Option.none_or]

/-! ## What is reported -/

/-- **Building a table reports each conflict as it occurs.** -/
theorem events_foldl (definitions : List (String × Expansion)) (table : Table) :
    (definitions.foldl define table).events =
      table.conflicts.map .redefined ++ table.building definitions := by
  induction definitions generalizing table with
  | nil => rfl
  | cons definition definitions ih =>
    rw [List.foldl_cons, ih, define, List.map_append, List.append_assoc, building, define]

theorem entries_events (table : Table) :
    table.events.map Event.entry =
      table.conflicts.map LogEntry.redefinition ++ [.tableBuilt table.size] := by
  rw [events, List.map_append, List.map_map]
  rfl

/-- **A table can be told from the positions of its definitions.**  A template stands for its last
definition, and for nothing if it has none; the size is the number of different templates.  The
conflicts stand for the positions at which a template is redefined, so that the conflicts of one
template form a chain.  Each is reported as it occurs, and the size in the end.  More definitions
keep the conflicts so far, and change only what they define. -/
theorem table_of_definitions (definitions : List (String × Expansion)) :
    (∀ template expansion, (ofDefinitions definitions).lookup template = some expansion ↔
        ∃ i, LastBefore definitions definitions.length i template expansion) ∧
      (∀ template, (ofDefinitions definitions).lookup template = none ↔
        template ∉ definitions.map Prod.fst) ∧
      (ofDefinitions definitions).size = (definitions.map Prod.fst).toFinset.card ∧
      (∃ positions : List Nat, positions.Pairwise (· < ·) ∧
        List.Forall₂ (RedefinesAt definitions) positions (ofDefinitions definitions).conflicts ∧
          ∀ j conflict, RedefinesAt definitions j conflict → j ∈ positions) ∧
      (∀ template, (ofDefinitions definitions).Chained template) ∧
      (ofDefinitions definitions).events = empty.building definitions ∧
      (ofDefinitions definitions).events.map Event.entry =
        (ofDefinitions definitions).conflicts.map LogEntry.redefinition ++
          [.tableBuilt (definitions.map Prod.fst).toFinset.card] ∧
      ∀ more, (ofDefinitions definitions).conflicts <+:
          (ofDefinitions (definitions ++ more)).conflicts ∧
        ∀ template, (ofDefinitions (definitions ++ more)).lookup template =
          if template ∈ more.map Prod.fst then (ofDefinitions more).lookup template
          else (ofDefinitions definitions).lookup template := by
  refine ⟨fun _ _ => lookup_ofDefinitions_eq_some_iff, fun _ => lookup_ofDefinitions_eq_none_iff,
    size_ofDefinitions definitions, exists_positions definitions, chained_ofDefinitions definitions,
    events_foldl definitions empty, ?_, fun more => ⟨?_, lookup_ofDefinitions_append _ more⟩⟩
  · rw [entries_events, size_ofDefinitions]
  · rw [ofDefinitions, ofDefinitions, List.foldl_append]
    exact conflicts_prefix_foldl more _

/-- A template that is redefined and then defined as it was before, with another one in between that
is only repeated.  The log carries the values themselves, a quotation mark included. -/
theorem template_redefined_there_and_back :
    let first : Expansion := .literal "ST(2)"
    let second : Expansion := .literal "\"ST(3)\""
    let table : Table := .ofDefinitions
      [("ST(i)", first), ("ext", .absent), ("ST(i)", second), ("ext", .absent), ("ST(i)", first)]
    table.lookup "ST(i)" = some first ∧ table.size = 2 ∧
      table.conflicts = [⟨"ST(i)", first, second⟩, ⟨"ST(i)", second, first⟩] ∧
      ((table.conflictsOf "ST(i)").IsChain fun conflict next => conflict.kept = next.discarded) ∧
      table.events.map Event.entry =
        [.redefinition ⟨"ST(i)", first, second⟩, .redefinition ⟨"ST(i)", second, first⟩,
         .tableBuilt 2] := by
  intro first second table
  obtain ⟨hlookup, -, hsize, -, hchained, -, hlog, -⟩ := table_of_definitions
    [("ST(i)", first), ("ext", .absent), ("ST(i)", second), ("ext", .absent), ("ST(i)", first)]
  refine ⟨(hlookup _ _).mpr ⟨4, by decide, rfl, fun k hk hlt => absurd hlt (by simp; omega)⟩,
    hsize.trans (by decide), by decide, (hchained _).linked, hlog.trans (by decide)⟩

end Table

end AsmForms
