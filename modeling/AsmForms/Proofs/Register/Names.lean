import AsmForms.Register.Reading
import Mathlib

/-!
# Proofs/Register/Names — reading a name and spelling it are inverse

`View.spell` writes a register through a view, and `RegisterName.ofString?` reads what it writes
(`RegisterName.ofString?_of_spell`).  The converse has one exception: a text is a register name
exactly if its lower case is spelled for some register and view, or is one of the four names that
are read but never written (`RegisterName.reads_what_is_spelled`).

The reader tries one shape after the other: the names of the first registers, `r8` to `r15` with
their suffixes, and the numbered registers of the other classes.  For each shape there is one lemma
which says that what is read has that spelling.
-/

namespace AsmForms

namespace RegisterName

/-- The byte registers that only a REX prefix gives access to.  Their names are **read but never
written**. -/
def unwritten : List String := ["spl", "bpl", "sil", "dil"]

/-! ## Case -/

/-- Lowering a text lowers its characters. -/
theorem toLower_eq (text : String) :
    text.toLower = String.ofList (text.toList.map Char.toLower) :=
  String.toList_inj.mp (String.toList_map.trans String.toList_ofList.symm)

theorem ofString?_toLower (text : String) : ofString? text.toLower = ofString? text := by
  simp only [ofString?, ofChars?, toLower_eq, String.toList_ofList, List.map_map,
    Function.comp_def, Char.toLower_toLower_eq_toLower]

theorem ofString?_eq_ofLower? (text : String) : ofString? text = ofLower? text.toLower.toList := by
  rw [ofString?, ofChars?, toLower_eq, String.toList_ofList]

/-! ## What is read is spelled -/

variable {word : List Char} {name : RegisterName}

/-- **A name of its own** is spelled, unless it is one of the unwritten. -/
theorem spell_of_ofLegacy? (h : ofLegacy? word = some name) :
    name.on name.register = some (String.ofList word) ∨ String.ofList word ∈ unwritten := by
  have table : ∀ view ∈ View.all, ∀ n < 8, (view.legacyNames[n]?).all fun spelled =>
      view.spell ⟨.general, n⟩ = some spelled ∨ spelled ∈ unwritten := by
    decide
  have short : ∀ view ∈ View.all, view.legacyNames.length ≤ 8 := by decide
  obtain ⟨view, hview, hname⟩ := List.exists_of_findSome?_eq_some h
  obtain ⟨n, hn, rfl⟩ := Option.map_eq_some_iff.mp hname
  obtain ⟨hlength, hget, -⟩ := List.idxOf?_eq_some_iff.mp hn
  have row := table view hview n (Nat.lt_of_lt_of_le hlength (short view hview))
  rw [List.getElem?_eq_getElem hlength, hget] at row
  simpa [on] using row

/-- The letters after a number select the view that is spelled with them. -/
theorem extendedSuffix?_of_extendedView? {suffix : List Char} {view : View}
    (h : extendedView? suffix = some view) :
    view.extendedSuffix? = some (String.ofList suffix) := by
  unfold extendedView? at h
  split at h <;> cases h <;> rfl

/-- What is read as one of `r8` to `r15` is the letter, the number and what selects the view. -/
theorem eq_of_ofExtended? (h : ofExtended? word = some name) :
    ∃ n suffix view, word = 'r' :: (Nat.toDigits 10 n ++ suffix) ∧ (8 ≤ n ∧ n < 16) ∧
      extendedView? suffix = some view ∧ name = ⟨⟨.general, n⟩, view⟩ := by
  unfold ofExtended? at h
  split at h
  next rest =>
    simp only [Option.bind_eq_bind, Option.bind_eq_some_iff, Option.ite_none_right_eq_some,
      Option.some.injEq] at h
    obtain ⟨n, hn, view, hview, hrange, rfl⟩ := h
    refine ⟨n, rest.dropWhile Char.isDigit, view, ?_, hrange, hview, rfl⟩
    rw [← numeral?_eq_some_iff.mp hn, List.takeWhile_append_dropWhile]
  next => cases h

/-- **One of `r8` to `r15`** is spelled with its number. -/
theorem spell_of_ofExtended? (h : ofExtended? word = some name) :
    name.on name.register = some (String.ofList word) := by
  obtain ⟨n, suffix, view, rfl, hrange, hview, rfl⟩ := eq_of_ofExtended? h
  have hspan : ¬ n < view.legacySpan := Nat.not_lt.mpr (view.legacySpan_le.1.trans hrange.1)
  rw [on, View.spell, if_neg hspan, if_pos hrange, extendedSuffix?_of_extendedView? hview]
  exact congrArg some (String.toList_inj.mp (by simp))

/-- **A numbered register** of another class is spelled with its stem. -/
theorem spell_of_ofNumeral? {view : View} (stem : String) {limit : Nat} {digits : List Char}
    (h : ofNumeral? view limit digits = some name)
    (hspell : ∀ n < limit, view.spell ⟨view.cls, n⟩ = some (stem ++ n.repr)) :
    name.on name.register = some (String.ofList (stem.toList ++ digits)) := by
  simp only [ofNumeral?, Option.bind_eq_bind, Option.bind_eq_some_iff,
    Option.ite_none_right_eq_some, Option.some.injEq] at h
  obtain ⟨n, hn, hlimit, rfl⟩ := h
  rw [on, hspell n hlimit, numeral?_eq_some_iff.mp hn]
  exact congrArg some (String.toList_inj.mp (by simp))

theorem spell_of_ofNumbered? (h : ofNumbered? word = some name) :
    name.on name.register = some (String.ofList word) := by
  unfold ofNumbered? at h
  split at h
  next => exact spell_of_ofNumeral? "mm" h fun _ hn => if_pos ⟨rfl, hn⟩
  next => exact spell_of_ofNumeral? "xmm" h fun _ hn => if_pos ⟨rfl, hn⟩
  next => exact spell_of_ofNumeral? "ymm" h fun _ hn => if_pos ⟨rfl, hn⟩
  next => cases h

/-- **What is read is spelled in lower case**, unless it is one of the unwritten. -/
theorem spell_of_ofString? {text : String} (h : ofString? text = some name) :
    name.on name.register = some text.toLower ∨ text.toLower ∈ unwritten := by
  simp only [ofString?_eq_ofLower?, ofLower?, Option.orElse_eq_orElse, Option.orElse_eq_or,
    Option.or_eq_some_iff] at h
  rw [← String.ofList_toList (s := text.toLower)]
  rcases h with h | ⟨-, h | ⟨-, h⟩⟩
  · exact spell_of_ofLegacy? h
  · exact .inl (spell_of_ofExtended? h)
  · exact .inl (spell_of_ofNumbered? h)

/-! ## The unwritten names -/

/-- The unwritten names are names, but their registers have no byte view. -/
theorem unwritten_spec : ∀ text ∈ unwritten,
    (ofString? text).isSome ∧ (ofString? text).all fun name => name.on name.register = none := by
  decide

theorem on_of_unwritten {text : String} (h : ofString? text = some name)
    (hmem : text.toLower ∈ unwritten) : name.on name.register = none := by
  have hrow := (unwritten_spec _ hmem).2
  rw [ofString?_toLower, h] at hrow
  simpa using hrow

/-- **Reading and spelling are inverse.**  A text is a register name exactly if its lower case is
spelled for some register through some view, or is unwritten.  The register and the view that are
read spell the lower case again, unless it is unwritten.  Whatever is spelled through that view,
for any register, is read as that register seen through it; so different registers or views never
have the same name. -/
theorem reads_what_is_spelled :
    (∀ text : String, (ofString? text).isSome ↔
      (∃ (name : RegisterName) (r : Register), name.on r = some text.toLower) ∨
        text.toLower ∈ unwritten) ∧
    (∀ text name, ofString? text = some name →
      name.on name.register =
        if text.toLower ∈ unwritten then none else some text.toLower) ∧
    (∀ text name, ofString? text = some name → ∀ r spelled, name.on r = some spelled →
      ofString? spelled = some ⟨r, name.view⟩) ∧
    ∀ (name other : RegisterName) (r s : Register) (spelled : String),
      name.on r = some spelled → other.on s = some spelled → r = s ∧ name.view = other.view := by
  refine ⟨fun text => ⟨fun h => ?_, ?_⟩, fun text name h => ?_,
    fun _ _ _ _ _ hspelled => ofString?_of_spell hspelled, fun name other r s spelled hr hs => ?_⟩
  · obtain ⟨name, hname⟩ := Option.isSome_iff_exists.mp h
    exact (spell_of_ofString? hname).imp_left fun hspelled => ⟨name, name.register, hspelled⟩
  · rw [← ofString?_toLower]
    rintro (⟨name, r, hspelled⟩ | hmem)
    · rw [ofString?_of_spell hspelled]
      rfl
    · exact (unwritten_spec _ hmem).1
  · split
    next hmem => exact on_of_unwritten h hmem
    next hmem => exact (spell_of_ofString? h).resolve_right hmem
  · have hread := (ofString?_of_spell hr).symm.trans (ofString?_of_spell hs)
    simpa using hread

/-- A name in upper case, one that is never written, and a name through the view of another. -/
theorem mixed_names_read :
    let r8d : RegisterName := ⟨⟨.general, 8⟩, .dword⟩
    let spl : RegisterName := ⟨⟨.general, 4⟩, .byte⟩
    ofString? "R8D" = some r8d ∧ r8d.on r8d.register = some "r8d" ∧
      (ofString? "Spl").isSome ∧ ofString? "Spl" = some spl ∧ spl.on spl.register = none ∧
      r8d.on ⟨.general, 1⟩ = some "ecx" ∧ ofString? "ecx" = some ⟨⟨.general, 1⟩, .dword⟩ := by
  intro r8d spl
  obtain ⟨hread, hwrite, hback, -⟩ := reads_what_is_spelled
  have hr8d : ofString? "R8D" = some r8d := by decide
  have hspl : ofString? "Spl" = some spl := by decide
  have hecx : r8d.on ⟨.general, 1⟩ = some "ecx" := by decide
  have hlower : "R8D".toLower = "r8d" := by
    rw [toLower_eq]
    decide
  have hmem : "Spl".toLower ∈ unwritten := by
    rw [toLower_eq]
    decide
  have hwritten := hwrite "R8D" r8d hr8d
  rw [hlower] at hwritten
  exact ⟨hr8d, hwritten.trans (by decide), (hread "Spl").mpr (.inr hmem), hspl,
    (hwrite "Spl" spl hspl).trans (if_pos hmem), hecx, hback "R8D" r8d hr8d _ _ hecx⟩

end RegisterName

end AsmForms
