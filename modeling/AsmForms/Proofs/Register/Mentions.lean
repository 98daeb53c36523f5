import AsmForms.Branch
import AsmForms.Proofs.Register.Claim

/-!
# Proofs/Register/Mentions — what a text made of pieces mentions

A separator keeps the words before it apart from those after it, so a text that is put together at
separators mentions what its pieces mention (`mentions_append_of_head`, `mentions_append_of_last`).
The operand of a relative branch is such a text: around the label stand only the directives that
fill the branch up, and those name no register (`Dialect.mentions_branchOperand`).
-/

namespace AsmForms

variable {a b : String} {r : Register}

theorem mentions_iff_words {text : String} :
    Mentions text r ↔
      ∃ word ∈ words text.toList, ∃ name, RegisterName.ofChars? word = some name ∧
        name.register = r := by
  simp only [Mentions, mem_words_iff]

/-! ## Putting texts together -/

/-- The words of a text that begins with a separator are those after it. -/
theorem mentions_ofList_cons {c : Char} (h : isWordChar c = false) (text : List Char) :
    Mentions (String.ofList (c :: text)) r ↔ Mentions (String.ofList text) r := by
  simp only [mentions_iff_words, String.toList_ofList, words_cons_of_not h]

theorem mentions_ofList_append {c : Char} (h : isWordChar c = false) (left right : List Char) :
    Mentions (String.ofList (left ++ c :: right)) r ↔
      Mentions (String.ofList left) r ∨ Mentions (String.ofList right) r := by
  simp only [mentions_iff_words, String.toList_ofList, words_append_cons h, List.mem_append,
    or_and_right, exists_or]

/-- **Two texts mention what each of them mentions**, if the second begins with a separator. -/
theorem mentions_append_of_head (h : ∀ c ∈ b.toList.head?, isWordChar c = false) :
    Mentions (a ++ b) r ↔ Mentions a r ∨ Mentions b r := by
  rw [← String.ofList_toList (s := a), ← String.ofList_toList (s := b), ← String.ofList_append]
  cases hb : b.toList with
  | nil => simp [mentions_iff_words]
  | cons c right =>
    have hc : isWordChar c = false := h c (by simp [hb])
    rw [mentions_ofList_append hc, mentions_ofList_cons hc]

/-- …or if the first ends with one. -/
theorem mentions_append_of_last (h : ∀ c ∈ a.toList.getLast?, isWordChar c = false) :
    Mentions (a ++ b) r ↔ Mentions a r ∨ Mentions b r := by
  rw [← String.ofList_toList (s := a), ← String.ofList_toList (s := b), ← String.ofList_append]
  rcases List.eq_nil_or_concat a.toList with ha | ⟨left, c, ha⟩
  · simp [ha, mentions_iff_words]
  · have hc : isWordChar c = false := h c (by simp [ha])
    have hleft := mentions_ofList_append (r := r) hc left []
    simp only [ha, List.concat_eq_append, List.append_assoc, List.cons_append, List.nil_append]
    rw [mentions_ofList_append hc, hleft]
    simp [mentions_iff_words]

theorem not_mentions_of_mentioned (h : mentioned a = []) : ¬ Mentions a r := by
  rw [← mem_mentioned_iff, h]
  exact List.not_mem_nil

/-- What names a register mentions it. -/
theorem Names.mentions (h : Names a r) : Mentions a r := by
  obtain ⟨name, hname, hr⟩ := h
  exact (mentions_iff_names hname).mpr ⟨name, hname, hr⟩

/-- **A text with a separator in it is no register name.** -/
theorem ofString?_eq_none_of_mem {c : Char} (hmem : c ∈ a.toList) (hc : isWordChar c = false) :
    RegisterName.ofString? a = none := by
  rw [Option.eq_none_iff_forall_ne_some]
  intro name hname
  have hword := isWordChar_of_isSpelling (RegisterName.isSpelling_of_ofChars? hname) c hmem
  exact absurd (hword.symm.trans hc) nofun

/-! ## Branch operands -/

namespace Dialect

/-- What stands between the label and its repetition in a branch operand. -/
def filler (dialect : Dialect) (width : BranchWidth) : String :=
  match dialect with
  | .gas => "\n.rept " ++ width.fillerLength.repr ++ "\nNOP\n.endr\n"
  | .nasm => "\ntimes " ++ width.fillerLength.repr ++ " nop\n"

/-- What stands after the repeated label. -/
def landing : Dialect → String
  | .gas => ": NOP"
  | .nasm => ": nop"

theorem branchOperand_eq (dialect : Dialect) (label : String) (width : BranchWidth) :
    dialect.branchOperand label width =
      label ++ dialect.filler width ++ label ++ dialect.landing := by
  cases dialect <;> simp [branchOperand, filler, landing, String.append_assoc]

/-- The filler begins and ends a line, and names no register. -/
theorem filler_spec (dialect : Dialect) (width : BranchWidth) :
    (dialect.filler width).toList.head? = some '\n' ∧
      (dialect.filler width).toList.getLast? = some '\n' ∧
      mentioned (dialect.filler width) = [] := by
  cases dialect <;> cases width <;> decide

theorem landing_spec (dialect : Dialect) :
    dialect.landing.toList.head? = some ':' ∧ mentioned dialect.landing = [] := by
  cases dialect <;> decide

/-- **A branch operand mentions what its label mentions**, and nothing else. -/
theorem mentions_branchOperand {dialect : Dialect} {label : String} {width : BranchWidth} :
    Mentions (dialect.branchOperand label width) r ↔ Mentions label r := by
  obtain ⟨hhead, hlast, hfiller⟩ := dialect.filler_spec width
  obtain ⟨hcolon, hlanding⟩ := dialect.landing_spec
  have hnewline : isWordChar '\n' = false := by decide
  have hmark : isWordChar ':' = false := by decide
  have hfirst : ∀ c ∈ (dialect.filler width).toList.head?, isWordChar c = false := by
    simp [hhead, hnewline]
  have hend : ∀ c ∈ (label ++ dialect.filler width).toList.getLast?, isWordChar c = false := by
    simp [hlast, hnewline]
  have hafter : ∀ c ∈ dialect.landing.toList.head?, isWordChar c = false := by
    simp [hcolon, hmark]
  rw [branchOperand_eq, mentions_append_of_head hafter, mentions_append_of_last hend,
    mentions_append_of_head hfirst]
  simp [not_mentions_of_mentioned hfiller, not_mentions_of_mentioned hlanding]

/-- A branch operand is written on several lines, so it is no register name. -/
theorem ofString?_branchOperand (dialect : Dialect) (label : String) (width : BranchWidth) :
    RegisterName.ofString? (dialect.branchOperand label width) = none := by
  refine ofString?_eq_none_of_mem (c := '\n') ?_ (by decide)
  have hmem : '\n' ∈ (dialect.filler width).toList :=
    List.mem_of_mem_head? (dialect.filler_spec width).1
  simp [branchOperand_eq, hmem]

theorem branchOperand_ne_empty (dialect : Dialect) (label : String) (width : BranchWidth) :
    dialect.branchOperand label width ≠ "" := by
  have hfiller : dialect.filler width ≠ "" := by
    intro h
    have hhead := (dialect.filler_spec width).1
    simp [h] at hhead
  simp [branchOperand_eq, hfiller]

end Dialect

end AsmForms
