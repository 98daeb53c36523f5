import AsmForms.Proofs.Register.Mentions

/-!
# Proofs/Register/Scan — what a reservation takes

`RegisterFile.reserve` searches a text for spellings of names and takes the registers that these
name.  By `tokens_eq` the search finds whole words only, so what is taken are the registers that the
maximal runs of word characters name, and a text may be cut at every other character
(`RegisterFile.reserve_takes_words`).
-/

namespace AsmForms

/-- **A text mentions what its maximal runs name.** -/
theorem mentions_iff_names_run {text : String} {r : Register} :
    Mentions text r ↔ ∃ run, IsMaximalRun run text.toList ∧ Names (String.ofList run) r := by
  simp only [Mentions, Names, RegisterName.ofString?, String.toList_ofList]

namespace RegisterFile

variable {file : RegisterFile} {a b : String} {r : Register}

/-- Two reservations take what either text mentions. -/
theorem mem_reserve_reserve :
    r ∈ ((file.reserve a).reserve b).taken ↔ r ∈ file.taken ∨ Mentions a r ∨ Mentions b r := by
  rw [mem_reserve, mem_reserve, or_assoc]

/-- **Around a separator** a text mentions what its two parts mention. -/
theorem mem_reserve_append {c : Char} (hc : isWordChar c = false) :
    r ∈ (file.reserve (a ++ String.singleton c ++ b)).taken ↔
      r ∈ file.taken ∨ Mentions a r ∨ Mentions b r := by
  have htext : a ++ String.singleton c ++ b = String.ofList (a.toList ++ c :: b.toList) :=
    String.toList_inj.mp (by simp)
  rw [mem_reserve, htext, mentions_ofList_append hc, String.ofList_toList, String.ofList_toList]

/-- **A reservation takes the registers that the words of a text name**, and leaves all others as
they were.  A word is a maximal run of word characters, and it counts as a whole.  So a text that is
cut at a character which can be no part of a word takes the same registers as its two parts, in
either order. -/
theorem reserve_takes_words :
    (∀ (file : RegisterFile) (text : String) (r : Register),
      r ∈ (file.reserve text).taken ↔
        r ∈ file.taken ∨
          ∃ run, IsMaximalRun run text.toList ∧ Names (String.ofList run) r) ∧
    ∀ (file : RegisterFile) (a b : String) (c : Char), isWordChar c = false → ∀ r : Register,
      (r ∈ (file.reserve (a ++ String.singleton c ++ b)).taken ↔
        r ∈ ((file.reserve a).reserve b).taken) ∧
      (r ∈ (file.reserve (a ++ String.singleton c ++ b)).taken ↔
        r ∈ ((file.reserve b).reserve a).taken) := by
  refine ⟨fun file text r => ?_, fun file a b c hc r => ⟨?_, ?_⟩⟩
  · rw [mem_reserve, mentions_iff_names_run]
  · rw [mem_reserve_append hc, mem_reserve_reserve]
  · rw [mem_reserve_append hc, mem_reserve_reserve, or_comm (a := Mentions a r)]

/-- The base and the index of a memory operand, cut at the sign between them.  `_rcx` and `rcxé` are
words of their own, and name nothing. -/
theorem reserve_takes_words_of_operand :
    let file : RegisterFile := ⟨.legacy, []⟩
    let rsi : Register := ⟨.general, 6⟩
    let operand := "_rcx[RSI" ++ String.singleton '+' ++ "rcxé*8]"
    (file.reserve operand).taken = [rsi] ∧
      (∃ run, IsMaximalRun run operand.toList ∧ Names (String.ofList run) rsi) ∧
      rsi ∈ ((file.reserve "rcxé*8]").reserve "_rcx[RSI").taken := by
  intro file rsi operand
  obtain ⟨hwords, hcut⟩ := reserve_takes_words
  have htaken : (file.reserve operand).taken = [rsi] := by decide
  have hmem : rsi ∈ (file.reserve operand).taken := htaken ▸ List.mem_singleton_self rsi
  refine ⟨htaken, ((hwords file operand rsi).mp hmem).resolve_left List.not_mem_nil, ?_⟩
  exact (hcut file "_rcx[RSI" "rcxé*8]" '+' (by decide) rsi).2.mp hmem

end RegisterFile

end AsmForms
