import AsmForms.Text.WordChar

/-!
# Text/Words — the maximal runs of word characters in a text

`words` cuts a text into its words: every maximal run of word characters, from left to right.  A
name is mentioned by a text only as a whole word, so `rcx` occurs in `[rcx + 4]` and in `$rcx`, but
neither in `_rcx` nor in `rcxé`.
-/

namespace AsmForms

/-- Puts a run in front of the words that follow it; an empty run is no word. -/
def pushRun : List Char → List (List Char) → List (List Char)
  | [], rest => rest
  | run, rest => run :: rest

/-- The run of word characters a text begins with, which may be empty, and the words after it. -/
def cutRun : List Char → List Char × List (List Char)
  | [] => ([], [])
  | c :: text =>
    let (run, rest) := cutRun text
    if isWordChar c then (c :: run, rest) else ([], pushRun run rest)

/-- The words of a text, in order. -/
def words (text : List Char) : List (List Char) :=
  let (run, rest) := cutRun text
  pushRun run rest

/-- `run` is a **maximal run** of word characters in `text`: it is not empty, holds word characters
only, and no word character stands right before or right after it. -/
def IsMaximalRun (run text : List Char) : Prop :=
  run ≠ [] ∧ (∀ c ∈ run, isWordChar c = true) ∧
    ∃ before after, text = before ++ run ++ after ∧
      (∀ c ∈ before.getLast?, isWordChar c = false) ∧ (∀ c ∈ after.head?, isWordChar c = false)

/-! ## Words of pieces of a text -/

@[simp] theorem pushRun_nil (rest : List (List Char)) : pushRun [] rest = rest := rfl

@[simp] theorem pushRun_cons (c : Char) (run : List Char) (rest : List (List Char)) :
    pushRun (c :: run) rest = (c :: run) :: rest := rfl

theorem words_eq (text : List Char) : words text = pushRun (cutRun text).1 (cutRun text).2 := rfl

@[simp] theorem words_nil : words [] = [] := rfl

theorem words_cons_of_not {c : Char} (h : isWordChar c = false) (text : List Char) :
    words (c :: text) = words text := by
  simp [words_eq, cutRun, h]

theorem cutRun_append_of_forall {run : List Char} (h : ∀ c ∈ run, isWordChar c = true)
    (text : List Char) : cutRun (run ++ text) = (run ++ (cutRun text).1, (cutRun text).2) := by
  induction run with
  | nil => rfl
  | cons c run ih =>
    have hc := h c (by simp)
    simp [cutRun, hc, ih fun d hd => h d (by simp [hd])]

/-- **A text of word characters only is a single word.** -/
theorem words_eq_singleton {run : List Char} (hne : run ≠ [])
    (h : ∀ c ∈ run, isWordChar c = true) : words run = [run] := by
  have cut := cutRun_append_of_forall h []
  obtain ⟨c, rest, rfl⟩ := List.exists_cons_of_ne_nil hne
  rw [List.append_nil] at cut
  rw [words_eq, cut]
  simp [cutRun]

/-- The runs of a text do not change when a separator and more text follow it. -/
theorem cutRun_append_cons {c : Char} (h : isWordChar c = false) (left right : List Char) :
    cutRun (left ++ c :: right) = ((cutRun left).1, (cutRun left).2 ++ words right) := by
  induction left with
  | nil => simp [cutRun, h, words_eq right]
  | cons d left ih =>
    by_cases hd : isWordChar d = true
    · simp [cutRun, hd, ih]
    · simp only [List.cons_append, cutRun, ih, hd]
      cases (cutRun left).1 <;> simp

/-- **A separator splits the words**: those before it, then those after it. -/
theorem words_append_cons {c : Char} (h : isWordChar c = false) (left right : List Char) :
    words (left ++ c :: right) = words left ++ words right := by
  rw [words_eq, words_eq left, cutRun_append_cons h]
  cases (cutRun left).1 <;> simp

/-! ## Words are the maximal runs -/

/-- A maximal run is found, wherever it stands. -/
theorem mem_words_of_isMaximalRun {run text : List Char} (h : IsMaximalRun run text) :
    run ∈ words text := by
  obtain ⟨hne, hrun, before, after, rfl, hbefore, hafter⟩ := h
  have head : run ∈ words (run ++ after) := by
    cases after with
    | nil => simp [words_eq_singleton hne hrun]
    | cons d after =>
      rw [words_append_cons (hafter d rfl), words_eq_singleton hne hrun]
      simp
  rcases List.eq_nil_or_concat before with rfl | ⟨before, c, rfl⟩
  · exact head
  · have hc : isWordChar c = false := hbefore c (by simp)
    simp only [List.concat_eq_append, List.append_assoc, List.cons_append, List.nil_append]
    rw [words_append_cons hc]
    exact List.mem_append_right _ head

/-- More text in front of a separator does not end a maximal run. -/
theorem IsMaximalRun.cons_separator {run text : List Char} (h : IsMaximalRun run text) {c : Char}
    (hc : isWordChar c = false) (left : List Char) : IsMaximalRun run (left ++ c :: text) := by
  obtain ⟨hne, hrun, before, after, rfl, hbefore, hafter⟩ := h
  refine ⟨hne, hrun, left ++ c :: before, after, by simp, fun d hd => ?_, hafter⟩
  cases before with
  | nil =>
    obtain rfl : c = d := by simpa using hd
    exact hc
  | cons b before => exact hbefore d (by simpa [List.getLast?_append] using hd)

/-- Only maximal runs are found. -/
theorem isMaximalRun_of_mem_words {run text : List Char} (h : run ∈ words text) :
    IsMaximalRun run text := by
  have hlead : ∀ c ∈ text.takeWhile isWordChar, isWordChar c = true := by
    exact List.all_eq_true.mp List.all_takeWhile
  have htext := List.takeWhile_append_dropWhile (p := isWordChar) (l := text)
  match hrest : text.dropWhile isWordChar with
  | [] =>
    rw [hrest, List.append_nil] at htext
    rw [htext] at hlead
    by_cases hne : text = []
    · simp [hne] at h
    · rw [words_eq_singleton hne hlead, List.mem_singleton] at h
      exact ⟨h ▸ hne, h ▸ hlead, [], [], by simp [h], by simp, by simp⟩
  | c :: rest =>
    have hc : isWordChar c = false := by
      have := List.head?_dropWhile_not isWordChar text
      rw [hrest] at this
      simpa using this
    rw [hrest] at htext
    have hlen : rest.length < text.length := by
      rw [← htext]
      simp
      omega
    rw [← htext, words_append_cons hc, List.mem_append] at h
    rw [← htext]
    rcases h with h | h
    · by_cases hne : text.takeWhile isWordChar = []
      · simp [hne] at h
      · rw [words_eq_singleton hne hlead, List.mem_singleton] at h
        exact ⟨h ▸ hne, h ▸ hlead, [], c :: rest, by simp [h], by simp, by simp [hc]⟩
    · exact (isMaximalRun_of_mem_words h).cons_separator hc _
  termination_by text.length

/-- **The words of a text are its maximal runs.** -/
theorem mem_words_iff {run text : List Char} : run ∈ words text ↔ IsMaximalRun run text :=
  ⟨isMaximalRun_of_mem_words, mem_words_of_isMaximalRun⟩

end AsmForms
