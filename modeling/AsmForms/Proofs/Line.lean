import AsmForms.Line
import Mathlib.Data.List.Infix
import Mathlib.Data.List.TakeWhile

/-!
# Proofs/Line — a line shows its mnemonic and its operands

A mnemonic without a space and operands without a separator are **readable** (`Line.Readable`).
Such a pair is read back from its line, and every line is the line of one such pair, the one that is
read (`Line.read_eq_iff`).

An operand may end with a comma, and the next one may begin with a space: separators do not overlap,
so the first one in what is left of a line always stands where the first operand ends
(`Line.splitOperands_append`).
-/

namespace AsmForms

namespace Line

/-- A text **holds a separator**: somewhere in it a space follows a comma. -/
def HasSeparator (text : List Char) : Prop := [',', ' '] <:+: text

instance (text : List Char) : Decidable (HasSeparator text) :=
  inferInstanceAs (Decidable (_ <:+: _))

/-- A mnemonic and operands are **readable**: no space splits the mnemonic, and no separator an
operand. -/
def Readable (mnemonic : String) (operands : List String) : Prop :=
  ' ' ∉ mnemonic.toList ∧ ∀ operand ∈ operands, ¬ HasSeparator operand.toList

instance (mnemonic : String) (operands : List String) : Decidable (Readable mnemonic operands) :=
  inferInstanceAs (Decidable (_ ∧ _))

variable {c : Char} {piece text : List Char} {pieces : List (List Char)}

/-! ## Separators -/

theorem not_hasSeparator_nil : ¬ HasSeparator [] := by
  simp [HasSeparator]

/-- A separator stands at the front of a text, or after its first character. -/
theorem hasSeparator_cons_iff :
    HasSeparator (c :: text) ↔ (c = ',' ∧ text.head? = some ' ') ∨ HasSeparator text := by
  rw [HasSeparator, List.infix_cons_iff, List.cons_prefix_cons, HasSeparator]
  cases text with
  | nil => simp
  | cons d text => simp [eq_comm (a := c), eq_comm (a := d)]

/-- **A separator in two texts** stands in one of them, or astride. -/
theorem hasSeparator_append_iff {a b : List Char} :
    HasSeparator (a ++ b) ↔
      HasSeparator a ∨ HasSeparator b ∨ a.getLast? = some ',' ∧ b.head? = some ' ' := by
  induction a with
  | nil => simp [not_hasSeparator_nil]
  | cons c a ih =>
    rw [List.cons_append, hasSeparator_cons_iff, hasSeparator_cons_iff, ih]
    cases a with
    | nil => simp [not_hasSeparator_nil, or_comm]
    | cons d a => simp [or_assoc]

/-- Without a comma there is no separator. -/
theorem not_hasSeparator_of_notMem (h : ',' ∉ text) : ¬ HasSeparator text :=
  fun hsep => h (hsep.subset (by simp))

/-! ## Cutting at separators -/

/-- Where no separator stands, the first piece goes on. -/
theorem splitOperands_cons (h : ¬ (c = ',' ∧ text.head? = some ' ')) :
    splitOperands (c :: text) = consFirst c (splitOperands text) := by
  rw [splitOperands]
  rintro rest rfl rfl
  exact h ⟨rfl, rfl⟩

/-- **A text without a separator is one piece.** -/
theorem splitOperands_eq_singleton (h : ¬ HasSeparator piece) : splitOperands piece = [piece] := by
  induction piece with
  | nil => rfl
  | cons c piece ih =>
    rw [hasSeparator_cons_iff, not_or] at h
    rw [splitOperands_cons h.1, ih h.2]
    rfl

/-- **The first separator ends the first piece**, even if the piece itself ends with a comma. -/
theorem splitOperands_append (h : ¬ HasSeparator piece) (text : List Char) :
    splitOperands (piece ++ ',' :: ' ' :: text) = piece :: splitOperands text := by
  induction piece with
  | nil => rfl
  | cons c piece ih =>
    rw [hasSeparator_cons_iff, not_or] at h
    have hfront : ¬ (c = ',' ∧ (piece ++ ',' :: ' ' :: text).head? = some ' ') := by
      cases piece with
      | nil => simp
      | cons d piece => exact h.1
    rw [List.cons_append, splitOperands_cons hfront, ih h.2]
    rfl

theorem splitOperands_intercalate (hne : pieces ≠ [])
    (h : ∀ piece ∈ pieces, ¬ HasSeparator piece) :
    splitOperands ([',', ' '].intercalate pieces) = pieces := by
  induction pieces with
  | nil => exact absurd rfl hne
  | cons piece pieces ih =>
    rw [List.forall_mem_cons] at h
    cases pieces with
    | nil => simpa using splitOperands_eq_singleton h.1
    | cons next pieces =>
      rw [List.intercalate_cons_cons, List.append_assoc, List.cons_append, List.cons_append,
        List.nil_append, splitOperands_append h.1, ih (List.cons_ne_nil next pieces) h.2]

theorem intercalate_consFirst (hne : pieces ≠ []) :
    [',', ' '].intercalate (consFirst c pieces) = c :: [',', ' '].intercalate pieces := by
  match pieces with
  | [] => exact absurd rfl hne
  | [piece] => simp [consFirst]
  | piece :: next :: pieces => simp [consFirst, List.intercalate_cons_cons]

theorem splitOperands_ne_nil (text : List Char) : splitOperands text ≠ [] := by
  fun_induction splitOperands text with
  | case1 => exact List.cons_ne_nil _ _
  | case2 => exact List.cons_ne_nil _ _
  | case3 c rest _ ih =>
    cases h : splitOperands rest with
    | nil => exact absurd h ih
    | cons => exact List.cons_ne_nil _ _

/-- **Nothing is lost at the cuts.** -/
theorem intercalate_splitOperands (text : List Char) :
    [',', ' '].intercalate (splitOperands text) = text := by
  fun_induction splitOperands text with
  | case1 => rfl
  | case2 rest ih =>
    obtain ⟨piece, pieces, hpieces⟩ := List.exists_cons_of_ne_nil (splitOperands_ne_nil rest)
    rw [hpieces] at ih ⊢
    rw [List.intercalate_cons_cons, ih]
    rfl
  | case3 c rest _ ih => rw [intercalate_consFirst (splitOperands_ne_nil rest), ih]

theorem exists_intercalate_cons (piece : List Char) (pieces : List (List Char)) :
    ∃ rest, [',', ' '].intercalate (piece :: pieces) = piece ++ rest := by
  cases pieces with
  | nil => exact ⟨[], by simp⟩
  | cons next pieces =>
    exact ⟨[',', ' '] ++ [',', ' '].intercalate (next :: pieces),
      by rw [List.intercalate_cons_cons, List.append_assoc]⟩

/-- **No piece holds a separator.** -/
theorem not_hasSeparator_of_mem_splitOperands (text : List Char) :
    ∀ piece ∈ splitOperands text, ¬ HasSeparator piece := by
  fun_induction splitOperands text with
  | case1 => simp [not_hasSeparator_nil]
  | case2 rest ih => simpa [not_hasSeparator_nil] using ih
  | case3 c rest hfront ih =>
    obtain ⟨piece, pieces, hpieces⟩ := List.exists_cons_of_ne_nil (splitOperands_ne_nil rest)
    have hjoin := intercalate_splitOperands rest
    rw [hpieces] at ih hjoin ⊢
    rw [List.forall_mem_cons] at ih
    refine List.forall_mem_cons.mpr ⟨fun hsep => ?_, ih.2⟩
    rcases hasSeparator_cons_iff.mp hsep with ⟨rfl, hhead⟩ | hsep
    · -- The rest begins with its first piece, so the space would stand right after the comma.
      obtain ⟨piece, rfl⟩ := List.head?_eq_some_iff.mp hhead
      obtain ⟨after, hafter⟩ := exists_intercalate_cons (' ' :: piece) pieces
      exact hfront _ rfl (hjoin.symm.trans hafter)
    · exact ih.1 hsep

/-- **The pieces of a text** are the texts without a separator that it is joined from. -/
theorem splitOperands_eq_iff :
    splitOperands text = pieces ↔
      pieces ≠ [] ∧ (∀ piece ∈ pieces, ¬ HasSeparator piece) ∧
        [',', ' '].intercalate pieces = text := by
  constructor
  · rintro rfl
    exact ⟨splitOperands_ne_nil text, not_hasSeparator_of_mem_splitOperands text,
      intercalate_splitOperands text⟩
  · rintro ⟨hne, h, rfl⟩
    exact splitOperands_intercalate hne h

/-! ## Reading a line -/

variable {mnemonic line : String} {operands : List String}

theorem toList_render_of_ne (hne : operands ≠ []) :
    (render mnemonic operands).toList =
      mnemonic.toList ++ ' ' :: [',', ' '].intercalate (operands.map String.toList) := by
  have hspace : " ".toList = [' '] := rfl
  have hseparator : ", ".toList = [',', ' '] := rfl
  cases operands with
  | nil => exact absurd rfl hne
  | cons operand operands =>
    simp only [render, String.toList_append, String.toList_intercalate, hspace, hseparator,
      List.append_assoc, List.singleton_append]

theorem all_ne_space (h : ' ' ∉ text) : ∀ c ∈ text, (c != ' ') = true :=
  fun _ hc => bne_iff_ne.mpr fun heq => h (heq ▸ hc)

/-- **A line without a space is a mnemonic.** -/
theorem read_of_notMem (h : ' ' ∉ line.toList) : read line = (line, []) := by
  have hall := all_ne_space h
  rw [read, List.dropWhile_eq_nil_iff.mpr hall, List.takeWhile_eq_self_iff.mpr hall,
    String.ofList_toList]

/-- **The first space ends the mnemonic.** -/
theorem read_of_toList_eq (h : ' ' ∉ mnemonic.toList)
    (hline : line.toList = mnemonic.toList ++ ' ' :: text) :
    read line = (mnemonic, (splitOperands text).map String.ofList) := by
  have hall := all_ne_space h
  have htake : line.toList.takeWhile (· != ' ') = mnemonic.toList := by
    simp [hline, List.takeWhile_append_of_pos hall]
  have hdrop : line.toList.dropWhile (· != ' ') = ' ' :: text := by
    simp [hline, List.dropWhile_append_of_pos hall]
  rw [read, htake, hdrop, String.ofList_toList]

/-- **A readable line is read as what it shows.** -/
theorem read_render (h : Readable mnemonic operands) :
    read (render mnemonic operands) = (mnemonic, operands) := by
  by_cases hne : operands = []
  · subst hne
    exact read_of_notMem h.1
  · have hpieces : splitOperands ([',', ' '].intercalate (operands.map String.toList)) =
        operands.map String.toList :=
      splitOperands_eq_iff.mpr ⟨by simpa using hne, by simpa using h.2, rfl⟩
    rw [read_of_toList_eq h.1 (toList_render_of_ne hne), hpieces, List.map_map]
    simp

/-- …and whatever is read is readable, and has that line. -/
theorem readable_read (line : String) :
    Readable (read line).1 (read line).2 ∧ render (read line).1 (read line).2 = line := by
  by_cases hspace : ' ' ∈ line.toList
  · obtain ⟨before, text, hline, hbefore⟩ := List.eq_append_cons_of_mem hspace
    have hmnemonic : ' ' ∉ (String.ofList before).toList := by rwa [String.toList_ofList]
    obtain ⟨hne, hpieces, hjoin⟩ := splitOperands_eq_iff.mp (Eq.refl (splitOperands text))
    rw [read_of_toList_eq hmnemonic (by rw [hline, String.toList_ofList])]
    refine ⟨⟨hmnemonic, by simpa using hpieces⟩, String.toList_inj.mp ?_⟩
    rw [toList_render_of_ne (by simpa using hne)]
    simp [hline, Function.comp_def, hjoin]
  · rw [read_of_notMem hspace]
    exact ⟨⟨hspace, by simp⟩, rfl⟩

/-- **Every line is the line of one readable mnemonic with its operands**, the one that is read. -/
theorem read_eq_iff :
    read line = (mnemonic, operands) ↔
      Readable mnemonic operands ∧ render mnemonic operands = line := by
  constructor
  · intro h
    simpa [h] using readable_read line
  · rintro ⟨h, rfl⟩
    exact read_render h

/-- **Different readable instructions have different lines.** -/
theorem render_inj {mnemonic' : String} {operands' : List String}
    (h : Readable mnemonic operands) (h' : Readable mnemonic' operands')
    (heq : render mnemonic operands = render mnemonic' operands') :
    mnemonic = mnemonic' ∧ operands = operands' := by
  have hread := read_render h
  rw [heq, read_render h'] at hread
  exact Prod.mk.inj hread.symm

end Line

end AsmForms
