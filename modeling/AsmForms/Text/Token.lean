import AsmForms.Text.Words

/-!
# Text/Token — searching a text for the spelling of a name

A name is spelled with a letter, then letters and digits, all of them ASCII.  `tokens` searches a
text for such spellings the way the pattern `\b[A-Za-z][A-Za-z0-9]*\b` does: from left to right, at
every place the longest match first and a shorter one where the boundary is missing, and on from the
end of a match.  By `tokens_eq` a match is always a whole word: shorter matches never succeed.
-/

namespace AsmForms

/-- Whether a word begins or ends between two neighbours, either of which may be missing. -/
def isBoundary (before after : Option Char) : Bool :=
  before.any isWordChar != after.any isWordChar

/-- The most letters and digits at the front of a text that a boundary follows.  `last` stands
before the text. -/
def matchRest (last : Char) : List Char → Option (List Char)
  | [] => if isBoundary (some last) none then some [] else none
  | c :: text =>
    let longer := if c.isAlphanum then (matchRest c text).map (c :: ·) else none
    longer <|> if isBoundary (some last) (some c) then some [] else none

/-- The spelling of a name at the front of a text. -/
def matchToken (before : Option Char) : List Char → Option (List Char)
  | [] => none
  | c :: text =>
    if isBoundary before (some c) && c.isAlpha then (matchRest c text).map (c :: ·) else none

/-- The spellings of names from a place on.  The first `skip` characters belong to the match found
last. -/
def tokensFrom (before : Option Char) (skip : Nat) : List Char → List (List Char)
  | [] => []
  | c :: text =>
    match skip with
    | skip + 1 => tokensFrom (some c) skip text
    | 0 =>
      match matchToken before (c :: text) with
      | some token => token :: tokensFrom (some c) (token.length - 1) text
      | none => tokensFrom (some c) 0 text

/-- **The spellings of names in a text**, in order. -/
def tokens (text : List Char) : List (List Char) :=
  tokensFrom none 0 text

/-- Whether a word is spelled like a name. -/
def isSpelling : List Char → Bool
  | [] => false
  | c :: rest => c.isAlpha && rest.all Char.isAlphanum

/-! ## Letters and digits -/

section Ascii

variable {c : Char}

theorem isUpper_iff : c.isUpper = true ↔ 65 ≤ c.toNat ∧ c.toNat ≤ 90 :=
  decide_eq_true_iff

theorem isLower_iff : c.isLower = true ↔ 97 ≤ c.toNat ∧ c.toNat ≤ 122 :=
  Bool.and_eq_true_iff.trans (and_congr decide_eq_true_iff decide_eq_true_iff)

theorem isDigit_iff : c.isDigit = true ↔ 48 ≤ c.toNat ∧ c.toNat ≤ 57 :=
  Bool.and_eq_true_iff.trans (and_congr decide_eq_true_iff decide_eq_true_iff)

theorem isAlpha_iff : c.isAlpha = true ↔ c.isUpper = true ∨ c.isLower = true :=
  Bool.or_eq_true_iff

theorem isAlphanum_iff : c.isAlphanum = true ↔ c.isAlpha = true ∨ c.isDigit = true :=
  Bool.or_eq_true_iff

theorem isAlphanum_of_isAlpha (h : c.isAlpha = true) : c.isAlphanum = true :=
  isAlphanum_iff.mpr (Or.inl h)

theorem not_isAlpha_of_isDigit (h : c.isDigit = true) : ¬ c.isAlpha = true := by
  rw [isDigit_iff] at h
  rw [isAlpha_iff, isUpper_iff, isLower_iff]
  omega

/-- Lowering changes letters only. -/
theorem toLower_eq_or_isAlpha (c : Char) : c.toLower = c ∨ c.isAlpha = true := by
  by_cases h : c.isUpper = true
  · exact Or.inr (isAlpha_iff.mpr (Or.inl h))
  · exact Or.inl (dif_neg fun hupper => h (decide_eq_true hupper))

theorem toLower_of_isDigit (h : c.isDigit = true) : c.toLower = c :=
  (toLower_eq_or_isAlpha c).resolve_right (not_isAlpha_of_isDigit h)

theorem isWordChar_of_isAlphanum (h : c.isAlphanum = true) : isWordChar c = true := by
  have ascii : c.toNat < 128 := by
    rw [isAlphanum_iff, isAlpha_iff, isUpper_iff, isLower_iff, isDigit_iff] at h
    omega
  rw [isWordChar_eq_of_lt ascii, h, Bool.true_or]

end Ascii

/-! ## A match is a word

A boundary separates a word character from another character, so it never lies between two letters
or digits.  A search that has entered a word can thus only take all of it, and one that has failed
there finds nothing before its end. -/

/-- Inside a word the rest of the word matches, or nothing does. -/
theorem matchRest_eq {last : Char} (hlast : isWordChar last = true) (text : List Char) :
    matchRest last text =
      if (cutRun text).1.all Char.isAlphanum then some (cutRun text).1 else none := by
  induction text generalizing last with
  | nil => simp [matchRest, cutRun, isBoundary, hlast]
  | cons c text ih =>
    by_cases hc : isWordChar c = true
    · have inside : isBoundary (some last) (some c) = false := by simp [isBoundary, hlast, hc]
      by_cases halnum : c.isAlphanum = true
      · simp [matchRest, cutRun, hc, halnum, inside, ih hc]
      · simp [matchRest, cutRun, hc, halnum, inside]
    · have halnum : ¬ c.isAlphanum = true := fun h => hc (isWordChar_of_isAlphanum h)
      simp [matchRest, cutRun, isBoundary, hlast, hc, halnum]

/-- Inside a word nothing matches. -/
theorem matchToken_inside {b c : Char} (hb : isWordChar b = true) (text : List Char) :
    matchToken (some b) (c :: text) = none := by
  by_cases hc : isWordChar c = true
  · simp [matchToken, isBoundary, hb, hc]
  · have halpha : ¬ c.isAlpha = true := fun h =>
      hc (isWordChar_of_isAlphanum (isAlphanum_of_isAlpha h))
    simp [matchToken, halpha]

/-- Outside a word the next word matches, if it is spelled like a name. -/
theorem matchToken_outside {before : Option Char} (hb : before.any isWordChar = false)
    (text : List Char) :
    matchToken before text =
      if isSpelling (cutRun text).1 then some (cutRun text).1 else none := by
  cases text with
  | nil => simp [matchToken, cutRun, isSpelling]
  | cons c text =>
    by_cases hc : isWordChar c = true
    · by_cases halpha : c.isAlpha = true
      · simp [matchToken, cutRun, isBoundary, isSpelling, hb, hc, halpha, matchRest_eq hc]
      · simp [matchToken, cutRun, isSpelling, hc, halpha]
    · have halpha : ¬ c.isAlpha = true := fun h =>
        hc (isWordChar_of_isAlphanum (isAlphanum_of_isAlpha h))
      simp [matchToken, cutRun, isSpelling, hc, halpha]

/-- The search from three places: inside a word whose match has failed, inside a word whose match is
being skipped, and outside a word. -/
theorem tokensFrom_eq (text : List Char) :
    (∀ b, isWordChar b = true →
      tokensFrom (some b) 0 text = (cutRun text).2.filter isSpelling ∧
      tokensFrom (some b) (cutRun text).1.length text = (cutRun text).2.filter isSpelling) ∧
    ∀ before : Option Char, before.any isWordChar = false →
      tokensFrom before 0 text = (words text).filter isSpelling := by
  induction text with
  | nil => exact ⟨fun b _ => ⟨rfl, rfl⟩, fun before _ => rfl⟩
  | cons c text ih =>
    obtain ⟨inside, outside⟩ := ih
    by_cases hc : isWordChar c = true
    · obtain ⟨failed, skipped⟩ := inside c hc
      refine ⟨fun b hb => ?_, fun before hbefore => ?_⟩
      · simp [tokensFrom, matchToken_inside hb, cutRun, hc, failed, skipped]
      · rw [tokensFrom, matchToken_outside hbefore]
        by_cases hrun : isSpelling (c :: (cutRun text).1) = true
        · simp [words_eq, cutRun, hc, hrun, skipped]
        · simp [words_eq, cutRun, hc, hrun, failed]
    · have hc : isWordChar c = false := by simpa using hc
      have after : tokensFrom (some c) 0 text = (words text).filter isSpelling :=
        outside (some c) (by simpa using hc)
      refine ⟨fun b hb => ?_, fun before hbefore => ?_⟩
      · simp [tokensFrom, matchToken_inside hb, cutRun, hc, after, words_eq]
      · rw [tokensFrom, matchToken_outside hbefore]
        simp [cutRun, hc, isSpelling, after, words_cons_of_not hc]

/-- **The search finds the words that are spelled like names**, and nothing else. -/
theorem tokens_eq (text : List Char) : tokens text = (words text).filter isSpelling :=
  (tokensFrom_eq text).2 none rfl

end AsmForms
