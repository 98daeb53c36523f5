import AsmForms.Register.Spelling
import AsmForms.Text.Numeral
import AsmForms.Text.Token

/-!
# Register/Reading — the register that a text names, and the registers that it mentions

`RegisterName.ofString?` reads a whole text as a register name; the case of ASCII letters does not
matter.  It accepts every name that `View.spell` writes, and `spl`, `bpl`, `sil`, `dil`, which are
read but never written.  A text **mentions** a register when one of its words names it: that covers
the base and the index of a memory operand.
-/

namespace AsmForms

namespace RegisterName

/-- One of the registers that have names of their own. -/
def ofLegacy? (name : List Char) : Option RegisterName :=
  View.all.findSome? fun view =>
    (view.legacyNames.idxOf? (String.ofList name)).map fun n => ⟨⟨.general, n⟩, view⟩

/-- The view that the letters after the number select in `r8` to `r15`. -/
def extendedView? : List Char → Option View
  | [] => some .qword
  | ['b'] => some .byte
  | ['w'] => some .word
  | ['d'] => some .dword
  | _ => none

/-- One of `r8` to `r15`, with a letter for a narrower view. -/
def ofExtended? : List Char → Option RegisterName
  | 'r' :: rest => do
    let n ← numeral? (rest.takeWhile Char.isDigit)
    let view ← extendedView? (rest.dropWhile Char.isDigit)
    if 8 ≤ n ∧ n < 16 then some ⟨⟨.general, n⟩, view⟩ else none
  | _ => none

/-- A register of one of the other classes, of which there are `limit`. -/
def ofNumeral? (view : View) (limit : Nat) (digits : List Char) : Option RegisterName := do
  let n ← numeral? digits
  if n < limit then some ⟨⟨view.cls, n⟩, view⟩ else none

/-- An MMX or a vector register. -/
def ofNumbered? : List Char → Option RegisterName
  | 'm' :: 'm' :: digits => ofNumeral? .mm 8 digits
  | 'x' :: 'm' :: 'm' :: digits => ofNumeral? .xmm 32 digits
  | 'y' :: 'm' :: 'm' :: digits => ofNumeral? .ymm 32 digits
  | _ => none

/-- The register name that the characters spell in lower case. -/
def ofLower? (name : List Char) : Option RegisterName :=
  ofLegacy? name <|> ofExtended? name <|> ofNumbered? name

/-- The register name that the characters spell, in any case. -/
def ofChars? (name : List Char) : Option RegisterName :=
  ofLower? (name.map Char.toLower)

/-- **The register that a whole text names**, if any. -/
def ofString? (name : String) : Option RegisterName :=
  ofChars? name.toList

end RegisterName

/-- The registers found in a text: what the spellings of names in it name, in order and as often as
it does. -/
def mentioned (text : String) : List Register :=
  (tokens text.toList).filterMap fun token =>
    (RegisterName.ofChars? token).map RegisterName.register

/-- `text` **mentions** `r`: some maximal run of word characters in it names `r`. -/
def Mentions (text : String) (r : Register) : Prop :=
  ∃ run, IsMaximalRun run text.toList ∧
    ∃ name, RegisterName.ofChars? run = some name ∧ name.register = r

/-! ## Register names are spelled like names -/

namespace RegisterName

/-- The registers that have names of their own are named by letters. -/
theorem isAlpha_of_ofLegacy? {word : List Char} {name : RegisterName}
    (h : ofLegacy? word = some name) : word ≠ [] ∧ ∀ c ∈ word, c.isAlpha = true := by
  have table : ∀ view ∈ View.all, ∀ s ∈ view.legacyNames,
      s.toList.isEmpty = false ∧ s.toList.all Char.isAlpha = true := by
    decide
  obtain ⟨view, hview, hname⟩ := List.exists_of_findSome?_eq_some h
  obtain ⟨n, hn, -⟩ := Option.map_eq_some_iff.mp hname
  have hmem : String.ofList word ∈ view.legacyNames :=
    List.isSome_idxOf?.mp (by rw [hn]; rfl)
  simpa using table view hview _ hmem

theorem isSpelling_of_ofLegacy? {word : List Char} {name : RegisterName}
    (h : ofLegacy? word = some name) : isSpelling word = true := by
  obtain ⟨hne, halpha⟩ := isAlpha_of_ofLegacy? h
  cases word with
  | nil => exact absurd rfl hne
  | cons c rest =>
    rw [List.forall_mem_cons] at halpha
    rw [isSpelling, halpha.1, Bool.true_and, List.all_eq_true]
    exact fun d hd => isAlphanum_of_isAlpha (halpha.2 d hd)

theorem all_isAlphanum_of_extendedView? {suffix : List Char} {view : View}
    (h : extendedView? suffix = some view) : suffix.all Char.isAlphanum = true := by
  unfold extendedView? at h
  split at h <;> first | rfl | simp at h

theorem takeWhile_isDigit_of_extendedView? {suffix : List Char} {view : View}
    (h : extendedView? suffix = some view) :
    suffix.takeWhile Char.isDigit = [] ∧ suffix.dropWhile Char.isDigit = suffix := by
  unfold extendedView? at h
  split at h <;> first | exact ⟨rfl, rfl⟩ | simp at h

theorem isDigit_of_mem_toDigits {n : Nat} {c : Char} (h : c ∈ Nat.toDigits 10 n) :
    c.isDigit = true :=
  Nat.isDigit_of_mem_toDigits (by decide) (by decide) h

theorem all_isAlphanum_of_numeral? {digits : List Char} {n : Nat}
    (h : numeral? digits = some n) : digits.all Char.isAlphanum = true := by
  rw [numeral?_eq_some_iff.mp h, List.all_eq_true]
  intro c hc
  exact isAlphanum_iff.mpr (Or.inr (isDigit_of_mem_toDigits hc))

theorem isSpelling_of_ofExtended? {word : List Char} {name : RegisterName}
    (h : ofExtended? word = some name) : isSpelling word = true := by
  unfold ofExtended? at h
  split at h
  next rest =>
    simp only [Option.bind_eq_bind, Option.bind_eq_some_iff] at h
    obtain ⟨n, hn, view, hview, -⟩ := h
    have hrest : rest.all Char.isAlphanum = true := by
      rw [← List.takeWhile_append_dropWhile (p := Char.isDigit) (l := rest), List.all_append,
        all_isAlphanum_of_numeral? hn, all_isAlphanum_of_extendedView? hview, Bool.and_self]
    rw [isSpelling, hrest]
    rfl
  next => simp at h

theorem all_isAlphanum_of_ofNumeral? {view : View} {limit : Nat} {digits : List Char}
    {name : RegisterName} (h : ofNumeral? view limit digits = some name) :
    digits.all Char.isAlphanum = true := by
  simp only [ofNumeral?, Option.bind_eq_bind, Option.bind_eq_some_iff] at h
  obtain ⟨n, hn, -⟩ := h
  exact all_isAlphanum_of_numeral? hn

theorem isSpelling_of_ofNumbered? {word : List Char} {name : RegisterName}
    (h : ofNumbered? word = some name) : isSpelling word = true := by
  unfold ofNumbered? at h
  split at h
  case h_4 => simp at h
  all_goals
    have hdigits := all_isAlphanum_of_ofNumeral? h
    simp only [isSpelling, List.all_cons, hdigits]
    rfl

theorem isSpelling_of_ofLower? {word : List Char} {name : RegisterName}
    (h : ofLower? word = some name) : isSpelling word = true := by
  simp only [ofLower?, Option.orElse_eq_orElse, Option.orElse_eq_or, Option.or_eq_some_iff] at h
  rcases h with h | ⟨-, h | ⟨-, h⟩⟩
  · exact isSpelling_of_ofLegacy? h
  · exact isSpelling_of_ofExtended? h
  · exact isSpelling_of_ofNumbered? h

theorem isSpelling_of_map_toLower {word : List Char}
    (h : isSpelling (word.map Char.toLower) = true) : isSpelling word = true := by
  cases word with
  | nil => simp [isSpelling] at h
  | cons c rest =>
    simp only [List.map_cons, isSpelling, List.all_map, Bool.and_eq_true, List.all_eq_true] at h ⊢
    refine ⟨?_, fun d hd => ?_⟩
    · rcases toLower_eq_or_isAlpha c with hc | hc
      · exact hc ▸ h.1
      · exact hc
    · rcases toLower_eq_or_isAlpha d with hd' | hd'
      · exact hd' ▸ h.2 d hd
      · exact isAlphanum_of_isAlpha hd'

/-- **What names a register is spelled like a name**, in any case. -/
theorem isSpelling_of_ofChars? {word : List Char} {name : RegisterName}
    (h : ofChars? word = some name) : isSpelling word = true :=
  isSpelling_of_map_toLower (isSpelling_of_ofLower? h)

/-! ## Reading what is spelled -/

theorem map_toLower_toDigits (n : Nat) :
    (Nat.toDigits 10 n).map Char.toLower = Nat.toDigits 10 n :=
  (List.map_congr_left fun _ hc => toLower_of_isDigit (isDigit_of_mem_toDigits hc)).trans
    (List.map_id _)

/-- A word with a numeral in it is none of the names of their own. -/
theorem ofLegacy?_numeral (stem suffix : List Char) (n : Nat) :
    ofLegacy? (stem ++ (Nat.toDigits 10 n ++ suffix)) = none := by
  obtain ⟨c, rest, hdigits⟩ := List.exists_cons_of_ne_nil (Nat.toDigits_ne_nil (n := n) (b := 10))
  have hc : c ∈ Nat.toDigits 10 n := by simp [hdigits]
  refine Option.eq_none_iff_forall_ne_some.mpr fun name h => ?_
  exact not_isAlpha_of_isDigit (isDigit_of_mem_toDigits hc)
    ((isAlpha_of_ofLegacy? h).2 c (by simp [hc]))

/-- **A name with a number is read by its letters**, if these are in lower case. -/
theorem ofString?_numeral {stem suffix : String} (n : Nat)
    (hstem : stem.toList.map Char.toLower = stem.toList)
    (hsuffix : suffix.toList.map Char.toLower = suffix.toList) :
    ofString? (stem ++ n.repr ++ suffix) =
      (ofExtended? (stem.toList ++ (Nat.toDigits 10 n ++ suffix.toList)) <|>
        ofNumbered? (stem.toList ++ (Nat.toDigits 10 n ++ suffix.toList))) := by
  simp only [ofString?, ofChars?, String.toList_append, Nat.toList_repr, List.append_assoc,
    List.map_append, hstem, hsuffix, map_toLower_toDigits, ofLower?, ofLegacy?_numeral]
  rfl

theorem ofExtended?_numeral {n : Nat} {suffix : List Char} {view : View} (h : 8 ≤ n ∧ n < 16)
    (hview : extendedView? suffix = some view) :
    ofExtended? ('r' :: (Nat.toDigits 10 n ++ suffix)) = some ⟨⟨.general, n⟩, view⟩ := by
  have hdigits : ∀ c ∈ Nat.toDigits 10 n, c.isDigit = true := fun _ => isDigit_of_mem_toDigits
  obtain ⟨htake, hdrop⟩ := takeWhile_isDigit_of_extendedView? hview
  simp only [ofExtended?, List.takeWhile_append_of_pos hdigits, htake, List.append_nil,
    List.dropWhile_append_of_pos hdigits, hdrop, numeral?_eq_some_iff.mpr rfl, hview]
  exact if_pos h

theorem ofNumeral?_toDigits {view : View} {limit n : Nat} (h : n < limit) :
    ofNumeral? view limit (Nat.toDigits 10 n) = some ⟨⟨view.cls, n⟩, view⟩ := by
  rw [ofNumeral?, numeral?_eq_some_iff.mpr rfl]
  exact if_pos h

theorem ofString?_of_legacyNames {view : View} {n : Nat} {name : String}
    (hn : n < view.legacySpan) (h : view.legacyNames[n]? = some name) :
    ofString? name = some ⟨⟨.general, n⟩, view⟩ := by
  have table : ∀ view ∈ View.all, ∀ n < view.legacySpan,
      (view.legacyNames[n]?).all fun name => ofString? name = some ⟨⟨.general, n⟩, view⟩ := by
    decide
  have row := table view (View.mem_all view) n hn
  rw [h] at row
  simpa using row

theorem ofString?_of_extendedSuffix? {view : View} {n : Nat} {suffix : String}
    (hn : 8 ≤ n ∧ n < 16) (h : view.extendedSuffix? = some suffix) :
    ofString? ("r" ++ n.repr ++ suffix) = some ⟨⟨.general, n⟩, view⟩ := by
  have hsuffix : suffix.toList.map Char.toLower = suffix.toList ∧
      extendedView? suffix.toList = some view := by
    cases view <;> cases h <;> decide
  rw [ofString?_numeral n (by decide) hsuffix.1]
  have hread : ofExtended? ("r".toList ++ (Nat.toDigits 10 n ++ suffix.toList)) = _ :=
    ofExtended?_numeral hn hsuffix.2
  rw [hread]
  rfl

theorem ofString?_of_stem (stem : String) (view : View) {limit n : Nat} (hn : n < limit)
    (hstem : stem.toList.map Char.toLower = stem.toList)
    (hextended : ∀ digits, ofExtended? (stem.toList ++ digits) = none)
    (hnumbered : ∀ digits, ofNumbered? (stem.toList ++ digits) = ofNumeral? view limit digits) :
    ofString? (stem ++ n.repr) = some ⟨⟨view.cls, n⟩, view⟩ := by
  have hsuffix : "".toList.map Char.toLower = "".toList := rfl
  have hread := ofString?_numeral n hstem hsuffix
  rw [String.append_empty] at hread
  rw [hread, hextended, hnumbered, String.toList_empty, List.append_nil, ofNumeral?_toDigits hn]
  rfl

theorem ofString?_of_stem? {view : View} {n : Nat} {stem : String} (h : view.stem? = some stem)
    (hn : n < if view.cls = .mmx then 8 else 32) :
    ofString? (stem ++ n.repr) = some ⟨⟨view.cls, n⟩, view⟩ := by
  cases view with
  | mm =>
    obtain rfl := Option.some.inj h
    exact ofString?_of_stem "mm" .mm hn rfl (fun _ => rfl) fun _ => rfl
  | xmm =>
    obtain rfl := Option.some.inj h
    exact ofString?_of_stem "xmm" .xmm hn rfl (fun _ => rfl) fun _ => rfl
  | ymm =>
    obtain rfl := Option.some.inj h
    exact ofString?_of_stem "ymm" .ymm hn rfl (fun _ => rfl) fun _ => rfl
  | byte | highByte | word | dword | qword => exact absurd h nofun

/-- **Every spelled name reads back**, as the register and the view that it was spelled for. -/
theorem ofString?_of_spell {view : View} {r : Register} {name : String}
    (h : view.spell r = some name) : ofString? name = some ⟨r, view⟩ := by
  obtain ⟨cls, n⟩ := r
  cases cls <;> rw [View.spell] at h <;> split at h
  case general.isTrue hn => exact ofString?_of_legacyNames hn h
  case general.isFalse =>
    split at h
    next hn =>
      obtain ⟨suffix, hsuffix, rfl⟩ := Option.map_eq_some_iff.mp h
      exact ofString?_of_extendedSuffix? hn hsuffix
    next => simp at h
  case mmx.isTrue hn =>
    obtain ⟨stem, hstem, rfl⟩ := Option.map_eq_some_iff.mp h
    rw [← hn.1]
    exact ofString?_of_stem? hstem (by rw [hn.1]; exact hn.2)
  case mmx.isFalse => simp at h
  case vector.isTrue hn =>
    obtain ⟨stem, hstem, rfl⟩ := Option.map_eq_some_iff.mp h
    rw [← hn.1]
    exact ofString?_of_stem? hstem (by rw [hn.1]; exact hn.2)
  case vector.isFalse => simp at h

end RegisterName

/-! ## What is mentioned -/

/-- **The registers found in a text are those that it mentions.** -/
theorem mem_mentioned_iff {text : String} {r : Register} :
    r ∈ mentioned text ↔ Mentions text r := by
  simp only [mentioned, tokens_eq, List.mem_filterMap, List.mem_filter, mem_words_iff,
    Option.map_eq_some_iff, Mentions]
  constructor
  · rintro ⟨run, ⟨hrun, -⟩, hname⟩
    exact ⟨run, hrun, hname⟩
  · rintro ⟨run, hrun, name, hname, rfl⟩
    exact ⟨run, ⟨hrun, RegisterName.isSpelling_of_ofChars? hname⟩, name, hname, rfl⟩

end AsmForms
