import AccountSecurity.Text.Lowercase
import Mathlib

/-!
# Texts in lower case

* `isUpper_of_mem_lowerAfter` : no letter from A to Z is left in a text in lower case;
* `asciiLower_fold` : so that the lower case of these letters alone changes nothing in a folded text;
* `IsLower`, `misses_of_mem_lowerRuns` : what the table leads to is left as it is, for no image of a run is in a run;
* `HasNoBlankEnds` : what trimming leaves, and lower case keeps;
* `fold_fold` : so that folding a folded text changes nothing.
-/

namespace AccountSecurity.Text

theorem isUpper_iff {c : Char} : c.isUpper = true ↔ 65 ≤ c.toNat ∧ c.toNat ≤ 90 := by
  simp only [Char.isUpper, decide_eq_true_eq]
  rfl

theorem toLower_of_not_isUpper {c : Char} (h : c.isUpper = false) : c.toLower = c := by
  unfold Char.toLower
  exact dif_neg (by simpa [Char.isUpper] using h)

theorem isUpper_toLower (c : Char) : c.toLower.isUpper = false := by
  by_cases h : c.isUpper
  · obtain ⟨hlow, hhigh⟩ := isUpper_iff.1 h
    rw [← Char.ofNat_toNat c]
    generalize c.toNat = n at hlow hhigh
    interval_cases n <;> rfl
  · rw [toLower_of_not_isUpper (Bool.eq_false_iff.2 h)]
    exact Bool.eq_false_iff.2 h

theorem isUpper_of_beyondAscii {c : Char} (h : ¬c.toNat < 0x80) : c.isUpper = false := by
  rw [Bool.eq_false_iff]
  intro hupper
  have := isUpper_iff.1 hupper
  omega

/-! ## The table -/

/-- No run of the table leads to one of the letters A to Z. -/
theorem image_of_mem_lowerRuns :
    ∀ r ∈ lowerRuns, 90 < r.image ∨ r.image + (r.last - r.first) < 65 := by
  decide +kernel

theorem isUpper_ofNat {n : Nat} (h : 90 < n ∨ n < 65) : (Char.ofNat n).isUpper = false := by
  rw [Bool.eq_false_iff]
  intro hupper
  have hrange := isUpper_iff.1 hupper
  unfold Char.ofNat at hrange
  split at hrange
  · change 65 ≤ n ∧ n ≤ 90 at hrange
    omega
  · exact absurd hrange.1 (by decide)

theorem isUpper_image {r : CaseRun} (hr : r ∈ lowerRuns) {m n : Nat} (h : r.image? m = some n) :
    (Char.ofNat n).isUpper = false := by
  unfold CaseRun.image? at h
  split at h
  · next hm =>
    cases h
    have := image_of_mem_lowerRuns r hr
    exact isUpper_ofNat (by omega)
  · cases h

/-! ## Texts -/

theorem isUpper_of_mem_lowerChar {c d : Char} (h : d ∈ lowerChar c) : d.isUpper = false := by
  unfold lowerChar at h
  split at h
  · rw [List.mem_singleton.1 h]
    exact isUpper_toLower c
  · next hascii =>
    split at h
    · obtain rfl | rfl : d = 'i' ∨ d = '\u0307' := by simpa using h
      · rfl
      · rfl
    · split at h
      · next n hn =>
        obtain ⟨r, hr, himage⟩ := List.exists_of_findSome?_eq_some hn
        rw [List.mem_singleton.1 h]
        exact isUpper_image hr himage
      · rw [List.mem_singleton.1 h]
        exact isUpper_of_beyondAscii hascii

theorem isUpper_of_mem_lowerAfter {afterCased : Bool} {s : List Char} {d : Char} (h : d ∈ lowerAfter afterCased s) :
    d.isUpper = false := by
  induction s generalizing afterCased with
  | nil => cases h
  | cons c rest ih =>
    obtain h | h := List.mem_append.1 h
    · split at h
      · split at h
        · rw [List.mem_singleton.1 h]
          rfl
        · rw [List.mem_singleton.1 h]
          rfl
      · exact isUpper_of_mem_lowerChar h
    · exact ih h

/-- The letters A to Z are already in lower case in a folded text. -/
theorem asciiLower_fold (s : String) : asciiLower (fold s) = fold s := by
  have hsame : (lowerAfter false (trim s).toList).map Char.toLower = lowerAfter false (trim s).toList := by
    conv_rhs => rw [← List.map_id (lowerAfter false (trim s).toList)]
    exact List.map_congr_left fun d hd => toLower_of_not_isUpper (isUpper_of_mem_lowerAfter hd)
  unfold asciiLower fold lower
  rw [String.toList_ofList, hsame]

/-! ## Lower case is left as it is -/

/-- Lower case leaves the character as it is, wherever it stands. -/
def IsLower (c : Char) : Prop := lowerChar c = [c] ∧ c ≠ 'Σ'

theorem lowerAfter_of_isLower {s : List Char} (h : ∀ c ∈ s, IsLower c) (afterCased : Bool) :
    lowerAfter afterCased s = s := by
  induction s generalizing afterCased with
  | nil => rfl
  | cons c rest ih =>
    obtain ⟨hc, hsigma⟩ := h c (List.mem_cons_self ..)
    unfold lowerAfter
    rw [if_neg hsigma, hc, ih fun d hd => h d (List.mem_cons_of_mem _ hd)]
    rfl

/-- Where the images of the runs lie: between the characters that are blank or that the table leaves out. -/
def imageSpans : List (Nat × Nat) :=
  [(0x6B, 0x6B), (0xA1, 0x12F), (0x131, 0x3A2), (0x3A4, 0x167F), (0x1681, 0x1FFF), (0x2060, 0x2FFF), (0x3001, 0xD7FF),
    (0xE000, 0x10FFFF)]

theorem span_of_mem_lowerRuns :
    ∀ r ∈ lowerRuns, ∃ span ∈ imageSpans, span.1 ≤ r.image ∧ r.image + (r.last - r.first) ≤ span.2 := by
  decide +kernel

/-- No image of the first run is moved by the second: the runs lie apart, or their points alternate. -/
def CaseRun.Misses (r r' : CaseRun) : Prop :=
  r.image + (r.last - r.first) < r'.first ∨ r'.last < r.image ∨
    (r'.step = 2 ∧ (r.step = 2 ∨ r.last = r.first) ∧ (r.image + r'.first) % 2 = 1)

instance (r r' : CaseRun) : Decidable (r.Misses r') := by
  unfold CaseRun.Misses
  infer_instance

theorem misses_of_mem_lowerRuns : ∀ r ∈ lowerRuns, ∀ r' ∈ lowerRuns, r.Misses r' := by
  decide +kernel

theorem CaseRun.Misses.image? {r r' : CaseRun} (h : r.Misses r') {m n : Nat} (hn : r.image? m = some n) :
    r'.image? n = none := by
  unfold CaseRun.image? at hn ⊢
  split at hn
  · next hm =>
    cases hn
    refine if_neg fun h' => ?_
    obtain h | h | ⟨hstep', hstep | hone, hodd⟩ := h
    · omega
    · omega
    · rw [hstep] at hm
      rw [hstep'] at h'
      omega
    · rw [hstep'] at h'
      omega
  · cases hn

theorem toNat_ofNat_of_span {n : Nat} {span : Nat × Nat} (hspan : span ∈ imageSpans) (hn : span.1 ≤ n ∧ n ≤ span.2) :
    (Char.ofNat n).toNat = n := by
  have hvalid : n.isValidChar := by
    unfold Nat.isValidChar
    simp only [imageSpans, List.mem_cons, List.not_mem_nil, or_false] at hspan
    rcases hspan with rfl | rfl | rfl | rfl | rfl | rfl | rfl | rfl <;> omega
  unfold Char.ofNat
  rw [dif_pos hvalid]
  rfl

/-- An image of the table is in lower case, and is no blank. -/
theorem isLower_image {r : CaseRun} (hr : r ∈ lowerRuns) {m n : Nat} (h : r.image? m = some n) :
    IsLower (Char.ofNat n) ∧ isBlank (Char.ofNat n) = false := by
  obtain ⟨span, hspan, hlow, hhigh⟩ := span_of_mem_lowerRuns r hr
  have hn : span.1 ≤ n ∧ n ≤ span.2 := by
    unfold CaseRun.image? at h
    split at h
    · cases h
      omega
    · cases h
  obtain rfl | hne := eq_or_ne n 0x6B
  · exact ⟨⟨rfl, by decide⟩, rfl⟩
  have hnat := toNat_ofNat_of_span hspan hn
  have hfree : 0xA0 < n ∧ n ≠ 0x130 ∧ n ≠ 0x3A3 ∧ n ≠ 0x1680 ∧ (n < 0x2000 ∨ 0x205F < n) ∧ n ≠ 0x3000 := by
    simp only [imageSpans, List.mem_cons, List.not_mem_nil, or_false] at hspan
    rcases hspan with rfl | rfl | rfl | rfl | rfl | rfl | rfl | rfl <;> omega
  have hchar (c : Char) (hc : n ≠ c.toNat) : Char.ofNat n ≠ c := by
    rintro rfl
    exact hc hnat.symm
  have hmissed : lowerRuns.findSome? (·.image? n) = none :=
    List.findSome?_eq_none_iff.2 fun r' hr' => (misses_of_mem_lowerRuns r hr r' hr').image? h
  refine ⟨⟨?_, hchar 'Σ' hfree.2.2.1⟩, ?_⟩
  · unfold lowerChar
    rw [hnat, if_neg (by omega), if_neg (hchar 'İ' hfree.2.1), hmissed]
  · unfold isBlank
    rw [hnat]
    simp
    omega

theorem toNat_toLower_lt {c : Char} (h : c.toNat < 0x80) : c.toLower.toNat < 0x80 := by
  by_cases hupper : c.isUpper
  · obtain ⟨hlow, hhigh⟩ := isUpper_iff.1 hupper
    rw [← Char.ofNat_toNat c]
    generalize c.toNat = n at hlow hhigh
    interval_cases n <;> decide
  · rwa [toLower_of_not_isUpper (Bool.eq_false_iff.2 hupper)]

theorem isBlank_toLower {c : Char} (h : isBlank c = false) : isBlank c.toLower = false := by
  by_cases hupper : c.isUpper
  · obtain ⟨hlow, hhigh⟩ := isUpper_iff.1 hupper
    rw [← Char.ofNat_toNat c]
    generalize c.toNat = n at hlow hhigh
    interval_cases n <;> rfl
  · rwa [toLower_of_not_isUpper (Bool.eq_false_iff.2 hupper)]

/-- The lower case of a character is in lower case, and is blank only where the character is. -/
theorem isLower_of_mem_lowerChar {c d : Char} (h : d ∈ lowerChar c) :
    IsLower d ∧ (isBlank c = false → isBlank d = false) := by
  unfold lowerChar at h
  split at h
  · next hascii =>
    obtain rfl := List.mem_singleton.1 h
    have hd := toNat_toLower_lt hascii
    refine ⟨⟨?_, ?_⟩, isBlank_toLower⟩
    · unfold lowerChar
      rw [if_pos hd, toLower_of_not_isUpper (isUpper_toLower c)]
    · rintro he
      rw [he] at hd
      exact absurd hd (by decide)
  · next hascii =>
    split at h
    · obtain rfl | rfl : d = 'i' ∨ d = '\u0307' := by simpa using h
      · exact ⟨⟨rfl, by decide⟩, fun _ => rfl⟩
      · exact ⟨⟨by decide +kernel, by decide⟩, fun _ => rfl⟩
    · next hdotted =>
      split at h
      · next n hn =>
        obtain ⟨r, hr, himage⟩ := List.exists_of_findSome?_eq_some hn
        obtain rfl := List.mem_singleton.1 h
        exact (isLower_image hr himage).imp_right fun hd _ => hd
      · next hmissed =>
        obtain rfl := List.mem_singleton.1 h
        refine ⟨⟨?_, ?_⟩, id⟩
        · unfold lowerChar
          rw [if_neg hascii, if_neg hdotted, hmissed]
        · rintro rfl
          exact absurd hmissed (by decide +kernel)

/-- The lower case of a text is the lower case of its first character, then that of the rest. -/
theorem exists_lowerAfter_cons (afterCased : Bool) (c : Char) (rest : List Char) :
    ∃ here afterCased', lowerAfter afterCased (c :: rest) = here ++ lowerAfter afterCased' rest ∧ here ≠ [] ∧
      ∀ d ∈ here, IsLower d ∧ (isBlank c = false → isBlank d = false) := by
  refine ⟨_, _, rfl, ?_⟩
  by_cases hsigma : c = 'Σ'
  · have hlower : ∀ d : Char, d = 'ς' ∨ d = 'σ' → IsLower d ∧ (isBlank c = false → isBlank d = false) := by
      rintro d (rfl | rfl)
      · exact ⟨⟨by decide +kernel, by decide⟩, fun _ => rfl⟩
      · exact ⟨⟨by decide +kernel, by decide⟩, fun _ => rfl⟩
    rw [if_pos hsigma]
    split
    · exact ⟨List.cons_ne_nil _ _, fun d hd => hlower d (.inl (List.mem_singleton.1 hd))⟩
    · exact ⟨List.cons_ne_nil _ _, fun d hd => hlower d (.inr (List.mem_singleton.1 hd))⟩
  · rw [if_neg hsigma]
    refine ⟨?_, fun d hd => isLower_of_mem_lowerChar hd⟩
    unfold lowerChar
    split
    · exact List.cons_ne_nil _ _
    · split
      · exact List.cons_ne_nil _ _
      · split <;> exact List.cons_ne_nil _ _

theorem isLower_of_mem_lowerAfter {afterCased : Bool} {s : List Char} {d : Char} (h : d ∈ lowerAfter afterCased s) :
    IsLower d := by
  induction s generalizing afterCased with
  | nil => cases h
  | cons c rest ih =>
    obtain ⟨here, afterCased', he, -, hhere⟩ := exists_lowerAfter_cons afterCased c rest
    rw [he] at h
    obtain h | h := List.mem_append.1 h
    · exact (hhere d h).1
    · exact ih h

/-! ## Trimming -/

/-- No blank stands at either end. -/
def HasNoBlankEnds (s : List Char) : Prop :=
  (∀ c ∈ s.head?, isBlank c = false) ∧ ∀ c ∈ s.getLast?, isBlank c = false

theorem trimChars_of_hasNoBlankEnds {s : List Char} (h : HasNoBlankEnds s) : trimChars s = s := by
  have hfirst : s.dropWhile isBlank = s := by
    cases s with
    | nil => rfl
    | cons c rest => exact List.dropWhile_cons_of_neg (by simpa using h.1 c rfl)
  have hlast : s.rdropWhile isBlank = s :=
    List.rdropWhile_eq_self_iff.2 fun hs => by simpa using h.2 _ (List.getLast?_eq_some_getLast hs)
  unfold trimChars
  rw [hfirst]
  exact hlast

theorem hasNoBlankEnds_trimChars (s : List Char) : HasNoBlankEnds (trimChars s) := by
  have hfirst := List.head?_dropWhile_not isBlank s
  change HasNoBlankEnds ((s.dropWhile isBlank).rdropWhile isBlank)
  generalize s.dropWhile isBlank = rest at hfirst
  constructor
  · intro c hc
    obtain ⟨dropped, hd⟩ := List.rdropWhile_prefix isBlank rest
    rw [← hd, List.head?_append, Option.mem_def.1 hc] at hfirst
    exact hfirst
  · intro c hc
    obtain ⟨hs, rfl⟩ := List.mem_getLast?_eq_getLast hc
    simpa using List.rdropWhile_last_not isBlank rest hs

theorem isBlank_head?_lowerAfter {s : List Char} (h : ∀ c ∈ s.head?, isBlank c = false) {afterCased : Bool} :
    ∀ d ∈ (lowerAfter afterCased s).head?, isBlank d = false := by
  cases s with
  | nil => exact fun _ hd => nomatch hd
  | cons c rest =>
    obtain ⟨here, afterCased', he, hne, hhere⟩ := exists_lowerAfter_cons afterCased c rest
    obtain ⟨d, here', rfl⟩ := List.exists_cons_of_ne_nil hne
    rw [he]
    rintro _ ⟨⟩
    exact (hhere d (List.mem_cons_self ..)).2 (h c rfl)

theorem isBlank_getLast?_lowerAfter {s : List Char} (h : ∀ c ∈ s.getLast?, isBlank c = false) {afterCased : Bool} :
    ∀ d ∈ (lowerAfter afterCased s).getLast?, isBlank d = false := by
  induction s generalizing afterCased with
  | nil => exact fun _ hd => nomatch hd
  | cons c rest ih =>
    obtain ⟨here, afterCased', he, -, hhere⟩ := exists_lowerAfter_cons afterCased c rest
    rw [he]
    cases rest with
    | nil =>
      intro d hd
      have hmem : d ∈ here := by simpa [lowerAfter] using List.mem_of_getLast? hd
      exact (hhere d hmem).2 (h c rfl)
    | cons c' rest =>
      obtain ⟨here', afterCased'', he', hne', -⟩ := exists_lowerAfter_cons afterCased' c' rest
      -- the rest is not empty, so that the last character is one of its own
      rw [List.getLast?_append_of_ne_nil _ (by simp [he', hne'])]
      exact ih h

theorem HasNoBlankEnds.lowerAfter {s : List Char} (h : HasNoBlankEnds s) (afterCased : Bool) :
    HasNoBlankEnds (lowerAfter afterCased s) :=
  ⟨isBlank_head?_lowerAfter h.1, isBlank_getLast?_lowerAfter h.2⟩

/-- Folding twice is folding once. -/
theorem fold_fold (s : String) : fold (fold s) = fold s := by
  have hends := (hasNoBlankEnds_trimChars s.toList).lowerAfter false
  unfold fold trim lower
  simp only [String.toList_ofList]
  rw [trimChars_of_hasNoBlankEnds hends, lowerAfter_of_isLower fun _ => isLower_of_mem_lowerAfter]

end AccountSecurity.Text
