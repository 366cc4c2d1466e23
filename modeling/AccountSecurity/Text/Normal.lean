import AccountSecurity.Text.NormalTable

/-!
# Compatibility normal form

`normalize` writes a text in the composed compatibility normal form, in three passes:

* `decompose` : every character is replaced by its full compatibility decomposition;
* `reorder` : marks on one base are sorted by combining class, equal classes keeping their order;
* `compose` : a base absorbs the following marks that it has a composite with and that nothing blocks.

ASCII text is its own normal form (`normalize_of_ascii`).
-/

namespace AccountSecurity.Text

/-- The ordering class of a mark; zero for a base character. -/
def combiningClass (c : Char) : Nat :=
  if c.toNat < 0x300 then 0
  else match combiningClasses.find? (·.covers c.toNat) with
    | some run => run.image.headD 0
    | none => 0

/-! ## Hangul syllables, which are composed by arithmetic -/

/-- A precomposed Hangul syllable. -/
def isSyllable (n : Nat) : Bool := 0xAC00 ≤ n && n ≤ 0xD7A3

/-- The letters of a Hangul syllable. -/
def syllableLetters (n : Nat) : List Char :=
  let i := n - 0xAC00
  [Char.ofNat (0x1100 + i / 588), Char.ofNat (0x1161 + i % 588 / 28)] ++
    if i % 28 = 0 then [] else [Char.ofNat (0x11A7 + i % 28)]

/-- The syllable of a leading consonant and a vowel, or of an open syllable and a final consonant. -/
def syllable? (a b : Nat) : Option Char :=
  if 0x1100 ≤ a ∧ a < 0x1113 ∧ 0x1161 ≤ b ∧ b < 0x1176 then
    some (Char.ofNat (0xAC00 + ((a - 0x1100) * 21 + (b - 0x1161)) * 28))
  else if isSyllable a ∧ (a - 0xAC00) % 28 = 0 ∧ 0x11A7 < b ∧ b < 0x11C3 then
    some (Char.ofNat (a + (b - 0x11A7)))
  else none

/-! ## The three passes -/

/-- The full compatibility decomposition of a character. -/
def decomposition (c : Char) : List Char :=
  let n := c.toNat
  if n < 0xA0 then [c]
  else if isSyllable n then syllableLetters n
  else match decompositions.find? (·.covers n) with
    | some run =>
      match run.image with
      | [image] => [Char.ofNat (image + (n - run.first))]
      | images => images.map Char.ofNat
    | none => [c]

/-- Every character replaced by its decomposition. -/
def decompose (s : List Char) : List Char := s.flatMap decomposition

/-- Puts a mark in front of the marks that do not belong before it. -/
def insertMark (c : Char) : List Char → List Char
  | [] => [c]
  | x :: rest =>
    if 0 < combiningClass x ∧ combiningClass x < combiningClass c then x :: insertMark c rest
    else c :: x :: rest

/-- Sorts the marks on each base by combining class. -/
def reorder : List Char → List Char
  | [] => []
  | c :: rest => insertMark c (reorder rest)

/-- The character that two composable characters stand for. -/
def composite? (a b : Char) : Option Char :=
  if b.toNat < 0x300 then none
  else match syllable? a.toNat b.toNat with
    | some c => some c
    | none => (primaryComposites.lookup (a.toNat, b.toNat)).map Char.ofNat

/-- Composes the text that follows `base`, which carries `marks` (latest first), the latest of class
`last`. -/
def composeFrom (base : Char) (marks : List Char) (last : Nat) : List Char → List Char
  | [] => base :: marks.reverse
  | c :: rest =>
    let k := combiningClass c
    let joined := if marks ≠ [] ∧ k ≤ last then none else composite? base c
    match joined with
    | some b => composeFrom b marks last rest
    | none =>
      if k = 0 then base :: (marks.reverse ++ composeFrom c [] 0 rest)
      else composeFrom base (c :: marks) k rest

/-- Composes every base with its marks; marks before the first base stay as they are. -/
def compose : List Char → List Char
  | [] => []
  | c :: rest => if combiningClass c = 0 then composeFrom c [] 0 rest else c :: compose rest

/-- The composed compatibility normal form. -/
def normalize (s : String) : String :=
  String.ofList (compose (reorder (decompose s.toList)))

/-! ## ASCII -/

theorem combiningClass_of_ascii {c : Char} (h : c.toNat < 0x80) : combiningClass c = 0 := by
  rw [combiningClass, if_pos (by omega)]

theorem decompose_of_ascii {s : List Char} (h : ∀ c ∈ s, c.toNat < 0x80) : decompose s = s := by
  induction s with
  | nil => rfl
  | cons c rest ih =>
    have hc : c.toNat < 0x80 := h c (by simp)
    have hd : decomposition c = [c] := by
      simp only [decomposition]
      rw [if_pos (by omega)]
    have hr := ih fun x hx => h x (by simp [hx])
    simp only [decompose, List.flatMap_cons, hd] at hr ⊢
    rw [hr]
    rfl

theorem reorder_of_ascii {s : List Char} (h : ∀ c ∈ s, c.toNat < 0x80) : reorder s = s := by
  induction s with
  | nil => rfl
  | cons c rest ih =>
    rw [reorder, ih fun x hx => h x (by simp [hx])]
    cases rest with
    | nil => rfl
    | cons x tail =>
      have hx : combiningClass x = 0 := combiningClass_of_ascii (h x (by simp))
      simp [insertMark, hx]

theorem composeFrom_of_ascii (base : Char) {s : List Char} (h : ∀ c ∈ s, c.toNat < 0x80) :
    composeFrom base [] 0 s = base :: s := by
  induction s generalizing base with
  | nil => rfl
  | cons c rest ih =>
    have hc : c.toNat < 0x80 := h c (by simp)
    have hk : combiningClass c = 0 := combiningClass_of_ascii hc
    have hj : composite? base c = none := by
      rw [composite?, if_pos (by omega)]
    simp [composeFrom, hk, hj, ih c fun x hx => h x (by simp [hx])]

theorem normalize_of_ascii {s : String} (h : ∀ c ∈ s.toList, c.toNat < 0x80) : normalize s = s := by
  rw [normalize, decompose_of_ascii h, reorder_of_ascii h]
  have hs : compose s.toList = s.toList := by
    cases hl : s.toList with
    | nil => rfl
    | cons c rest =>
      rw [hl] at h
      rw [compose, if_pos (combiningClass_of_ascii (h c (by simp))),
        composeFrom_of_ascii c fun x hx => h x (by simp [hx])]
  rw [hs, String.ofList_toList]

end AccountSecurity.Text
