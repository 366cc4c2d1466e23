import AccountSecurity.Encoding.Base32

/-!
# Texts of base 32 digits

* `Base32.IsText` : a text of nothing but upper case digits;
* `Base32.decode_of_isText` : a text of whole groups of eight digits has five bytes for each group.
-/

namespace AccountSecurity.Base32

/-- The text has upper case digits only. -/
def IsText (s : List Char) : Prop := ∀ c ∈ s, c ∈ alphabet

/-- What is needed of a digit: it is ASCII, not the padding, and it has a value. -/
theorem of_mem_alphabet {c : Char} (h : c ∈ alphabet) : c.toNat < 0x80 ∧ c ≠ '=' ∧ (value? c).isSome := by
  have hall : alphabet.all (fun c => c.toNat < 0x80 ∧ c ≠ '=' ∧ (value? c).isSome) := by decide
  exact of_decide_eq_true (List.all_eq_true.1 hall c h)

theorem exists_values? {s : List Char} (h : IsText s) :
    ∃ values, values? s = some values ∧ values.length = s.length := by
  induction s with
  | nil => exact ⟨[], rfl, rfl⟩
  | cons c rest ih =>
    obtain ⟨values, hv, hl⟩ := ih fun x hx => h x (List.mem_cons_of_mem _ hx)
    obtain ⟨v, hc⟩ := Option.isSome_iff_exists.1 (of_mem_alphabet (h c (List.mem_cons_self ..))).2.2
    refine ⟨v :: values, ?_, congrArg Nat.succ hl⟩
    unfold values? at hv ⊢
    rw [List.mapM_cons, hc, hv]
    rfl

theorem length_bits (width n : Nat) : (bits width n).length = width := by
  rw [bits, List.length_map, List.length_reverse, List.length_range]

theorem length_bytesOfBits (bs : List Bool) : (bytesOfBits bs).length = bs.length / 8 := by
  induction bs using bytesOfBits.induct with
  | case1 a b c d e f g h rest ih =>
    rw [bytesOfBits, List.length_cons, ih]
    simp only [List.length_cons]
    omega
  | case2 bs hshort =>
    have hlt : bs.length < 8 := by
      refine Nat.lt_of_not_le fun hle => ?_
      rcases bs with _ | ⟨a, _ | ⟨b, _ | ⟨c, _ | ⟨d, _ | ⟨e, _ | ⟨f, _ | ⟨g, _ | ⟨h, rest⟩⟩⟩⟩⟩⟩⟩⟩
      all_goals simp only [List.length_cons, List.length_nil] at hle
      any_goals omega
      exact hshort a b c d e f g h rest rfl
    rw [bytesOfBits, Nat.div_eq_of_lt hlt]
    · rfl
    · exact hshort

/-- A text without padding is its own body. -/
theorem unpadded_of_isText {s : List Char} (h : IsText s) : unpadded s = s := by
  unfold unpadded
  cases hr : s.reverse with
  | nil => rw [List.reverse_eq_nil_iff.1 hr]; rfl
  | cons c rest =>
    have hc : c ∈ s := List.mem_reverse.1 (hr ▸ List.mem_cons_self ..)
    have hne : ¬ (c == '=') = true := by simpa using (of_mem_alphabet (h c hc)).2.1
    rw [List.dropWhile_cons, if_neg hne, ← hr, List.reverse_reverse]

theorem padded_of_dvd {s : List Char} (h : s.length % 8 = 0) : padded s = s := by
  rw [padded, h]
  exact List.append_nil s

/-- A text of whole groups of eight digits has five bytes for each group. -/
theorem decode_of_isText {s : List Char} (h : IsText s) (hlength : s.length % 8 = 0) :
    ∃ bytes, decode (padded s) = .ok bytes ∧ bytes.length = 5 * s.length / 8 := by
  obtain ⟨values, hv, hl⟩ := exists_values? h
  have hascii : s.any (0x80 ≤ ·.toNat) = false := by
    rw [List.any_eq_false]
    intro c hc
    simpa using (of_mem_alphabet (h c hc)).1
  refine ⟨bytesOfBits (values.flatMap (bits 5)), ?_, ?_⟩
  · rw [padded_of_dvd hlength]
    unfold decode
    dsimp only
    rw [hascii, unpadded_of_isText h, hv, Nat.sub_self, if_neg (by simp), if_neg (by simp [hlength])]
    rfl
  · have hbits : (values.flatMap (bits 5)).length = 5 * values.length := by
      rw [List.length_flatMap, List.map_congr_left fun n _ => length_bits 5 n, List.map_const', List.sum_replicate_nat,
        Nat.mul_comm]
    rw [length_bytesOfBits, hbits, hl]

end AccountSecurity.Base32
