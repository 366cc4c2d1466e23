import AccountSecurity.Encoding.Base64
import Mathlib.Data.List.Nodup

/-!
# Base 64 over an alphabet

* `IsAlphabet` : 64 different characters;
* `length_encode`, `length_of_decode?` : how many characters stand for how many bytes;
* `mem_of_mem_encode` : only characters of the alphabet are written;
* `decode?_encode` : what is written is read again;
* `encode_of_decode?` : what is read is written again.
-/

namespace AccountSecurity.Base64
variable {alphabet : List Char}

/-- The characters can stand for the groups of six bits. -/
structure IsAlphabet (alphabet : List Char) : Prop where
  length : alphabet.length = 64
  nodup : alphabet.Nodup

theorem isAlphabet_standard : IsAlphabet standard := ⟨by decide, by decide⟩

/-! ## Characters -/

section Digit
variable (h : IsAlphabet alphabet)
include h

theorem digit_eq (n : Nat) : ∃ hn : n % 64 < alphabet.length, digit alphabet n = alphabet[n % 64] := by
  have hn : n % 64 < alphabet.length := by
    rw [h.length]
    exact Nat.mod_lt n (by decide)
  exact ⟨hn, by rw [digit, List.getD_eq_getElem?_getD, List.getElem?_eq_getElem hn, Option.getD_some]⟩

theorem digit_mem (n : Nat) : digit alphabet n ∈ alphabet := by
  obtain ⟨hn, hd⟩ := digit_eq h n
  rw [hd]
  exact List.getElem_mem hn

/-- The value of a character that was written. -/
theorem value?_digit (n : Nat) : value? alphabet (digit alphabet n) = some (n % 64) := by
  obtain ⟨hn, hd⟩ := digit_eq h n
  rw [hd, value?, List.findIdx?_eq_some_iff_getElem]
  refine ⟨hn, by simp, fun j hj => ?_⟩
  have hne : alphabet[j] ≠ alphabet[n % 64] := fun he => Nat.ne_of_lt hj (h.nodup.getElem_inj_iff.1 he)
  simpa using hne

theorem mem_of_mem_encode {c : Char} (bytes : List UInt8) (hc : c ∈ encode alphabet bytes) : c ∈ alphabet := by
  have hdigit := digit_mem h
  induction bytes using encode.induct with
  | case1 => cases hc
  | case2 a =>
    simp only [encode, List.mem_cons, List.not_mem_nil, or_false] at hc
    obtain rfl | rfl := hc <;> exact hdigit _
  | case3 a b =>
    simp only [encode, List.mem_cons, List.not_mem_nil, or_false] at hc
    obtain rfl | rfl | rfl := hc <;> exact hdigit _
  | case4 a b c rest ih =>
    simp only [encode, List.mem_cons] at hc
    obtain rfl | rfl | rfl | rfl | hc := hc
    · exact hdigit _
    · exact hdigit _
    · exact hdigit _
    · exact hdigit _
    · exact ih hc

theorem ne_of_mem_encode {c x : Char} {bytes : List UInt8} (hc : c ∈ encode alphabet bytes) (hx : x ∉ alphabet) :
    c ≠ x := fun he => hx (he ▸ mem_of_mem_encode h bytes hc)

end Digit

/-! ## Lengths -/

/-- Every character but the last stands for six bits. -/
theorem length_encode (bytes : List UInt8) : (encode alphabet bytes).length = (4 * bytes.length + 2) / 3 := by
  induction bytes using encode.induct with
  | case1 => rfl
  | case2 a => simp [encode]
  | case3 a b => simp [encode]
  | case4 a b c rest ih =>
    simp only [encode, List.length_cons, ih]
    omega

theorem length_of_decode? {s : List Char} {bytes : List UInt8} (hs : decode? alphabet s = some bytes) :
    bytes.length = 3 * s.length / 4 := by
  induction s using decode?.induct generalizing bytes with
  | case1 =>
    cases hs
    rfl
  | case2 a => cases hs
  | case3 a b =>
    simp only [decode?, Option.bind_eq_bind, Option.bind_eq_some_iff] at hs
    obtain ⟨x, -, y, -, hs⟩ := hs
    split at hs <;> cases hs
    simp
  | case4 a b c =>
    simp only [decode?, Option.bind_eq_bind, Option.bind_eq_some_iff] at hs
    obtain ⟨x, -, y, -, z, -, hs⟩ := hs
    split at hs <;> cases hs
    simp
  | case5 a b c d rest ih =>
    simp only [decode?, Option.bind_eq_bind, Option.bind_eq_some_iff] at hs
    obtain ⟨x, -, y, -, z, -, t, -, tail, htail, hs⟩ := hs
    cases hs
    simp only [List.length_cons, ih htail]
    omega

/-! ## Reading -/

theorem byte_toNat (a : UInt8) : byte a.toNat = a := UInt8.ofNat_toNat

/-- Only the lowest eight bits of a number make a byte. -/
theorem byte_add_mul (k : Nat) (a : UInt8) : byte (256 * k + a.toNat) = a := by
  apply UInt8.toNat_inj.1
  have := a.toNat_lt
  rw [byte, UInt8.toNat_ofNat']
  omega

/-- **What is written is read again.** -/
theorem decode?_encode (h : IsAlphabet alphabet) (bytes : List UInt8) :
    decode? alphabet (encode alphabet bytes) = some bytes := by
  induction bytes using encode.induct with
  | case1 => rfl
  | case2 a =>
    have ha := a.toNat_lt
    simp only [encode, decode?, value?_digit h, Option.bind_eq_bind, Option.bind_some]
    rw [show a.toNat * 16 / 64 % 64 * 64 + a.toNat * 16 % 64 = a.toNat * 16 by omega, if_pos (by omega),
      Nat.mul_div_cancel _ (by decide), byte_toNat]
    rfl
  | case3 a b =>
    have ha := a.toNat_lt
    have hb := b.toNat_lt
    simp only [encode, decode?, value?_digit h, Option.bind_eq_bind, Option.bind_some]
    generalize hn : a.toNat * 256 + b.toNat = n
    rw [show (n * 4 / 4096 % 64 * 64 + n * 4 / 64 % 64) * 64 + n * 4 % 64 = n * 4 by omega, if_pos (by omega),
      show n * 4 / 1024 = a.toNat by omega, show n * 4 / 4 = 256 * a.toNat + b.toNat by omega, byte_toNat,
      byte_add_mul]
    rfl
  | case4 a b c rest ih =>
    have ha := a.toNat_lt
    have hb := b.toNat_lt
    have hc := c.toNat_lt
    simp only [encode, decode?, value?_digit h, ih, Option.bind_eq_bind, Option.bind_some]
    generalize hn : (a.toNat * 256 + b.toNat) * 256 + c.toNat = n
    rw [show ((n / 262144 % 64 * 64 + n / 4096 % 64) * 64 + n / 64 % 64) * 64 + n % 64 = n by omega,
      show n / 65536 = a.toNat by omega, show n / 256 = 256 * a.toNat + b.toNat by omega,
      show n = 256 * (256 * a.toNat + b.toNat) + c.toNat by omega, byte_toNat, byte_add_mul, byte_add_mul]
    rfl

/-! ## Writing again -/

/-- The character that a value was read from. -/
theorem digit_of_value? {c : Char} {v n : Nat} (hv : value? alphabet c = some v) (hn : n % 64 = v) :
    digit alphabet n = c := by
  obtain ⟨hlt, hc, -⟩ := List.findIdx?_eq_some_iff_getElem.1 hv
  rw [digit, hn, List.getD_eq_getElem?_getD, List.getElem?_eq_getElem hlt, Option.getD_some]
  exact beq_iff_eq.1 hc

section Value
variable (h : IsAlphabet alphabet)
include h

theorem value?_lt {c : Char} {v : Nat} (hv : value? alphabet c = some v) : v < 64 := by
  obtain ⟨hlt, -⟩ := List.findIdx?_eq_some_iff_getElem.1 hv
  exact h.length ▸ hlt

/-- **What is read is written again**: no bytes have a second encoding. -/
theorem encode_of_decode? {s : List Char} {bytes : List UInt8} (hs : decode? alphabet s = some bytes) :
    encode alphabet bytes = s := by
  induction s using decode?.induct generalizing bytes with
  | case1 =>
    cases hs
    rfl
  | case2 a => cases hs
  | case3 a b =>
    simp only [decode?, Option.bind_eq_bind, Option.bind_eq_some_iff] at hs
    obtain ⟨x, hx, y, hy, hs⟩ := hs
    have hx' := value?_lt h hx
    have hy' := value?_lt h hy
    split at hs
    · next hrest =>
      cases hs
      simp only [encode, byte, UInt8.toNat_ofNat']
      rw [digit_of_value? hx (by omega), digit_of_value? hy (by omega)]
    · cases hs
  | case4 a b c =>
    simp only [decode?, Option.bind_eq_bind, Option.bind_eq_some_iff] at hs
    obtain ⟨x, hx, y, hy, z, hz, hs⟩ := hs
    have hx' := value?_lt h hx
    have hy' := value?_lt h hy
    have hz' := value?_lt h hz
    split at hs
    · next hrest =>
      cases hs
      simp only [encode, byte, UInt8.toNat_ofNat']
      rw [digit_of_value? hx (by omega), digit_of_value? hy (by omega), digit_of_value? hz (by omega)]
    · cases hs
  | case5 a b c d rest ih =>
    simp only [decode?, Option.bind_eq_bind, Option.bind_eq_some_iff] at hs
    obtain ⟨x, hx, y, hy, z, hz, t, ht, tail, htail, hs⟩ := hs
    have hx' := value?_lt h hx
    have hy' := value?_lt h hy
    have hz' := value?_lt h hz
    have ht' := value?_lt h ht
    cases hs
    simp only [encode, byte, UInt8.toNat_ofNat', ih htail]
    rw [digit_of_value? hx (by omega), digit_of_value? hy (by omega), digit_of_value? hz (by omega),
      digit_of_value? ht (by omega)]

end Value

end AccountSecurity.Base64
