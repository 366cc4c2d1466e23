import AccountSecurity.Text.Integer
import AccountSecurity.Text.Pieces
import Mathlib.Data.List.Basic
import Mathlib.Data.List.Induction
import Mathlib.Data.Nat.Digits.Defs
import Mathlib.Tactic.IntervalCases

/-!
# Numbers and pieces of texts

* `readInteger?_digits`, `readInteger?_decimal` : a number that is written in decimal digits is read again;
* `exists_digits`, `decimal_ofDigits` : the digits of a number, and the number of digits without zeros in front;
* `readInteger?_padded`, `padded_ofDigits` : numbers and digits of a fixed width, zeros in front included;
* `replicate_isPrefix_padded_iff` : how many zeros are in front;
* `pieces_append`, `pieces_self` : the pieces of a text whose first piece is known.
-/

namespace AccountSecurity.Text

/-! ## Digits -/

section Digit
variable {d : Nat} (h : d < 10)
include h

theorem decimalValue?_digitChar : decimalValue? d.digitChar = some d := by
  interval_cases d <;> decide

theorem isIntegerBlank_digitChar : isIntegerBlank d.digitChar = false := by
  interval_cases d <;> decide

theorem digitChar_ne {c : Char} (hc : c.isDigit = false) : d.digitChar ≠ c := by
  rintro rfl
  rw [Nat.isDigit_digitChar, decide_eq_false_iff_not] at hc
  exact hc h

theorem eq_zero_of_digitChar (he : d.digitChar = '0') : d = 0 := by
  have hall : ∀ d < 10, Nat.digitChar d = '0' → d = 0 := by decide
  exact hall d h he

end Digit

/-- The value of digits in front of further digits. -/
theorem digitValues?_cons {d : Nat} (h : d < 10) {s : List Char} {ds : List Nat} (hs : digitValues? s = some ds)
    (hlow : s.head? ≠ some '_') : digitValues? (d.digitChar :: s) = some (d :: ds) := by
  cases s with
  | nil => cases hs
  | cons c rest =>
    have hc : c ≠ '_' := fun he => hlow (by rw [he, List.head?_cons])
    rw [digitValues?, decimalValue?_digitChar h, hs]
    · rfl
    · exact nofun
    · exact fun _ he => hc (List.cons.inj he).1

theorem digitValues?_digits {ds : List Nat} (hne : ds ≠ []) (h : ∀ d ∈ ds, d < 10) :
    digitValues? (ds.map Nat.digitChar) = some ds := by
  induction ds with
  | nil => exact absurd rfl hne
  | cons d ds ih =>
    have hd := h d (List.mem_cons_self ..)
    cases ds with
    | nil =>
      show (decimalValue? d.digitChar).map (fun x => [x]) = some [d]
      rw [decimalValue?_digitChar hd, Option.map_some]
    | cons d' rest =>
      refine digitValues?_cons hd (ih (List.cons_ne_nil _ _) fun x hx => h x (List.mem_cons_of_mem _ hx)) ?_
      rw [List.map_cons, List.head?_cons]
      exact fun he => digitChar_ne (h d' (by simp)) (by decide) (Option.some.inj he)

/-- A number that is written in digits, perhaps with zeros in front, is read again. -/
theorem readInteger?_digits {ds : List Nat} (hne : ds ≠ []) (h : ∀ d ∈ ds, d < 10)
    (hlen : ds.length ≤ maxIntegerDigits) :
    readInteger? (String.ofList (ds.map Nat.digitChar)) = some (ofDigits ds : Int) := by
  have hblank : ∀ l : List Nat, (∀ d ∈ l, d < 10) →
      (l.map Nat.digitChar).dropWhile isIntegerBlank = l.map Nat.digitChar := by
    intro l hl
    cases l with
    | nil => rfl
    | cons d rest =>
      rw [List.map_cons, List.dropWhile_cons_of_neg]
      simp [isIntegerBlank_digitChar (hl d (List.mem_cons_self ..))]
  have hbody : (((ds.map Nat.digitChar).dropWhile isIntegerBlank).reverse.dropWhile isIntegerBlank).reverse =
      ds.map Nat.digitChar := by
    rw [hblank ds h, ← List.map_reverse, hblank ds.reverse (fun d hd => h d (List.mem_reverse.1 hd)),
      List.map_reverse, List.reverse_reverse]
  have hread : readNatural? (ds.map Nat.digitChar) = some (ofDigits ds) := by
    rw [readNatural?, digitValues?_digits hne h]
    show (if ds.length ≤ maxIntegerDigits then some (ofDigits ds) else none) = _
    rw [if_pos hlen]
  unfold readInteger?
  dsimp only
  rw [String.toList_ofList, hbody]
  cases ds with
  | nil => exact absurd rfl hne
  | cons d rest =>
    have hd := h d (List.mem_cons_self ..)
    have hminus : d.digitChar ≠ '-' := digitChar_ne hd (by decide)
    have hplus : d.digitChar ≠ '+' := digitChar_ne hd (by decide)
    rw [List.map_cons] at hread ⊢
    split
    · next heq => exact absurd (List.cons.inj heq).1 hminus
    · next heq => exact absurd (List.cons.inj heq).1 hplus
    · rw [hread]
      rfl

/-- The decimal digits of a number. -/
theorem exists_digits (n : Nat) :
    ∃ ds : List Nat, decimal n = ds.map Nat.digitChar ∧ ds ≠ [] ∧ (∀ d ∈ ds, d < 10) ∧ ofDigits ds = n := by
  induction n using Nat.strongRecOn with
  | ind n ih =>
    unfold decimal
    rw [Nat.toDigits_eq_if (by decide)]
    by_cases hn : n < 10
    · rw [if_pos hn]
      exact ⟨[n], rfl, by simp, by simpa using hn, by simp [ofDigits]⟩
    · rw [if_neg hn]
      obtain ⟨ds, hds, -, hlt, hval⟩ := ih (n / 10) (by omega)
      have hlast : n % 10 < 10 := Nat.mod_lt _ (by decide)
      refine ⟨ds ++ [n % 10], ?_, by simp, ?_, ?_⟩
      · rw [List.map_append, ← hds]
        rfl
      · intro d hd
        obtain hd | hd := List.mem_append.1 hd
        · exact hlt d hd
        · rw [List.mem_singleton.1 hd]
          exact hlast
      · rw [ofDigits, List.foldl_append, ← ofDigits, hval]
        simp only [List.foldl_cons, List.foldl_nil]
        omega

theorem decimal_of_lt {d : Nat} (h : d < 10) : decimal d = [d.digitChar] := by
  unfold decimal
  rw [Nat.toDigits_eq_if (by decide), if_pos h]

/-- Only zero has a zero for its first digit. -/
theorem eq_zero_of_head {n : Nat} (h : (decimal n).head? = some '0') : n = 0 := by
  induction n using Nat.strongRecOn with
  | ind n ih =>
    by_cases hn : n < 10
    · rw [decimal_of_lt hn] at h
      exact eq_zero_of_digitChar hn (Option.some.inj h)
    · unfold decimal at h
      rw [Nat.toDigits_eq_if (by decide), if_neg hn, List.head?_append_of_ne_nil _ Nat.toDigits_ne_nil] at h
      have := ih (n / 10) (by omega) h
      omega

/-- The digits of a number are those that it was read from, unless there were zeros in front. -/
theorem decimal_ofDigits {ds : List Nat} (hne : ds ≠ []) (h : ∀ d ∈ ds, d < 10) (hzero : ds.head? = some 0 → ds = [0]) :
    decimal (ofDigits ds) = ds.map Nat.digitChar := by
  induction ds using List.reverseRecOn with
  | nil => exact absurd rfl hne
  | append_singleton ds d ih =>
    have hd : d < 10 := h d (by simp)
    have hval : ofDigits (ds ++ [d]) = 10 * ofDigits ds + d := by simp [ofDigits]
    cases ds with
    | nil => exact (congrArg decimal (by simp [ofDigits])).trans (decimal_of_lt hd)
    | cons x rest =>
      have hx : x ≠ 0 := by
        rintro rfl
        simpa using hzero rfl
      have hinit : decimal (ofDigits (x :: rest)) = (x :: rest).map Nat.digitChar :=
        ih (by simp) (fun y hy => h y (List.mem_append_left _ hy)) (by simp [hx])
      have hpos : 0 < ofDigits (x :: rest) := by
        refine Nat.pos_of_ne_zero fun h0 => hx ?_
        rw [h0, List.map_cons] at hinit
        exact eq_zero_of_digitChar (h x (by simp)) (List.cons.inj hinit).1.symm
      rw [hval, decimal, ← Nat.toDigits_append_toDigits (by decide) hpos hd, List.map_append, ← hinit]
      exact congrArg _ (decimal_of_lt hd)

/-- Digits have the values that they were written for. -/
theorem values_digits {ds : List Nat} (h : ∀ d ∈ ds, d < 10) :
    (ds.map Nat.digitChar).map (fun c => c.toNat - '0'.toNat) = ds := by
  have hall : ∀ d < 10, (Nat.digitChar d).toNat - '0'.toNat = d := by decide
  rw [List.map_map]
  exact (List.map_congr_left fun d hd => hall d (h d hd)).trans (List.map_id ds)

/-- A digit is the character of its value. -/
theorem digitChar_value {c : Char} (h : c.isDigit) :
    c.toNat - '0'.toNat < 10 ∧ (c.toNat - '0'.toNat).digitChar = c := by
  simp only [Char.isDigit, Bool.and_eq_true, decide_eq_true_eq] at h
  obtain ⟨hmin, hmax⟩ : 48 ≤ c.toNat ∧ c.toNat ≤ 57 := ⟨UInt32.le_iff_toNat_le.1 h.1, UInt32.le_iff_toNat_le.1 h.2⟩
  have hc : Char.ofNat c.toNat = c := Char.ofNat_toNat c
  generalize c.toNat = n at *
  subst hc
  interval_cases n <;> decide

section
variable {s : List Char} (hs : ∀ c ∈ s, c.isDigit)
include hs

theorem lt_of_mem_values {d : Nat} (hd : d ∈ s.map fun c => c.toNat - '0'.toNat) : d < 10 := by
  obtain ⟨c, hc, rfl⟩ := List.mem_map.1 hd
  exact (digitChar_value (hs c hc)).1

/-- Digits are those of their values. -/
theorem digits_values : (s.map fun c => c.toNat - '0'.toNat).map Nat.digitChar = s := by
  rw [List.map_map]
  exact (List.map_congr_left fun c hc => (digitChar_value (hs c hc)).2).trans (List.map_id s)

end

/-- Digits are ASCII characters. -/
theorem toNat_lt_of_isDigit {c : Char} (h : c.isDigit) : c.toNat < 0x80 := by
  simp only [Char.isDigit, Bool.and_eq_true, decide_eq_true_eq] at h
  have : c.val.toNat ≤ 57 := UInt32.le_iff_toNat_le.1 h.2
  exact Nat.lt_of_le_of_lt this (by decide)

theorem isDigit_of_mem_decimal {n : Nat} {c : Char} (h : c ∈ decimal n) : c.isDigit :=
  Nat.isDigit_of_mem_toDigits (by decide) (by decide) h

/-- A number is read as it was written. -/
theorem readInteger?_decimal {n : Nat} (h : (decimal n).length ≤ maxIntegerDigits) :
    readInteger? (String.ofList (decimal n)) = some (n : Int) := by
  obtain ⟨ds, hds, hne, hlt, hval⟩ := exists_digits n
  rw [hds, List.length_map] at h
  rw [hds, readInteger?_digits hne hlt h, hval]

/-- The number of digits says between which powers of ten a number lies. -/
theorem length_decimal_le_iff {n k : Nat} (hk : 0 < k) : (decimal n).length ≤ k ↔ n < 10 ^ k :=
  Nat.length_toDigits_le_iff (by decide) hk

/-- A number of 32 bits has few digits. -/
theorem length_decimal_of_lt {n : Nat} (h : n < 2 ^ 32) : (decimal n).length ≤ maxIntegerDigits := by
  have hten : (decimal n).length ≤ 10 := (length_decimal_le_iff (by decide)).2 (by omega)
  exact hten.trans (by decide)

/-! ### Digits of a fixed width -/

theorem ofDigits_replicate_zero_append (k : Nat) (ds : List Nat) :
    ofDigits (List.replicate k 0 ++ ds) = ofDigits ds := by
  induction k with
  | zero => rfl
  | succ k ih => exact ih

theorem lt_of_mem_zeros_append {k : Nat} {ds : List Nat} (h : ∀ d ∈ ds, d < 10) {d : Nat}
    (hd : d ∈ List.replicate k 0 ++ ds) : d < 10 := by
  obtain hd | hd := List.mem_append.1 hd
  · rw [List.eq_of_mem_replicate hd]
    decide
  · exact h d hd

/-- The digits of a number that is written with zeros in front. -/
theorem exists_paddedDigits {width n : Nat} (hw : 0 < width) (h : n < 10 ^ width) :
    ∃ ds : List Nat, padded width n = ds.map Nat.digitChar ∧ ds.length = width ∧ (∀ d ∈ ds, d < 10) ∧
      ofDigits ds = n := by
  obtain ⟨ds, hds, -, hlt, hval⟩ := exists_digits n
  have hlen := (length_decimal_le_iff hw).2 h
  rw [hds, List.length_map] at hlen
  refine ⟨List.replicate (width - ds.length) 0 ++ ds, ?_, ?_, fun d => lt_of_mem_zeros_append hlt, ?_⟩
  · rw [padded, hds, List.length_map, List.map_append, List.map_replicate]
    rfl
  · simp only [List.length_append, List.length_replicate]
    omega
  · rw [ofDigits_replicate_zero_append, hval]

theorem length_padded {width n : Nat} (hw : 0 < width) (h : n < 10 ^ width) : (padded width n).length = width := by
  obtain ⟨ds, hds, hlen, -⟩ := exists_paddedDigits hw h
  rw [hds, List.length_map, hlen]

theorem isDigit_of_mem_padded {width n : Nat} {c : Char} (h : c ∈ padded width n) : c.isDigit := by
  obtain h | h := List.mem_append.1 h
  · rw [List.eq_of_mem_replicate h]
    rfl
  · exact isDigit_of_mem_decimal h

/-- A number that is written with zeros in front is read again. -/
theorem readInteger?_padded {width n : Nat} (hw : 0 < width) (hmax : width ≤ maxIntegerDigits) (h : n < 10 ^ width) :
    readInteger? (String.ofList (padded width n)) = some (n : Int) := by
  obtain ⟨ds, hds, hlen, hlt, hval⟩ := exists_paddedDigits hw h
  rw [hds, readInteger?_digits (List.ne_nil_of_length_pos (hlen ▸ hw)) hlt (hlen ▸ hmax), hval]

/-- Digits with the most significant first, read from the other end. -/
theorem ofDigits_eq_reverse (ds : List Nat) : ofDigits ds = Nat.ofDigits 10 ds.reverse := by
  rw [Nat.ofDigits_eq_foldr, List.foldr_reverse, ofDigits]
  simp only [Nat.cast_id, Nat.add_comm]

section
variable {ds ds' : List Nat} (h : ∀ d ∈ ds, d < 10)
include h

theorem ofDigits_lt : ofDigits ds < 10 ^ ds.length := by
  rw [ofDigits_eq_reverse, ← List.length_reverse]
  exact Nat.ofDigits_lt_base_pow_length (by decide) fun d hd => h d (List.mem_reverse.1 hd)

/-- As many digits have the same number only if they are the same. -/
theorem ofDigits_inj (h' : ∀ d ∈ ds', d < 10) (hlen : ds.length = ds'.length) (he : ofDigits ds = ofDigits ds') :
    ds = ds' := by
  rw [ofDigits_eq_reverse, ofDigits_eq_reverse] at he
  refine List.reverse_inj.1 (Nat.ofDigits_inj_of_len_eq (by decide) ?_ ?_ ?_ he)
  · rw [List.length_reverse, List.length_reverse, hlen]
  · exact fun d hd => h d (List.mem_reverse.1 hd)
  · exact fun d hd => h' d (List.mem_reverse.1 hd)

/-- Digits are written again as they were read, zeros in front included. -/
theorem padded_ofDigits (hne : ds ≠ []) : padded ds.length (ofDigits ds) = ds.map Nat.digitChar := by
  obtain ⟨es, hes, hlen, hlt, hval⟩ := exists_paddedDigits (List.length_pos_of_ne_nil hne) (ofDigits_lt h)
  rw [hes, ofDigits_inj hlt h hlen hval]

/-- Zeros in front of digits are written. -/
theorem padded_zeros {k : Nat} (hpos : 0 < k + ds.length) :
    padded (k + ds.length) (ofDigits ds) = List.replicate k '0' ++ ds.map Nat.digitChar := by
  have hlen : (List.replicate k 0 ++ ds).length = k + ds.length := by
    rw [List.length_append, List.length_replicate]
  have hpad := padded_ofDigits (fun d => lt_of_mem_zeros_append h) (List.ne_nil_of_length_pos (hlen.symm ▸ hpos))
  rwa [hlen, ofDigits_replicate_zero_append, List.map_append, List.map_replicate] at hpad

/-- Zeros that are written are zeros. -/
theorem take_eq_zeros {k : Nat} (hzeros : List.replicate k '0' <+: ds.map Nat.digitChar) :
    ds.take k = List.replicate k 0 := by
  have hwritten : (ds.take k).map Nat.digitChar = List.replicate k '0' := by
    obtain ⟨rest, hrest⟩ := hzeros
    rw [List.map_take, ← hrest, List.take_left' (List.length_replicate ..)]
  refine List.eq_replicate_iff.2 ⟨?_, fun d hd => ?_⟩
  · rw [← List.length_map Nat.digitChar, hwritten, List.length_replicate]
  · have hzero : Nat.digitChar d = '0' := List.eq_of_mem_replicate (hwritten ▸ List.mem_map_of_mem hd)
    exact eq_zero_of_digitChar (h d (List.mem_of_mem_take hd)) hzero

end

/-- The digits of a number below a power of ten, of which a number below one has none. -/
theorem exists_digits_of_lt {k n : Nat} (h : n < 10 ^ k) :
    ∃ ds : List Nat, ds.length = k ∧ (∀ d ∈ ds, d < 10) ∧ ofDigits ds = n := by
  cases k with
  | zero => exact ⟨[], rfl, nofun, (Nat.lt_one_iff.1 h).symm⟩
  | succ k =>
    obtain ⟨ds, -, hds⟩ := exists_paddedDigits (Nat.succ_pos k) h
    exact ⟨ds, hds⟩

/-- A number has a zero in front for every power of ten that it does not reach. -/
theorem replicate_isPrefix_padded_iff {k width n : Nat} (hw : 0 < width) (hk : k ≤ width) (h : n < 10 ^ width) :
    List.replicate k '0' <+: padded width n ↔ n < 10 ^ (width - k) := by
  constructor
  · intro hzeros
    obtain ⟨ds, hds, hlen, hlt, rfl⟩ := exists_paddedDigits hw h
    -- zeros in front add nothing, so the number is that of the other digits
    rw [← List.take_append_drop k ds, take_eq_zeros hlt (hds ▸ hzeros), ofDigits_replicate_zero_append, ← hlen,
      ← List.length_drop]
    exact ofDigits_lt fun d hd => hlt d (List.mem_of_mem_drop hd)
  · intro hn
    obtain ⟨ds, hlen, hlt, rfl⟩ := exists_digits_of_lt hn
    have hwidth : k + ds.length = width := by omega
    have hpad := padded_zeros hlt (hwidth.symm ▸ hw)
    rw [← hwidth, hpad]
    exact List.prefix_append ..

/-! ## Pieces -/

variable {separator : Char} {first : List Char}

/-- A first piece, and the rest behind the separator. -/
theorem pieces_append (h : ∀ c ∈ first, c ≠ separator) (rest : List Char) :
    pieces separator (String.ofList (first ++ separator :: rest)) =
      String.ofList first :: pieces separator (String.ofList rest) := by
  unfold pieces
  rw [String.toList_ofList, String.toList_ofList,
    List.splitOnP_append_cons_of_forall_mem (fun c hc => by simpa using h c hc) separator (by simp), List.map_cons]

/-- A text without the separator is one piece. -/
theorem pieces_self (h : ∀ c ∈ first, c ≠ separator) :
    pieces separator (String.ofList first) = [String.ofList first] := by
  unfold pieces
  rw [String.toList_ofList, List.splitOnP_eq_singleton fun c hc => by simpa using h c hc, List.map_singleton]

end AccountSecurity.Text
