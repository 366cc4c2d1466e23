import AccountSecurity.Proofs.Service.BackupRoom
import AccountSecurity.Proofs.Service.World

/-!
# What the calls for backup codes do

* `BackupCode.unusedText?`, `BackupCode.AreTexts` : the text of an unused entry, and lists of nothing but texts;
* `findUnused?_eq` : the entry that is looked for;
* `runOn_generate` : a new code at the end of the list that has room for it;
* `runOn_verify` : the first unused code that agrees is marked as spent;
* `runOn_remaining` : the number of unused codes;
* `ends_generate`, `ends_verify` : how the two calls that change the list end.
-/

namespace AccountSecurity

namespace BackupCode

/-- The code of an entry that is unused and whose code is a text. -/
def unusedText? (b : BackupCode) : Option String :=
  match b.used, b.code with
  | false, .string c => some c
  | _, _ => none

/-- Every code is a text. -/
def AreTexts (codes : List BackupCode) : Prop := ∀ b ∈ codes, ∃ c, b.code = .string c

theorem unusedText?_eq_some {b : BackupCode} {c : String} :
    b.unusedText? = some c ↔ b.used = false ∧ b.code = .string c := by
  unfold unusedText?
  constructor
  · intro h
    split at h
    · next hu hc =>
      cases h
      exact ⟨hu, hc⟩
    · cases h
  · rintro ⟨hu, hc⟩
    rw [hu, hc]

theorem unusedText?_of_used {b : BackupCode} (h : b.used = true) : b.unusedText? = none := by
  unfold unusedText?
  rw [h]

@[simp] theorem unusedText?_spentAt (b : BackupCode) (now : DateTime) : (b.spentAt now).unusedText? = none :=
  unusedText?_of_used rfl

@[simp] theorem unusedText?_ofText (c : String) (now : DateTime) : (ofText c now).unusedText? = some c := rfl

theorem AreTexts.head {b : BackupCode} {rest : List BackupCode} (h : AreTexts (b :: rest)) : ∃ c, b.code = .string c :=
  h b (List.mem_cons_self ..)

theorem AreTexts.tail {b : BackupCode} {rest : List BackupCode} (h : AreTexts (b :: rest)) : AreTexts rest :=
  fun x hx => h x (List.mem_cons_of_mem _ hx)

/-- Where all codes are texts, the unused entries are those with an unused text. -/
theorem length_filterMap_unusedText? {codes : List BackupCode} (h : AreTexts codes) :
    (codes.filterMap unusedText?).length = codes.countP (!·.used) := by
  induction codes with
  | nil => rfl
  | cons b rest ih =>
    obtain ⟨c, hc⟩ := h.head
    have hrest := ih h.tail
    cases hu : b.used with
    | true => simp [unusedText?_of_used hu, hu, hrest]
    | false =>
      have hb : b.unusedText? = some c := unusedText?_eq_some.2 ⟨hu, hc⟩
      simp [hb, hu, hrest]

end BackupCode

namespace BackupVault
open World
variable {S : Type} [AccountStore S] [LawfulStore S] {w : World S} {a : Account}

/-! ## The list of codes -/

/-- The position that is looked for is that of the first unused entry with the code. -/
theorem findUnused?_eq {codes : List BackupCode} (h : BackupCode.AreTexts codes) (c : String) :
    findUnused? c codes = .ok (codes.findIdx? fun b => b.unusedText? = some c) := by
  induction codes with
  | nil => rfl
  | cons b rest ih =>
    obtain ⟨c', hc'⟩ := h.head
    have hrest := ih h.tail
    rw [List.findIdx?_cons, findUnused?, hrest]
    cases hu : b.used with
    | true => simp [BackupCode.unusedText?_of_used hu, bind, Except.bind, pure, Except.pure]
    | false =>
      have hb : b.unusedText? = some c' := BackupCode.unusedText?_eq_some.2 ⟨hu, hc'⟩
      by_cases he : c' = c
      · subst he
        simp [hb, BackupCode.agrees, hc', bind, Except.bind, pure, Except.pure]
      · simp [hb, he, BackupCode.agrees, hc', bind, Except.bind, pure, Except.pure]

/-- A list around the first element with some property, and what a change of this element makes of it. -/
theorem exists_of_findIdx? {α : Type} {p : α → Bool} {l : List α} {i : Nat} (h : l.findIdx? p = some i) :
    ∃ before x behind, l = before ++ x :: behind ∧ p x ∧ (∀ y ∈ before, p y = false) ∧
      ∀ f : α → α, l.modify i f = before ++ f x :: behind := by
  obtain ⟨hi, hx, hbefore⟩ := List.findIdx?_eq_some_iff_getElem.1 h
  refine ⟨l.take i, l[i], l.drop (i + 1), ?_, hx, ?_, fun f => List.modify_eq_take_cons_drop hi⟩
  · rw [← List.drop_eq_getElem_cons hi, List.take_append_drop]
  · intro y hy
    obtain ⟨j, hj, rfl⟩ := List.mem_iff_getElem.1 hy
    rw [List.getElem_take]
    have hji : j < i := by
      rw [List.length_take] at hj
      omega
    simpa using hbefore j hji

/-- A code of a list with one of them spent was there, or is one of them that is spent now. -/
theorem mem_modify_spent {codes : List BackupCode} {i : Nat} {now : DateTime} {b : BackupCode}
    (h : b ∈ codes.modify i (·.spentAt now)) : b ∈ codes ∨ ∃ c ∈ codes, b = c.spentAt now := by
  obtain ⟨j, hj, rfl⟩ := List.mem_iff_getElem.1 h
  have hjlt : j < codes.length := by simpa using hj
  rw [List.getElem_modify]
  split
  · exact .inr ⟨codes[j], List.getElem_mem _, rfl⟩
  · exact .inl (List.getElem_mem _)

/-! ## The calls -/

/-- The code that would be made next. -/
def nextCode (setup : Setup) (w : World S) : String :=
  codeOf (w.nextDraws setup setup.backup.codeLength.toNat)

theorem storable_backupCodes {keeps : BackupCode → Prop} {codes : List BackupCode} (h : ∀ code ∈ codes, keeps code) :
    Storable keeps [.backupCodes codes] := by
  simpa [Storable, CredentialChange.Storable] using h

section Storable
variable (h : w.Sound) {id : String} (ha : w.account? id = some a)
include h ha

/-- A store keeps the codes that it has given back, with a new one behind them. -/
theorem storable_made {limit : Int} {kept : List BackupCode} (hk : makeRoom limit a.credentials.backupCodes = .ok kept)
    (code : String) : Storable (LawfulStore.Keeps S) [.backupCodes (kept ++ [.ofText code w.clock])] := by
  refine storable_backupCodes fun b hb => ?_
  obtain hb | hb := List.mem_append.1 hb
  · exact LawfulStore.keeps_of_lookup h.store ha b ((of_makeRoom hk).1 hb)
  · obtain rfl := List.mem_singleton.1 hb
    exact LawfulStore.keeps_ofText code h.clock

/-- It keeps them with one of them spent. -/
theorem storable_modify_spent (i : Nat) :
    Storable (LawfulStore.Keeps S) [.backupCodes (a.credentials.backupCodes.modify i (·.spentAt w.clock))] := by
  refine storable_backupCodes fun b hb => ?_
  obtain hb | ⟨c, hc, rfl⟩ := mem_modify_spent hb
  · exact LawfulStore.keeps_of_lookup h.store ha b hb
  · exact LawfulStore.keeps_spentAt (LawfulStore.keeps_of_lookup h.store ha c hc) h.clock

theorem storable_spent {before behind : List BackupCode} {b : BackupCode}
    (hs : a.credentials.backupCodes = before ++ b :: behind) :
    Storable (LawfulStore.Keeps S) [.backupCodes (before ++ b.spentAt w.clock :: behind)] := by
  have hkeeps := LawfulStore.keeps_of_lookup h.store ha
  rw [hs] at hkeeps
  refine storable_backupCodes fun c hc => ?_
  obtain hc | hc := List.mem_append.1 hc
  · exact hkeeps c (List.mem_append_left _ hc)
  obtain rfl | hc := List.mem_cons.1 hc
  · exact LawfulStore.keeps_spentAt (hkeeps b (List.mem_append_right _ List.mem_cons_self)) h.clock
  · exact hkeeps c (List.mem_append_right _ (List.mem_cons_of_mem _ hc))

end Storable

/-- A new code is put behind the codes that are kept, if there is room for it. -/
theorem runOn_generate (h : w.Sound) (setup : Setup) (id : String) :
    (generate setup id).runOn w =
      match w.account? id with
      | none => (.error (.refused (.accountNotFound id)), w)
      | some a =>
        if !a.credentials.totpEnabled then (.error (.refused .twoFactorNotEnabledForCodes), w)
        else if a.credentials.gaps.backupCodes then (.error (.fault .wrongKind), w)
        else match makeRoom setup.backup.maxStored a.credentials.backupCodes with
          | .error e => (.error e, w)
          | .ok kept => (.ok (nextCode setup w), ((w.drew setup.backup.codeLength.toNat).changed id
              [.backupCodes (kept ++ [.ofText (nextCode setup w) w.clock])]).logged setup .backupCodeGenerated (some id)
              none none metadata) := by
  unfold generate
  rw [Action.runOn_bind, runOn_requireAccount h]
  cases ha : w.account? id with
  | none => rfl
  | some a =>
    dsimp only
    split
    · rfl
    · split
      · rfl
      · cases hk : makeRoom setup.backup.maxStored a.credentials.backupCodes with
        | error e => rfl
        | ok kept =>
          have hd := h.drew setup.backup.codeLength.toNat
          have hs := storable_made h ha hk (nextCode setup w)
          dsimp only
          rw [Action.runOn_bind_of_ok (runOn_drawMany ..), Action.runOn_bind_of_ok (runOn_utcNow hd), ← nextCode,
            drew_clock, Action.runOn_bind_of_ok (runOn_changeCredentials hd ha hs)]
          exact Action.runOn_bind_of_ok (runOn_record (hd.changed ha hs) ..)

/-- Spending a code: the first unused one that agrees is marked with the time. -/
theorem runOn_verify (h : w.Sound) (setup : Setup) (id submitted : String) :
    (verify setup id submitted).runOn w =
      match w.account? id with
      | none => (.error (.refused (.accountNotFound id)), w)
      | some a =>
        if !a.credentials.totpEnabled ∨ a.credentials.backupCodes.isEmpty then (.ok false, w)
        else match findUnused? submitted a.credentials.backupCodes with
          | .error f => (.error (.fault f), w)
          | .ok none => (.ok false, w.logged setup .mfaFailed (some id) none (some .backupCodeInvalid) metadata)
          | .ok (some i) => (.ok true, (w.changed id
              [.backupCodes (a.credentials.backupCodes.modify i (·.spentAt w.clock))]).logged setup .backupCodeUsed
              (some id) none none metadata) := by
  unfold verify
  rw [Action.runOn_bind, runOn_requireAccount h]
  cases ha : w.account? id with
  | none => rfl
  | some a =>
    dsimp only
    split
    · rfl
    · rcases findUnused? submitted a.credentials.backupCodes with f | _ | i
      · rfl
      · exact Action.runOn_bind_of_ok (runOn_record h ..)
      · have hs := storable_modify_spent h ha i
        dsimp only
        rw [Action.runOn_bind_of_ok (runOn_utcNow h), Action.runOn_bind_of_ok (runOn_changeCredentials h ha hs)]
        exact Action.runOn_bind_of_ok (runOn_record (h.changed ha hs) ..)

theorem runOn_remaining (h : w.Sound) (id : String) :
    (remaining id).runOn w =
      match w.account? id with
      | none => (.error (.refused (.accountNotFound id)), w)
      | some a =>
        if a.credentials.gaps.backupCodes then (.error (.fault .wrongKind), w)
        else (.ok (a.credentials.backupCodes.countP (!·.used)), w) := by
  unfold remaining
  rw [Action.runOn_bind, runOn_requireAccount h]
  cases w.account? id with
  | none => rfl
  | some a =>
    dsimp only
    split <;> rfl

/-! ## How the calls end -/

/-- How making a code ends: the result, and the state that is left. -/
inductive GenerateEnds (setup : Setup) (id : String) (w : World S) : Except Failure String × World S → Prop
  | failed {f : Failure} : GenerateEnds setup id w (.error f, w)
  | made {a : Account} {kept : List BackupCode} (ha : w.account? id = some a) (he : a.credentials.totpEnabled)
      (hk : makeRoom setup.backup.maxStored a.credentials.backupCodes = .ok kept) :
      GenerateEnds setup id w (.ok (nextCode setup w), ((w.drew setup.backup.codeLength.toNat).changed id
        [.backupCodes (kept ++ [.ofText (nextCode setup w) w.clock])]).logged setup .backupCodeGenerated (some id)
        none none metadata)

/-- **Every making of a code** ends in one of these ways. -/
theorem ends_generate (h : w.Sound) (setup : Setup) (id : String) :
    GenerateEnds setup id w ((generate setup id).runOn w) := by
  rw [runOn_generate h]
  cases ha : w.account? id with
  | none => exact .failed
  | some a =>
    dsimp only
    cases he : a.credentials.totpEnabled with
    | false => exact .failed
    | true =>
      rw [if_neg (by simp)]
      split
      · exact .failed
      · cases hk : makeRoom setup.backup.maxStored a.credentials.backupCodes with
        | error e => exact .failed
        | ok kept => exact .made ha he hk

/-- How spending a code ends for an account whose codes are texts: the result, and the state that is left. -/
inductive VerifyEnds (setup : Setup) (id c : String) (w : World S) (a : Account) : Except Failure Bool × World S → Prop
  | spent {before behind : List BackupCode} {b : BackupCode} (he : a.credentials.totpEnabled)
      (hs : a.credentials.backupCodes = before ++ b :: behind) (hb : b.unusedText? = some c)
      (hfirst : ∀ x ∈ before, x.unusedText? ≠ some c) :
      VerifyEnds setup id c w a (.ok true, (w.changed id
        [.backupCodes (before ++ b.spentAt w.clock :: behind)]).logged setup .backupCodeUsed (some id) none none
        metadata)
  | unknown {v : World S} (hno : a.credentials.totpEnabled → ∀ b ∈ a.credentials.backupCodes, b.unusedText? ≠ some c)
      (hv : v.account? = w.account?) : VerifyEnds setup id c w a (.ok false, v)

/-- **Every spending of a code** ends in one of these ways. -/
theorem ends_verify (h : w.Sound) (setup : Setup) {id : String} (ha : w.account? id = some a)
    (ht : BackupCode.AreTexts a.credentials.backupCodes) (c : String) :
    VerifyEnds setup id c w a ((verify setup id c).runOn w) := by
  rw [runOn_verify h, ha]
  dsimp only
  split
  · next hg =>
    refine .unknown (fun he b hb => ?_) rfl
    obtain hoff | hempty := hg
    · rw [he] at hoff
      cases hoff
    · rw [List.isEmpty_iff.1 hempty] at hb
      cases hb
  · next hg =>
    have he : a.credentials.totpEnabled := by
      have := not_or.1 hg
      simpa using this.1
    rw [findUnused?_eq ht]
    cases hi : a.credentials.backupCodes.findIdx? fun b => b.unusedText? = some c with
    | none =>
      refine .unknown (fun _ b hb hc => ?_) rfl
      have hnone := List.findIdx?_eq_none_iff.1 hi b hb
      simp [hc] at hnone
    | some i =>
      obtain ⟨before, b, behind, hs, hb, hfirst, hmodify⟩ := exists_of_findIdx? hi
      dsimp only
      rw [hmodify]
      exact .spent he hs (by simpa using hb) fun x hx => by simpa using hfirst x hx

end BackupVault

end AccountSecurity
