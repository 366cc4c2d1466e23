import AccountSecurity.Proofs.Run
import Mathlib.Algebra.Order.Group.Multiset

/-!
# Backup codes are spent once, and none is lost

The unused codes of an account are counted with their multiplicity: the same code may have been made twice.

* `World.unusedCodes` : the unused codes of an account;
* `madeCodes`, `spentCodes` : the codes that the calls of a run made for an account, and those that they spent;
* `KeepsTexts.step` : codes that are texts stay so;
* `unusedCodes_step`, `unusedCodes_run` : what is made comes in and what is spent goes out, over a step and over a run;
* `backup_codes_conserved` : **the balance of every run**, with what each call about backup codes does.
-/

namespace AccountSecurity
open World

section Filtered
variable {α β : Type} (f : α → Option β)

theorem coe_filterMap_append (l l' : List α) :
    ((l ++ l').filterMap f : Multiset β) = (l.filterMap f : Multiset β) + (l'.filterMap f : Multiset β) := by
  rw [List.filterMap_append, Multiset.coe_add]

theorem coe_filterMap_singleton (a : α) : ([a].filterMap f : Multiset β) = (f a).elim 0 ({·}) := by
  cases h : f a with
  | none => rw [List.filterMap_cons_none h]; rfl
  | some b => rw [List.filterMap_cons_some h]; rfl

end Filtered

/-- The texts of the unused entries of a list. -/
def BackupCode.unusedTexts (codes : List BackupCode) : Multiset String := codes.filterMap unusedText?

/-- The account has a list of backup codes, and each of them is a text. -/
structure Account.KeepsTexts (a : Account) : Prop where
  listed : a.credentials.gaps.backupCodes = false
  texts : BackupCode.AreTexts a.credentials.backupCodes

variable {S : Type}

/-- The code that an entry made for an account. -/
def Entry.madeCode? (id : String) (e : Entry S) : Option String :=
  match e.step, e.result with
  | .call (.generateBackup i), .ok (.backupCode c) => if i = id then some c else none
  | _, _ => none

/-- The code that an entry spent for an account. -/
def Entry.spentCode? (id : String) (e : Entry S) : Option String :=
  match e.step, e.result with
  | .call (.verifyBackup i c), .ok (.flag true) => if i = id then some c else none
  | _, _ => none

/-- The codes that the entries of a run made for an account. -/
def madeCodes (id : String) (es : List (Entry S)) : Multiset String := es.filterMap (Entry.madeCode? id)

/-- The codes that the entries of a run spent for an account. -/
def spentCodes (id : String) (es : List (Entry S)) : Multiset String := es.filterMap (Entry.spentCode? id)

theorem madeCodes_append (id : String) (es es' : List (Entry S)) :
    madeCodes id (es ++ es') = madeCodes id es + madeCodes id es' := coe_filterMap_append ..

theorem spentCodes_append (id : String) (es es' : List (Entry S)) :
    spentCodes id (es ++ es') = spentCodes id es + spentCodes id es' := coe_filterMap_append ..

theorem madeCodes_singleton (id : String) (e : Entry S) : madeCodes id [e] = (e.madeCode? id).elim 0 ({·}) :=
  coe_filterMap_singleton ..

theorem spentCodes_singleton (id : String) (e : Entry S) : spentCodes id [e] = (e.spentCode? id).elim 0 ({·}) :=
  coe_filterMap_singleton ..

/-! ## Unused texts of a list -/

namespace BackupCode

theorem unusedTexts_append (codes codes' : List BackupCode) :
    unusedTexts (codes ++ codes') = unusedTexts codes + unusedTexts codes' := coe_filterMap_append ..

theorem filterMap_filter_unused (codes : List BackupCode) :
    (codes.filter (!·.used)).filterMap unusedText? = codes.filterMap unusedText? := by
  induction codes with
  | nil => rfl
  | cons b rest ih =>
    cases hu : b.used with
    | true =>
      have hnone := unusedText?_of_used hu
      simp [hu, hnone, ih]
    | false => simp [hu, List.filterMap_cons, ih]

/-- Spending an entry takes its text away. -/
theorem unusedTexts_spent {codes behind : List BackupCode} {b : BackupCode} {c : String} (hb : b.unusedText? = some c)
    (now : DateTime) :
    unusedTexts (codes ++ b.spentAt now :: behind) + {c} = unusedTexts (codes ++ b :: behind) := by
  have hspent : unusedTexts (b.spentAt now :: behind) = unusedTexts behind := by
    unfold unusedTexts
    rw [List.filterMap_cons_none (unusedText?_spentAt b now)]
  have hopen : unusedTexts (b :: behind) = c ::ₘ unusedTexts behind := by
    unfold unusedTexts
    rw [List.filterMap_cons_some hb, Multiset.cons_coe]
  rw [unusedTexts_append, unusedTexts_append, hspent, hopen, ← Multiset.singleton_add, add_assoc,
    add_comm (unusedTexts behind)]

theorem unusedTexts_made (kept : List BackupCode) (c : String) (now : DateTime) :
    unusedTexts (kept ++ [ofText c now]) = unusedTexts kept + {c} := by
  rw [unusedTexts_append]
  rfl

end BackupCode

/-! ## The codes of a state -/

variable [AccountStore S] [LawfulStore S] {setup : Setup} {w v : World S} {es : List (Entry S)} {id : String}
  {a : Account}

/-- The backup codes of an account. -/
def World.backupCodes (w : World S) (id : String) : List BackupCode := w.part [] (·.credentials.backupCodes) id

/-- The unused codes of an account. -/
def World.unusedCodes (w : World S) (id : String) : Multiset String := BackupCode.unusedTexts (w.backupCodes id)

theorem World.backupCodes_congr (h : v.account? = w.account?) : v.backupCodes = w.backupCodes := part_congr h

theorem World.backupCodes_of_update {a' : Account} (h : v.account? = Function.update w.account? id (some a')) :
    v.backupCodes = Function.update w.backupCodes id a'.credentials.backupCodes := part_of_update h

/-- A write leaves the backup codes alone, or puts a new one behind those that are kept, or spends one. -/
theorem Write.backup_cases {now : DateTime} {op : Operation} {a' : Account} (hw : Write setup now op a a') :
    (a'.credentials.backupCodes = a.credentials.backupCodes ∧
      a'.credentials.gaps.backupCodes = a.credentials.gaps.backupCodes) ∨
    (∃ id kept text, op = .generateBackup id ∧
      BackupVault.makeRoom setup.backup.maxStored a.credentials.backupCodes = .ok kept ∧
      a' = a.changed [.backupCodes (kept ++ [.ofText text now])]) ∨
    (∃ id code i, op = .verifyBackup id code ∧
      a' = a.changed [.backupCodes (a.credentials.backupCodes.modify i (·.spentAt now))]) := by
  cases hw with
  | accepted newHash =>
    obtain ⟨_, _, _, _, _, h⟩ := Login.changed_acceptance now a newHash
    rw [h]
    exact .inl ⟨rfl, rfl⟩
  | verified _ =>
    rename_i purpose _
    cases purpose <;> exact .inl ⟨rfl, rfl⟩
  | codeMade text hk => exact .inr (.inl ⟨_, _, text, rfl, hk, rfl⟩)
  | codeSpent i => exact .inr (.inr ⟨_, _, i, rfl, rfl⟩)
  | _ => exact .inl ⟨rfl, rfl⟩

/-! ## Codes stay texts -/

theorem Account.KeepsTexts.write {now : DateTime} {op : Operation} {a' : Account} (h : a.KeepsTexts)
    (hw : Write setup now op a a') : a'.KeepsTexts := by
  obtain ⟨hcodes, hgap⟩ | ⟨id, kept, text, -, hk, rfl⟩ | ⟨id, code, i, -, rfl⟩ := hw.backup_cases
  · exact ⟨hgap.trans h.listed, hcodes ▸ h.texts⟩
  · refine ⟨rfl, fun b hb => ?_⟩
    rcases List.mem_append.1 (show b ∈ kept ++ [BackupCode.ofText text now] from hb) with hold | hnew
    · exact h.texts b ((BackupVault.of_makeRoom hk).1 hold)
    · rw [List.mem_singleton.1 hnew]
      exact ⟨text, rfl⟩
  · refine ⟨rfl, fun b hb => ?_⟩
    obtain hold | ⟨c, hc, rfl⟩ := BackupVault.mem_modify_spent hb
    · exact h.texts b hold
    · obtain ⟨text, ht⟩ := h.texts c hc
      exact ⟨text, ht⟩

theorem KeepsTexts.step (h : v.Sound) (ht : ∀ id a, v.account? id = some a → a.KeepsTexts) (s : Step) (id : String)
    (a : Account) (ha : (s.run setup v).2.account? id = some a) : a.KeepsTexts := by
  refine step_all h s (fun _ _ _ _ hk hw => hk.write hw) ?_ (fun _ hk => ⟨hk.listed, hk.texts⟩) ht id a ha
  rintro _ b ⟨_, passwordHash, -, -, hb⟩
  constructor
  · rw [hb]
  · simp [hb, BackupCode.AreTexts]

theorem KeepsTexts.run (hw : w.Sound) (ht : ∀ id a, w.account? id = some a → a.KeepsTexts) (hr : Run setup w es v)
    (id : String) (a : Account) (ha : v.account? id = some a) : a.KeepsTexts := by
  induction hr generalizing id a with
  | start => exact ht id a ha
  | step hr s ih => exact KeepsTexts.step (hr.sound hw) ih s id a ha

/-! ## The balance -/

/-- Steps that are no calls for backup codes leave them alone. -/
theorem unusedCodes_quiet (h : v.Sound) {s : Step} (hg : ∀ i, s ≠ .call (.generateBackup i))
    (hs : ∀ i c, s ≠ .call (.verifyBackup i c)) (id : String) :
    (s.run setup v).2.unusedCodes id + spentCodes id [Entry.of setup s v] =
      v.unusedCodes id + madeCodes id [Entry.of setup s v] := by
  have hcodes : (s.run setup v).2.backupCodes id = v.backupCodes id := by
    refine step_part (F := fun a => a.credentials.backupCodes) h s ?_ ?_ (fun _ => rfl) id
    · intro op a a' hop hw
      obtain ⟨hcodes, -⟩ | ⟨i, _, _, heq, -⟩ | ⟨i, c, _, heq, -⟩ := hw.backup_cases
      · exact hcodes
      · exact absurd (heq ▸ hop) (hg i)
      · exact absurd (heq ▸ hop) (hs i c)
    · rintro op a ⟨_, passwordHash, -, -, hc⟩
      rw [hc]
  have hmade : (Entry.of setup s v).madeCode? id = none := by
    unfold Entry.madeCode?
    split
    · next i c hstep hresult => exact absurd hstep (hg i)
    · rfl
  have hspent : (Entry.of setup s v).spentCode? id = none := by
    unfold Entry.spentCode?
    split
    · next i c hstep hresult => exact absurd hstep (hs i c)
    · rfl
  rw [madeCodes_singleton, spentCodes_singleton, hmade, hspent, World.unusedCodes, hcodes, World.unusedCodes]

theorem unusedCodes_generate (h : v.Sound) (i id : String) :
    ((Operation.generateBackup i).run setup v).2.unusedCodes id +
        spentCodes id [Entry.of setup (.call (.generateBackup i)) v] =
      v.unusedCodes id + madeCodes id [Entry.of setup (.call (.generateBackup i)) v] := by
  have hspent : spentCodes id [Entry.of setup (.call (.generateBackup i)) v] = 0 := rfl
  have hends := BackupVault.ends_generate h setup i
  have hmade : (Entry.of setup (.call (.generateBackup i)) v).madeCode? id =
      match ((BackupVault.generate setup i).runOn v).1 with
      | .ok c => if i = id then some c else none
      | .error _ => none := by
    unfold Entry.madeCode?
    simp only [Entry.of_step, Entry.of_result, Step.run_call, Operation.run_generateBackup]
    cases ((BackupVault.generate setup i).runOn v).1 <;> rfl
  rw [madeCodes_singleton, hspent, add_zero, hmade, Operation.run_generateBackup]
  generalize (BackupVault.generate setup i).runOn v = r at hends ⊢
  cases hends with
  | failed => rw [Option.elim_none, add_zero]
  | @made a kept ha he hk =>
    have hcodes := World.backupCodes_of_update (account?_changed (h.drew setup.backup.codeLength.toNat) ha
      (BackupVault.storable_made h ha hk (BackupVault.nextCode setup v)))
    dsimp only
    rw [World.unusedCodes, World.backupCodes_congr (account?_logged ..), hcodes]
    by_cases hid : i = id
    · subst hid
      -- making room drops used entries only
      have hkept : BackupCode.unusedTexts kept = v.unusedCodes i := by
        rw [World.unusedCodes, World.backupCodes, part_of_account? ha, BackupCode.unusedTexts, BackupCode.unusedTexts,
          ← BackupCode.filterMap_filter_unused kept, BackupVault.filter_of_makeRoom hk,
          BackupCode.filterMap_filter_unused]
      rw [if_pos rfl, Function.update_self, Option.elim_some]
      exact (BackupCode.unusedTexts_made ..).trans (by rw [hkept])
    · rw [if_neg hid, Function.update_of_ne (Ne.symm hid), Option.elim_none, add_zero]
      rfl

theorem unusedCodes_verify (h : v.Sound) (ht : ∀ id a, v.account? id = some a → a.KeepsTexts) (i c id : String) :
    ((Operation.verifyBackup i c).run setup v).2.unusedCodes id +
        spentCodes id [Entry.of setup (.call (.verifyBackup i c)) v] =
      v.unusedCodes id + madeCodes id [Entry.of setup (.call (.verifyBackup i c)) v] := by
  have hmade : madeCodes id [Entry.of setup (.call (.verifyBackup i c)) v] = 0 := rfl
  have hspent : (Entry.of setup (.call (.verifyBackup i c)) v).spentCode? id =
      if ((BackupVault.verify setup i c).runOn v).1.toOption = some true ∧ i = id then some c else none := by
    unfold Entry.spentCode?
    simp only [Entry.of_step, Entry.of_result, Step.run_call, Operation.run_verifyBackup]
    rcases ((BackupVault.verify setup i c).runOn v).1 with f | ⟨_ | _⟩
    · simp [Except.map, Except.toOption]
    · simp [Except.map, Except.toOption]
    · simp [Except.map, Except.toOption]
  rw [spentCodes_singleton, hmade, add_zero, hspent, Operation.run_verifyBackup]
  cases ha : v.account? i with
  | none =>
    rw [BackupVault.runOn_verify h, ha]
    dsimp only
    rw [if_neg (by simp [Except.toOption]), Option.elim_none, add_zero]
  | some a =>
    have hends := BackupVault.ends_verify h setup ha (ht i a ha).texts c
    generalize (BackupVault.verify setup i c).runOn v = r at hends ⊢
    cases hends with
    | unknown hno hv =>
      dsimp only
      rw [if_neg (by simp [Except.toOption]), Option.elim_none, add_zero, World.unusedCodes, World.backupCodes_congr hv,
        World.unusedCodes]
    | @spent before behind b he hs hb hfirst =>
      have hcodes := World.backupCodes_of_update (account?_changed h ha
        (BackupVault.storable_spent h ha hs))
      dsimp only
      rw [World.unusedCodes, World.backupCodes_congr (account?_logged ..), hcodes]
      by_cases hid : i = id
      · subst hid
        rw [if_pos ⟨rfl, rfl⟩, Function.update_self, Option.elim_some, World.unusedCodes, World.backupCodes,
          part_of_account? ha, hs]
        exact BackupCode.unusedTexts_spent hb v.clock
      · rw [if_neg fun hb => hid hb.2, Function.update_of_ne (Ne.symm hid), Option.elim_none, add_zero]
        rfl

/-- Over a step, what is made comes in and what is spent goes out. -/
theorem unusedCodes_step (setup : Setup) (h : v.Sound) (ht : ∀ id a, v.account? id = some a → a.KeepsTexts) (s : Step)
    (id : String) :
    (s.run setup v).2.unusedCodes id + spentCodes id [Entry.of setup s v] =
      v.unusedCodes id + madeCodes id [Entry.of setup s v] := by
  cases s with
  | call op =>
    cases op with
    | generateBackup i => exact unusedCodes_generate h i id
    | verifyBackup i c => exact unusedCodes_verify h ht i c id
    | _ => exact unusedCodes_quiet h (fun _ heq => by cases heq) (fun _ _ heq => by cases heq) id
  | _ => exact unusedCodes_quiet h (fun _ heq => by cases heq) (fun _ _ heq => by cases heq) id

/-- Over a run, what is made comes in and what is spent goes out. -/
theorem unusedCodes_run (hw : w.Sound) (ht : ∀ id a, w.account? id = some a → a.KeepsTexts) (hr : Run setup w es v)
    (id : String) : v.unusedCodes id + spentCodes id es = w.unusedCodes id + madeCodes id es := by
  induction hr with
  | start => rfl
  | @step es v hr s ih =>
    have hstep := unusedCodes_step setup (hr.sound hw) (KeepsTexts.run hw ht hr) s id
    calc (s.run setup v).2.unusedCodes id + spentCodes id (es ++ [Entry.of setup s v])
        = (s.run setup v).2.unusedCodes id + spentCodes id [Entry.of setup s v] + spentCodes id es := by
          rw [spentCodes_append, add_comm (spentCodes id es), add_assoc]
      _ = v.unusedCodes id + spentCodes id es + madeCodes id [Entry.of setup s v] := by
          rw [hstep, add_right_comm]
      _ = w.unusedCodes id + madeCodes id (es ++ [Entry.of setup s v]) := by
          rw [ih, madeCodes_append, add_assoc]

/-! ## What is said of every run -/

/-- What the calls about backup codes give for an account of a state. -/
structure AnswersBackup (setup : Setup) (v : World S) (id : String) (a : Account) : Prop where
  /-- A code is accepted when the factor is on and some unused entry has it, -/
  accepts (c : String) : ((Operation.verifyBackup id c).run setup v).1 = .ok (.flag true) ↔
    a.credentials.totpEnabled ∧ ∃ b ∈ a.credentials.backupCodes, b.used = false ∧ b.code = .string c
  /-- and then the first of these entries is marked with the time, and nothing else of any account changes. -/
  spends (c : String) : ((Operation.verifyBackup id c).run setup v).1 = .ok (.flag true) →
    ∃ before b behind, a.credentials.backupCodes = before ++ b :: behind ∧ (b.used = false ∧ b.code = .string c) ∧
      (∀ x ∈ before, ¬ (x.used = false ∧ x.code = .string c)) ∧
      ((Operation.verifyBackup id c).run setup v).2.account? = Function.update v.account? id (some { a with
        credentials.backupCodes := before ++ { b with used := true, usedAt := some v.clock } :: behind })
  /-- Any other code gives the answer no, and changes no account. -/
  refuses (c : String) : ((Operation.verifyBackup id c).run setup v).1 ≠ .ok (.flag true) →
    ((Operation.verifyBackup id c).run setup v).1 = .ok (.flag false) ∧
    ((Operation.verifyBackup id c).run setup v).2.account? = v.account?
  /-- A new code is put behind entries that are kept, with all the unused ones among them, or the call fails. -/
  makes : (∃ c kept, ((Operation.generateBackup id).run setup v).1 = .ok (.backupCode c) ∧
      kept.filter (!·.used) = a.credentials.backupCodes.filter (!·.used) ∧
      ((Operation.generateBackup id).run setup v).2.account? = Function.update v.account? id (some { a with
        credentials.backupCodes := kept ++ [.ofText c v.clock] })) ∨
    ∃ f, ((Operation.generateBackup id).run setup v).1 = .error f ∧
      ((Operation.generateBackup id).run setup v).2.account? = v.account?
  /-- The unused codes are counted. -/
  counts : (Operation.remainingBackup id).run setup v = (.ok (.count (v.unusedCodes id).card), v)

/-- A new list of codes is the only change of an account whose list had a value. -/
theorem Account.KeepsTexts.changed (h : a.KeepsTexts) (codes : List BackupCode) :
    a.changed [.backupCodes codes] = { a with credentials.backupCodes := codes } := by
  have hlisted := h.listed
  rcases a with ⟨view, ⟨passwordHash, loginAttempts, lockedUntil, emailVerified, phoneVerified, smsEnabled, otp,
    totpEnabled, totpSecret, backupCodes, lastLogin, gaps⟩⟩
  rcases gaps with ⟨g₁, g₂, g₃, g₄, g₅, g₆, g₇⟩
  subst hlisted
  rfl

theorem answersBackup_verify (setup : Setup) (h : v.Sound) (ha : v.account? id = some a) (hk : a.KeepsTexts)
    (c : String) :
    (∃ before b behind, ((Operation.verifyBackup id c).run setup v).1 = .ok (.flag true) ∧ a.credentials.totpEnabled ∧
      a.credentials.backupCodes = before ++ b :: behind ∧ (b.used = false ∧ b.code = .string c) ∧
      (∀ x ∈ before, ¬ (x.used = false ∧ x.code = .string c)) ∧
      ((Operation.verifyBackup id c).run setup v).2.account? = Function.update v.account? id (some { a with
        credentials.backupCodes := before ++ { b with used := true, usedAt := some v.clock } :: behind })) ∨
    (((Operation.verifyBackup id c).run setup v).1 = .ok (.flag false) ∧
      (a.credentials.totpEnabled → ∀ b ∈ a.credentials.backupCodes, ¬ (b.used = false ∧ b.code = .string c)) ∧
      ((Operation.verifyBackup id c).run setup v).2.account? = v.account?) := by
  have hends := BackupVault.ends_verify h setup ha hk.texts c
  rw [Operation.run_verifyBackup]
  generalize (BackupVault.verify setup id c).runOn v = r at hends ⊢
  cases hends with
  | @spent before behind b he hs hb hfirst =>
    have hacc := account?_changed h ha (BackupVault.storable_spent h ha hs)
    rw [hk.changed] at hacc
    exact .inl ⟨before, b, behind, rfl, he, hs, BackupCode.unusedText?_eq_some.1 hb,
      fun x hx hc => hfirst x hx (BackupCode.unusedText?_eq_some.2 hc), hacc⟩
  | unknown hno hv =>
    exact .inr ⟨rfl, fun he b hb hc => hno he b hb (BackupCode.unusedText?_eq_some.2 hc), hv⟩

theorem answersBackup (h : v.Sound) (ha : v.account? id = some a) (hk : a.KeepsTexts) :
    AnswersBackup setup v id a where
  accepts c := by
    obtain ⟨before, b, behind, hok, he, hs, hb, -⟩ | ⟨hno, hnone, -⟩ := answersBackup_verify setup h ha hk c
    · have hmem : b ∈ a.credentials.backupCodes := by simp [hs]
      exact ⟨fun _ => ⟨he, b, hmem, hb⟩, fun _ => hok⟩
    · rw [hno]
      constructor
      · intro hfalse
        cases hfalse
      · rintro ⟨he, b, hb, hc⟩
        exact absurd hc (hnone he b hb)
  spends c hok := by
    obtain ⟨before, b, behind, -, -, hs, hb, hfirst, hacc⟩ | ⟨hno, -, -⟩ :=
      answersBackup_verify setup h ha hk c
    · exact ⟨before, b, behind, hs, hb, hfirst, hacc⟩
    · rw [hno] at hok
      cases hok
  refuses c hne := by
    obtain ⟨-, -, -, hok, -⟩ | ⟨hno, -, hacc⟩ := answersBackup_verify setup h ha hk c
    · exact absurd hok hne
    · exact ⟨hno, hacc⟩
  makes := by
    have hends := BackupVault.ends_generate h setup id
    rw [Operation.run_generateBackup]
    generalize (BackupVault.generate setup id).runOn v = r at hends ⊢
    cases hends with
    | @failed f => exact .inr ⟨f, rfl, rfl⟩
    | @made b kept hb he hroom =>
      rw [ha] at hb
      cases hb
      have hacc := account?_changed (h.drew setup.backup.codeLength.toNat) ha
        (BackupVault.storable_made h ha hroom (BackupVault.nextCode setup v))
      rw [hk.changed] at hacc
      exact .inl ⟨_, kept, rfl, BackupVault.filter_of_makeRoom hroom, hacc⟩
  counts := by
    rw [Operation.run_remainingBackup, BackupVault.runOn_remaining h, ha, World.unusedCodes,
      World.backupCodes, part_of_account? ha, BackupCode.unusedTexts, Multiset.coe_card,
      BackupCode.length_filterMap_unusedText? hk.texts]
    dsimp only
    rw [hk.listed]
    rfl

/-- **No backup code is lost and none is spent twice.** Where codes are texts, the unused codes of an account after a
run, with those that the run spent, are the unused codes before it with those that it made. So no code is spent more
often than it was there unused. Each call about backup codes does what it should in every state that the run reaches. -/
theorem backup_codes_conserved (hw : w.Sound) (ht : ∀ id a, w.account? id = some a → a.KeepsTexts)
    (hr : Run setup w es v) :
    (∀ id, v.unusedCodes id + spentCodes id es = w.unusedCodes id + madeCodes id es) ∧
    (∀ id c, (spentCodes id es).count c ≤ (w.unusedCodes id).count c + (madeCodes id es).count c) ∧
    ∀ id a, v.account? id = some a → AnswersBackup setup v id a := by
  refine ⟨unusedCodes_run hw ht hr, fun id c => ?_, fun id a ha => ?_⟩
  · rw [← Multiset.count_add, ← unusedCodes_run hw ht hr id]
    exact Multiset.count_le_of_le c (Multiset.le_add_left ..)
  · exact answersBackup (hr.sound hw) ha (KeepsTexts.run hw ht hr id a ha)

/-- Of a code that is there twice, one is left after it was spent once. -/
theorem backup_codes_conserved_twice :
    ((World.sample.changed "1" [.totpEnabled true, .backupCodes [.ofText "spare" .epoch, .ofText "spare" .epoch]]).through
      Setup.sample [.call (.verifyBackup "1" "spare")]).unusedCodes "1" = {"spare"} := by
  have hs : Storable (LawfulStore.Keeps MemoryStore)
      [.totpEnabled true, .backupCodes [.ofText "spare" .epoch, .ofText "spare" .epoch]] := by
    simp [Storable, CredentialChange.Storable, LawfulStore.Keeps]
  have hsound := World.sound_sample.changed World.account?_sample_self hs
  have htexts : ∀ id a, (World.sample.changed "1" [.totpEnabled true, .backupCodes [.ofText "spare" .epoch,
      .ofText "spare" .epoch]]).account? id = some a → a.KeepsTexts := by
    intro id a h
    rw [account?_changed World.sound_sample World.account?_sample_self hs] at h
    by_cases hid : id = "1"
    · rw [hid, Function.update_self] at h
      cases h
      refine ⟨rfl, fun b hb => ⟨"spare", ?_⟩⟩
      rcases List.mem_pair.1 hb with rfl | rfl <;> rfl
    · rw [Function.update_of_ne hid] at h
      exact absurd (World.account?_sample h).1 hid
  obtain ⟨hbalance, -, -⟩ := backup_codes_conserved hsound htexts (.of_steps Setup.sample _
    [.call (.verifyBackup "1" "spare")])
  have hspent : spentCodes "1" (entriesOf Setup.sample (World.sample.changed "1" [.totpEnabled true, .backupCodes
      [.ofText "spare" .epoch, .ofText "spare" .epoch]]) [.call (.verifyBackup "1" "spare")]) = {"spare"} := by
    decide +kernel
  have hsum := hbalance "1"
  rw [hspent] at hsum
  exact add_right_cancel hsum

end AccountSecurity
