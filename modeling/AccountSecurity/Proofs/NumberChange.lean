import AccountSecurity.Proofs.OtpHistory
import AccountSecurity.Proofs.Phone

/-!
# Codes after a change of the number

A call that changes the number of an account stores the number first and issues a code afterwards, which may fail.

* `SmsFactor.Issues`, `initiate_cases` : when it does not, and what the call leaves in both cases;
* `Entry.ActsOnSlot`, `actsOnSlot` : what a step does to the slot for codes of an account;
* `OtpSlot.IsFrom`, `slot_from_run` : a code that was issued by the entries of a run, kept by every step;
* `verified_step` : a number becomes verified by an accepted code only;
* `codes_after_number_change` : **which codes are accepted after the change**.
-/

namespace AccountSecurity
open World

/-- The verification of a number issues this code: there is a number to send it to, it is the one that is drawn, and its
expiry can be told. -/
structure SmsFactor.Issues {S : Type} (setup : Setup) (w : World S) (number code : String) (expiresAt : DateTime) :
    Prop where
  number : number ≠ ""
  drawn : drawnCode setup.phoneOtp.codeLength (setup.sources.draws w.drawn) = .ok code
  expiry : w.clock.addMinutes? setup.phoneOtp.ttlMinutes = some expiresAt

variable {S : Type} [AccountStore S]

/-- What an entry does to the slot of an account. -/
inductive Entry.ActsOnSlot (setup : Setup) (id : String) (e : Entry S) : Option OtpSlot → Option OtpSlot → Prop
  | quiet {o : Option OtpSlot} : e.ActsOnSlot setup id o o
  | emptied {o : Option OtpSlot} {s : OtpSlot} (hcode : s.code = none) : e.ActsOnSlot setup id o (some s)
  | issued {o : Option OtpSlot} {i : IssuedOtp} {t : DateTime} (hw : e.otpWrite? setup id = some (.issued i)) :
      e.ActsOnSlot setup id o (some (i.slot t))

/-- A code was issued to an account for a purpose by one of some entries. -/
def IssuedBy (setup : Setup) (id code : String) (purpose : OtpPurpose) (es : List (Entry S)) : Prop :=
  ∃ e ∈ es, ∃ i, e.otpWrite? setup id = some (.issued i) ∧ i.purpose = purpose ∧ i.code = code

/-- The code of a slot, if there is one, was issued by one of some entries, for the purpose in the slot. -/
def OtpSlot.IsFrom (setup : Setup) (id : String) (es : List (Entry S)) (s : OtpSlot) : Prop :=
  ∀ code, s.code = some code → ∃ purpose, s.purpose = some purpose ∧ IssuedBy setup id code purpose es

variable [LawfulStore S] {setup : Setup} {w v u : World S} {id i : String} {a : Account} {op : Operation}
  {e : Entry S} {es ds : List (Entry S)}

/-! ## The call -/

/-- An empty number is stored, and no code is issued to it. -/
theorem run_initiate_empty (setup : Setup) (h : v.Sound) (ha : v.account? id = some a) :
    (Operation.initiatePhone id "").run setup v =
      (.error (.refused (.invariantViolation .challenge)), SmsFactor.moved id "" a v) := by
  have hself : (SmsFactor.moved id "" a v).phone? id = some (a.phone.moved "") := by
    rw [SmsFactor.phone?_moved h ha, Function.update_self]
  obtain ⟨b, hb, hphone⟩ := World.exists_account_of_phone? hself
  have hnumber : b.phoneNumber = some "" := (congrArg Phone.number hphone).trans (Phone.moved_number ..)
  rw [Operation.run_initiatePhone, SmsFactor.runOn_initiate h, ha]
  dsimp only
  rw [OtpChallenge.runOn_issue (SmsFactor.sound_moved h ha ""), hb]
  dsimp only
  rw [hnumber]
  rfl

/-- A code that is issued to a number is stored, whether it can be sent or not. -/
theorem hasStored_of_issues (h : v.Sound) (ha : v.account? id = some a) {number code : String} {t : DateTime}
    (hi : SmsFactor.Issues setup v number code t) :
    hasStored ((Operation.initiatePhone id number).run setup v).1 := by
  obtain ⟨hdrawn, hclock⟩ : (SmsFactor.moved id number a v).drawn = v.drawn ∧
      (SmsFactor.moved id number a v).clock = v.clock := by
    unfold SmsFactor.moved
    split <;> exact ⟨rfl, rfl⟩
  have hself : (SmsFactor.moved id number a v).phone? id = some (a.phone.moved number) := by
    rw [SmsFactor.phone?_moved h ha, Function.update_self]
  have hends := OtpChallenge.ends_issue (SmsFactor.sound_moved h ha number) setup setup.phoneOtp id .phoneVerification
    (some number)
  rw [Operation.run_initiatePhone, SmsFactor.runOn_initiate h, ha]
  dsimp only
  generalize (OtpChallenge.issue setup setup.phoneOtp id .phoneVerification (some number)).runOn
    (SmsFactor.moved id number a v) = r at hends ⊢
  cases hends with
  | missing hnone =>
    rw [World.phone?, part?, hnone] at hself
    cases hself
  | numberless hb hnone =>
    rw [OtpChallenge.nonempty?_eq_some.2 ⟨rfl, hi.number⟩] at hnone
    cases hnone
  | undrawn hd =>
    rw [hdrawn, hi.drawn] at hd
    cases hd
  | endless ht =>
    rw [hclock, hi.expiry] at ht
    cases ht
  | undelivered hs ho => rfl
  | sent hs hn ho => rfl

/-- The code that is issued is in the slot of the number. -/
theorem phone?_of_issues (h : v.Sound) (ha : v.account? id = some a) {number code : String} {t : DateTime}
    (hi : SmsFactor.Issues setup v number code t) :
    ((Operation.initiatePhone id number).run setup v).2.phone? id =
      some ((a.phone.moved number).awaiting code t .phoneVerification) := by
  obtain ⟨-, ⟨code', t', hcode, ht, hphone, -⟩ | ⟨⟨f, hf⟩ | hnone, -, -⟩⟩ :=
    Operation.phone?_initiate setup h (World.phone?_of_account? ha) hi.number
  · obtain rfl : code' = code := Except.ok.inj (hcode.symm.trans hi.drawn)
    obtain rfl : t' = t := Option.some.inj (ht.symm.trans hi.expiry)
    rw [hphone, Function.update_self]
  · cases hf.symm.trans hi.drawn
  · cases hnone.symm.trans hi.expiry

/-- Where no code is issued, the number moves and the slot stays. -/
theorem phone?_of_not_issues (h : v.Sound) (ha : v.account? id = some a) {number : String}
    (hno : ∀ code t, ¬ SmsFactor.Issues setup v number code t) :
    ((Operation.initiatePhone id number).run setup v).2.phone? id = some (a.phone.moved number) := by
  by_cases hn : number = ""
  · subst hn
    rw [run_initiate_empty setup h ha, SmsFactor.phone?_moved h ha, Function.update_self]
  · obtain ⟨-, ⟨code, t, hcode, ht, -, -⟩ | ⟨-, hphone, -⟩⟩ :=
      Operation.phone?_initiate setup h (World.phone?_of_account? ha) hn
    · exact absurd ⟨hn, hcode, ht⟩ (hno code t)
    · rw [hphone, Function.update_self]

/-- The code that is issued, as a write of the call. -/
theorem issuedBy_of_issues (h : v.Sound) (ha : v.account? id = some a) {number code : String} {t : DateTime}
    (hi : SmsFactor.Issues setup v number code t) :
    IssuedBy setup id code .phoneVerification [Entry.of setup (.call (.initiatePhone id number)) v] := by
  refine ⟨_, List.mem_singleton_self _, ⟨.phoneVerification, code, v.clock, setup.phoneOtp.ttlMinutes⟩, ?_, rfl, rfl⟩
  rw [Entry.otpWrite?_of_issuer (show Operation.issuer? setup v (.initiatePhone id number) = some _ from rfl),
    if_pos ⟨rfl, hasStored_of_issues h ha hi⟩, IssuedOtp.next?, hi.drawn]
  rfl

/-- The phone under a number that is new to it. -/
theorem phone?_of_new_number (h : v.Sound) (ha : v.account? id = some a) {number : String}
    (hn : a.phoneNumber ≠ some number) :
    ∃ slot, ((Operation.initiatePhone id number).run setup v).2.phone? id = some { number := some number, slot } ∧
      (∀ code t, SmsFactor.Issues setup v number code t → slot = ⟨some code, some t, some .phoneVerification⟩) ∧
      ((∀ code t, ¬ SmsFactor.Issues setup v number code t) → slot = a.credentials.otp) := by
  have hmoved : a.phone.moved number = { number := some number, slot := a.credentials.otp } := if_neg hn
  by_cases hi : ∃ code t, SmsFactor.Issues setup v number code t
  · obtain ⟨code, t, hi⟩ := hi
    refine ⟨⟨some code, some t, some .phoneVerification⟩, ?_, fun code' t' hi' => ?_, fun hno => absurd hi (hno code t)⟩
    · rw [phone?_of_issues h ha hi, hmoved]
      rfl
    · cases hi.drawn.symm.trans hi'.drawn
      cases hi.expiry.symm.trans hi'.expiry
      rfl
  · have hno : ∀ code t, ¬ SmsFactor.Issues setup v number code t := fun code t h => hi ⟨code, t, h⟩
    refine ⟨a.credentials.otp, ?_, fun code t h => absurd h (hno code t), fun _ => rfl⟩
    rw [phone?_of_not_issues h ha hno, hmoved]

/-! ## The slot over one step -/

namespace Entry.ActsOnSlot

omit [LawfulStore S] in
theorem of_eq {o o' : Option OtpSlot} (h : o' = o) : e.ActsOnSlot setup id o o' := by
  rw [h]
  exact .quiet

omit [LawfulStore S] in
theorem of_update {o : String → Option OtpSlot} {s : OtpSlot}
    (hact : i = id → e.ActsOnSlot setup id (o i) (some s)) :
    e.ActsOnSlot setup id (o id) (Function.update o i (some s) id) := by
  by_cases hi : i = id
  · subst hi
    rw [Function.update_self]
    exact hact rfl
  · rw [Function.update_of_ne (Ne.symm hi)]
    exact .quiet

end Entry.ActsOnSlot

/-- A call that issues a code, or leaves the slots alone. -/
theorem actsOnSlot_issuer {purpose : OtpPurpose} {config : OtpConfig}
    (hi : op.issuer? setup v = some (i, purpose, config))
    (hr : ((op.run setup v).2.slot? = v.slot? ∧ hasStored (op.run setup v).1 = false) ∨
      ∃ o t, IssuedOtp.next? setup config purpose v = some o ∧ o.issuedAt.addMinutes? o.ttlMinutes = some t ∧
        (op.run setup v).2.slot? = Function.update v.slot? i (some (o.slot t)) ∧ hasStored (op.run setup v).1)
    (id : String) :
    (Entry.of setup (.call op) v).ActsOnSlot setup id (v.slot? id) ((op.run setup v).2.slot? id) := by
  obtain ⟨hs, -⟩ | ⟨o, t, ho, -, hs, hstored⟩ := hr
  · exact .of_eq (congrFun hs id)
  · rw [hs]
    refine .of_update fun hid => .issued ?_
    rw [Entry.otpWrite?_of_issuer hi, if_pos ⟨hid, hstored⟩, ho]
    rfl

/-- A call that empties a slot, or leaves the slots alone. -/
theorem actsOnSlot_emptier {P Q : Prop}
    (hr : (u.slot? = v.slot? ∧ P) ∨ u.slot? = Function.update v.slot? i (some {}) ∧ Q) (id : String) :
    e.ActsOnSlot setup id (v.slot? id) (u.slot? id) := by
  obtain ⟨hs, -⟩ | ⟨hs, -⟩ := hr
  · exact .of_eq (congrFun hs id)
  · rw [hs]
    exact .of_update fun _ => .emptied rfl

/-- Checking a code issues none. -/
theorem actsOnSlot_check (setup : Setup) (h : v.Sound) (i submitted : String) (purpose : OtpPurpose) (id : String) :
    e.ActsOnSlot setup id (v.slot? id) (((OtpChallenge.verify setup i submitted purpose).runOn v).2.slot? id) := by
  have hends := OtpChallenge.ends_verify h setup i submitted purpose
  generalize (OtpChallenge.verify setup i submitted purpose).runOn v = r at hends ⊢
  cases hends with
  | missing ha => exact .quiet
  | @notPending a ha hp =>
    show e.ActsOnSlot setup id (v.slot? id) ((OtpChallenge.swept i a.credentials.otp v).slot? id)
    unfold OtpChallenge.swept
    split
    · next hs =>
      rw [World.slot?_of_update (account?_changed h ha OtpChallenge.storable_sweep)]
      exact .of_update fun _ => .emptied (Option.isNone_iff_eq_none.1 hs.1)
    · exact .quiet
  | expired ha hp he =>
    show e.ActsOnSlot setup id (v.slot? id) ((v.changed i CredentialChange.clearOtp).slot? id)
    rw [World.slot?_of_update (account?_changed h ha OtpChallenge.storable_clearOtp)]
    exact .of_update fun _ => .emptied rfl
  | invalid ha hp he hc => exact .quiet
  | accepted ha hp he =>
    show e.ActsOnSlot setup id (v.slot? id) ((v.changed i (OtpChallenge.acceptance purpose)).slot? id)
    rw [World.slot?_of_update (account?_changed h ha (OtpChallenge.storable_acceptance purpose))]
    exact .of_update fun _ => .emptied (by cases purpose <;> rfl)

theorem actsOnSlot_finish (h : v.Sound) (i code : String) (c : Option RequestContext) (id : String) :
    e.ActsOnSlot setup id (v.slot? id) (((Operation.finishLogin i code c).run setup v).2.slot? id) := by
  rw [World.slot?_finishLogin h]
  exact actsOnSlot_check setup h i code .loginChallenge id

/-- Steps whose calls neither issue nor check nor drop a code leave the slots alone, or register an account. -/
theorem actsOnSlot_quiet (h : v.Sound) {s : Step}
    (hs : ∀ op a a', s = .call op → Write setup v.clock op a a' → a'.credentials.otp = a.credentials.otp)
    (id : String) : e.ActsOnSlot setup id (v.slot? id) ((s.run setup v).2.slot? id) := by
  have hnew : ∀ (op : Operation) a, op.Creates setup a → a.credentials.otp.code = none := by
    rintro op a ⟨_, passwordHash, -, -, hc⟩
    rw [hc]
  obtain hsame | ⟨-, s', hs', hcode⟩ := step_map (F := fun a => a.credentials.otp) (P := fun s => s.code = none) h s hs
    hnew (fun _ => rfl) id
  · exact .of_eq hsame
  · rw [show (s.run setup v).2.slot? id = some s' from hs']
    exact .emptied hcode

/-- **Every step** leaves the slot of an account as it was, or without a code, or with a code that it issued. -/
theorem actsOnSlot (h : v.Sound) (s : Step) (id : String) :
    (Entry.of setup s v).ActsOnSlot setup id (v.slot? id) ((s.run setup v).2.slot? id) := by
  cases s with
  | call op =>
    cases op with
    | login identifier password c =>
      cases hf : v.find? identifier with
      | some a => exact actsOnSlot_issuer (by simp [Operation.issuer?, hf]) (hasStored_login h hf password c) id
      | none =>
        rw [Step.run_call, Operation.run_login setup h, Login.runOn_login h, hf]
        exact .quiet
    | finishLogin i code c => exact actsOnSlot_finish h i code c id
    | issueOtp i purpose number =>
      refine actsOnSlot_issuer rfl ?_ id
      rw [Operation.run_issueOtp]
      exact hasStored_issue setup h setup.otp i purpose number rfl
    | initiatePhone i number => exact actsOnSlot_issuer rfl (hasStored_initiate h number) id
    | verifyOtp i code purpose =>
      rw [Step.run_call, Operation.run_verifyOtp]
      exact actsOnSlot_check setup h i code purpose id
    | verifyPhone i code =>
      rw [Step.run_call, Operation.run_verifyPhone]
      exact actsOnSlot_check setup h i code .phoneVerification id
    | clearOtp i => exact actsOnSlot_emptier (hasEmptied_clear h) id
    | disableSms i => exact actsOnSlot_emptier (hasEmptied_disable h) id
    | _ =>
      refine actsOnSlot_quiet h (fun op a a' hop hw => ?_) id
      cases hop
      cases hw <;> first | rfl | contradiction
  | _ => exact actsOnSlot_quiet h (fun op a a' hop => by cases hop) id

/-! ## Codes over a run -/

omit [LawfulStore S] in
theorem IssuedBy.mono {code : String} {purpose : OtpPurpose} (h : IssuedBy setup id code purpose es) (hs : es ⊆ ds) :
    IssuedBy setup id code purpose ds := by
  obtain ⟨e, he, hi⟩ := h
  exact ⟨e, hs he, hi⟩

omit [LawfulStore S] in
/-- The code in the slot is from the entries, after one more of them. -/
theorem Entry.ActsOnSlot.isFrom {o o' : Option OtpSlot} (h : e.ActsOnSlot setup id o o')
    (hfrom : ∀ s ∈ o, s.IsFrom setup id es) : ∀ s ∈ o', s.IsFrom setup id (es ++ [e]) := by
  cases h with
  | quiet =>
    intro s hs code hcode
    obtain ⟨purpose, hpurpose, hissued⟩ := hfrom s hs code hcode
    exact ⟨purpose, hpurpose, hissued.mono (List.subset_append_left ..)⟩
  | emptied hnone =>
    rintro _ ⟨⟩ code hcode
    cases hnone.symm.trans hcode
  | @issued i t hw =>
    rintro _ ⟨⟩ code ⟨⟩
    exact ⟨i.purpose, rfl, e, by simp, i, hw, rfl, rfl⟩

/-- If the code in a slot is from some entries, it is from these and the entries of a run after every run. -/
theorem slot_from_run (h : v.Sound) (hfrom : ∀ s ∈ v.slot? id, s.IsFrom setup id ds) (hr : Run setup v es u) :
    ∀ s ∈ u.slot? id, s.IsFrom setup id (ds ++ es) := by
  induction hr with
  | start =>
    rw [List.append_nil]
    exact hfrom
  | step hr s ih =>
    rw [← List.append_assoc]
    exact (actsOnSlot (hr.sound h) s id).isFrom ih

/-- A code is accepted if it waits for the purpose and has not run out. -/
theorem OtpChallenge.verify_ok_iff_pending (h : v.Sound) (submitted : String) (purpose : OtpPurpose) :
    (∃ b, ((verify setup id submitted purpose).runOn v).1 = .ok b) ↔
      ∃ s ∈ v.slot? id, pendingFor? s purpose = some submitted ∧ isExpired s v.clock = false := by
  constructor
  · rintro ⟨b, hb⟩
    obtain ⟨ha, hp, he, -⟩ := of_runOn_verify_ok h (show (verify setup id submitted purpose).runOn v = (.ok b, _) from
      Prod.ext hb rfl)
    exact ⟨_, slot?_of_account? ha, hp, he⟩
  · rintro ⟨s, hs, hp, he⟩
    obtain ⟨a, ha, rfl⟩ := Option.map_eq_some_iff.1 hs
    refine ⟨a, ?_⟩
    rw [runOn_verify h, ha]
    dsimp only
    rw [hp]
    dsimp only
    rw [if_neg (by simp [he]), if_neg (by simp)]

/-- A code that an entry accepted was issued by the entries that the code in the slot is from. -/
theorem issuedBy_of_check (h : e.before.Sound) (ho : e = .of setup e.step e.before)
    (hfrom : ∀ s ∈ e.before.slot? id, s.IsFrom setup id ds) {code : String} {purpose : OtpPurpose}
    (hstep : e.step = .call op) (hcheck : op.check? = some (id, code, purpose))
    (hres : ∀ r, e.result ≠ .error (.refused r)) : IssuedBy setup id code purpose ds := by
  obtain ⟨s, hs, hp, -⟩ := (OtpChallenge.verify_ok_iff_pending h code purpose).1
    (Entry.verify_of_check h ho hstep hcheck hres)
  obtain ⟨hcode, hany⟩ := OtpChallenge.pendingFor?_eq_some.1 hp
  obtain ⟨q, hq, hissued⟩ := hfrom s hs code hcode
  exact hany q hq ▸ hissued

/-! ## Verified numbers over a run -/

omit [AccountStore S] [LawfulStore S] in
theorem Entry.ActsOnPhone.verified {p q : Phone} (h : e.ActsOnPhone setup id (some p) (some q)) (hv : q.verified) :
    p.verified ∨ ∃ code, e.Answers id code := by
  cases h with
  | initiated ha => exact .inl (Phone.verified_of_moved hv).1
  | confirmed ha hp => exact .inr ⟨_, ha⟩
  | _ => exact .inl hv

omit [AccountStore S] [LawfulStore S] in
/-- A write of a call that checks no code for a number does not verify it. -/
theorem Write.phoneVerified_eq {a' : Account} (hw : Write setup v.clock op a a')
    (hop : ∀ i code, op.check? ≠ some (i, code, .phoneVerification)) (ha : a.credentials.phoneVerified = false) :
    a'.credentials.phoneVerified = false := by
  cases hw with
  | accepted newHash =>
    obtain ⟨_, _, _, _, _, heq⟩ := Login.changed_acceptance v.clock a newHash
    rw [heq]
    exact ha
  | @verified op i code purpose _ hc =>
    cases purpose with
    | loginChallenge => exact ha
    | phoneVerification => exact absurd hc (hop i code)
  | moved => rfl
  | _ => exact ha

/-- **A number becomes verified** by an entry only that accepts a code for it. -/
theorem verified_step (h : v.Sound) (s : Step) {b : Account} (ha : v.account? id = some a)
    (hb : (s.run setup v).2.account? id = some b) (hv : b.credentials.phoneVerified) :
    a.credentials.phoneVerified ∨ ∃ code, (Entry.of setup s v).Answers id code := by
  by_cases hcheck : ∃ op i code, s = .call op ∧ op.check? = some (i, code, .phoneVerification)
  · obtain ⟨op, i, code, rfl, hcheck⟩ := hcheck
    have hacts : (Entry.of setup (.call op) v).ActsOnPhone setup id (v.phone? id)
        (((Step.call op).run setup v).2.phone? id) := by
      cases op with
      | verifyOtp j c purpose => exact actsOnPhone_verifyOtp h j c purpose id
      | verifyPhone j c => exact actsOnPhone_verifyPhone h j c id
      | _ => cases hcheck
    rw [World.phone?_of_account? ha, World.phone?_of_account? hb] at hacts
    exact hacts.verified hv
  · cases hno : a.credentials.phoneVerified with
    | true => exact .inl rfl
    | false =>
      obtain ⟨op, rfl, hev⟩ | ⟨c, hc, hc'⟩ | hsame := accounts_step setup h s id
      · have hb' := hev.all (P := fun a => a.credentials.phoneVerified = false)
          (fun a a' hP hw => hw.phoneVerified_eq (fun i code hop => hcheck ⟨op, i, code, rfl, hop⟩) hP)
          (fun a ⟨_, _, _, _, hc⟩ => by rw [hc]) (by rw [ha]; rintro _ ⟨⟩; exact hno) b hb
        cases hv.symm.trans hb'
      · cases ha.symm.trans hc
        cases hb.symm.trans hc'
        cases hno.symm.trans hv
      · cases (hb.symm.trans hsame).trans ha
        cases hno.symm.trans hv

/-- A number that was not verified and is, after a run, was verified by an entry of the run. -/
theorem exists_answer (h : v.Sound) (ha : v.account? id = some a) (hno : a.credentials.phoneVerified = false)
    (hr : Run setup v es u) :
    ∃ b, u.account? id = some b ∧ (b.credentials.phoneVerified →
      ∃ pre e post code, es = pre ++ e :: post ∧ e.Answers id code) := by
  induction hr with
  | start => exact ⟨a, ha, fun hv => by cases hno.symm.trans hv⟩
  | @step es t hr s ih =>
    obtain ⟨b, hb, hearlier⟩ := ih
    obtain ⟨c, hc, -⟩ := step_keeps (F := fun _ => ()) (hr.sound h) s (fun _ _ _ _ _ => rfl) (fun _ => rfl) hb
    refine ⟨c, hc, fun hv => ?_⟩
    obtain hbefore | ⟨code, hanswers⟩ := verified_step (hr.sound h) s hb hc hv
    · obtain ⟨pre, e, post, code, rfl, hanswers⟩ := hearlier hbefore
      exact ⟨pre, e, post ++ [.of setup s t], code, by simp, hanswers⟩
    · exact ⟨es, _, [], code, rfl, hanswers⟩

/-! ## After the change -/

/-- **Which codes are accepted after a change of the number.** A call that changes the number of an account stores the
new one, unverified and with the factor off, however it ends. If it issues a code, this one replaces what was in the
slot; if not, the slot stays, and the codes that are accepted are those that were accepted before. In the first case,
and where no code was pending, every code that is accepted in a run afterwards was issued by the call or in the run, and
the number is verified only by such a code. -/
theorem codes_after_number_change (setup : Setup) (hw : w.Sound) (ha : w.account? id = some a) {number : String}
    (hn : a.phoneNumber ≠ some number) :
    let first : Entry S := .of setup (.call (.initiatePhone id number)) w
    ∃ b, first.after.account? id = some b ∧ b.phoneNumber = some number ∧ b.credentials.phoneVerified = false ∧
      b.credentials.smsEnabled = false ∧
      (∀ code t, SmsFactor.Issues setup w number code t →
        b.credentials.otp = ⟨some code, some t, some .phoneVerification⟩) ∧
      ((∀ code t, ¬ SmsFactor.Issues setup w number code t) → b.credentials.otp = a.credentials.otp ∧
        ∀ submitted purpose,
          (∃ c, ((OtpChallenge.verify setup id submitted purpose).runOn first.after).1 = .ok c) ↔
            ∃ c, ((OtpChallenge.verify setup id submitted purpose).runOn w).1 = .ok c) ∧
      ((∃ code t, SmsFactor.Issues setup w number code t) ∨ a.credentials.otp.code = none →
        ∀ es v, Run setup first.after es v →
          (∀ pre e post op code purpose, es = pre ++ e :: post → e.step = .call op →
            op.check? = some (id, code, purpose) → (∀ r, e.result ≠ .error (.refused r)) →
            IssuedBy setup id code purpose (first :: pre)) ∧
          ∃ c, v.account? id = some c ∧ (c.credentials.phoneVerified →
            ∃ pre e post code, es = pre ++ e :: post ∧ e.Answers id code ∧
              IssuedBy setup id code .phoneVerification (first :: pre))) := by
  intro first
  have hsound : first.after.Sound := sound_step hw (.call (.initiatePhone id number))
  have hclock : first.after.clock = w.clock := clock_call hw (.initiatePhone id number)
  obtain ⟨slot, hphone, hissued, hkept⟩ := phone?_of_new_number hw ha hn
  obtain ⟨b, hb, hbphone⟩ := World.exists_account_of_phone? hphone
  obtain ⟨hnumber, hunverified, hinactive, rfl⟩ := Phone.mk.inj hbphone
  have hslot : first.after.slot? id = some b.credentials.otp := World.slot?_of_account? hb
  refine ⟨b, hb, hnumber, hunverified, hinactive, hissued, fun hno => ⟨hkept hno, fun submitted purpose => ?_⟩,
    fun hfree es v hr => ?_⟩
  · rw [OtpChallenge.verify_ok_iff_pending hsound, OtpChallenge.verify_ok_iff_pending hw, hslot, hclock, hkept hno,
      World.slot?_of_account? ha]
  · have hfrom : ∀ s ∈ first.after.slot? id, s.IsFrom setup id [first] := by
      rw [hslot]
      rintro _ ⟨⟩ code hcode
      by_cases hi : ∃ code t, SmsFactor.Issues setup w number code t
      · obtain ⟨c, t, hi⟩ := hi
        rw [hissued c t hi] at hcode ⊢
        cases hcode
        exact ⟨.phoneVerification, rfl, issuedBy_of_issues hw ha hi⟩
      · rw [hkept fun c t h => hi ⟨c, t, h⟩, hfree.resolve_left hi] at hcode
        cases hcode
    have hchecked : ∀ pre e post op code purpose, es = pre ++ e :: post → e.step = .call op →
        op.check? = some (id, code, purpose) → (∀ r, e.result ≠ .error (.refused r)) →
        IssuedBy setup id code purpose (first :: pre) := by
      intro pre e post op code purpose hes hstep hcheck hres
      obtain ⟨hpre, ho⟩ := hr.split hes
      exact issuedBy_of_check (hpre.sound hsound) ho (slot_from_run hsound hfrom hpre) hstep hcheck hres
    obtain ⟨c, hc, hanswered⟩ := exists_answer hsound hb hunverified hr
    refine ⟨hchecked, c, hc, fun hv => ?_⟩
    obtain ⟨pre, e, post, code, hes, hanswers⟩ := hanswered hv
    obtain ⟨op, r, hstep, hcheck, hresult⟩ := hanswers
    refine ⟨pre, e, post, code, hes, ⟨op, r, hstep, hcheck, hresult⟩, ?_⟩
    exact hchecked pre e post op code _ hes hstep hcheck (by rw [hresult]; exact nofun)

/-- The code that is accepted after a change is that of the call. -/
theorem codes_after_number_change_verified :
    let first : Entry MemoryStore := .of Setup.sample (.call (.initiatePhone "1" "+34600000001")) World.sample
    let answer : Entry MemoryStore := .of Setup.sample (.call (.verifyPhone "1" "000000")) first.after
    World.sample.account? "1" = some .sample ∧ Account.sample.phoneNumber ≠ some "+34600000001" ∧
      (∃ code t, SmsFactor.Issues Setup.sample World.sample "+34600000001" code t) ∧
      Run Setup.sample first.after [answer] answer.after ∧ (∀ r, answer.result ≠ .error (.refused r)) ∧
      IssuedBy Setup.sample "1" "000000" .phoneVerification [first] := by
  intro first answer
  have hissues : ∃ code t, SmsFactor.Issues Setup.sample World.sample "+34600000001" code t := by
    obtain ⟨code, hcode⟩ := OtpChallenge.exists_drawnCode (show 0 ≤ Setup.sample.phoneOtp.codeLength by decide)
      (by decide) (Setup.sample.sources.draws World.sample.drawn)
    obtain ⟨t, ht⟩ := Option.isSome_iff_exists.1 (show (World.sample.clock.addMinutes?
      Setup.sample.phoneOtp.ttlMinutes).isSome by decide +kernel)
    exact ⟨code, t, by decide, hcode, ht⟩
  have hnumber : Account.sample.phoneNumber ≠ some "+34600000001" := by decide
  have hrun : Run Setup.sample first.after [answer] answer.after := .step .start (.call (.verifyPhone "1" "000000"))
  have hresult : answer.result = .ok (.flag true) := by decide +kernel
  have haccepted : ∀ r, answer.result ≠ .error (.refused r) := by
    rw [hresult]
    exact nofun
  obtain ⟨-, -, -, -, -, -, -, hafter⟩ :=
    codes_after_number_change Setup.sample World.sound_sample World.account?_sample_self hnumber
  obtain ⟨hchecked, -⟩ := hafter (.inl hissues) _ _ hrun
  exact ⟨World.account?_sample_self, hnumber, hissues, hrun, haccepted,
    hchecked [] answer [] _ _ _ rfl rfl rfl haccepted⟩

/-- Where no code is issued, a code that was sent to the number before is accepted for the new one, and verifies it. -/
theorem old_code_verifies_new_number :
    let asked := ((Operation.initiatePhone "1" "+34600000001").run Setup.sample World.sample).2
    let moved := (Operation.initiatePhone "1" "").run Setup.sample asked
    let verified := (Operation.verifyPhone "1" "000000").run Setup.sample moved.2
    (asked.phone? "1").map (fun p => (p.number, p.verified, p.slot.code)) =
        some (some "+34600000001", false, some "000000") ∧
      moved.1 = .error (.refused (.invariantViolation .challenge)) ∧
      (moved.2.phone? "1").map (fun p => (p.number, p.verified, p.slot.code)) = some (some "", false, some "000000") ∧
      verified.1 = .ok (.flag true) ∧
      (verified.2.phone? "1").map (fun p => (p.number, p.verified, p.slot.code)) = some (some "", true, none) := by
  decide +kernel

end AccountSecurity
