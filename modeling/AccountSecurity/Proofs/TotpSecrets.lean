import AccountSecurity.Proofs.Coherence

/-!
# Which secret an authenticator app has to have

The factor is turned on by a code of the stored secret. While it is on, making another secret replaces the stored one,
which no code has proven.

* `Entry.madeSecret?`, `lastSecret?` : the secret that an entry made for an account, and the last one of a run;
* `Entry.Proves`, `Entry.Removes` : the calls that turned the factor on and off, with the secret of their code;
* `Entry.ActsOnFactor`, `actsOnFactor` : what a step does to the factor of an account;
* `FactorHistory` : the factor of an account as its history tells, kept by every step;
* `active_secret_by_history` : **the secret of an active factor** in every state that a run reaches;
* `active_secret_unproven` : a secret that no code has proven, while the factor is on.
-/

namespace AccountSecurity
open World
variable {S : Type}

/-- The secret that an entry made for an account. -/
def Entry.madeSecret? (id : String) (e : Entry S) : Option String :=
  match e.step, e.result with
  | .call (.generateTotp i), .ok (.enrollment n) => if i = id then some n.secret else none
  | _, _ => none

/-- The secret that was made last for an account. -/
def lastSecret? (id : String) (es : List (Entry S)) : Option String := es.reverse.findSome? (Entry.madeSecret? id)

theorem lastSecret?_append (id : String) (es es' : List (Entry S)) :
    lastSecret? id (es ++ es') = (lastSecret? id es').or (lastSecret? id es) := by
  rw [lastSecret?, List.reverse_append, List.findSome?_append]
  rfl

theorem lastSecret?_singleton (id : String) (e : Entry S) : lastSecret? id [e] = e.madeSecret? id := by
  rw [lastSecret?, List.reverse_singleton, List.findSome?_cons]
  cases e.madeSecret? id <;> rfl

theorem lastSecret?_concat (id : String) (es : List (Entry S)) (e : Entry S) :
    lastSecret? id (es ++ [e]) = (e.madeSecret? id).or (lastSecret? id es) := by
  rw [lastSecret?_append, lastSecret?_singleton]

/-- The entry turned the factor of an account on. -/
def Entry.TurnsOn (id : String) (e : Entry S) : Prop :=
  ∃ code, e.step = .call (.enableTotp id code) ∧ e.result = .ok (.flag true)

/-- The entry turned the factor of an account off. -/
def Entry.TurnsOff (id : String) (e : Entry S) : Prop :=
  ∃ code, e.step = .call (.disableTotp id code) ∧ e.result = .ok (.flag true)

variable [AccountStore S] [LawfulStore S] {setup : Setup} {w v : World S} {es : List (Entry S)} {id : String}
  {a : Account}

/-- The factor of an account: it is on or off, and its secret. -/
def World.factor (w : World S) (id : String) : Bool × Option String :=
  w.part (false, none) (fun a => (a.credentials.totpEnabled, a.credentials.totpSecret)) id

/-- The entry turned the factor on, by a code that was right for the stored secret. -/
def Entry.Proves (setup : Setup) (id secret : String) (e : Entry S) : Prop :=
  (e.before.factor id).2 = some secret ∧ ∃ code, e.step = .call (.enableTotp id code) ∧
    e.result = .ok (.flag true) ∧ Totp.verify setup.totp secret code e.before.clock = .ok true

/-- The entry turned the factor off, by a code that was right for the stored secret. -/
def Entry.Removes (setup : Setup) (id secret : String) (e : Entry S) : Prop :=
  (e.before.factor id).2 = some secret ∧ ∃ code, e.step = .call (.disableTotp id code) ∧
    e.result = .ok (.flag true) ∧ Totp.verify setup.totp secret code e.before.clock = .ok true

/-! ## One step -/

/-- What an entry does to the factor of an account. -/
inductive Entry.ActsOnFactor (setup : Setup) (id : String) (e : Entry S) :
    Bool × Option String → Bool × Option String → Prop
  | quiet {p : Bool × Option String} (hm : e.madeSecret? id = none) (hon : ¬ e.TurnsOn id) (hoff : ¬ e.TurnsOff id) :
      e.ActsOnFactor setup id p p
  | made {on : Bool} {old : Option String} {secret : String} (hm : e.madeSecret? id = some secret)
      (hon : ¬ e.TurnsOn id) (hoff : ¬ e.TurnsOff id) : e.ActsOnFactor setup id (on, old) (on, some secret)
  | proven {on : Bool} {secret : String} (hm : e.madeSecret? id = none) (hp : e.Proves setup id secret) :
      e.ActsOnFactor setup id (on, some secret) (true, some secret)
  | removed {secret : String} (hm : e.madeSecret? id = none) (hr : e.Removes setup id secret) :
      e.ActsOnFactor setup id (true, some secret) (false, none)

theorem World.factor_of_account? (ha : w.account? id = some a) :
    w.factor id = (a.credentials.totpEnabled, a.credentials.totpSecret) := part_of_account? ha

theorem World.factor_congr (h : v.account? = w.account?) : v.factor = w.factor := part_congr h

theorem World.factor_of_update {a' : Account} (h : v.account? = Function.update w.account? id (some a')) :
    v.factor = Function.update w.factor id (a'.credentials.totpEnabled, a'.credentials.totpSecret) :=
  part_of_update h

theorem Write.factor_eq {now : DateTime} {op : Operation} {a' : Account} (hw : Write setup now op a a')
    (hg : ∀ id, op ≠ .generateTotp id) (hon : ∀ id code, op ≠ .enableTotp id code)
    (hoff : ∀ id code, op ≠ .disableTotp id code) :
    (a'.credentials.totpEnabled, a'.credentials.totpSecret) = (a.credentials.totpEnabled, a.credentials.totpSecret) := by
  cases hw with
  | accepted newHash =>
    obtain ⟨_, _, _, _, _, h⟩ := Login.changed_acceptance now a newHash
    rw [h]
  | verified _ =>
    rename_i purpose _
    cases purpose <;> rfl
  | secretMade _ _ => exact absurd rfl (hg _)
  | totpEnabled _ => exact absurd rfl (hon _ _)
  | totpDisabled => exact absurd rfl (hoff _ _)
  | _ => rfl

/-- Steps that are none of the three calls leave the factor alone. -/
theorem actsOnFactor_quiet (h : v.Sound) {s : Step} (hg : ∀ i, s ≠ .call (.generateTotp i))
    (hon : ∀ i code, s ≠ .call (.enableTotp i code)) (hoff : ∀ i code, s ≠ .call (.disableTotp i code)) (id : String) :
    (Entry.of setup s v).ActsOnFactor setup id (v.factor id) ((s.run setup v).2.factor id) := by
  have hsame : (s.run setup v).2.factor id = v.factor id := by
    refine step_part h s ?_ ?_ (fun _ => rfl) id
    · intro op a a' hop hw
      exact hw.factor_eq (fun i heq => hg i (heq ▸ hop)) (fun i code heq => hon i code (heq ▸ hop))
        fun i code heq => hoff i code (heq ▸ hop)
    · rintro op a ⟨_, passwordHash, -, -, hc⟩
      rw [hc]
  have hmade : (Entry.of setup s v).madeSecret? id = none := by
    unfold Entry.madeSecret?
    split
    · next i n hstep hresult => exact absurd hstep (hg i)
    · rfl
  rw [hsame]
  exact .quiet hmade (fun ⟨code, hstep, _⟩ => hon id code hstep) fun ⟨code, hstep, _⟩ => hoff id code hstep

theorem actsOnFactor_generate (h : v.Sound) (i id : String) :
    (Entry.of setup (.call (.generateTotp i)) v).ActsOnFactor setup id (v.factor id)
      (((Operation.generateTotp i).run setup v).2.factor id) := by
  have hon : ¬ (Entry.of setup (.call (.generateTotp i)) v).TurnsOn id := fun ⟨_, hstep, _⟩ => nomatch hstep
  have hoff : ¬ (Entry.of setup (.call (.generateTotp i)) v).TurnsOff id := fun ⟨_, hstep, _⟩ => nomatch hstep
  have hends := TotpFactor.ends_generate h setup i
  have hmade : (Entry.of setup (.call (.generateTotp i)) v).madeSecret? id =
      match ((TotpFactor.generate setup i).runOn v).1 with
      | .ok n => if i = id then some n.secret else none
      | .error _ => none := by
    unfold Entry.madeSecret?
    simp only [Entry.of_step, Entry.of_result, Step.run_call, Operation.run_generateTotp]
    cases ((TotpFactor.generate setup i).runOn v).1 <;> rfl
  rw [Operation.run_generateTotp]
  generalize (TotpFactor.generate setup i).runOn v = r at hends hmade ⊢
  cases hends with
  | failed hv =>
    rw [World.factor_congr hv]
    exact .quiet hmade hon hoff
  | @made a ha =>
    have hacc := World.factor_of_update (account?_changed (h.drew Totp.secretLength) ha
      (TotpFactor.storable_totpSecret (some (TotpFactor.nextSecret setup v))))
    dsimp only at hmade ⊢
    rw [hacc]
    by_cases hid : i = id
    · subst hid
      rw [if_pos rfl] at hmade
      rw [Function.update_self, World.factor_of_account? ha]
      exact .made hmade hon hoff
    · rw [if_neg hid] at hmade
      rw [Function.update_of_ne (Ne.symm hid)]
      exact .quiet hmade hon hoff

theorem actsOnFactor_enable (h : v.Sound) (i code id : String) :
    (Entry.of setup (.call (.enableTotp i code)) v).ActsOnFactor setup id (v.factor id)
      (((Operation.enableTotp i code).run setup v).2.factor id) := by
  have hm : (Entry.of setup (.call (.enableTotp i code)) v).madeSecret? id = none := rfl
  have hoff : ¬ (Entry.of setup (.call (.enableTotp i code)) v).TurnsOff id := fun ⟨_, hstep, _⟩ => nomatch hstep
  have hresult : (Entry.of setup (.call (.enableTotp i code)) v).result =
      ((TotpFactor.enable setup i code).runOn v).1.map .flag := by
    rw [Entry.of_result, Step.run_call, Operation.run_enableTotp]
  have hon : (Entry.of setup (.call (.enableTotp i code)) v).TurnsOn id →
      i = id ∧ ((TotpFactor.enable setup i code).runOn v).1 = .ok true := by
    rintro ⟨_, hstep, hok⟩
    rw [hresult] at hok
    exact ⟨by cases hstep; rfl, Operation.map_flag_eq_ok.1 hok⟩
  have hends := TotpFactor.ends_enable h setup i code
  rw [Operation.run_enableTotp]
  generalize (TotpFactor.enable setup i code).runOn v = r at hends hon hresult ⊢
  cases hends with
  | failed hv =>
    rw [World.factor_congr hv]
    exact .quiet hm (fun ht => nomatch (hon ht).2) hoff
  | @proven a secret ha hs hright =>
    have hacc := World.factor_of_update (account?_changed h ha (TotpFactor.storable_totpEnabled true))
    dsimp only
    rw [World.factor_congr (account?_logged ..), hacc]
    by_cases hid : i = id
    · subst hid
      have hbefore : v.factor i = (a.credentials.totpEnabled, some secret) := by
        rw [World.factor_of_account? ha, hs]
      have hafter : ((a.changed [.totpEnabled true]).credentials.totpEnabled,
          (a.changed [.totpEnabled true]).credentials.totpSecret) = (true, some secret) := by
        rw [← hs]
        rfl
      rw [Function.update_self, hbefore, hafter]
      exact .proven hm ⟨congrArg Prod.snd hbefore, code, rfl, hresult, hright⟩
    · rw [Function.update_of_ne (Ne.symm hid)]
      exact .quiet hm (fun ht => hid (hon ht).1) hoff

theorem actsOnFactor_disable (h : v.Sound) (i code id : String) :
    (Entry.of setup (.call (.disableTotp i code)) v).ActsOnFactor setup id (v.factor id)
      (((Operation.disableTotp i code).run setup v).2.factor id) := by
  have hm : (Entry.of setup (.call (.disableTotp i code)) v).madeSecret? id = none := rfl
  have hon : ¬ (Entry.of setup (.call (.disableTotp i code)) v).TurnsOn id := fun ⟨_, hstep, _⟩ => nomatch hstep
  have hresult : (Entry.of setup (.call (.disableTotp i code)) v).result =
      ((TotpFactor.disable setup i code).runOn v).1.map .flag := by
    rw [Entry.of_result, Step.run_call, Operation.run_disableTotp]
  have hoff : (Entry.of setup (.call (.disableTotp i code)) v).TurnsOff id →
      i = id ∧ ((TotpFactor.disable setup i code).runOn v).1 = .ok true := by
    rintro ⟨_, hstep, hok⟩
    rw [hresult] at hok
    exact ⟨by cases hstep; rfl, Operation.map_flag_eq_ok.1 hok⟩
  have hends := TotpFactor.ends_disable h setup i code
  rw [Operation.run_disableTotp]
  generalize (TotpFactor.disable setup i code).runOn v = r at hends hoff hresult ⊢
  cases hends with
  | failed hv =>
    rw [World.factor_congr hv]
    exact .quiet hm hon fun ht => nomatch (hoff ht).2
  | @removed a secret ha he hs hright =>
    have hacc := World.factor_of_update (account?_changed h ha TotpFactor.storable_removal)
    dsimp only
    rw [World.factor_congr (account?_logged ..), hacc]
    by_cases hid : i = id
    · subst hid
      have hbefore : v.factor i = (true, some secret) := by rw [World.factor_of_account? ha, he, hs]
      rw [Function.update_self, hbefore]
      exact .removed hm ⟨congrArg Prod.snd hbefore, code, rfl, hresult, hright⟩
    · rw [Function.update_of_ne (Ne.symm hid)]
      exact .quiet hm hon fun ht => hid (hoff ht).1

/-- **Every step** does one of four things to the factor of an account. -/
theorem actsOnFactor (setup : Setup) (h : v.Sound) (s : Step) (id : String) :
    (Entry.of setup s v).ActsOnFactor setup id (v.factor id) ((s.run setup v).2.factor id) := by
  cases s with
  | call op =>
    cases op with
    | generateTotp i => exact actsOnFactor_generate h i id
    | enableTotp i code => exact actsOnFactor_enable h i code id
    | disableTotp i code => exact actsOnFactor_disable h i code id
    | _ => exact actsOnFactor_quiet h (fun _ heq => by cases heq) (fun _ _ heq => by cases heq)
             (fun _ _ heq => by cases heq) id
  | _ => exact actsOnFactor_quiet h (fun _ heq => by cases heq) (fun _ _ heq => by cases heq)
           (fun _ _ heq => by cases heq) id

/-! ## Whole runs -/

/-- The factor of an account as its history tells. -/
structure FactorHistory (setup : Setup) (id : String) (es : List (Entry S)) (p : Bool × Option String) : Prop where
  /-- The secret is the one that was made last. -/
  last : ∀ secret, p.2 = some secret → lastSecret? id es = some secret
  /-- The factor is on since a call that proved the secret of that time, and has the secret that was made last. -/
  proven : p.1 → ∃ pre e post secret, es = pre ++ e :: post ∧ e.Proves setup id secret ∧
    lastSecret? id pre = some secret ∧ (∀ x ∈ post, ¬ x.TurnsOn id ∧ ¬ x.TurnsOff id) ∧
    p.2 = some ((lastSecret? id post).getD secret)

namespace FactorHistory

theorem start (setup : Setup) (id : String) : FactorHistory setup id ([] : List (Entry S)) (false, none) where
  last := nofun
  proven := nofun

/-- While the factor is turned neither on nor off, its secret is the one that was made last. -/
theorem follow {on : Bool} {old : Option String} {e : Entry S} (h : FactorHistory setup id es (on, old))
    (hon : ¬ e.TurnsOn id) (hoff : ¬ e.TurnsOff id) :
    FactorHistory setup id (es ++ [e]) (on, (e.madeSecret? id).or old) := by
  refine ⟨fun secret hs => ?_, fun hp => ?_⟩
  · rw [lastSecret?_concat]
    cases hm : e.madeSecret? id with
    | none =>
      rw [hm] at hs
      exact h.last secret hs
    | some made =>
      rw [hm] at hs
      exact hs
  · obtain ⟨pre, x, post, secret, hes, hx, hl, hpost, hsecret⟩ := h.proven hp
    refine ⟨pre, x, post ++ [e], secret, by rw [hes]; simp, hx, hl, ?_, ?_⟩
    · exact List.forall_mem_append.2 ⟨hpost, List.forall_mem_singleton.2 ⟨hon, hoff⟩⟩
    · rw [lastSecret?_concat]
      cases e.madeSecret? id with
      | none => exact hsecret
      | some made => rfl

theorem concat {p q : Bool × Option String} {e : Entry S} (h : FactorHistory setup id es p)
    (he : e.ActsOnFactor setup id p q) : FactorHistory setup id (es ++ [e]) q := by
  cases he with
  | quiet hm hon hoff =>
    have hfollow := h.follow hon hoff
    rw [hm, Option.none_or] at hfollow
    exact hfollow
  | made hm hon hoff =>
    have hfollow := h.follow hon hoff
    rw [hm, Option.some_or] at hfollow
    exact hfollow
  | @proven on secret hm hp =>
    have hlast : lastSecret? id es = some secret := h.last secret rfl
    refine ⟨fun s hs => ?_, fun _ => ⟨es, e, [], secret, rfl, hp, hlast, by simp, rfl⟩⟩
    rw [lastSecret?_concat, hm, Option.none_or, hlast]
    exact hs
  | removed hm hr => exact ⟨nofun, nofun⟩

end FactorHistory

/-- **The factor of an account** after every run from new accounts is as its history tells. -/
theorem factor_of_history (hw : w.Sound) (hnew : ∀ id a, w.account? id = some a → a.IsNew) (hr : Run setup w es v)
    (id : String) : FactorHistory setup id es (v.factor id) := by
  induction hr with
  | start =>
    have hfresh : w.factor id = (false, none) := by
      cases ha : w.account? id with
      | none => exact part_of_missing ha
      | some a =>
        obtain ⟨passwordHash, emailVerified, hc⟩ := hnew id a ha
        rw [World.factor_of_account? ha, hc]
    rw [hfresh]
    exact .start setup id
  | step hr s ih => exact ih.concat (actsOnFactor setup (hr.sound hw) s id)

/-! ## A run to a secret that no code has proven -/

/-- The settings with other random numbers: a secret has 32 times the same character, and the next secret another. -/
def Setup.steady : Setup :=
  { Setup.sample with sources := { Setup.sample.sources with draws := fun k => k / Totp.secretLength } }

/-- The steps of a user who makes a secret, turns the factor on with a code of it and makes another secret. -/
def stepsToUnproven : List Step :=
  [.call (.generateTotp "1"), .call (.enableTotp "1" "328482"), .call (.generateTotp "1")]

/-- After these steps the factor is on with the second secret. -/
theorem factor_unproven : (World.sample.through Setup.steady stepsToUnproven).factor "1" =
    (true, some "BBBBBBBBBBBBBBBBBBBBBBBBBBBBBBBB") := by decide +kernel

theorem exists_account_unproven : ∃ a, (World.sample.through Setup.steady stepsToUnproven).account? "1" = some a ∧
    a.credentials.totpEnabled ∧ a.credentials.totpSecret = some "BBBBBBBBBBBBBBBBBBBBBBBBBBBBBBBB" := by
  have hfactor := factor_unproven
  cases ha : (World.sample.through Setup.steady stepsToUnproven).account? "1" with
  | none =>
    rw [World.factor, part_of_missing ha] at hfactor
    cases hfactor
  | some a =>
    rw [World.factor_of_account? ha, Prod.mk.injEq] at hfactor
    exact ⟨a, rfl, hfactor⟩

/-! ## What is said of every run -/

/-- **The secret of an active factor.** After every run from new accounts, a factor that is on was turned on by a code
of the secret that had been made last by then. It has been neither turned on again nor off since, and its secret is
the one that was proven then, unless another was made since: then it is the last one made, whether or not any code
has proven it. Every entry after which the factor is no longer on was a call with a code of the secret of its time. -/
theorem active_secret_by_history (hw : w.Sound) (hnew : ∀ id a, w.account? id = some a → a.IsNew)
    (hr : Run setup w es v) (id : String) :
    (∀ a, v.account? id = some a → a.credentials.totpEnabled →
      ∃ pre e post proven, es = pre ++ e :: post ∧ e.Proves setup id proven ∧ lastSecret? id pre = some proven ∧
        (∀ x ∈ post, ¬ x.TurnsOn id ∧ ¬ x.TurnsOff id) ∧
        a.credentials.totpSecret = some ((lastSecret? id post).getD proven)) ∧
    ∀ e ∈ es, (e.before.factor id).1 → (e.after.factor id).1 = false → ∃ secret, e.Removes setup id secret := by
  refine ⟨fun a ha he => ?_, fun e he hbefore hafter => ?_⟩
  · have hhist := factor_of_history hw hnew hr id
    rw [World.factor_of_account? ha] at hhist
    exact hhist.proven he
  · obtain ⟨hsound, ho⟩ := hr.of_mem hw he
    have hacts := actsOnFactor setup hsound e.step id
    rw [ho] at hafter ⊢
    generalize hp : e.before.factor id = p at hacts hbefore
    generalize hq : (e.step.run setup e.before).2.factor id = q at hacts
    rw [Entry.of_after, hq] at hafter
    cases hacts with
    | quiet => rw [hbefore] at hafter; cases hafter
    | made => rw [show _ = true from hbefore] at hafter; cases hafter
    | proven => cases hafter
    | removed hm hr => exact ⟨_, hr⟩

/-- The factor that is on after these steps was turned on by a code, which proved a secret. -/
theorem active_secret_by_history_steady :
    ∃ pre e post proven, entriesOf Setup.steady World.sample stepsToUnproven = pre ++ e :: post ∧
      e.Proves Setup.steady "1" proven := by
  obtain ⟨a, ha, hon, -⟩ := exists_account_unproven
  obtain ⟨hactive, -⟩ := active_secret_by_history World.sound_sample World.isNew_sample
    (.of_steps Setup.steady World.sample stepsToUnproven) "1"
  obtain ⟨pre, e, post, proven, hes, hp, -⟩ := hactive a ha hon
  exact ⟨pre, e, post, proven, hes, hp⟩

/-- A new account can be led to a state with the factor on and a secret that no code has proven. -/
theorem active_secret_unproven :
    (∀ id a, World.sample.account? id = some a → a.IsNew) ∧
    ∃ es v a secret, Run Setup.steady World.sample es v ∧ v.account? "1" = some a ∧ a.credentials.totpEnabled ∧
      a.credentials.totpSecret = some secret ∧ ∀ e ∈ es, ¬ e.Proves Setup.steady "1" secret := by
  obtain ⟨a, ha, hon, hsecret⟩ := exists_account_unproven
  have hrun := Run.of_steps Setup.steady World.sample stepsToUnproven
  have hfirst : (((Step.call (.generateTotp "1")).run Setup.steady World.sample).2.factor "1").2 =
      some "AAAAAAAAAAAAAAAAAAAAAAAAAAAAAAAA" := by decide +kernel
  refine ⟨World.isNew_sample, _, _, a, _, hrun, ha, hon, hsecret, ?_⟩
  -- only the second entry turns the factor on, and it finds the first secret
  rintro e he ⟨hfound, code, hstep, -⟩
  simp only [entriesOf, stepsToUnproven, List.mem_cons, List.not_mem_nil, or_false] at he
  rcases he with rfl | rfl | rfl
  · cases hstep
  · rw [Entry.of_before, hfirst] at hfound
    exact absurd hfound (by decide)
  · cases hstep

end AccountSecurity
