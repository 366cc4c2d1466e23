import AccountSecurity.Proofs.Password.NewHash
import AccountSecurity.Proofs.Service.Operation
import AccountSecurity.Proofs.Store.Memory

/-!
# Runs

A run starts in some state and takes one step after the other: calls of the services with whatever they give,
and the events around the services that no call makes. Clocks show universal time.

* `Step`, `Step.run` : a step, and what it does;
* `Entry` : a step with the state before it, its result and the state after it;
* `Entry.loginOf?` : the account and the password of a login;
* `Run` : the entries of a run, and the state that it leads to;
* `entriesOf`, `World.through`, `Run.of_steps` : the run that takes the steps of a list;
* `Run.sound`, `Run.split` : every state of a run is sound, and every entry splits its run;
* `accounts_step`, `step_keeps`, `step_map`, `step_part` : the accounts over one step;
* `World.sample`, `Step.smsSession` : a state to start from, and a run that opens a session by SMS code.
-/

namespace AccountSecurity
open World

/-- A step of a run. -/
inductive Step where
  /-- A call of a service. -/
  | call (op : Operation)
  /-- The clock shows another time. -/
  | clock (now : { t : DateTime // t.offset = 0 })
  /-- The carrier of messages meets an error from now on, or none. -/
  | outage (outage : Option Outage)
  /-- The application has found that the address of an account is its owner's. -/
  | confirmEmail (id : String)

variable {S : Type} [AccountStore S]

/-- The result of a step, and the state after it. -/
def Step.run (setup : Setup) : Step → World S → Except Failure Reply × World S
  | call op, w => op.run setup w
  | clock now, w => (.ok .done, { w with clock := now })
  | outage next, w => (.ok .done, { w with outage := next })
  | confirmEmail id, w =>
    (((changeCredentials id [.emailVerified true]).runOn w).1.map fun _ => .done,
      ((changeCredentials id [.emailVerified true]).runOn w).2)

theorem Step.run_call (setup : Setup) (op : Operation) (w : World S) :
    (Step.call op).run setup w = op.run setup w := rfl

/-- A step that was taken. -/
structure Entry (S : Type) where
  before : World S
  step : Step
  result : Except Failure Reply
  after : World S

/-- The entry of a step in a state. -/
@[simps] def Entry.of (setup : Setup) (s : Step) (v : World S) : Entry S :=
  ⟨v, s, (s.run setup v).1, (s.run setup v).2⟩

/-- The account that a login found, and the password. -/
def Entry.loginOf? (e : Entry S) : Option (Account × String) :=
  match e.step with
  | .call (.login identifier password _) => (e.before.find? identifier).map fun a => (a, password)
  | _ => none

/-- The entries of a run from `w`, and the state that it leads to. -/
inductive Run (setup : Setup) (w : World S) : List (Entry S) → World S → Prop
  | start : Run setup w [] w
  | step {es : List (Entry S)} {v : World S} (h : Run setup w es v) (s : Step) :
      Run setup w (es ++ [Entry.of setup s v]) (Entry.of setup s v).after

/-- The state after the steps of a list. -/
def World.through (setup : Setup) (w : World S) (steps : List Step) : World S :=
  steps.foldl (fun v s => (s.run setup v).2) w

/-- The entries of the steps of a list. -/
def entriesOf (setup : Setup) (w : World S) : List Step → List (Entry S)
  | [] => []
  | s :: rest => Entry.of setup s w :: entriesOf setup (s.run setup w).2 rest

theorem entriesOf_nil (setup : Setup) (w : World S) : entriesOf setup w [] = [] := rfl

theorem entriesOf_cons (setup : Setup) (w : World S) (s : Step) (rest : List Step) :
    entriesOf setup w (s :: rest) = Entry.of setup s w :: entriesOf setup (s.run setup w).2 rest := rfl

theorem entriesOf_append (setup : Setup) (w : World S) (steps rest : List Step) :
    entriesOf setup w (steps ++ rest) = entriesOf setup w steps ++ entriesOf setup (w.through setup steps) rest := by
  induction steps generalizing w with
  | nil => rfl
  | cons s steps ih => exact congrArg (Entry.of setup s w :: ·) (ih _)

theorem World.through_append (setup : Setup) (w : World S) (steps rest : List Step) :
    w.through setup (steps ++ rest) = (w.through setup steps).through setup rest := List.foldl_append

/-- The entries have the steps of the list. -/
theorem map_step_entriesOf (setup : Setup) (w : World S) (steps : List Step) :
    (entriesOf setup w steps).map Entry.step = steps := by
  induction steps generalizing w with
  | nil => rfl
  | cons s steps ih => exact congrArg (s :: ·) (ih _)

/-- A run goes on with whatever steps are taken next. -/
theorem Run.append {setup : Setup} {w v : World S} {es : List (Entry S)} (h : Run setup w es v) (steps : List Step) :
    Run setup w (es ++ entriesOf setup v steps) (v.through setup steps) := by
  induction steps generalizing es v with
  | nil =>
    rw [entriesOf, List.append_nil]
    exact h
  | cons s rest ih =>
    have hnext := ih (h.step s)
    rw [List.append_assoc, List.singleton_append] at hnext
    exact hnext

/-- The steps of every list can be taken. -/
theorem Run.of_steps (setup : Setup) (w : World S) (steps : List Step) :
    Run setup w (entriesOf setup w steps) (w.through setup steps) :=
  Run.start.append steps

/-- A login that was found in an entry. -/
theorem Entry.of_loginOf? {setup : Setup} {e : Entry S} {a : Account} {password : String}
    (he : e = Entry.of setup e.step e.before) (hl : e.loginOf? = some (a, password)) :
    ∃ identifier c, e.before.find? identifier = some a ∧
      e = Entry.of setup (.call (.login identifier password c)) e.before := by
  unfold loginOf? at hl
  split at hl
  · next identifier password' c hstep =>
    obtain ⟨b, hb, heq⟩ := Option.map_eq_some_iff.1 hl
    cases heq
    exact ⟨identifier, c, hb, hstep ▸ he⟩
  · cases hl

/-! ## One step -/

variable [LawfulStore S] {setup : Setup} {w v : World S}

theorem storable_emailVerified {keeps : BackupCode → Prop} : Storable keeps [.emailVerified true] := by
  simp [Storable, CredentialChange.Storable]

/-- Confirming an address marks it, or does nothing. -/
theorem run_confirmEmail (h : v.Sound) (id : String) :
    (Step.confirmEmail id).run setup v =
      match v.account? id with
      | none => (.error (.refused (.accountNotFound id)), v)
      | some _ => (.ok .done, v.changed id [.emailVerified true]) := by
  cases ha : v.account? id with
  | none =>
    simp only [Step.run, runOn_changeCredentials_missing h ha storable_emailVerified]
    rfl
  | some a =>
    simp only [Step.run, runOn_changeCredentials h ha storable_emailVerified]
    rfl

theorem sound_step (h : v.Sound) (s : Step) : (s.run setup v).2.Sound := by
  cases s with
  | call op => exact (Operation.follows_run setup h op).sound
  | clock now => exact ⟨h.store, now.2⟩
  | outage o => exact h.congr rfl rfl
  | confirmEmail id =>
    rw [run_confirmEmail h]
    cases ha : v.account? id with
    | none => exact h
    | some a => exact h.changed ha storable_emailVerified

/-- Calls take no time. -/
theorem clock_call (h : v.Sound) (op : Operation) : (Entry.of setup (.call op) v).after.clock = v.clock :=
  (Operation.follows_run setup h op).clock

/-- Where only calls are made, the clock stays. -/
theorem clock_entriesOf (h : w.Sound) {steps : List Step} (hcalls : ∀ s ∈ steps, ∃ op, s = .call op) :
    ∀ e ∈ entriesOf setup w steps, e.before.clock = w.clock ∧ e.after.clock = w.clock := by
  induction steps generalizing w with
  | nil => exact fun e he => absurd he List.not_mem_nil
  | cons s rest ih =>
    obtain ⟨op, rfl⟩ := hcalls s (List.mem_cons_self ..)
    have hclock : (Entry.of setup (.call op) w).after.clock = w.clock := clock_call h op
    refine List.forall_mem_cons.2 ⟨⟨rfl, hclock⟩, fun e he => ?_⟩
    have hrest := ih (sound_step h (.call op)) (fun s hs => hcalls s (List.mem_cons_of_mem _ hs)) e he
    exact hclock ▸ hrest

/-- The accounts over one step: those of a call, or one with its address confirmed, or as they were. -/
theorem accounts_step (setup : Setup) (h : v.Sound) (s : Step) (id : String) :
    (∃ op, s = .call op ∧ Evolves setup v.clock op (v.account? id) ((s.run setup v).2.account? id)) ∨
    (∃ a, v.account? id = some a ∧ (s.run setup v).2.account? id = some (a.changed [.emailVerified true])) ∨
    (s.run setup v).2.account? id = v.account? id := by
  cases s with
  | call op => exact .inl ⟨op, rfl, (Operation.follows_run setup h op).accounts id⟩
  | clock now => exact .inr (.inr rfl)
  | outage o => exact .inr (.inr rfl)
  | confirmEmail i =>
    rw [run_confirmEmail h]
    cases ha : v.account? i with
    | none => exact .inr (.inr rfl)
    | some a =>
      dsimp only
      rw [account?_changed h ha storable_emailVerified]
      by_cases hi : id = i
      · subst hi
        exact .inr (.inl ⟨a, ha, Function.update_self ..⟩)
      · exact .inr (.inr (Function.update_of_ne hi ..))

/-- What holds of every account, of new ones and after every write, and does not depend on the confirmed address,
holds after a step. -/
theorem step_all {P : Account → Prop} (h : v.Sound) (s : Step)
    (hw : ∀ op a a', s = .call op → P a → Write setup v.clock op a a' → P a')
    (hc : ∀ (op : Operation) a, op.Creates setup a → P a) (he : ∀ a, P a → P (a.changed [.emailVerified true]))
    (hall : ∀ id a, v.account? id = some a → P a) (id : String) (a : Account)
    (ha : (s.run setup v).2.account? id = some a) : P a := by
  obtain ⟨op, hs, hev⟩ | ⟨b, hb, hb'⟩ | hsame := accounts_step setup h s id
  · exact hev.all (fun a a' => hw op a a' hs) (hc op) (hall id) a ha
  · rw [hb'] at ha
    cases ha
    exact he b (hall id b hb)
  · exact hall id a (hsame ▸ ha)

/-- An account stays over a step, with all that no write of the step's call and no confirmed address changes. -/
theorem step_keeps {β : Type} {F : Account → β} (h : v.Sound) (s : Step)
    (hw : ∀ op a a', s = .call op → Write setup v.clock op a a' → F a' = F a)
    (he : ∀ a : Account, F (a.changed [.emailVerified true]) = F a) {id : String} {a : Account}
    (ha : v.account? id = some a) : ∃ a', (s.run setup v).2.account? id = some a' ∧ F a' = F a := by
  obtain ⟨op, hs, hev⟩ | ⟨b, hb, hb'⟩ | hsame := accounts_step setup h s id
  · exact hev.keeps (fun a a' => hw op a a' hs) ha
  · rw [ha] at hb
    cases hb
    exact ⟨_, hb', he a⟩
  · exact ⟨a, hsame.trans ha, rfl⟩

/-- A part of the accounts that no write of the step's call and no confirmed address changes is after a step as before,
or it is that of a new account. -/
theorem step_map {β : Type} {F : Account → β} {P : β → Prop} (h : v.Sound) (s : Step)
    (hw : ∀ op a a', s = .call op → Write setup v.clock op a a' → F a' = F a)
    (hc : ∀ (op : Operation) a, op.Creates setup a → P (F a))
    (he : ∀ a : Account, F (a.changed [.emailVerified true]) = F a) (id : String) :
    (s.run setup v).2.part? F id = v.part? F id ∨
      (v.account? id = none ∧ ∃ b, (s.run setup v).2.part? F id = some b ∧ P b) := by
  unfold part?
  cases ha : v.account? id with
  | some a =>
    obtain ⟨a', ha', hF⟩ := step_keeps h s hw he ha
    rw [ha', Option.map_some, Option.map_some, hF]
    exact .inl rfl
  | none =>
    have hall : ∀ a ∈ (s.run setup v).2.account? id, P (F a) := by
      obtain ⟨op, hs, hev⟩ | ⟨b, hb, -⟩ | hsame := accounts_step setup h s id
      · refine hev.all (P := fun a => P (F a)) (fun a a' hP hwr => ?_) (hc op) ?_
        · rw [hw op a a' hs hwr]
          exact hP
        · simp [ha]
      · rw [ha] at hb
        cases hb
      · simp [hsame, ha]
    cases ha' : (s.run setup v).2.account? id with
    | none => exact .inl rfl
    | some a' => exact .inr ⟨rfl, F a', rfl, hall a' ha'⟩

/-- Where every new account has the part alike, accounts that are not there count as new ones. -/
theorem step_part {β : Type} {F : Account → β} {fresh : β} (h : v.Sound) (s : Step)
    (hw : ∀ op a a', s = .call op → Write setup v.clock op a a' → F a' = F a)
    (hc : ∀ (op : Operation) a, op.Creates setup a → F a = fresh)
    (he : ∀ a : Account, F (a.changed [.emailVerified true]) = F a) (id : String) :
    (s.run setup v).2.part fresh F id = v.part fresh F id := by
  unfold part
  obtain hsame | ⟨hnone, b, hb, hfresh⟩ := step_map (P := (· = fresh)) h s hw hc he id
  · rw [hsame]
  · rw [hb, hfresh, part?, hnone]
    rfl

/-! ## Whole runs -/

namespace Run
variable {es : List (Entry S)}

theorem sound (hw : w.Sound) (h : Run setup w es v) : v.Sound := by
  induction h with
  | start => exact hw
  | step _ s ih => exact sound_step ih s

omit [LawfulStore S] in
/-- Every entry of a run was reached by a run of the entries before it. -/
theorem split (h : Run setup w es v) {pre post : List (Entry S)} {e : Entry S} (he : es = pre ++ e :: post) :
    Run setup w pre e.before ∧ e = Entry.of setup e.step e.before := by
  induction h generalizing post with
  | start => simp at he
  | @step es v hr s ih =>
    rcases List.eq_nil_or_concat post with rfl | ⟨post, last, rfl⟩
    · obtain ⟨rfl, hl⟩ := List.append_inj' he rfl
      cases hl
      exact ⟨hr, rfl⟩
    · rw [List.concat_eq_append, ← List.cons_append, ← List.append_assoc] at he
      obtain ⟨he, -⟩ := List.append_inj' he rfl
      exact ih he

omit [LawfulStore S] in
/-- The entry at a position was reached by the entries before it. -/
theorem split_at (h : Run setup w es v) {i : Nat} {e : Entry S} (he : es[i]? = some e) :
    Run setup w (es.take i) e.before ∧ e = Entry.of setup e.step e.before := by
  obtain ⟨hi, rfl⟩ := List.getElem?_eq_some_iff.1 he
  have hes : es = es.take i ++ es[i] :: es.drop (i + 1) := by
    rw [← List.drop_eq_getElem_cons hi, List.take_append_drop]
  exact h.split hes

/-- Every entry of a run is that of a step in a sound state. -/
theorem of_mem (hw : w.Sound) (h : Run setup w es v) {e : Entry S} (he : e ∈ es) :
    e.before.Sound ∧ e = Entry.of setup e.step e.before := by
  obtain ⟨pre, post, hs⟩ := List.append_of_mem he
  obtain ⟨hr, ho⟩ := h.split hs
  exact ⟨hr.sound hw, ho⟩

end Run

/-! ## A state to start from -/

/-- The settings of the production system, with sources that count. -/
def Setup.sample : Setup :=
  { sources := ⟨id, toString, toString, ⟨"abcdefghijklmnopqrstuu", []⟩⟩, hasher := .bcrypt Hasher.defaultRounds }

theorem Setup.isUsable_sample : Setup.sample.hasher.IsUsable Setup.sample.sources.salts :=
  ⟨by decide, by decide, by decide +kernel⟩

/-- An account with a confirmed address and a number, as registration makes it. -/
def Account.sample : Account :=
  { id := "1", email := "user@example.org", displayName := none, phoneNumber := some "+34600000000"
    credentials :=
      { passwordHash := ((Setup.sample.hasher.hash Setup.sample.sources.salts "password").toOption.getD "")
        emailVerified := true } }

theorem Account.hash_sample :
    Setup.sample.hasher.hash Setup.sample.sources.salts "password" = .ok Account.sample.credentials.passwordHash := by
  obtain ⟨stored, hs⟩ | ⟨hlong, -⟩ := Hasher.hash_of_isUsable Setup.isUsable_sample "password"
  · show _ = Except.ok ((Setup.sample.hasher.hash Setup.sample.sources.salts "password").toOption.getD "")
    rw [hs]
    rfl
  · exact absurd hlong (by decide +kernel)

theorem Account.isHash_sample : Hasher.IsHash Account.sample.credentials.passwordHash := ⟨_, _, _, hash_sample⟩

/-- The settings make hashes that they accept again. -/
theorem Setup.works_sample : Setup.sample.hasher.Works Setup.sample.sources.salts :=
  ⟨Setup.isUsable_sample, fun _ hc => nomatch hc⟩

theorem Account.verify_password : Hasher.verify Account.sample.credentials.passwordHash "password" = .ok true :=
  Hasher.verify_hash Setup.works_sample hash_sample

theorem Account.needsRehash_sample : Setup.sample.hasher.needsRehash Account.sample.credentials.passwordHash = .ok false :=
  Hasher.needsRehash_hash Setup.works_sample hash_sample

/-- A password that is too long for the hash of that account. -/
def Account.overlongPassword : String := String.ofList (List.replicate 73 'a')

theorem Account.verify_overlongPassword :
    Hasher.verify Account.sample.credentials.passwordHash overlongPassword = .ok false :=
  Hasher.verify_of_isTooLong (Hasher.isMemoryHard_of_hash_bcrypt hash_sample) (by decide +kernel)

/-- A state with that account only. -/
def World.sample : World MemoryStore :=
  { clock := .epoch, store := ⟨⟨[("1", .sample)]⟩, ⟨[("user@example.org", "1")]⟩⟩ }

theorem World.account?_sample {id : String} {a : Account} (h : World.sample.account? id = some a) :
    id = "1" ∧ a = .sample := by
  rw [World.account?, show LawfulStore.lookup World.sample.store id =
    List.lookup id [("1", Account.sample)] from rfl, Table.lookup_cons] at h
  split at h
  · next hi =>
    cases h
    exact ⟨hi.symm, rfl⟩
  · cases h

theorem World.account?_sample_self : World.sample.account? "1" = some .sample := by
  show List.lookup "1" [("1", Account.sample)] = some .sample
  rw [Table.lookup_cons, if_pos rfl]

theorem World.sound_sample : World.sample.Sound := by
  refine ⟨⟨fun id a h => ?_, fun e id h => ?_⟩, rfl⟩
  · obtain ⟨rfl, rfl⟩ := World.account?_sample h
    rfl
  · rw [show World.sample.store.emailIndex.get? e = List.lookup e [("user@example.org", "1")] from rfl,
      Table.lookup_cons] at h
    split at h
    · cases h
      exact Option.isSome_iff_exists.2 ⟨_, World.account?_sample_self⟩
    · cases h

/-! ### A second factor for the account -/

/-- The number of the account is proven, and codes by SMS are turned on. -/
def Step.activation : List Step :=
  [.call (.initiatePhone "1" "+34600000000"), .call (.verifyPhone "1" "000000"), .call (.enableSms "1")]

def Account.guarded : Account :=
  { Account.sample with credentials := { Account.sample.credentials with phoneVerified := true, smsEnabled := true } }

def World.guarded : World MemoryStore := World.sample.through Setup.sample Step.activation

theorem World.sound_guarded : World.guarded.Sound := (Run.of_steps ..).sound sound_sample

theorem World.admitted_guarded :
    Login.Admitted Setup.sample "user@example.org" "password" World.guarded .guarded none :=
  ⟨⟨rfl, rfl, Account.verify_password, rfl⟩, Login.upgradedHash_of_current Account.needsRehash_sample _⟩

/-- The state after a login, in which a code is pending. -/
def World.challenged : World MemoryStore :=
  ((Login.proceed Setup.sample .guarded none).runOn (Login.admitted .guarded none World.guarded)).2

theorem World.run_guarded :
    (Operation.login "user@example.org" "password" none).run Setup.sample World.guarded =
      (.ok (.challenged "1"), World.challenged) := by
  rw [Operation.run_login _ sound_guarded, admitted_guarded.runOn_login sound_guarded]
  rfl

/-- What follows such a login: another code is refused, the right one opens a session, and its token is exchanged. -/
def Step.completion : List Step :=
  [.call (.finishLogin "1" "000000" none), .call (.finishLogin "1" "000001" none), .call (.refresh "1" none)]

/-- The account gets a second factor, and a login goes through both of its steps. -/
def Step.smsSession : List Step :=
  Step.activation ++ .call (.login "user@example.org" "password" none) :: Step.completion

theorem entriesOf_smsSession : entriesOf Setup.sample World.sample Step.smsSession =
    entriesOf Setup.sample World.sample Step.activation ++
      Entry.of Setup.sample (.call (.login "user@example.org" "password" none)) World.guarded ::
        entriesOf Setup.sample World.challenged Step.completion := by
  rw [Step.smsSession, entriesOf_append, entriesOf_cons, Step.run_call, ← World.guarded, World.run_guarded]

theorem World.through_smsSession :
    World.sample.through Setup.sample Step.smsSession = World.challenged.through Setup.sample Step.completion := by
  rw [Step.smsSession, through_append, ← World.guarded, through, List.foldl_cons, Step.run_call, run_guarded]
  rfl

end AccountSecurity
