import AccountSecurity.Proofs.Service.TokenIssuer
import AccountSecurity.Proofs.Run
import Mathlib.Data.List.Induction

/-!
# Rotation of tokens

Calls of the token issuer in any order, while the clock moves as it likes.

* `TokenIssuer.Call`, `TokenIssuer.History` : the calls, and the turns that were taken with their answers;
* `Turn.deals_of` : what one turn does to the sessions;
* `Issued` : a pair of tokens that goes back, through exchanges, to a session opened for an account;
* `Live`, `get?_iff_live` : the open sessions are those of the pairs that were issued and not used since;
* `rotation_linear` : **every refresh token is good for one use, and every session is its first owner's.**
-/

namespace AccountSecurity

namespace TokenIssuer
open World

/-! ## Calls and turns -/

/-- A call of the token issuer, or another time on the clock. -/
inductive Call where
  | issue (account : AccountView)
  | refresh (token : String)
  | revoke (token : String)
  | resolve (token : String)
  | clock (now : { t : DateTime // t.offset = 0 })

/-- What a call answers. -/
inductive Answer where
  | tokens (tokens : TokenSet)
  | revoked (found : Bool)
  | resolved (account : Option AccountView)
  | done

/-- The call uses up a refresh token, whether or not it succeeds. -/
def Call.names (token : String) : Call → Bool
  | refresh t | revoke t => t = token
  | _ => false

variable {S : Type}

/-- The answer to a call, and the state after it. -/
def Call.run (setup : Setup) : Call → World S → Except Failure Answer × World S
  | issue account, w => (.tokens <$> TokenIssuer.issue setup account).runOn w
  | refresh token, w => (.tokens <$> TokenIssuer.refresh setup token).runOn w
  | revoke token, w => (.revoked <$> TokenIssuer.revoke token).runOn w
  | resolve token, w => (.resolved <$> TokenIssuer.resolve token).runOn w
  | clock now, w => (.ok .done, { w with clock := now })

/-- A call that was made, with the state before it, its answer and the state after it. -/
structure Turn (S : Type) where
  before : World S
  call : Call
  answer : Except Failure Answer
  after : World S

/-- The turn of a call in a state. -/
@[simps] def Turn.of (setup : Setup) (c : Call) (v : World S) : Turn S :=
  ⟨v, c, (c.run setup v).1, (c.run setup v).2⟩

/-- The pair of tokens that was handed out. -/
def Turn.tokens? (e : Turn S) : Option TokenSet :=
  match e.answer with
  | .ok (.tokens tokens) => some tokens
  | _ => none

/-- The turns from `w`, and the state that they lead to. -/
inductive History (setup : Setup) (w : World S) : List (Turn S) → World S → Prop
  | start : History setup w [] w
  | step {es : List (Turn S)} {v : World S} (h : History setup w es v) (c : Call) :
      History setup w (es ++ [Turn.of setup c v]) (Turn.of setup c v).after

/-- A pair of tokens that was handed out at a position, and the account of the first pair in its chain of
exchanges. -/
inductive Issued : List (Turn S) → Nat → TokenSet → AccountView → Prop
  | opened {es : List (Turn S)} {e : Turn S} {tokens : TokenSet} {account : AccountView}
      (hc : e.call = .issue account) (ht : e.tokens? = some tokens) : Issued (es ++ [e]) es.length tokens account
  | exchanged {es : List (Turn S)} {e : Turn S} {m : Nat} {old tokens : TokenSet} {account : AccountView}
      (h : Issued es m old account) (hc : e.call = .refresh old.refreshToken) (ht : e.tokens? = some tokens) :
      Issued (es ++ [e]) es.length tokens account
  | kept {es : List (Turn S)} {e : Turn S} {n : Nat} {tokens : TokenSet} {account : AccountView}
      (h : Issued es n tokens account) : Issued (es ++ [e]) n tokens account

theorem Turn.tokens?_eq_some {e : Turn S} {tokens : TokenSet} :
    e.tokens? = some tokens ↔ e.answer = .ok (.tokens tokens) := by
  unfold tokens?
  split <;> simp_all

/-! ## One turn -/

/-- The sessions without the one that the call uses up. -/
def Call.spend : Call → Sessions → Sessions
  | refresh t, x => if t = "" then x else x.erase t
  | revoke t, x => x.erase t
  | _, x => x

theorem Call.get?_spend {x : Sessions} (hx : x.get? "" = none) (c : Call) (k : String) :
    (c.spend x).get? k = if c.names k then none else x.get? k := by
  cases c with
  | refresh t =>
    by_cases ht : t = ""
    · subst ht
      by_cases hk : "" = k
      · subst hk
        simp [spend, names, hx]
      · simp [spend, names, hk]
    · simp [spend, names, ht, Table.get?_erase]
  | revoke t => simp [spend, names, Table.get?_erase]
  | issue | resolve | clock => simp [spend, names]

theorem Call.spend_eq (c : Call) (x : Sessions) : c.spend x = x ∨ ∃ t, c.spend x = x.erase t := by
  cases c with
  | refresh t =>
    by_cases ht : t = ""
    · exact .inl (if_pos ht)
    · exact .inr ⟨t, if_neg ht⟩
  | revoke t => exact .inr ⟨t, rfl⟩
  | issue | resolve | clock => exact .inl rfl

theorem Call.get?_of_spend {x : Sessions} {c : Call} {k : String} {s : Session} (h : (c.spend x).get? k = some s) :
    x.get? k = some s := by
  obtain he | ⟨t, he⟩ := c.spend_eq x
  · exact he ▸ h
  · rw [he, Table.get?_erase] at h
    split at h
    · cases h
    · exact h

theorem Call.nodup_spend {x : Sessions} (hx : x.keys.Nodup) (c : Call) : (c.spend x).keys.Nodup := by
  obtain he | ⟨t, he⟩ := c.spend_eq x
  · rw [he]
    exact hx
  · rw [he]
    exact Table.nodup_keys_erase hx t

/-- What a turn does to the sessions: it uses one up, or none, and may hand out a new pair of tokens, for the account
that was given or that of the session used up. -/
inductive Turn.Deals (setup : Setup) (e : Turn S) : Prop
  | spent (ht : e.tokens? = none) (hs : e.after.sessions = e.call.spend e.before.sessions)
      (hn : e.before.tokensTaken ≤ e.after.tokensTaken)
  | dealt {s : Session} (ht : e.tokens? = some (nextTokens setup e.before))
      (hnext : nextSession? setup s.account e.before = some s)
      (hfor : e.call = .issue s.account ∨
        ∃ t s₀, e.call = .refresh t ∧ e.before.sessions.get? t = some s₀ ∧ s₀.account = s.account)
      (hs : e.after.sessions =
        (e.call.spend e.before.sessions).put (nextTokens setup e.before).refreshToken s)
      (hn : e.after.tokensTaken = e.before.tokensTaken + 2)

variable {setup : Setup} {w v x : World S} {c : Call}

/-- A refresh token that was exchanged was open. -/
theorem Turn.Deals.isSome_of_refresh {e : Turn S} {t : String} (h : e.Deals setup) (hc : e.call = .refresh t)
    (ht : e.tokens?.isSome) : (e.before.sessions.get? t).isSome := by
  cases h with
  | spent hnone => rw [hnone] at ht; cases ht
  | dealt _ _ hfor =>
    obtain hissue | ⟨t', s₀, hrefresh, hget, -⟩ := hfor
    · cases hc.symm.trans hissue
    · cases hc.symm.trans hrefresh
      exact Option.isSome_of_eq_some hget

/-- A turn that opens a session answers with tokens, to a call for them. -/
theorem Turn.Deals.get?_of_after {e : Turn S} (h : e.Deals setup)
    (hc : (∃ t, e.call = .revoke t ∨ e.call = .resolve t) ∨ ∃ f, e.answer = .error f) {t : String} {s : Session}
    (hs : e.after.sessions.get? t = some s) : e.before.sessions.get? t = some s := by
  cases h with
  | spent _ hkept => exact Call.get?_of_spend (hkept ▸ hs)
  | dealt htokens _ hfor =>
    obtain ⟨t, hc | hc⟩ | ⟨f, hf⟩ := hc
    · obtain hissue | ⟨_, _, hrefresh, -⟩ := hfor
      · cases hc.symm.trans hissue
      · cases hc.symm.trans hrefresh
    · obtain hissue | ⟨_, _, hrefresh, -⟩ := hfor
      · cases hc.symm.trans hissue
      · cases hc.symm.trans hrefresh
    · cases hf.symm.trans (tokens?_eq_some.1 htokens)

/-- A turn that hands out no tokens. -/
theorem Turn.Deals.of_spent {r : Except Failure Answer} (hr : c.run setup v = (r, x))
    (ht : ∀ tokens, r ≠ .ok (.tokens tokens)) (hs : x.sessions = c.spend v.sessions)
    (hn : v.tokensTaken ≤ x.tokensTaken) : (Turn.of setup c v).Deals setup := by
  refine .spent (Option.eq_none_iff_forall_ne_some.2 fun tokens h => ?_) ?_ ?_
  · rw [tokens?_eq_some, of_answer, hr] at h
    exact ht tokens h
  · rw [of_after, hr]
    exact hs
  · rw [of_after, hr]
    exact hn

/-- A turn that hands out the next tokens. -/
theorem Turn.Deals.of_dealt {s : Session} (hr : c.run setup v = (.ok (.tokens (nextTokens setup v)), x))
    (hnext : nextSession? setup s.account v = some s)
    (hfor : c = .issue s.account ∨
      ∃ t s₀, c = .refresh t ∧ v.sessions.get? t = some s₀ ∧ s₀.account = s.account)
    (hs : x.sessions = (c.spend v.sessions).put (nextTokens setup v).refreshToken s)
    (hn : x.tokensTaken = v.tokensTaken + 2) : (Turn.of setup c v).Deals setup := by
  refine .dealt (s := s) ?_ hnext hfor ?_ ?_
  · rw [tokens?_eq_some, of_answer, hr, of_before]
  · rw [of_after, hr]
    exact hs
  · rw [of_after, hr]
    exact hn

theorem nextSession?_eq_some {account : AccountView} {s : Session} : nextSession? setup account v = some s ↔
    s.account = account ∧ s.accessToken = (nextTokens setup v).accessToken ∧
      v.clock.addSeconds? setup.lifetimes.accessSeconds = some s.accessExpiresAt ∧
      v.clock.addSeconds? setup.lifetimes.refreshSeconds = some s.refreshExpiresAt := by
  unfold nextSession?
  simp only [bind, Option.bind_eq_some_iff, pure, Option.some.injEq]
  constructor
  · rintro ⟨t, ht, u, hu, rfl⟩
    exact ⟨rfl, rfl, ht, hu⟩
  · obtain ⟨account', accessToken, t, u⟩ := s
    rintro ⟨rfl, rfl, ht, hu⟩
    exact ⟨t, ht, u, hu, rfl⟩

variable [AccountStore S] [LawfulStore S]

theorem runOn_resolve (h : v.Sound) (token : String) :
    (resolve token).runOn v = (.ok (Sessions.resolve? v.sessions token v.clock), v) := by
  unfold resolve
  rw [Action.runOn_bind_of_ok (runOn_utcNow h)]
  rfl

theorem run_resolve (h : v.Sound) (token : String) :
    (Call.resolve token).run setup v = (.ok (.resolved (Sessions.resolve? v.sessions token v.clock)), v) := by
  have hr : (Call.resolve token).run setup v = _ := Action.runOn_map ..
  rw [hr, runOn_resolve h]
  rfl

theorem run_refresh_unknown (h : v.Sound) {token : String} (hne : token ≠ "") (hs : v.sessions.get? token = none) :
    ((Call.refresh token).run setup v).1 = .error (.refused (.invalidToken .unknown)) := by
  have hr : (Call.refresh token).run setup v = _ := Action.runOn_map ..
  rw [hr, runOn_refresh h, if_neg hne, hs]
  rfl

theorem deals_issue (h : v.Sound) (account : AccountView) : (Turn.of setup (.issue account) v).Deals setup := by
  have hr : (Call.issue account).run setup v = _ := Action.runOn_map ..
  rw [runOn_issue h] at hr
  cases hs : nextSession? setup account v with
  | none =>
    rw [hs] at hr
    exact .of_spent hr nofun rfl (Nat.le_add_right ..)
  | some s =>
    rw [hs] at hr
    obtain rfl := account_of_nextSession hs
    exact .of_dealt hr hs (.inl rfl) rfl rfl

theorem deals_refresh (h : v.Sound) (token : String) : (Turn.of setup (.refresh token) v).Deals setup := by
  have hr : (Call.refresh token).run setup v = _ := Action.runOn_map ..
  rw [runOn_refresh h] at hr
  by_cases ht : token = ""
  · rw [if_pos ht] at hr
    exact .of_spent hr nofun (if_pos ht).symm (Nat.le_refl _)
  rw [if_neg ht] at hr
  have hspend : (Call.refresh token).spend v.sessions = v.sessions.erase token := if_neg ht
  cases hget : v.sessions.get? token with
  | none =>
    rw [hget] at hr
    exact .of_spent hr nofun hspend.symm (Nat.le_refl _)
  | some s₀ =>
    rw [hget] at hr
    dsimp only at hr
    cases hlate : s₀.refreshExpiresAt.before v.clock with
    | true =>
      rw [hlate, if_pos rfl] at hr
      exact .of_spent hr nofun hspend.symm (Nat.le_refl _)
    | false =>
      rw [hlate, if_neg Bool.false_ne_true] at hr
      cases hs : nextSession? setup s₀.account v with
      | none =>
        rw [hs] at hr
        exact .of_spent hr nofun hspend.symm (Nat.le_add_right ..)
      | some s =>
        rw [hs] at hr
        have ha := account_of_nextSession hs
        refine .of_dealt hr (ha ▸ hs) (.inr ⟨token, s₀, rfl, hget, ha.symm⟩) ?_ rfl
        rw [hspend]
        rfl

/-- Every turn uses up at most one session, and hands out at most one pair of tokens. -/
theorem Turn.deals_of (h : v.Sound) (c : Call) : (Turn.of setup c v).Deals setup := by
  cases c with
  | issue account => exact deals_issue h account
  | refresh token => exact deals_refresh h token
  | revoke token => exact .spent rfl rfl (Nat.le_refl _)
  | resolve token => exact .of_spent (run_resolve h token) nofun rfl (Nat.le_refl _)
  | clock now => exact .spent rfl rfl (Nat.le_refl _)

theorem sound_turn (h : v.Sound) (c : Call) : (Turn.of setup c v).after.Sound := by
  cases c with
  | issue account =>
    rw [Turn.of_after, show ((Call.issue account).run setup v).2 = _ from Action.snd_runOn_map .., runOn_issue h]
    split
    · exact h.tookTokens
    · exact h.tookTokens.opened ..
  | refresh token =>
    rw [Turn.of_after, show ((Call.refresh token).run setup v).2 = _ from Action.snd_runOn_map .., runOn_refresh h]
    repeat' split
    · exact h
    · exact h.closed token
    · exact h.closed token
    · exact (h.closed token).tookTokens
    · exact (h.closed token).tookTokens.opened ..
  | revoke token => exact h.closed token
  | resolve token =>
    rw [Turn.of_after, run_resolve h]
    exact h
  | clock now => exact ⟨h.store, now.2⟩

/-! ## Histories -/

namespace History
variable {es : List (Turn S)}

theorem sound (hw : w.Sound) (h : History setup w es v) : v.Sound := by
  induction h with
  | start => exact hw
  | step _ c ih => exact sound_turn ih c

omit [AccountStore S] [LawfulStore S] in
/-- The turn at a position was reached by the turns before it. -/
theorem split_at (h : History setup w es v) {i : Nat} {e : Turn S} (he : es[i]? = some e) :
    History setup w (es.take i) e.before ∧ e = Turn.of setup e.call e.before := by
  induction h with
  | start => cases he
  | @step es v hr c ih =>
    obtain ⟨hi, -⟩ := List.getElem?_eq_some_iff.1 he
    rw [List.length_append, List.length_singleton] at hi
    obtain hi | rfl := Nat.lt_succ_iff_lt_or_eq.1 hi
    · rw [List.getElem?_append_left hi] at he
      rw [List.take_append_of_le_length (Nat.le_of_lt hi)]
      exact ih he
    · rw [List.getElem?_concat_length] at he
      cases he
      rw [List.take_left]
      exact ⟨hr, rfl⟩

theorem deals_next (hw : w.Sound) (h : History setup w es v) (c : Call) : (Turn.of setup c v).Deals setup :=
  Turn.deals_of (h.sound hw) c

theorem deals (hw : w.Sound) (h : History setup w es v) {i : Nat} {e : Turn S} (he : es[i]? = some e) :
    e.Deals setup := by
  obtain ⟨hbefore, heq⟩ := h.split_at he
  exact heq ▸ Turn.deals_of (hbefore.sound hw) e.call

/-- Tokens that were handed out were taken from the source, and are not taken again. -/
theorem taken_le (hw : w.Sound) (h : History setup w es v) {i : Nat} {e : Turn S} {tokens : TokenSet}
    (he : es[i]? = some e) (ht : e.tokens? = some tokens) :
    tokens = nextTokens setup e.before ∧ e.before.tokensTaken + 2 ≤ v.tokensTaken := by
  induction h with
  | start => cases he
  | @step es v hr c ih =>
    have hdeals := hr.deals_next hw c
    obtain hi | hi := Nat.lt_or_ge i es.length
    · rw [List.getElem?_append_left hi] at he
      obtain ⟨hnext, hle⟩ := ih he
      refine ⟨hnext, hle.trans ?_⟩
      cases hdeals with
      | spent _ _ hn => exact hn
      | dealt _ _ _ _ hn => rw [hn]; exact Nat.le_add_right ..
    · obtain rfl : e = Turn.of setup c v := by
        rw [List.getElem?_append_right hi] at he
        exact List.mem_singleton.1 (List.mem_of_getElem? he)
      cases hdeals with
      | spent hnone => rw [hnone] at ht; cases ht
      | dealt hsome _ _ _ hn =>
        rw [hsome] at ht
        cases ht
        exact ⟨rfl, hn.ge⟩

/-- Of two pairs of tokens the later one has both tokens of its own. -/
theorem ne_of_lt (hw : w.Sound) (hinj : Function.Injective setup.sources.tokens) (h : History setup w es v) {i j : Nat}
    {e e' : Turn S} {tokens tokens' : TokenSet} (hij : i < j) (he : es[i]? = some e) (he' : es[j]? = some e')
    (ht : e.tokens? = some tokens) (ht' : e'.tokens? = some tokens') :
    tokens.accessToken ≠ tokens'.accessToken ∧ tokens.refreshToken ≠ tokens'.refreshToken := by
  obtain ⟨rfl, hle⟩ := (h.split_at he').1.taken_le hw (by rw [List.getElem?_take_of_lt hij, he]) ht
  obtain ⟨rfl, -⟩ := h.taken_le hw he' ht'
  constructor
  · intro heq
    have := hinj heq
    omega
  · intro heq
    have := hinj heq
    omega

/-- A token belongs to one pair. -/
theorem position_unique (hw : w.Sound) (hinj : Function.Injective setup.sources.tokens) (h : History setup w es v)
    {i j : Nat} {e e' : Turn S} {tokens tokens' : TokenSet} (he : es[i]? = some e) (he' : es[j]? = some e')
    (ht : e.tokens? = some tokens) (ht' : e'.tokens? = some tokens')
    (heq : tokens.accessToken = tokens'.accessToken ∨ tokens.refreshToken = tokens'.refreshToken) : i = j := by
  obtain hij | hij | hij := Nat.lt_trichotomy i j
  · have hne := h.ne_of_lt hw hinj hij he he' ht ht'
    exact absurd heq (not_or.2 hne)
  · exact hij
  · have hne := h.ne_of_lt hw hinj hij he' he ht' ht
    exact absurd (heq.imp Eq.symm Eq.symm) (not_or.2 hne)

end History

/-! ## Pairs of tokens -/

section Issued
variable {es : List (Turn S)} {e : Turn S} {n m : Nat} {tokens tokens' : TokenSet} {a a' : AccountView}

omit [AccountStore S] [LawfulStore S]

theorem issued_concat : Issued (es ++ [e]) n tokens a ↔ Issued es n tokens a ∨ (n = es.length ∧
    e.tokens? = some tokens ∧ (e.call = .issue a ∨ ∃ m old, Issued es m old a ∧ e.call = .refresh old.refreshToken)) := by
  constructor
  · intro h
    generalize hl : es ++ [e] = l at h
    cases h with
    | opened hc ht =>
      obtain ⟨rfl, ⟨⟩⟩ := List.append_inj' hl rfl
      exact .inr ⟨rfl, ht, .inl hc⟩
    | exchanged h hc ht =>
      obtain ⟨rfl, ⟨⟩⟩ := List.append_inj' hl rfl
      exact .inr ⟨rfl, ht, .inr ⟨_, _, h, hc⟩⟩
    | kept h =>
      obtain ⟨rfl, -⟩ := List.append_inj' hl rfl
      exact .inl h
  · rintro (h | ⟨rfl, ht, hc | ⟨m, old, h, hc⟩⟩)
    · exact h.kept
    · exact .opened hc ht
    · exact h.exchanged hc ht

theorem Issued.turn (h : Issued es n tokens a) : ∃ e, es[n]? = some e ∧ e.tokens? = some tokens := by
  induction h with
  | opened hc ht => exact ⟨_, List.getElem?_concat_length, ht⟩
  | exchanged h hc ht => exact ⟨_, List.getElem?_concat_length, ht⟩
  | kept h ih =>
    obtain ⟨e, he, ht⟩ := ih
    exact ⟨e, by rw [List.getElem?_append_left (List.getElem?_eq_some_iff.1 he).1, he], ht⟩

theorem Issued.lt_length (h : Issued es n tokens a) : n < es.length := by
  obtain ⟨e, he, -⟩ := h.turn
  exact (List.getElem?_eq_some_iff.1 he).1

theorem Issued.append (h : Issued es n tokens a) (later : List (Turn S)) : Issued (es ++ later) n tokens a := by
  induction later using List.reverseRecOn with
  | nil => rwa [List.append_nil]
  | append_singleton later e ih =>
    rw [← List.append_assoc]
    exact ih.kept

theorem Issued.of_take (h : Issued (es.take m) n tokens a) : Issued es n tokens a := by
  rw [← List.take_append_drop m es]
  exact h.append _

/-- A pair that a turn hands out goes back as far as the session that it is exchanged for. -/
theorem Issued.of_dealt (hc : e.call = .issue a ∨
      ∃ t s₀, e.call = .refresh t ∧ e.before.sessions.get? t = some s₀ ∧ s₀.account = a)
    (hopen : ∀ t s, e.before.sessions.get? t = some s →
      ∃ m pair, Issued es m pair s.account ∧ pair.refreshToken = t)
    (ht : e.tokens? = some tokens) : Issued (es ++ [e]) es.length tokens a := by
  obtain hc | ⟨t, s₀, hc, hget, rfl⟩ := hc
  · exact .opened hc ht
  · obtain ⟨m, pair, hi, rfl⟩ := hopen t s₀ hget
    exact hi.exchanged hc ht

end Issued

section Unique
variable {es : List (Turn S)} {n m : Nat} {tokens tokens' : TokenSet} {a a' : AccountView}

omit [AccountStore S] [LawfulStore S] in
theorem Issued.tokens_unique (h : Issued es n tokens a) (h' : Issued es n tokens' a') : tokens = tokens' := by
  obtain ⟨e, he, ht⟩ := h.turn
  obtain ⟨e', he', ht'⟩ := h'.turn
  cases he.symm.trans he'
  exact Option.some.inj (ht.symm.trans ht')

theorem Issued.position_unique (hw : w.Sound) (hinj : Function.Injective setup.sources.tokens)
    (hr : History setup w es v) (h : Issued es n tokens a) (h' : Issued es m tokens' a')
    (heq : tokens.accessToken = tokens'.accessToken ∨ tokens.refreshToken = tokens'.refreshToken) : n = m := by
  obtain ⟨e, he, ht⟩ := h.turn
  obtain ⟨e', he', ht'⟩ := h'.turn
  exact hr.position_unique hw hinj he he' ht ht' heq

/-- A chain of exchanges goes back to one account. -/
theorem Issued.account_unique (hw : w.Sound) (hinj : Function.Injective setup.sources.tokens)
    (hr : History setup w es v) (h : Issued es n tokens a) (h' : Issued es n tokens' a') : a = a' := by
  induction hr generalizing n tokens tokens' with
  | start => exact absurd h.lt_length (Nat.not_lt_zero n)
  | @step es v hr c ih =>
    obtain hold | ⟨rfl, -, hc⟩ := issued_concat.1 h
    · obtain hold' | ⟨rfl, -⟩ := issued_concat.1 h'
      · exact ih hold hold'
      · exact absurd hold.lt_length (Nat.lt_irrefl _)
    obtain hold' | ⟨-, -, hc'⟩ := issued_concat.1 h'
    · exact absurd hold'.lt_length (Nat.lt_irrefl _)
    obtain hc | ⟨m, old, hm, hc⟩ := hc
    · obtain hc' | ⟨m', old', -, hc'⟩ := hc'
      · cases hc.symm.trans hc'
        rfl
      · cases hc.symm.trans hc'
    · obtain hc' | ⟨m', old', hm', hc'⟩ := hc'
      · cases hc.symm.trans hc'
      · have hold : old.refreshToken = old'.refreshToken := Call.refresh.inj (hc.symm.trans hc')
        obtain rfl := hm.position_unique hw hinj hr hm' (.inr hold)
        exact ih hm hm'

/-- A token belongs to one pair, and the pair to one account. -/
theorem Issued.unique (hw : w.Sound) (hinj : Function.Injective setup.sources.tokens) (hr : History setup w es v)
    (h : Issued es n tokens a) (h' : Issued es m tokens' a')
    (heq : tokens.accessToken = tokens'.accessToken ∨ tokens.refreshToken = tokens'.refreshToken) :
    n = m ∧ tokens = tokens' ∧ a = a' := by
  obtain rfl := h.position_unique hw hinj hr h' heq
  exact ⟨rfl, h.tokens_unique h', h.account_unique hw hinj hr h'⟩

end Unique

/-! ## Open sessions -/

/-- The session of a pair that was issued at a position and whose refresh token no later call named. -/
structure Live (setup : Setup) (es : List (Turn S)) (n : Nat) (tokens : TokenSet) (s : Session) : Prop where
  issued : Issued es n tokens s.account
  session : ∃ e, es[n]? = some e ∧ tokens = nextTokens setup e.before ∧ nextSession? setup s.account e.before = some s
  unused : ∀ e ∈ es.drop (n + 1), e.call.names tokens.refreshToken = false

section Live
variable {es : List (Turn S)} {e : Turn S} {n : Nat} {tokens : TokenSet} {s : Session}

omit [AccountStore S] [LawfulStore S] in
theorem Live.accessToken (h : Live setup es n tokens s) : tokens.accessToken = s.accessToken := by
  obtain ⟨e, -, rfl, hs⟩ := h.session
  exact (nextSession?_eq_some.1 hs).2.1.symm

omit [AccountStore S] [LawfulStore S] in
/-- A pair lives on until a call names its refresh token, and every new pair lives. -/
theorem live_concat : Live setup (es ++ [e]) n tokens s ↔
    (Live setup es n tokens s ∧ e.call.names tokens.refreshToken = false) ∨
    (n = es.length ∧ Issued (es ++ [e]) n tokens s.account ∧ tokens = nextTokens setup e.before ∧
      nextSession? setup s.account e.before = some s) := by
  constructor
  · rintro ⟨hi, ⟨e', he', hpair, hs⟩, hu⟩
    obtain hold | ⟨rfl, -⟩ := issued_concat.1 hi
    · have hlt := hold.lt_length
      rw [List.drop_append_of_le_length hlt, List.forall_mem_append] at hu
      rw [List.getElem?_append_left hlt] at he'
      exact .inl ⟨⟨hold, ⟨e', he', hpair, hs⟩, hu.1⟩, hu.2 e (List.mem_singleton_self e)⟩
    · rw [List.getElem?_concat_length] at he'
      cases he'
      exact .inr ⟨rfl, hi, hpair, hs⟩
  · rintro (⟨⟨hi, ⟨e', he', hpair, hs⟩, hu⟩, hn⟩ | ⟨rfl, hi, hpair, hs⟩)
    · have hlt := hi.lt_length
      refine ⟨hi.kept, ⟨e', by rw [List.getElem?_append_left hlt, he'], hpair, hs⟩, ?_⟩
      rw [List.drop_append_of_le_length hlt, List.forall_mem_append]
      exact ⟨hu, fun x hx => List.mem_singleton.1 hx ▸ hn⟩
    · refine ⟨hi, ⟨e, List.getElem?_concat_length, hpair, hs⟩, ?_⟩
      rw [List.drop_of_length_le (by simp)]
      exact fun x hx => absurd hx List.not_mem_nil

/-- **The open sessions are those of the pairs that were issued and whose refresh tokens were not named since.** -/
theorem get?_iff_live (hw : w.Sound) (hnone : w.sessions = .empty) (hinj : Function.Injective setup.sources.tokens)
    (hne : ∀ n, setup.sources.tokens n ≠ "") (hr : History setup w es v) (t : String) (s : Session) :
    v.sessions.get? t = some s ↔ ∃ n tokens, Live setup es n tokens s ∧ tokens.refreshToken = t := by
  induction hr generalizing t s with
  | start =>
    rw [hnone]
    constructor
    · exact nofun
    · rintro ⟨n, tokens, hl, -⟩
      exact absurd hl.issued.lt_length (Nat.not_lt_zero n)
  | @step es v hr c ih =>
    have hempty : v.sessions.get? "" = none := by
      refine Option.eq_none_iff_forall_ne_some.2 fun s hs => ?_
      obtain ⟨n, tokens, hl, ht⟩ := (ih "" s).1 hs
      obtain ⟨e, -, rfl, -⟩ := hl.session
      exact hne (e.before.tokensTaken + 1) ht
    -- what was live stays so unless the call names it
    have hold : (c.spend v.sessions).get? t = some s ↔
        ∃ n tokens, (Live setup es n tokens s ∧ c.names tokens.refreshToken = false) ∧ tokens.refreshToken = t := by
      rw [Call.get?_spend hempty]
      constructor
      · intro h
        split at h
        · cases h
        · next hc =>
          obtain ⟨n, tokens, hl, rfl⟩ := (ih t s).1 h
          exact ⟨n, tokens, ⟨hl, Bool.eq_false_iff.2 hc⟩, rfl⟩
      · rintro ⟨n, tokens, ⟨hl, hc⟩, rfl⟩
        rw [hc, if_neg Bool.false_ne_true]
        exact (ih _ s).2 ⟨n, tokens, hl, rfl⟩
    have hconcat : ∀ n tokens, Live setup (es ++ [Turn.of setup c v]) n tokens s ↔ _ := fun n tokens => live_concat
    cases hr.deals_next hw c with
    | spent ht hs =>
      rw [hs, Turn.of_call, Turn.of_before, hold]
      refine exists_congr fun n => exists_congr fun tokens => and_congr_left fun _ => ?_
      rw [hconcat]
      refine ⟨.inl, ?_⟩
      rintro (h | ⟨rfl, hi, -⟩)
      · exact h
      · obtain hi | ⟨-, ht', -⟩ := issued_concat.1 hi
        · exact absurd hi.lt_length (Nat.lt_irrefl _)
        · rw [ht] at ht'
          cases ht'
    | @dealt s' ht hnext hfor hs =>
      have hissued : Issued (es ++ [Turn.of setup c v]) es.length (nextTokens setup v) s'.account :=
        .of_dealt hfor (fun t s hs => let ⟨m, pair, hl, ht⟩ := (ih t s).1 hs; ⟨m, pair, hl.issued, ht⟩) ht
      rw [hs, Table.get?_put, Turn.of_call, Turn.of_before]
      by_cases hnew : (nextTokens setup v).refreshToken = t
      · rw [if_pos hnew]
        constructor
        · rintro ⟨⟩
          exact ⟨es.length, nextTokens setup v, (hconcat ..).2 (.inr ⟨rfl, hissued, rfl, hnext⟩), hnew⟩
        · rintro ⟨n, tokens, hl, rfl⟩
          obtain ⟨rfl, rfl, ha⟩ := hissued.unique hw hinj (hr.step c) hl.issued (.inr hnew)
          obtain ⟨e, he, -, hs'⟩ := hl.session
          rw [List.getElem?_concat_length] at he
          cases he
          rw [← ha] at hs'
          exact hnext.symm.trans hs'
      · rw [if_neg hnew, hold]
        refine exists_congr fun n => exists_congr fun tokens => and_congr_left fun hrt => ?_
        rw [hconcat]
        refine ⟨.inl, ?_⟩
        rintro (h | ⟨-, -, rfl, -⟩)
        · exact h
        · exact absurd hrt hnew

theorem nodup_keys (hw : w.Sound) (hnone : w.sessions = .empty) (hr : History setup w es v) :
    v.sessions.keys.Nodup := by
  induction hr with
  | start =>
    rw [hnone]
    exact List.nodup_nil
  | @step es v hr c ih =>
    cases hr.deals_next hw c with
    | spent _ hs =>
      rw [hs]
      exact c.nodup_spend ih
    | dealt _ _ _ hs =>
      rw [hs]
      exact Table.nodup_keys_put (c.nodup_spend ih) ..

end Live

/-! ## The life of a token -/

section Life
variable {es : List (Turn S)} {n : Nat} {tokens : TokenSet} {a : AccountView}

/-- A pair whose refresh token was not named has a session. -/
theorem Issued.live (hw : w.Sound) (hr : History setup w es v) (h : Issued es n tokens a)
    (hu : ∀ e ∈ es.drop (n + 1), e.call.names tokens.refreshToken = false) :
    ∃ s : Session, s.account = a ∧ Live setup es n tokens s := by
  obtain ⟨e, he, ht⟩ := h.turn
  cases hr.deals hw he with
  | spent hnone => rw [hnone] at ht; cases ht
  | @dealt s hsome hnext =>
    cases hsome.symm.trans ht
    obtain ⟨-, htoken, haccess, hrefresh⟩ := nextSession?_eq_some.1 hnext
    exact ⟨{ s with account := a }, rfl, h, ⟨e, he, rfl, nextSession?_eq_some.2 ⟨rfl, htoken, haccess, hrefresh⟩⟩, hu⟩

variable (hw : w.Sound) (hnone : w.sessions = .empty)
  (hinj : Function.Injective setup.sources.tokens) (hne : ∀ n, setup.sources.tokens n ≠ "")
  (hr : History setup w es v)
include hw hnone hinj hne hr

/-- A refresh token is open when it was issued and no call has named it since. -/
theorem isSome_get?_iff (t : String) : (v.sessions.get? t).isSome ↔
    ∃ n tokens a, Issued es n tokens a ∧ tokens.refreshToken = t ∧
      ∀ e ∈ es.drop (n + 1), e.call.names t = false := by
  rw [Option.isSome_iff_exists]
  constructor
  · rintro ⟨s, hs⟩
    obtain ⟨n, tokens, hl, rfl⟩ := (get?_iff_live hw hnone hinj hne hr t s).1 hs
    exact ⟨n, tokens, s.account, hl.issued, rfl, hl.unused⟩
  · rintro ⟨n, tokens, a, hi, rfl, hu⟩
    obtain ⟨s, -, hl⟩ := hi.live hw hr hu
    exact ⟨s, (get?_iff_live hw hnone hinj hne hr _ s).2 ⟨n, tokens, hl, rfl⟩⟩

/-- What is open at a turn was issued before. -/
theorem issued_before {i : Nat} {e : Turn S} {t : String} (he : es[i]? = some e)
    (hopen : (e.before.sessions.get? t).isSome) :
    ∃ n tokens a, n < i ∧ Issued es n tokens a ∧ tokens.refreshToken = t := by
  obtain ⟨n, tokens, a, hi, ht, -⟩ := (isSome_get?_iff hw hnone hinj hne (hr.split_at he).1 t).1 hopen
  have hlt := hi.lt_length
  rw [List.length_take] at hlt
  exact ⟨n, tokens, a, hlt.trans_le (Nat.min_le_left ..), hi.of_take, ht⟩

/-- A refresh token that was named after it was issued is never open again. -/
theorem get?_of_named {i j : Nat} {e e' : Turn S} (hni : n < i) (hij : i < j) (h : Issued es n tokens a)
    (he : es[i]? = some e) (he' : es[j]? = some e') (hnamed : e.call.names tokens.refreshToken) :
    e'.before.sessions.get? tokens.refreshToken = none := by
  refine Option.eq_none_iff_forall_ne_some.2 fun s hs => ?_
  obtain ⟨m, tokens', hl, heq⟩ := (get?_iff_live hw hnone hinj hne (hr.split_at he').1 _ s).1 hs
  obtain ⟨rfl, rfl, -⟩ := h.unique hw hinj hr hl.issued.of_take (.inr heq.symm)
  have hmem : e ∈ (es.take j).drop (n + 1) := by
    refine List.mem_of_getElem? (i := i - (n + 1)) ?_
    rw [List.getElem?_drop, Nat.add_sub_cancel' hni, List.getElem?_take_of_lt hij, he]
  rw [hl.unused e hmem] at hnamed
  cases hnamed

/-- Every session in the table is that of a live pair. -/
theorem live_of_mem {s : Session} (hs : s ∈ v.sessions.values) :
    ∃ n tokens, Live setup es n tokens s ∧ v.sessions.get? tokens.refreshToken = some s := by
  obtain ⟨k, hk⟩ := Table.exists_get?_of_mem_values (nodup_keys hw hnone hr) hs
  obtain ⟨n, tokens, hl, rfl⟩ := (get?_iff_live hw hnone hinj hne hr k s).1 hk
  exact ⟨n, tokens, hl, hk⟩

/-- A refresh token that was revoked, or named by an exchange after it was issued, is never accepted again. -/
theorem rejected {t : String} {i j : Nat} {e e' : Turn S} (hij : i < j) (he : es[i]? = some e) (he' : es[j]? = some e')
    (h : (e.call = .revoke t ∧ e.answer = .ok (.revoked true)) ∨
      (e.call = .refresh t ∧ ∃ n tokens account, n < i ∧ Issued es n tokens account ∧ tokens.refreshToken = t)) :
    (e'.call = .refresh t → e'.answer = .error (.refused (.invalidToken .unknown))) ∧
      (e'.call = .revoke t → e'.answer = .ok (.revoked false)) := by
  have hissued : e.call.names t ∧ ∃ n tokens account, n < i ∧ Issued es n tokens account ∧ tokens.refreshToken = t := by
    obtain ⟨hc, ha⟩ | ⟨hc, hi⟩ := h
    · rw [(hr.split_at he).2, hc] at ha
      have hopen : (e.before.sessions.get? t).isSome := Answer.revoked.inj (Except.ok.inj ha)
      exact ⟨by simp [hc, Call.names], issued_before hw hnone hinj hne hr he hopen⟩
    · exact ⟨by simp [hc, Call.names], hi⟩
  obtain ⟨hnamed, n, tokens, account, hni, hi, rfl⟩ := hissued
  have hclosed := get?_of_named hw hnone hinj hne hr hni hij hi he he' hnamed
  obtain ⟨hbefore, heq⟩ := hr.split_at he'
  constructor
  · intro hc
    rw [heq, Turn.of_answer, hc]
    refine run_refresh_unknown (hbefore.sound hw) ?_ hclosed
    obtain ⟨x, hx, hx'⟩ := hi.turn
    rw [(hr.taken_le hw hx hx').1]
    exact hne (x.before.tokensTaken + 1)
  · intro hc
    rw [heq, Turn.of_answer, hc]
    show Except.ok (Answer.revoked (e'.before.sessions.get? tokens.refreshToken).isSome) = _
    rw [hclosed]
    rfl

/-- No refresh token is exchanged a second time. -/
theorem not_refreshed_twice {t : String} {i j : Nat} {e e' : Turn S} (hij : i < j) (he : es[i]? = some e)
    (he' : es[j]? = some e') (hc : e.call = .refresh t) (hc' : e'.call = .refresh t) (ht : e.tokens?.isSome) :
    e'.tokens? = none := by
  have hopen := (hr.deals hw he).isSome_of_refresh hc ht
  have hagain := (rejected hw hnone hinj hne hr hij he he'
    (.inr ⟨hc, issued_before hw hnone hinj hne hr he hopen⟩)).1 hc'
  rw [Turn.tokens?, hagain]

/-- An access token stands for the account of its pair, as long as the pair's refresh token is open and the access
token has not run out. -/
theorem resolve?_iff (t : String) (view : AccountView) :
    Sessions.resolve? v.sessions t v.clock = some view ↔ ∃ n e tokens expiry,
      es[n]? = some e ∧ Issued es n tokens view ∧ tokens.accessToken = t ∧
      (v.sessions.get? tokens.refreshToken).isSome ∧
      e.before.clock.addSeconds? setup.lifetimes.accessSeconds = some expiry ∧ v.clock.instant ≤ expiry.instant := by
  have hanswers : ∀ s : Session,
      s.answersTo t v.clock ↔ s.accessToken = t ∧ v.clock.instant ≤ s.accessExpiresAt.instant := by
    intro s
    simp [Session.answersTo, DateTime.before]
  unfold Sessions.resolve?
  rw [Option.map_eq_some_iff]
  constructor
  · rintro ⟨s, hfound, rfl⟩
    have hanswer : s.answersTo t v.clock := by simpa using List.find?_some hfound
    obtain ⟨htoken, htime⟩ := (hanswers s).1 hanswer
    obtain ⟨n, tokens, hl, hopen⟩ := live_of_mem hw hnone hinj hne hr (List.mem_of_find?_eq_some hfound)
    obtain ⟨e, he, -, hs⟩ := hl.session
    obtain ⟨-, -, hexpiry, -⟩ := nextSession?_eq_some.1 hs
    exact ⟨n, e, tokens, s.accessExpiresAt, he, hl.issued, hl.accessToken.trans htoken, Option.isSome_of_eq_some hopen,
      hexpiry, htime⟩
  · rintro ⟨n, e, tokens, expiry, he, hi, rfl, hopen, hexpiry, htime⟩
    obtain ⟨s, hs⟩ := Option.isSome_iff_exists.1 hopen
    obtain ⟨m, pair, hl, heq⟩ := (get?_iff_live hw hnone hinj hne hr _ s).1 hs
    obtain ⟨rfl, rfl, -⟩ := hl.issued.unique hw hinj hr hi (.inr heq)
    have hanswer : s.answersTo pair.accessToken v.clock := by
      obtain ⟨e', he', -, hs'⟩ := hl.session
      cases he.symm.trans he'
      obtain ⟨-, -, hexpiry', -⟩ := nextSession?_eq_some.1 hs'
      cases hexpiry.symm.trans hexpiry'
      exact (hanswers s).2 ⟨hl.accessToken.symm, htime⟩
    -- the session that is found first may be another, but not of another pair
    have hfirst : (v.sessions.values.find? fun s => s.answersTo pair.accessToken v.clock).isSome :=
      List.find?_isSome.2 ⟨s, Table.mem_values_of_get? hs, hanswer⟩
    obtain ⟨s', hfound⟩ := Option.isSome_iff_exists.1 hfirst
    have hanswer' : s'.answersTo pair.accessToken v.clock := by simpa using List.find?_some hfound
    obtain ⟨m', pair', hl', -⟩ := live_of_mem hw hnone hinj hne hr (List.mem_of_find?_eq_some hfound)
    obtain ⟨-, -, hview⟩ := hl'.issued.unique hw hinj hr hi (.inl (hl'.accessToken.trans ((hanswers s').1 hanswer').1))
    exact ⟨s', hfound, hview⟩

/-- Every pair that is handed out goes to the account that was given, or to that of the session it is exchanged for. -/
theorem issued_of_tokens? {i : Nat} {e : Turn S} (he : es[i]? = some e) (ht : e.tokens? = some tokens) :
    ∃ s, Issued es i tokens s.account ∧ e.after.sessions.get? tokens.refreshToken = some s ∧
      s.accessToken = tokens.accessToken ∧ (e.call = .issue s.account ∨
        ∃ t s₀, e.call = .refresh t ∧ e.before.sessions.get? t = some s₀ ∧ s₀.account = s.account) := by
  have hbefore := (hr.split_at he).1
  cases hr.deals hw he with
  | spent hnone => rw [hnone] at ht; cases ht
  | @dealt s hsome hnext hfor hs =>
    cases hsome.symm.trans ht
    refine ⟨s, ?_, by rw [hs, Table.get?_put, if_pos rfl], (nextSession?_eq_some.1 hnext).2.1, hfor⟩
    have hissued : Issued (es.take i ++ [e]) _ _ _ := Issued.of_dealt hfor (fun t s hs =>
      let ⟨n, pair, hl, ht⟩ := (get?_iff_live hw hnone hinj hne hbefore t s).1 hs; ⟨n, pair, hl.issued, ht⟩) hsome
    obtain ⟨hi, rfl⟩ := List.getElem?_eq_some_iff.1 he
    rw [List.take_append_getElem hi, List.length_take_of_le hi.le] at hissued
    exact hissued.of_take

end Life

/-- **Every refresh token is good for one use, and every session is its first owner's.** Where the source gives no
token twice and none is empty: a refresh token is open when it was issued and no call has named it since; it is
exchanged at most once, and never accepted again after that, nor after it was revoked; an access token stands for the
account of its pair while the pair's refresh token is open and the access token has not run out; an exchange gives a
pair for the same account, which goes back to the first pair of the chain; and no call but a successful one for a pair
opens a session. -/
theorem rotation_linear (hw : w.Sound) (hnone : w.sessions = .empty) (hinj : Function.Injective setup.sources.tokens)
    (hne : ∀ n, setup.sources.tokens n ≠ "") {es : List (Turn S)} (hr : History setup w es v) :
    (∀ t, (v.sessions.get? t).isSome ↔ ∃ n tokens account, Issued es n tokens account ∧ tokens.refreshToken = t ∧
      ∀ e ∈ es.drop (n + 1), e.call.names t = false) ∧
    (∀ (t : String) (i j : Nat) (e e' : Turn S), es[i]? = some e → es[j]? = some e' → e.call = .refresh t →
      e'.call = .refresh t → e.tokens?.isSome → e'.tokens?.isSome → i = j) ∧
    (∀ (t : String) (i j : Nat) (e e' : Turn S), i < j → es[i]? = some e → es[j]? = some e' →
      (e.call = .revoke t ∧ e.answer = .ok (.revoked true)) ∨
        (e.call = .refresh t ∧ ∃ n tokens account, n < i ∧ Issued es n tokens account ∧ tokens.refreshToken = t) →
      (e'.call = .refresh t → e'.answer = .error (.refused (.invalidToken .unknown))) ∧
        (e'.call = .revoke t → e'.answer = .ok (.revoked false))) ∧
    (∀ t, ∃ found, (Call.resolve t).run setup v = (.ok (.resolved found), v) ∧ ∀ view, found = some view ↔
      ∃ n e tokens expiry, es[n]? = some e ∧ Issued es n tokens view ∧ tokens.accessToken = t ∧
        (v.sessions.get? tokens.refreshToken).isSome ∧
        e.before.clock.addSeconds? setup.lifetimes.accessSeconds = some expiry ∧ v.clock.instant ≤ expiry.instant) ∧
    (∀ i e tokens, es[i]? = some e → e.answer = .ok (.tokens tokens) →
      ∃ s, Issued es i tokens s.account ∧ e.after.sessions.get? tokens.refreshToken = some s ∧
        s.accessToken = tokens.accessToken ∧ (e.call = .issue s.account ∨
          ∃ t s₀, e.call = .refresh t ∧ e.before.sessions.get? t = some s₀ ∧ s₀.account = s.account)) ∧
    (∀ t s, v.sessions.get? t = some s → ∃ n tokens, Issued es n tokens s.account ∧ tokens.refreshToken = t ∧
      tokens.accessToken = s.accessToken) ∧
    (∀ e ∈ es, (∃ t, e.call = .revoke t ∨ e.call = .resolve t) ∨ (∃ f, e.answer = .error f) →
      ∀ t s, e.after.sessions.get? t = some s → e.before.sessions.get? t = some s) := by
  refine ⟨isSome_get?_iff hw hnone hinj hne hr, ?_, ?_, ?_, ?_, ?_, ?_⟩
  · intro t i j e e' he he' hc hc' ht ht'
    obtain hij | hij | hij := Nat.lt_trichotomy i j
    · rw [not_refreshed_twice hw hnone hinj hne hr hij he he' hc hc' ht] at ht'
      cases ht'
    · exact hij
    · rw [not_refreshed_twice hw hnone hinj hne hr hij he' he hc' hc ht'] at ht
      cases ht
  · intro t i j e e' hij he he' h
    exact rejected hw hnone hinj hne hr hij he he' h
  · intro t
    exact ⟨_, run_resolve (hr.sound hw) t, resolve?_iff hw hnone hinj hne hr t⟩
  · intro i e tokens he ht
    exact issued_of_tokens? hw hnone hinj hne hr he (Turn.tokens?_eq_some.2 ht)
  · intro t s hs
    obtain ⟨n, tokens, hl, rfl⟩ := (get?_iff_live hw hnone hinj hne hr t s).1 hs
    exact ⟨n, tokens, hl.issued, rfl, hl.accessToken⟩
  · intro e he hc t s hs
    obtain ⟨i, hi⟩ := List.mem_iff_getElem?.1 he
    exact (hr.deals hw hi).get?_of_after hc hs

/-- Settings whose source writes the number of a token in strokes. -/
def strokes : Setup :=
  { Setup.sample with
    sources := { Setup.sample.sources with tokens := fun n => String.ofList (List.replicate (n + 1) 'I') } }

theorem strokes_injective : Function.Injective strokes.sources.tokens := by
  intro m n h
  have hlength := congrArg List.length (String.ofList_injective h)
  rw [List.length_replicate, List.length_replicate] at hlength
  exact Nat.succ.inj hlength

theorem strokes_ne_empty (n : Nat) : strokes.sources.tokens n ≠ "" := by
  intro h
  have hlength := congrArg List.length (String.ofList_injective h)
  rw [List.length_replicate] at hlength
  exact Nat.succ_ne_zero n hlength

/-- A refresh token that was exchanged is not accepted a second time. -/
theorem rotation_linear_replayed :
    let v₁ := (Turn.of strokes (.issue Account.sample.toAccountView) World.sample).after
    let v₂ := (Turn.of strokes (.refresh "II") v₁).after
    (Turn.of strokes (.refresh "II") v₂).answer = .error (.refused (.invalidToken .unknown)) := by
  intro v₁ v₂
  have hissued : (Turn.of strokes (.issue Account.sample.toAccountView) World.sample).tokens? =
      some ⟨"I", "II", 3600⟩ := by
    decide +kernel
  have hr : History strokes World.sample _ _ :=
    ((History.start.step (.issue Account.sample.toAccountView)).step (.refresh "II")).step (.refresh "II")
  exact ((rotation_linear World.sound_sample rfl strokes_injective strokes_ne_empty hr).2.2.1 "II" 1 2 _ _
    Nat.one_lt_two rfl rfl (.inr ⟨rfl, 0, _, _, Nat.one_pos, ((Issued.opened rfl hissued).kept).kept, rfl⟩)).1 rfl

end TokenIssuer

end AccountSecurity
