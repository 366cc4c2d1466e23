import AccountSecurity.Audit.Log
import Mathlib.Data.List.DropRight

/-!
# Queries of the audit log

What the log answers, in terms of the calls that made it.

* `AuditCall`, `AuditLog.after` : recording and clearing, and the log after such calls;
* `AuditCall.recorded`, `AuditCall.passing` : the events since the log was last cleared, and those that a query is about;
* `AuditLog.collect_eq` : the walk over the positions, with its early exit, as a prefix of what passes;
* `AuditLog.Indexed` : the index leads to the events of each principal, latest first;
* `AuditLog.indexed_perform`, `AuditLog.indexed_after` : every call keeps that, so it holds after any calls;
* `audit_queries_exact` : **a query answers the latest events that pass, as many as its limit lets through, but never fewer
  than one where there is one.**
-/

namespace AccountSecurity

/-! ## The calls that change the log -/

/-- A call that changes the log. -/
inductive AuditCall where
  | record (e : Event)
  | clear

namespace AuditCall

/-- The log after the call. -/
def perform : AuditCall → AuditLog → AuditLog
  | record e, log => log.record e
  | clear, _ => AuditLog.empty

/-- The event that the call records. -/
def event? : AuditCall → Option Event
  | record e => some e
  | clear => none

/-- The events recorded since the log was last cleared, in their order. -/
def recorded (calls : List AuditCall) : List Event :=
  (calls.rtakeWhile fun call => call.event?.isSome).filterMap event?

/-- The recorded events that a query for a principal and types is about, in their order. -/
def passing (calls : List AuditCall) (principal : String) (types : List EventType) : List Event :=
  (recorded calls).filter fun e => e.principal = some principal ∧ (types = [] ∨ e.eventType ∈ types)

@[simp] theorem recorded_nil : recorded [] = [] := rfl

@[simp] theorem recorded_concat_record (calls : List AuditCall) (e : Event) :
    recorded (calls ++ [record e]) = recorded calls ++ [e] := by
  simp [recorded, event?]

@[simp] theorem recorded_concat_clear (calls : List AuditCall) : recorded (calls ++ [clear]) = [] := by
  simp [recorded, event?]

end AuditCall

namespace AuditLog
open AuditCall

/-- The log after calls on an empty one. -/
def after (calls : List AuditCall) : AuditLog := calls.foldl (fun log call => call.perform log) empty

theorem after_concat (calls : List AuditCall) (call : AuditCall) :
    after (calls ++ [call]) = call.perform (after calls) :=
  List.foldl_append ..

/-! ## The walk -/

/-- The walk stops early without a loss: it gives the first events that pass, as many as the limit leaves room for, but one
at least. -/
theorem collect_eq (log : AuditLog) (types : List EventType) (limit : Int) (positions : List Nat) (found : Nat) :
    log.collect types limit found positions =
      ((positions.filterMap (log.events[·]?)).filter (passes types)).take (max 1 (limit - found)).toNat := by
  induction positions generalizing found with
  | nil => simp [collect]
  | cons position rest ih =>
    unfold collect
    split
    · next hnone => rw [ih, List.filterMap_cons_none hnone]
    · next e he =>
      rw [List.filterMap_cons_some he, List.filter_cons]
      by_cases hpass : passes types e
      · simp only [hpass, Bool.not_true, Bool.false_eq_true, if_false, if_true]
        by_cases hfull : limit ≤ found + 1
        · have hroom : (max 1 (limit - found)).toNat = 1 := by omega
          rw [if_pos hfull, hroom, List.take_succ_cons, List.take_zero]
        · have hroom : (max 1 (limit - found)).toNat = (max 1 (limit - (found + 1 : Nat))).toNat + 1 := by omega
          rw [if_neg hfull, ih, hroom, List.take_succ_cons]
      · simp only [hpass, Bool.not_false, if_true, Bool.false_eq_true, if_false, ih]

/-! ## The index -/

theorem positionsOf_record (log : AuditLog) (e : Event) (p : String) :
    (log.record e).positionsOf p =
      if e.principal = some p ∧ p ≠ "" then log.events.size :: log.positionsOf p else log.positionsOf p := by
  unfold positionsOf record
  cases hq : e.principal with
  | none => simp
  | some q =>
    by_cases hempty : q = ""
    · subst hempty
      simp only [if_true, Option.some.injEq]
      rw [if_neg (fun h => h.2 h.1.symm)]
    · simp only [if_neg hempty, Table.get?_put, Option.some.injEq]
      by_cases hqp : q = p
      · subst hqp
        simp [hempty, positionsOf]
      · simp [hqp]

/-- The index leads to the events of each principal, latest first. -/
structure Indexed (log : AuditLog) : Prop where
  within : ∀ p, ∀ i ∈ log.positionsOf p, i < log.events.size
  latest : ∀ p, p ≠ "" → (log.positionsOf p).filterMap (log.events[·]?) =
    (log.events.toList.filter fun e => e.principal = some p).reverse

theorem indexed_empty : Indexed empty := by
  constructor <;> simp [empty, positionsOf]

/-- Positions in a log still lead to the same events when another is recorded. -/
theorem filterMap_record {log : AuditLog} {positions : List Nat} (h : ∀ i ∈ positions, i < log.events.size) (e : Event) :
    positions.filterMap ((log.record e).events[·]?) = positions.filterMap (log.events[·]?) := by
  refine List.filterMap_congr fun i hi => ?_
  have hlt := h i hi
  simp [record, Array.getElem?_push, hlt.ne]

theorem indexed_record {log : AuditLog} (h : Indexed log) (e : Event) : Indexed (log.record e) where
  within p i hi := by
    have hsize : (log.record e).events.size = log.events.size + 1 := Array.size_push ..
    rw [positionsOf_record] at hi
    split at hi
    · obtain rfl | hi := List.mem_cons.1 hi
      · omega
      · have := h.within p i hi
        omega
    · have := h.within p i hi
      omega
  latest p hp := by
    have hnew : (log.record e).events[log.events.size]? = some e := by simp [record]
    have hevents : (log.record e).events.toList = log.events.toList ++ [e] := by simp [record]
    have hold := filterMap_record (h.within p) e
    rw [positionsOf_record, hevents, List.filter_append, List.reverse_append]
    by_cases he : e.principal = some p
    · rw [if_pos ⟨he, hp⟩, List.filterMap_cons_some hnew, hold, h.latest p hp]
      simp [he]
    · rw [if_neg (fun hboth => he hboth.1), hold, h.latest p hp]
      simp [he]

/-- Every call keeps the index. -/
theorem indexed_perform {log : AuditLog} (h : Indexed log) : (call : AuditCall) → Indexed (call.perform log)
  | .record e => indexed_record h e
  | .clear => indexed_empty

theorem indexed_after (calls : List AuditCall) : Indexed (after calls) := by
  induction calls using List.reverseRecOn with
  | nil => exact indexed_empty
  | append_singleton calls call ih => exact after_concat calls call ▸ indexed_perform ih call

/-- The log holds what was recorded since it was last cleared. -/
theorem events_after (calls : List AuditCall) : (after calls).events.toList = recorded calls := by
  induction calls using List.reverseRecOn with
  | nil => rfl
  | append_singleton calls call ih =>
    rw [after_concat]
    cases call with
    | record e => simp [perform, record, ih]
    | clear => simp [perform, empty]

/-- A query answers the latest of the events that pass. -/
theorem recent_after (calls : List AuditCall) {p : String} (hp : p ≠ "") (types : List EventType) (limit : Int) :
    (after calls).recent p types limit = (passing calls p types).reverse.take (max 1 limit).toNat := by
  have hpasses : ∀ e : Event, passes types e = decide (types = [] ∨ e.eventType ∈ types) := by
    intro e
    cases types <;> simp [passes]
  have hboth : passing calls p types = ((recorded calls).filter fun e => e.principal = some p).filter (passes types) := by
    rw [passing, List.filter_filter]
    refine List.filter_congr fun e _ => ?_
    rw [hpasses, Bool.and_comm, Bool.decide_and]
  rw [recent, collect_eq, (indexed_after calls).latest p hp, events_after, hboth, List.filter_reverse]
  simp

theorem countByType_after (calls : List AuditCall) (t : EventType) :
    (after calls).countByType t = (recorded calls).countP fun e => e.eventType = t := by
  rw [countByType, ← Array.countP_toList, events_after]
  rfl

end AuditLog

/-! ## Queries -/

open AuditCall

/-- After any recording and clearing, a query for a principal answers the most recent events of that principal that pass its
filter, most recent first: exactly as many as its limit, or all of them if they are fewer. The one exception is a limit
below one, which lets one event through where there is one. A type counts as many events as were recorded under it since
the log was last cleared, whoever they are of. -/
theorem audit_queries_exact (calls : List AuditCall) (p : String) (hp : p ≠ "") (types : List EventType) (limit : Int)
    (t : EventType) :
    (1 ≤ limit → (AuditLog.after calls).recent p types limit = (passing calls p types).reverse.take limit.toNat ∧
      ((AuditLog.after calls).recent p types limit).length = min limit.toNat (passing calls p types).length) ∧
    (limit ≤ 0 → (AuditLog.after calls).recent p types limit = (passing calls p types).reverse.take 1) ∧
    (∀ e ∈ (AuditLog.after calls).recent p types limit,
      e ∈ recorded calls ∧ e.principal = some p ∧ (types = [] ∨ e.eventType ∈ types)) ∧
    (AuditLog.after calls).countByType t = (recorded calls).countP fun e => e.eventType = t := by
  rw [AuditLog.recent_after calls hp]
  refine ⟨fun hlimit => ?_, fun hlimit => ?_, fun e he => ?_, AuditLog.countByType_after calls t⟩
  · have hroom : (max 1 limit).toNat = limit.toNat := by omega
    rw [hroom, List.length_take, List.length_reverse]
    exact ⟨rfl, rfl⟩
  · have hroom : (max 1 limit).toNat = 1 := by omega
    rw [hroom]
  · have hpassing := List.mem_reverse.1 (List.mem_of_mem_take he)
    obtain ⟨hrecorded, hpass⟩ := List.mem_filter.1 hpassing
    exact ⟨hrecorded, of_decide_eq_true hpass⟩

/-- An account's log after two events and a query for one. -/
theorem audit_queries_exact_pair :
    let first : Event := { eventType := .loginFailed, principal := some "1", timestamp := .epoch }
    let second : Event := { eventType := .loginSuccess, principal := some "1", timestamp := .epoch }
    let log := AuditLog.after [.record first, .clear, .record first, .record second]
    log.recent "1" [] 1 = [second] ∧ log.countByType .loginFailed = 1 := by
  intro first second log
  obtain ⟨hrecent, -, -, hcount⟩ := audit_queries_exact [.record first, .clear, .record first, .record second] "1"
    (by decide) [] 1 .loginFailed
  exact ⟨(hrecent (by decide)).1, hcount⟩

/-- A query with limit zero answers an event. -/
theorem zero_limit_answers_event :
    let e : Event := { eventType := .loginFailed, principal := some "1", timestamp := .epoch }
    (AuditLog.after [.record e]).recent "1" [] 0 = [e] ∧ ¬ ((AuditLog.after [.record e]).recent "1" [] 0).length ≤ 0 := by
  intro e
  have hanswer : (AuditLog.after [.record e]).recent "1" [] 0 = [e] := rfl
  rw [hanswer]
  exact ⟨rfl, by decide⟩

end AccountSecurity
