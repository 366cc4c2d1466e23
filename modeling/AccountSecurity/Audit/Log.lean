import AccountSecurity.Audit.Event
import AccountSecurity.Table

/-!
# The audit log

Events in the order in which they were recorded, with an index of the positions at which the events of
each principal stand.

* `AuditLog.record` : adds an event;
* `AuditLog.recent` : the latest events of a principal, of some types, up to a limit;
* `AuditLog.countByType` : how many events of a type there are.
-/

namespace AccountSecurity

/-- All events, and for each principal the positions of its events, latest first. -/
structure AuditLog where
  events : Array Event
  positions : Table (List Nat)

namespace AuditLog

/-- The log without events. -/
def empty : AuditLog := ⟨#[], Table.empty⟩

instance : Inhabited AuditLog := ⟨empty⟩

/-- The positions of a principal's events, latest first. -/
def positionsOf (log : AuditLog) (principal : String) : List Nat :=
  (log.positions.get? principal).getD []

/-- The log with another event. Events without a principal are in no index. -/
def record (log : AuditLog) (e : Event) : AuditLog where
  events := log.events.push e
  positions :=
    match e.principal with
    | some p =>
      if p = "" then log.positions else log.positions.put p (log.events.size :: log.positionsOf p)
    | none => log.positions

/-- The limit of a query that names none. -/
def defaultLimit : Int := 100

/-- An event passes a query for some types; no types mean all types. -/
def passes (types : List EventType) (e : Event) : Bool := types.isEmpty || types.contains e.eventType

/-- The events at positions, in their order, that pass a query which has found some already. It looks at the limit after
each event that it takes, and stops there if it has that many. -/
def collect (log : AuditLog) (types : List EventType) (limit : Int) : (found : Nat) → List Nat → List Event
  | _, [] => []
  | found, position :: rest =>
    match log.events[position]? with
    | none => log.collect types limit found rest
    | some e =>
      if !passes types e then log.collect types limit found rest
      else if limit ≤ found + 1 then [e]
      else e :: log.collect types limit (found + 1) rest

/-- The latest events of a principal, latest first. A limit below one still lets one event through. -/
def recent (log : AuditLog) (principal : String) (types : List EventType) (limit : Int) : List Event :=
  log.collect types limit 0 (log.positionsOf principal)

/-- The number of events of a type. -/
def countByType (log : AuditLog) (eventType : EventType) : Nat :=
  log.events.countP (·.eventType == eventType)

end AuditLog

end AccountSecurity
