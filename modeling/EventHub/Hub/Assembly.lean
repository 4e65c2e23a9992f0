import EventHub.Hub.Receive

/-!
# Assembling a hub

* `Bus.ofSettings`: an empty bus of the configured sizes.
* `Hub.blank`: a hub before anything happened.
* `assembleFrom`: a hub around a bus and a service.
* `assemble`: a hub with the parts that its settings ask for.
-/

namespace EventHub

variable {α : Type}

/-- The capacities that fit a machine word are less than this one. -/
def capacityLimit : Int := 9223372036854775808

/-- The capacity that an integer tells. -/
def capacityOf (n : Int) : Except Fault Nat :=
  if n < -capacityLimit || capacityLimit ≤ n then .error .sizeTooLarge
  else if n < 0 then .error (.value .negativeCapacity)
  else .ok n.toNat

/-- The capacity of the history; null is no bound. -/
def historyCapacity : Value → Except Fault (Option Nat)
  | .null => .ok none
  | .bool b => .ok (some (if b then 1 else 0))
  | .int n => do .ok (some (← capacityOf n))
  | _ => .error (.type .notInteger)

/-- An empty bus. -/
def Bus.ofSettings (s : BusSettings) : Except Fault Bus := do
  let capacity ← historyCapacity s.maxEvents
  .ok { subscriptions := .none, history := .empty capacity, schema := .empty, pending := [],
        busy := false, capacity := s.queueSize, patience := s.enqueueTimeout, running := false }

/-- A bus without bounds. -/
def Bus.unbounded : Bus :=
  { subscriptions := .none, history := .empty none, schema := .empty, pending := [], busy := false,
    capacity := 0, patience := 0, running := false }

/-- The service that the settings describe, with the timeouts of the actions. -/
def Settings.service (s : Settings) : Except Fault NotificationService :=
  NotificationService.ofSettings s.notifications s.actions.httpTimeout s.actions.smtpTimeout

/-- A hub before anything happened. -/
def Hub.blank (now : Time.Moment) (elapsed : Float) (outside : Outside) (host : α) : Hub α :=
  { now, elapsed, serial := 0, effects := [], log := [], outages := [], bus := .unbounded,
    engine := .empty none, desk := .bare .standard (.bare .standard .null .null),
    flows := .empty, cache := [], cacheLifetime := .null, cached := true, connectors := [],
    broker := none, outside, settings := .standard, link := none, host }

/-- Gives the hub a bus, an engine that publishes on it, and a desk that delivers by a service. -/
def assembleFrom (settings : Settings) (broker : Option Broker) (bus : Bus)
    (service : NotificationService) : Task α Unit := do
  modify fun h => { h with
    settings, broker, bus
    engine := .empty (some .bus)
    flows := .empty }
  openDesk settings.actions service

/-- Gives the hub the parts that the settings ask for. -/
def assemble (settings : Settings) (broker : Option Broker) : Task α Unit := do
  let bus ← Task.ofExcept (Bus.ofSettings settings.bus)
  assembleFrom settings broker bus (← Task.ofExcept settings.service)

end EventHub
