import Workflow.World

/-!
# The event bus

Subscribers are listed by topic, in the order in which they subscribed. A message that is published is
delivered to the subscribers its topic has when the delivery begins, one after the other. One that is
queued is delivered in the same way later, after those queued before it, by a dispatcher that is there
from the first queued message on until the bus is closed. While it is notified a subscriber may
subscribe, unsubscribe and queue messages; that it fails changes nothing.

Calls of the bus are made one after the other, each when the one before has returned. The bus goes on in
small steps, for a subscriber may wait, and then the other side has its turn: `Bus.proceed` is a step of
the call that has not returned, `Bus.dispatch` one of the dispatcher.
-/
namespace Workflow

namespace Bus

/-- What a subscriber does with the bus while it is notified. -/
inductive Act (η : Type) where
  | subscribe (topic : String) (subscriber : η)
  | unsubscribe (topic : String) (subscriber : η)
  | queue (m : Message)

/-- What a subscriber does from when it is notified until it is done, and whether it fails then. -/
structure Reaction (η : Type) where
  acts : List (Act η) := []
  fails : Bool := false

/-- What the subscribers do when a message is delivered to them. -/
abbrev Behaviour (η : Type) := η → Message → Reaction η

structure Delivery (η : Type) where
  message : Message
  /-- The subscriber that is notified, with what it has still to do. -/
  present : Option (η × Reaction η) := none
  /-- The subscribers that are to be notified after it. -/
  left : List η

inductive Dispatcher (η : Type) where
  | absent
  /-- It waits for the next message of the queue. -/
  | idle
  | busy (d : Delivery η)

/-- The call that has not returned, if there is one. -/
inductive Caller (η : Type) where
  | free
  | publishing (d : Delivery η)
  | draining
  | closing

/-- The two sides that deliver messages. -/
inductive Courier where
  | caller
  | dispatcher
deriving DecidableEq

/-- What happens at the bus. -/
inductive Entry (η : Type) where
  | subscribed (topic : String) (subscriber : η)
  | unsubscribed (topic : String) (subscriber : η)
  | queued (m : Message)
  | begun (who : Courier) (m : Message)
  | notified (who : Courier) (subscriber : η) (m : Message)
  | failed (who : Courier) (subscriber : η) (m : Message)
  | finished (who : Courier) (m : Message)
  /-- A call has found that all queued messages are delivered. -/
  | drained

end Bus

structure Bus (η : Type) where
  /-- The topics that have subscribers. -/
  subscribers : Shelf (List η) := []
  queue : List Message := []
  /-- How many of the queued messages have not been delivered to the end. -/
  unfinished : Nat := 0
  dispatcher : Bus.Dispatcher η := .absent
  caller : Bus.Caller η := .free

namespace Bus

variable {η : Type}

def subscribersOf (b : Bus η) (topic : String) : List η := (b.subscribers.get? topic).getD []

def subscribe (b : Bus η) (topic : String) (subscriber : η) : Bus η :=
  { b with subscribers := b.subscribers.put topic (b.subscribersOf topic ++ [subscriber]) }

/-- Takes away the first of the subscriptions of a subscriber. -/
def unsubscribe [BEq η] (b : Bus η) (topic : String) (subscriber : η) : Bus η :=
  let rest := (b.subscribersOf topic).erase subscriber
  { b with subscribers :=
      if rest.isEmpty then b.subscribers.remove topic else b.subscribers.put topic rest }

/-- The dispatcher once a message is queued. -/
def Dispatcher.roused : Dispatcher η → Dispatcher η
  | .absent => .idle
  | d => d

def enqueue (b : Bus η) (m : Message) : Bus η :=
  { b with queue := b.queue ++ [m], unfinished := b.unfinished + 1, dispatcher := b.dispatcher.roused }

def act [BEq η] (b : Bus η) : Act η → Entry η × Bus η
  | .subscribe topic s => (.subscribed topic s, b.subscribe topic s)
  | .unsubscribe topic s => (.unsubscribed topic s, b.unsubscribe topic s)
  | .queue m => (.queued m, b.enqueue m)

/-! ## Deliveries -/

/-- The delivery of a message to the subscribers that its topic has now. -/
def deliveryOf (b : Bus η) (m : Message) : Delivery η := { message := m, left := b.subscribersOf m.topic }

/-- One step of a delivery, after which it goes on or is over. -/
def Delivery.advance [BEq η] (behaviour : Behaviour η) (c : Courier) (d : Delivery η) (b : Bus η) :
    Option (Entry η) × Option (Delivery η) × Bus η :=
  match d.present, d.left with
  | some (s, ⟨a :: acts, fails⟩), _ =>
    let (e, b) := b.act a
    (some e, some { d with present := some (s, ⟨acts, fails⟩) }, b)
  | some (s, ⟨[], fails⟩), _ =>
    (if fails then some (.failed c s d.message) else none, some { d with present := none }, b)
  | none, s :: left =>
    (some (.notified c s d.message), some { d with present := some (s, behaviour s d.message), left }, b)
  | none, [] => (some (.finished c d.message), none, b)

/-- One step of the dispatcher, unless it has nothing to do. -/
def dispatch [BEq η] (behaviour : Behaviour η) (b : Bus η) : Option (Option (Entry η) × Bus η) :=
  match b.dispatcher, b.queue with
  | .absent, _ => none
  | .idle, [] => none
  | .idle, m :: rest =>
    some (some (.begun .dispatcher m), { b with queue := rest, dispatcher := .busy (b.deliveryOf m) })
  | .busy d, _ =>
    match d.advance behaviour .dispatcher b with
    | (e, some d, b) => some (e, { b with dispatcher := .busy d })
    | (e, none, b) => some (e, { b with dispatcher := .idle, unfinished := b.unfinished - 1 })

/-! ## Calls -/

inductive Call (η : Type) where
  | act (a : Act η)
  | publish (m : Message)
  | drain
  | close

/-- Makes a call. -/
def call [BEq η] (b : Bus η) : Call η → Option (Entry η) × Bus η
  | .act a => (some (b.act a).1, (b.act a).2)
  | .publish m => (some (.begun .caller m), { b with caller := .publishing (b.deliveryOf m) })
  | .drain => (none, { b with caller := .draining })
  | .close => (none, { b with caller := .closing })

/-- One step of the call that has not returned, unless it has to wait. -/
def proceed [BEq η] (behaviour : Behaviour η) (b : Bus η) : Option (Option (Entry η) × Bus η) :=
  match b.caller with
  | .free => none
  | .publishing d =>
    match d.advance behaviour .caller b with
    | (e, some d, b) => some (e, { b with caller := .publishing d })
    | (e, none, b) => some (e, { b with caller := .free })
  | .draining => if b.unfinished = 0 then some (some .drained, { b with caller := .free }) else none
  | .closing =>
    if b.unfinished = 0 then some (some .drained, { b with caller := .free, dispatcher := .absent })
    else none

/-! ## Running -/

/-- Goes on until the call has returned, by at most `fuel` steps; the dispatcher has its turn while the
call waits. -/
def finish [BEq η] (behaviour : Behaviour η) : Nat → Bus η → List (Entry η) × Bus η
  | 0, b => ([], b)
  | fuel + 1, b =>
    match b.caller with
    | .free => ([], b)
    | _ =>
      match (b.proceed behaviour).orElse fun _ => b.dispatch behaviour with
      | none => ([], b)
      | some (e, b) =>
        let (more, b) := finish behaviour fuel b
        (e.toList ++ more, b)

/-- Makes a call and goes on until it has returned. -/
def perform [BEq η] (behaviour : Behaviour η) (fuel : Nat) (b : Bus η) (c : Call η) :
    List (Entry η) × Bus η :=
  let (e, b) := b.call c
  let (more, b) := b.finish behaviour fuel
  (e.toList ++ more, b)

end Bus

end Workflow
