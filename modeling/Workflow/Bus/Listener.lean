import Workflow.Bus

/-!
# Listeners

Subscribers that are known by a name, and whose mode says what they do with the bus while they are
notified: nothing, fail, queue a further message, or change subscriptions to the topic of the message.
-/
namespace Workflow

structure Listener where
  name : String
  mode : String
deriving BEq

namespace Listener

/-- The rest of a mode after the word that it begins with. -/
def object? (word mode : String) : Option String :=
  if mode.startsWith word then some (mode.drop word.length).toString else none

/-- The listener of a name; an unknown one does nothing. -/
def named (all : List Listener) (name : String) : Listener :=
  (all.find? (·.name == name)).getD ⟨name, ""⟩

def actsOf (all : List Listener) (l : Listener) (m : Message) : List (Bus.Act Listener) :=
  match object? "chain:" l.mode, object? "unsubscribe:" l.mode, object? "subscribe:" l.mode with
  | some topic, _, _ => [.queue ⟨topic, .list [m.payload], [("from", .text l.name)]⟩]
  | _, some other, _ => [.unsubscribe m.topic (named all other)]
  | _, _, some other => [.subscribe m.topic (named all other)]
  | _, _, _ => []

def behaviour (all : List Listener) : Bus.Behaviour Listener := fun l m =>
  { acts := actsOf all l m, fails := l.mode == "fail" || l.mode == "async_fail" }

end Listener

end Workflow
