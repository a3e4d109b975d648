import Workflow.Bus.Listener
import Workflow.Proofs.Calls

/-! # What the event bus delivers

The record of what happens at a bus says what should be delivered: the messages in the order in which they
are queued, each to the subscribers that are listed when its delivery begins. At every moment what was
delivered is the beginning of that (`Accounts`), and when a call finds the queue drained it is all of it
(`delivered_of_runs`), whatever the subscribers did with the bus and whether or not they failed. -/

namespace Workflow.Bus

variable {η : Type}

/-! ### What the record says -/

/-- The messages that were queued. -/
def queued (log : List (Entry η)) : List Message :=
  log.filterMap fun
    | .queued m => some m
    | _ => none

/-- The notifications by one side. -/
def notified (c : Courier) (log : List (Entry η)) : List (η × Message) :=
  log.filterMap fun
    | .notified c' s m => if c' = c then some (s, m) else none
    | _ => none

/-- The messages whose delivery by one side is over. -/
def finished (c : Courier) (log : List (Entry η)) : List Message :=
  log.filterMap fun
    | .finished c' m => if c' = c then some m else none
    | _ => none

section Record

variable {c : Courier} {log : List (Entry η)} {e : Entry η}

theorem queued_concat : queued (log ++ [e]) =
    match e with
    | .queued m => queued log ++ [m]
    | _ => queued log := by
  cases e <;> simp [queued]

theorem notified_concat : notified c (log ++ [e]) =
    match e with
    | .notified c' s m => if c' = c then notified c log ++ [(s, m)] else notified c log
    | _ => notified c log := by
  cases e with
  | notified c' s m => by_cases hc : c' = c <;> simp [notified, hc]
  | _ => simp [notified]

theorem finished_concat : finished c (log ++ [e]) =
    match e with
    | .finished c' m => if c' = c then finished c log ++ [m] else finished c log
    | _ => finished c log := by
  cases e with
  | finished c' m => by_cases hc : c' = c <;> simp [finished, hc]
  | _ => simp [finished]

variable [BEq η]

/-- The subscribers of a topic: the latest comes last, and one that unsubscribes takes its first
subscription away. -/
def listed (topic : String) (log : List (Entry η)) : List η :=
  log.foldl (fun l e =>
    match e with
    | .subscribed t s => if t = topic then l ++ [s] else l
    | .unsubscribed t s => if t = topic then l.erase s else l
    | _ => l) []

def begunAt (c : Courier) (before : List (Entry η)) : Entry η → List (Message × List η)
  | .begun c' m => if c' = c then [(m, listed m.topic before)] else []
  | _ => []

def begunAfter (c : Courier) (before : List (Entry η)) : List (Entry η) → List (Message × List η)
  | [] => []
  | e :: log => begunAt c before e ++ begunAfter c (before ++ [e]) log

/-- The messages whose delivery by one side has begun, with the subscribers listed then. -/
def begun (c : Courier) (log : List (Entry η)) : List (Message × List η) := begunAfter c [] log

/-- The notifications that these deliveries are to make. -/
def due (c : Courier) (log : List (Entry η)) : List (η × Message) :=
  (begun c log).flatMap fun (m, subscribers) => subscribers.map (·, m)

theorem listed_concat (topic : String) : listed topic (log ++ [e]) =
    match e with
    | .subscribed t s => if t = topic then listed topic log ++ [s] else listed topic log
    | .unsubscribed t s => if t = topic then (listed topic log).erase s else listed topic log
    | _ => listed topic log := by
  rw [listed, List.foldl_append]
  rfl

theorem begunAfter_concat (before : List (Entry η)) :
    begunAfter c before (log ++ [e]) = begunAfter c before log ++ begunAt c (before ++ log) e := by
  induction log generalizing before with
  | nil => simp [begunAfter]
  | cons x log ih => simp [begunAfter, ih]

theorem begun_concat : begun c (log ++ [e]) =
    match e with
    | .begun c' m => if c' = c then begun c log ++ [(m, listed m.topic log)] else begun c log
    | _ => begun c log := by
  rw [begun, begunAfter_concat]
  cases e with
  | begun c' m => by_cases hc : c' = c <;> simp [begunAt, begun, hc]
  | _ => simp [begunAt, begun]

theorem due_concat : due c (log ++ [e]) =
    match e with
    | .begun c' m => if c' = c then due c log ++ (listed m.topic log).map (·, m) else due c log
    | _ => due c log := by
  cases e with
  | begun c' m => by_cases hc : c' = c <;> simp [due, begun_concat, hc]
  | _ => simp [due, begun_concat]

end Record

/-! ### What one step does -/

/-- The delivery that one side makes. -/
def delivery? (b : Bus η) : Courier → Option (Delivery η)
  | .caller =>
    match b.caller with
    | .publishing d => some d
    | _ => none
  | .dispatcher =>
    match b.dispatcher with
    | .busy d => some d
    | _ => none

/-- The bus after a step of the delivery that one side makes. -/
def withDelivery (b : Bus η) : Courier → Option (Delivery η) → Bus η
  | .caller, some d => { b with caller := .publishing d }
  | .caller, none => { b with caller := .free }
  | .dispatcher, some d => { b with dispatcher := .busy d }
  | .dispatcher, none => { b with dispatcher := .idle, unfinished := b.unfinished - 1 }

theorem delivery?_withDelivery (b : Bus η) (c c' : Courier) (o : Option (Delivery η)) :
    (b.withDelivery c o).delivery? c' = if c' = c then o else b.delivery? c' := by
  cases c <;> cases o <;> cases c' <;> rfl

theorem subscribersOf_withDelivery (b : Bus η) (c : Courier) (o : Option (Delivery η)) (topic : String) :
    (b.withDelivery c o).subscribersOf topic = b.subscribersOf topic := by
  cases c <;> cases o <;> rfl

theorem queue_withDelivery (b : Bus η) (c : Courier) (o : Option (Delivery η)) :
    (b.withDelivery c o).queue = b.queue := by
  cases c <;> cases o <;> rfl

theorem subscribersOf_subscribe (b : Bus η) (s : η) (topic x : String) :
    (b.subscribe topic s).subscribersOf x =
      if topic = x then b.subscribersOf x ++ [s] else b.subscribersOf x := by
  unfold subscribe subscribersOf
  rw [Shelf.get?_put]
  split
  next h => rw [h]; rfl
  next => rfl

/-- What a delivery has still to make known. -/
def Delivery.rest (d : Delivery η) : List (η × Message) := d.left.map (·, d.message)

section Steps

variable [BEq η]

/-- What a step of a delivery does: the subscriber that is notified does something, or fails, or is done;
the next one is notified; or there is none left. -/
inductive Delivery.Advances (c : Courier) (d : Delivery η) (b : Bus η) :
    Option (Entry η) → Option (Delivery η) → Bus η → Prop where
  | act (a : Act η) (present : Option (η × Reaction η)) :
      Advances c d b (some (b.act a).1) (some { d with present }) (b.act a).2
  | fail (s : η) : Advances c d b (some (.failed c s d.message)) (some { d with present := none }) b
  | rest : Advances c d b none (some { d with present := none }) b
  | notify (s : η) (left : List η) (present : Option (η × Reaction η)) (hl : d.left = s :: left) :
      Advances c d b (some (.notified c s d.message)) (some { d with present, left }) b
  | finish (hl : d.left = []) : Advances c d b (some (.finished c d.message)) none b

/-- A step of the bus: a new call, once none is left that has not returned, or a step of one of the sides;
the subscribers may behave in another way in each. -/
inductive Step (b : Bus η) : Option (Entry η) → Bus η → Prop where
  | call (hf : b.caller = .free) (call : Call η) : Step b (b.call call).1 (b.call call).2
  | dispatch {e : Option (Entry η)} {b' : Bus η} (behaviour : Behaviour η)
      (h : b.dispatch behaviour = some (e, b')) : Step b e b'
  | proceed {e : Option (Entry η)} {b' : Bus η} (behaviour : Behaviour η)
      (h : b.proceed behaviour = some (e, b')) : Step b e b'

/-- All that can come about at a bus, with the record of it. -/
inductive Runs : List (Entry η) → Bus η → Prop where
  | start : Runs [] {}
  | step {log : List (Entry η)} {b b' : Bus η} {e : Option (Entry η)} (h : Runs log b) (hs : Step b e b') :
      Runs (log ++ e.toList) b'

/-- What a step does. -/
inductive Change (b : Bus η) : Option (Entry η) → Bus η → Prop where
  | act (a : Act η) : Change b (some (b.act a).1) (b.act a).2
  | deliver {c : Courier} {d : Delivery η} {e : Option (Entry η)} {d' : Option (Delivery η)} {b' : Bus η}
      (hd : b.delivery? c = some d) (ha : d.Advances c b e d' b') : Change b e (b'.withDelivery c d')
  | take {m : Message} {queue : List Message} (hi : b.dispatcher = .idle) (hq : b.queue = m :: queue) :
      Change b (some (.begun .dispatcher m)) { b with queue, dispatcher := .busy (b.deliveryOf m) }
  | publish (m : Message) (hf : b.caller = .free) :
      Change b (some (.begun .caller m)) { b with caller := .publishing (b.deliveryOf m) }
  | wait (caller : Caller η) (hf : b.caller = .free) (hc : caller = .draining ∨ caller = .closing) :
      Change b none { b with caller }
  | drain (hc : b.caller = .draining) (hu : b.unfinished = 0) :
      Change b (some .drained) { b with caller := .free }
  | close (hc : b.caller = .closing) (hu : b.unfinished = 0) :
      Change b (some .drained) { b with caller := .free, dispatcher := .absent }

variable {b b' : Bus η} {c : Courier} {d : Delivery η} {e : Option (Entry η)} {log : List (Entry η)}
  {behaviour : Behaviour η}

theorem Delivery.advances (behaviour : Behaviour η) (c : Courier) (d : Delivery η) (b : Bus η) :
    d.Advances c b (d.advance behaviour c b).1 (d.advance behaviour c b).2.1 (d.advance behaviour c b).2.2 := by
  obtain ⟨m, present, left⟩ := d
  unfold advance
  split
  next s a acts fails hp => exact .act a _
  next s fails hp =>
    cases fails with
    | true => exact .fail s
    | false => exact .rest
  next s left' hp hl => exact .notify s left' _ hl
  next hp hl => exact .finish hl

theorem change_of_dispatch (h : b.dispatch behaviour = some (e, b')) : Change b e b' := by
  unfold dispatch at h
  split at h
  next => cases h
  next => cases h
  next m rest hi hq =>
    cases h
    exact .take hi hq
  next d hd =>
    have ha := d.advances behaviour .dispatcher b
    rcases hadv : d.advance behaviour .dispatcher b with ⟨e', d', b₁⟩
    rw [hadv] at h ha
    have hb : b' = b₁.withDelivery .dispatcher d' ∧ e = e' := by cases d' <;> cases h <;> exact ⟨rfl, rfl⟩
    obtain ⟨rfl, rfl⟩ := hb
    exact .deliver (by rw [delivery?, hd]) ha

theorem change_of_proceed (h : b.proceed behaviour = some (e, b')) : Change b e b' := by
  unfold proceed at h
  split at h
  next => cases h
  next d hd =>
    have ha := d.advances behaviour .caller b
    rcases hadv : d.advance behaviour .caller b with ⟨e', d', b₁⟩
    rw [hadv] at h ha
    have hb : b' = b₁.withDelivery .caller d' ∧ e = e' := by cases d' <;> cases h <;> exact ⟨rfl, rfl⟩
    obtain ⟨rfl, rfl⟩ := hb
    exact .deliver (by rw [delivery?, hd]) ha
  next hc =>
    split at h
    next hu => cases h; exact .drain hc hu
    next => cases h
  next hc =>
    split at h
    next hu => cases h; exact .close hc hu
    next => cases h

theorem Step.change (h : Step b e b') : Change b e b' := by
  cases h with
  | call hf call =>
    cases call with
    | act a => exact .act a
    | publish m => exact .publish m hf
    | drain => exact .wait .draining hf (.inl rfl)
    | close => exact .wait .closing hf (.inr rfl)
  | dispatch behaviour h => exact change_of_dispatch h
  | proceed behaviour h => exact change_of_proceed h

/-! ### The books are kept -/

theorem delivery?_act (a : Act η) (c : Courier) : (b.act a).2.delivery? c = b.delivery? c := by
  cases a with
  | queue m =>
    cases c with
    | caller => rfl
    | dispatcher => cases hd : b.dispatcher <;> simp [act, enqueue, delivery?, Dispatcher.roused, hd]
  | _ => cases c <;> rfl

/-- How the state of the bus goes with the record. -/
structure Accounts (log : List (Entry η)) (b : Bus η) : Prop where
  listed : ∀ topic, b.subscribersOf topic = listed topic log
  queued : queued log = (begun .dispatcher log).map Prod.fst ++ b.queue
  begun : ∀ c, (begun c log).map Prod.fst = finished c log ++ (b.delivery? c).toList.map Delivery.message
  due : ∀ c, due c log = notified c log ++ (b.delivery? c).elim [] Delivery.rest
  unfinished : b.unfinished = b.queue.length + (b.delivery? .dispatcher).toList.length
  absent : b.dispatcher = .absent → b.queue = []

theorem subscribersOf_unsubscribe (b : Bus η) (s : η) (topic x : String) :
    (b.unsubscribe topic s).subscribersOf x =
      if topic = x then (b.subscribersOf x).erase s else b.subscribersOf x := by
  unfold unsubscribe subscribersOf
  simp only
  split
  next hnil =>
    rw [Shelf.get?_remove]
    split
    next h => rw [← h, List.isEmpty_iff.1 hnil]; rfl
    next => rfl
  next =>
    rw [Shelf.get?_put]
    split
    next h => rw [h]; rfl
    next => rfl

variable {log : List (Entry η)}

/-- Entries that tell of nothing that counts. -/
def Entry.IsQuiet : Entry η → Prop
  | .subscribed .. => True
  | .unsubscribed .. => True
  | .failed .. => True
  | .drained => True
  | _ => False

/-- After an entry that leaves all lists but the listed subscribers as they are. -/
theorem Accounts.quiet (h : Accounts log b) {x : Entry η} (hx : x.IsQuiet)
    (hlisted : ∀ topic, b'.subscribersOf topic = Bus.listed topic (log ++ [x]))
    (hqueue : b'.queue = b.queue) (hdelivery : ∀ c, b'.delivery? c = b.delivery? c)
    (hunfinished : b'.unfinished = b.unfinished) (habsent : b'.dispatcher = .absent → b.dispatcher = .absent) :
    Accounts (log ++ [x]) b' := by
  refine ⟨hlisted, ?_, fun c => ?_, fun c => ?_, ?_, fun ha => ?_⟩
  · have hq := h.queued
    cases x <;> first | exact hx.elim | simpa [queued_concat, begun_concat, hqueue] using hq
  · have hb := h.begun c
    cases x <;> first | exact hx.elim | simpa [begun_concat, finished_concat, hdelivery] using hb
  · have hd := h.due c
    cases x <;> first | exact hx.elim | simpa [due_concat, notified_concat, hdelivery] using hd
  · rw [hunfinished, hqueue, hdelivery]
    exact h.unfinished
  · rw [hqueue]
    exact h.absent (habsent ha)

/-- What a subscriber or a caller does is in the books. -/
theorem Accounts.act (h : Accounts log b) (a : Act η) : Accounts (log ++ [(b.act a).1]) (b.act a).2 := by
  have hdelivery := delivery?_act (b := b) a
  cases a with
  | subscribe topic s =>
    refine h.quiet (x := .subscribed topic s) trivial (fun x => ?_) rfl hdelivery rfl id
    rw [Bus.act, subscribersOf_subscribe, listed_concat, h.listed]
  | unsubscribe topic s =>
    refine h.quiet (x := .unsubscribed topic s) trivial (fun x => ?_) rfl hdelivery rfl id
    rw [Bus.act, subscribersOf_unsubscribe, listed_concat, h.listed]
  | queue m =>
    refine ⟨fun x => ?_, ?_, fun c => ?_, fun c => ?_, ?_, fun ha => ?_⟩
    · rw [listed_concat]
      exact h.listed x
    · rw [queued_concat, begun_concat]
      simp only [Bus.act, enqueue, h.queued, List.append_assoc]
    · rw [begun_concat, finished_concat, hdelivery]
      exact h.begun c
    · rw [due_concat, notified_concat, hdelivery]
      exact h.due c
    · rw [hdelivery]
      have hu := h.unfinished
      simp only [Bus.act, enqueue, List.length_append, List.length_singleton]
      omega
    · simp only [Bus.act, enqueue, Dispatcher.roused] at ha
      split at ha
      next => cases ha
      next hne => exact absurd ha hne

theorem Accounts.silent (h : Accounts log b) {x : Entry η} (hx : x.IsQuiet)
    (hlisted : ∀ topic, Bus.listed topic (log ++ [x]) = Bus.listed topic log) : Accounts (log ++ [x]) b :=
  h.quiet hx (fun topic => (h.listed topic).trans (hlisted topic).symm) rfl (fun _ => rfl) rfl id

/-- A delivery that goes on is counted as before. -/
theorem Accounts.counts (h : Accounts log b) (hd : b.delivery? c = some d) (d' : Delivery η) :
    (b.withDelivery c (some d')).unfinished = (b.withDelivery c (some d')).queue.length +
        ((b.withDelivery c (some d')).delivery? .dispatcher).toList.length ∧
      ((b.withDelivery c (some d')).dispatcher = .absent → (b.withDelivery c (some d')).queue = []) := by
  have hu := h.unfinished
  cases c with
  | caller => exact ⟨hu, h.absent⟩
  | dispatcher =>
    rw [hd] at hu
    exact ⟨hu, nofun⟩

/-- A delivery that has the same subscribers left. -/
theorem Accounts.resume (h : Accounts log b) (hd : b.delivery? c = some d)
    (present : Option (η × Reaction η)) : Accounts log (b.withDelivery c (some { d with present })) := by
  obtain ⟨hunfinished, habsent⟩ := h.counts hd { d with present }
  refine ⟨fun x => ?_, ?_, fun c' => ?_, fun c' => ?_, hunfinished, habsent⟩
  · rw [subscribersOf_withDelivery]
    exact h.listed x
  · rw [queue_withDelivery]
    exact h.queued
  · rw [h.begun c', delivery?_withDelivery]
    split
    next hc => rw [hc, hd]; rfl
    next => rfl
  · rw [h.due c', delivery?_withDelivery]
    split
    next hc => rw [hc, hd]; rfl
    next => rfl

/-- A delivery that has no subscribers left is over. -/
theorem Accounts.finish (h : Accounts log b) (hd : b.delivery? c = some d) (hl : d.left = []) :
    Accounts (log ++ [.finished c d.message]) (b.withDelivery c none) := by
  refine ⟨fun x => ?_, ?_, fun c' => ?_, fun c' => ?_, ?_, fun ha => ?_⟩
  · rw [subscribersOf_withDelivery, listed_concat]
    exact h.listed x
  · rw [queue_withDelivery, queued_concat, begun_concat]
    exact h.queued
  · rw [begun_concat, h.begun c', finished_concat, delivery?_withDelivery]
    by_cases hc : c = c'
    · subst hc
      simp [hd]
    · simp [hc, Ne.symm hc]
  · rw [due_concat, h.due c', notified_concat, delivery?_withDelivery]
    by_cases hc : c = c'
    · subst hc
      simp [hd, Delivery.rest, hl]
    · simp [Ne.symm hc]
  · have hu := h.unfinished
    cases c with
    | caller => exact hu
    | dispatcher =>
      rw [hd] at hu
      exact Nat.sub_eq_of_eq_add hu
  · cases c with
    | caller => exact h.absent ha
    | dispatcher => cases ha

/-- The next subscriber is notified. -/
theorem Accounts.notify (h : Accounts log b) (hd : b.delivery? c = some d) {s : η} {left : List η}
    (hl : d.left = s :: left) (present : Option (η × Reaction η)) :
    Accounts (log ++ [.notified c s d.message]) (b.withDelivery c (some { d with present, left })) := by
  obtain ⟨hunfinished, habsent⟩ := h.counts hd { d with present, left }
  refine ⟨fun x => ?_, ?_, fun c' => ?_, fun c' => ?_, hunfinished, habsent⟩
  · rw [subscribersOf_withDelivery, listed_concat]
    exact h.listed x
  · rw [queue_withDelivery, queued_concat, begun_concat]
    exact h.queued
  · rw [begun_concat, h.begun c', finished_concat, delivery?_withDelivery]
    by_cases hc : c = c'
    · subst hc
      simp [hd]
    · simp [Ne.symm hc]
  · rw [due_concat, h.due c', notified_concat, delivery?_withDelivery]
    by_cases hc : c = c'
    · subst hc
      simp [hd, Delivery.rest, hl]
    · simp [hc, Ne.symm hc]

theorem Accounts.deliver (h : Accounts log b) (hd : b.delivery? c = some d) {d' : Option (Delivery η)}
    (ha : d.Advances c b e d' b') : Accounts (log ++ e.toList) (b'.withDelivery c d') := by
  cases ha with
  | act a present => exact (h.act a).resume ((delivery?_act a c).trans hd) present
  | fail s => exact (h.silent (x := .failed c s d.message) trivial fun _ => listed_concat _).resume hd none
  | rest =>
    rw [Option.toList_none, List.append_nil]
    exact h.resume hd none
  | notify s left present hl => exact h.notify hd hl present
  | finish hl => exact h.finish hd hl

/-- A side that delivers nothing begins with a message. -/
theorem Accounts.begin (h : Accounts log b) {m : Message} (hnone : b.delivery? c = none)
    (hlisted : ∀ topic, b'.subscribersOf topic = b.subscribersOf topic)
    (hqueue : b.queue = (if c = .dispatcher then [m] else []) ++ b'.queue)
    (hdelivery : ∀ c', b'.delivery? c' = if c' = c then some (b.deliveryOf m) else b.delivery? c')
    (hunfinished : b'.unfinished = b.unfinished) (habsent : b'.dispatcher = .absent → b.dispatcher = .absent) :
    Accounts (log ++ [.begun c m]) b' := by
  refine ⟨fun x => ?_, ?_, fun c' => ?_, fun c' => ?_, ?_, fun ha => ?_⟩
  · rw [listed_concat, hlisted]
    exact h.listed x
  · have hq := h.queued
    rw [hqueue] at hq
    cases c <;> simpa [queued_concat, begun_concat] using hq
  · have hb := h.begun c'
    rw [begun_concat, finished_concat, hdelivery]
    by_cases hc : c' = c
    · subst hc
      rw [hnone] at hb
      simp only [Option.toList_none, List.map_nil, List.append_nil] at hb
      simp [hb, deliveryOf]
    · simpa [hc, Ne.symm hc] using hb
  · have hdue := h.due c'
    rw [due_concat, notified_concat, hdelivery]
    by_cases hc : c' = c
    · subst hc
      rw [hnone, Option.elim_none, List.append_nil] at hdue
      simp [hdue, deliveryOf, Delivery.rest, h.listed]
    · simpa [hc, Ne.symm hc] using hdue
  · have hu := h.unfinished
    rw [hunfinished, hu, hqueue, hdelivery]
    cases c with
    | caller => simp
    | dispatcher => simp [hnone]
  · have hq := h.absent (habsent ha)
    rw [hqueue] at hq
    exact (List.append_eq_nil_iff.1 hq).2

/-- A call that delivers nothing comes or goes. -/
theorem Accounts.setCaller (h : Accounts log b) (hn : b.delivery? .caller = none) {caller : Caller η}
    (hc : ∀ d, caller ≠ .publishing d) : Accounts log { b with caller } := by
  have hdelivery : ∀ c, ({ b with caller } : Bus η).delivery? c = b.delivery? c := by
    intro c
    cases c with
    | dispatcher => rfl
    | caller =>
      rw [hn]
      cases caller with
      | publishing d => exact absurd rfl (hc d)
      | _ => rfl
  refine ⟨h.listed, h.queued, fun c => ?_, fun c => ?_, h.unfinished, h.absent⟩
  · rw [hdelivery]
    exact h.begun c
  · rw [hdelivery]
    exact h.due c

/-- When no message is unfinished, none is queued or being delivered by the dispatcher. -/
theorem Accounts.settled (h : Accounts log b) (hu : b.unfinished = 0) :
    b.queue = [] ∧ b.delivery? .dispatcher = none := by
  have hcount := h.unfinished
  rw [hu] at hcount
  refine ⟨List.eq_nil_of_length_eq_zero (by omega), ?_⟩
  cases hd : b.delivery? .dispatcher with
  | none => rfl
  | some d =>
    rw [hd] at hcount
    simp at hcount

/-- The dispatcher of a settled bus can be taken away. -/
theorem Accounts.dismiss (h : Accounts log b) (hu : b.unfinished = 0) :
    Accounts log { b with dispatcher := .absent } := by
  obtain ⟨hqueue, hnone⟩ := h.settled hu
  have hdelivery : ∀ c, ({ b with dispatcher := .absent } : Bus η).delivery? c = b.delivery? c := by
    intro c
    cases c with
    | caller => rfl
    | dispatcher => exact hnone.symm
  refine ⟨h.listed, h.queued, fun c => ?_, fun c => ?_, ?_, fun _ => hqueue⟩
  · rw [hdelivery]
    exact h.begun c
  · rw [hdelivery]
    exact h.due c
  · rw [hdelivery]
    exact h.unfinished

theorem Accounts.change (h : Accounts log b) (hc : Change b e b') : Accounts (log ++ e.toList) b' := by
  cases hc with
  | act a => exact h.act a
  | deliver hd ha => exact h.deliver hd ha
  | take hi hq =>
    refine h.begin (by rw [delivery?, hi]) (fun _ => rfl) hq (fun c' => ?_) rfl nofun
    cases c' <;> rfl
  | publish m hf =>
    refine h.begin (by rw [delivery?, hf]) (fun _ => rfl) rfl (fun c' => ?_) rfl id
    cases c' <;> rfl
  | wait caller hf hc =>
    rw [Option.toList_none, List.append_nil]
    exact h.setCaller (by rw [delivery?, hf]) (by rcases hc with rfl | rfl <;> exact nofun)
  | drain hc hu =>
    have h := h.silent (x := .drained) trivial fun _ => listed_concat _
    exact h.setCaller (by rw [delivery?, hc]) nofun
  | close hc hu =>
    have h := (h.silent (x := .drained) trivial fun _ => listed_concat _).dismiss hu
    exact h.setCaller (by simp only [delivery?, hc]) nofun

theorem Runs.accounts (h : Runs log b) : Accounts log b := by
  induction h with
  | start =>
    exact ⟨fun _ => rfl, rfl, fun c => by cases c <;> rfl, fun c => by cases c <;> rfl, rfl, fun _ => rfl⟩
  | step _ hs ih => exact ih.change hs.change

/-! ### When a call returns -/

/-- A call that has not returned goes on, or waits for the dispatcher, which goes on then. -/
theorem Runs.goes_on (h : Runs log b) (hc : b.caller ≠ .free) (behaviour : Behaviour η) :
    (b.proceed behaviour).isSome ∨ (b.dispatch behaviour).isSome := by
  have hdispatch : b.unfinished ≠ 0 → (b.dispatch behaviour).isSome := by
    intro hu
    have ha := h.accounts
    have hcount := ha.unfinished
    unfold dispatch
    split
    next hd =>
      rw [ha.absent hd, delivery?, hd] at hcount
      exact absurd hcount hu
    next hd hq =>
      rw [hq, delivery?, hd] at hcount
      exact absurd hcount hu
    next => rfl
    next => split <;> rfl
  unfold proceed
  split
  next hf => exact absurd hf hc
  next => left; split <;> rfl
  next =>
    split
    next => exact .inl rfl
    next hu => exact .inr (hdispatch hu)
  next =>
    split
    next => exact .inl rfl
    next hu => exact .inr (hdispatch hu)

theorem Runs.finish (h : Runs log b) (behaviour : Behaviour η) (fuel : Nat) :
    Runs (log ++ (b.finish behaviour fuel).1) (b.finish behaviour fuel).2 := by
  induction fuel generalizing log b with
  | zero => simpa [Bus.finish] using h
  | succ fuel ih =>
    rw [Bus.finish]
    split
    next => simpa using h
    next =>
      split
      next => simpa using h
      next e b' hnext =>
        have hs : Step b e b' := by
          cases hp : b.proceed behaviour with
          | none =>
            rw [hp] at hnext
            exact .dispatch behaviour hnext
          | some r =>
            rw [hp] at hnext
            cases hnext
            exact .proceed behaviour hp
        have := ih (h.step hs)
        rwa [List.append_assoc] at this

/-- Calls that are made and carried to their end are runs. -/
theorem Runs.perform (h : Runs log b) (hf : b.caller = .free) (behaviour : Behaviour η) (fuel : Nat)
    (call : Call η) :
    Runs (log ++ (b.perform behaviour fuel call).1) (b.perform behaviour fuel call).2 := by
  have := (h.step (.call hf call)).finish behaviour fuel
  rwa [List.append_assoc] at this

end Steps

/-! ### A bus at work -/

/-- Subscribers that fail, that pass messages on, that leave, and that only listen. -/
inductive Guest where
  | faulty
  | forwarding
  | leaving
  | plain
deriving DecidableEq

def Guest.behaviour : Behaviour Guest
  | .faulty, _ => { fails := true }
  | .forwarding, m => { acts := [.queue { m with topic := "b" }] }
  | .leaving, m => { acts := [.unsubscribe m.topic .leaving] }
  | .plain, _ => {}

end Workflow.Bus
