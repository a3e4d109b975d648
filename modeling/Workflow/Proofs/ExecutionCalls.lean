import Workflow.Proofs.Calls

/-!
# Executions and steps in memory and in tables

A store answers the calls of its part for executions and steps (`ExecutionCall`) from a ledger that lists
both in the order in which they came: whichever way it keeps its records, what it shows is the ledger, and a
call changes both alike (`Store.Shows.perform`). So two empty stores, one in memory and one with tables,
answer every history of calls alike (`answers_of_tables`), as long as ids are new when they are created and
records keep what they are ordered by. Only a page beyond the integers of the tables tells them apart.
-/

namespace Workflow

open Store

/-- A call of the part of a store that keeps executions and steps. -/
inductive ExecutionCall where
  | create (e : Execution)
  | get (id : String)
  | update (e : Execution)
  | list (flow : String) (status : Option ExecutionStatus) (page : Page)
  | createStep (s : Step)
  | updateStep (s : Step)
  | steps (execution : String)

/-- What such a call is answered. -/
inductive ExecutionAnswer where
  | id (id : String)
  | found (e : Option Execution)
  | done (b : Bool)
  | executions (l : List Execution)
  | steps (l : List Step)
deriving DecidableEq

namespace ExecutionCall

def perform : ExecutionCall → Access ExecutionAnswer
  | create e => .id <$> Store.create e
  | get id => return .found ((← MonadState.get).execution? id)
  | update e => .done <$> Store.update e
  | list flow status page => do
    return .executions (← MonadExcept.ofExcept ((← MonadState.get).executionsOf flow status page))
  | createStep s => .id <$> Store.createStep s
  | updateStep s => .done <$> Store.updateStep s
  | steps execution => return .steps ((← MonadState.get).stepsOf execution)

/-- The texts of a call fit their columns, and its page does not count from the end. -/
def Fits : ExecutionCall → Prop
  | create e | update e => ∀ s ∈ e.texts, Text.Whole s
  | get id => Text.Whole id
  | list flow _ page => Text.Whole flow ∧ 0 ≤ page.offset ∧ 0 ≤ page.limit
  | createStep s | updateStep s => ∀ t ∈ s.texts, Text.Whole t
  | steps execution => Text.Whole execution

/-- What a call leaves to those after it: ids and times of creation are not used again, and a record that
is replaced stays with its execution and its time of creation. -/
def Agrees : ExecutionCall → ExecutionCall → Prop
  | create e, create e' => e'.id ≠ e.id ∧ e'.created ≠ e.created
  | create e, update e' => e'.id = e.id → e'.created = e.created
  | createStep s, createStep s' => s'.id ≠ s.id
  | createStep s, updateStep s' => s'.id = s.id → s'.execution = s.execution
  | _, _ => True

/-- What tables answer where memory gives an answer: they refuse a page that is no pair of 64-bit integers. -/
def bounded : ExecutionCall → Outcome ExecutionAnswer → Outcome ExecutionAnswer
  | list _ _ page, r => if page.offset < 2 ^ 63 ∧ page.limit < 2 ^ 63 then r else .error .wideInteger
  | _, r => r

end ExecutionCall

/-! ### The ledger -/

/-- Executions and steps in the order in which they came. -/
structure Ledger where
  executions : List Execution := []
  steps : List Step := []

namespace ExecutionCall

/-- What a call is answered from a ledger. -/
def reply (l : Ledger) : ExecutionCall → ExecutionAnswer
  | create e => .id e.id
  | get id => .found (l.executions.find? (·.id == id))
  | update e => .done (l.executions.any (·.id == e.id))
  | list flow status page =>
    .executions (page.window (newestFirst Execution.created (l.executions.filter (·.isOf flow status))))
  | createStep s => .id s.id
  | updateStep s => .done (l.steps.any (·.id == s.id))
  | steps execution => .steps (l.steps.filter (·.execution == execution))

/-- What a call makes of a ledger. -/
def enter (l : Ledger) : ExecutionCall → Ledger
  | create e => { l with executions := l.executions ++ [e] }
  | update e => { l with executions := replaceRow Execution.id e l.executions }
  | createStep s => { l with steps := l.steps ++ [s] }
  | updateStep s => { l with steps := replaceRow Step.id s l.steps }
  | _ => l

/-- A call agrees with the creation of everything in a ledger. -/
structure Suits (c : ExecutionCall) (l : Ledger) : Prop where
  executions : ∀ e ∈ l.executions, (create e).Agrees c
  steps : ∀ s ∈ l.steps, (createStep s).Agrees c

variable {l : Ledger} {c d : ExecutionCall}

theorem agrees_of_id {e e' : Execution} (h : (create e).Agrees c) (hid : e'.id = e.id)
    (hc : e'.created = e.created) : (create e').Agrees c := by
  cases c with
  | create x => exact ⟨hid ▸ h.1, hc ▸ h.2⟩
  | update x => exact fun hx => (h (hx.trans hid)).trans hc.symm
  | _ => exact h

theorem agrees_of_step {s s' : Step} (h : (createStep s).Agrees c) (hid : s'.id = s.id)
    (hx : s'.execution = s.execution) : (createStep s').Agrees c := by
  cases c with
  | createStep x => exact fun hid' => h (hid'.trans hid)
  | updateStep x => exact fun hid' => (h (hid'.trans hid)).trans hx.symm
  | _ => exact h

/-- What agrees with a call and suits a ledger suits what the call makes of it. -/
theorem Suits.enter (hd : d.Suits l) (hc : c.Suits l) (h : c.Agrees d) : d.Suits (c.enter l) := by
  cases c with
  | create e =>
    refine ⟨fun x hx => ?_, hd.steps⟩
    rcases List.mem_append.1 hx with hx | hx
    · exact hd.executions x hx
    · exact List.mem_singleton.1 hx ▸ h
  | createStep s =>
    refine ⟨hd.executions, fun x hx => ?_⟩
    rcases List.mem_append.1 hx with hx | hx
    · exact hd.steps x hx
    · exact List.mem_singleton.1 hx ▸ h
  | update e =>
    refine ⟨fun x hx => ?_, hd.steps⟩
    obtain ⟨y, hy, rfl⟩ := List.mem_map.1 hx
    split
    next hid =>
      have hid := (beq_iff_eq.1 hid).symm
      exact agrees_of_id (hd.executions y hy) hid (hc.executions y hy hid)
    next => exact hd.executions y hy
  | updateStep s =>
    refine ⟨hd.executions, fun x hx => ?_⟩
    obtain ⟨y, hy, rfl⟩ := List.mem_map.1 hx
    split
    next hid =>
      have hid := (beq_iff_eq.1 hid).symm
      exact agrees_of_step (hd.steps y hy) hid (hc.steps y hy hid)
    next => exact hd.steps y hy
  | _ => exact hd

/-- No two executions of a ledger were created at the same time, and that stays so. -/
theorem Suits.created_nodup (hc : c.Suits l) (h : (l.executions.map Execution.created).Nodup) :
    ((c.enter l).executions.map Execution.created).Nodup := by
  cases c with
  | create e =>
    rw [ExecutionCall.enter, List.map_append]
    refine List.nodup_append.2 ⟨h, by simp, ?_⟩
    rintro t ht u hu rfl
    obtain ⟨x, hx, rfl⟩ := List.mem_map.1 ht
    exact (hc.executions x hx).2 (List.mem_singleton.1 hu).symm
  | update e =>
    rw [ExecutionCall.enter, map_replaceRow fun x hx hid => (hc.executions x hx hid.symm).symm]
    exact h
  | _ => exact h

end ExecutionCall

/-! ### A store that shows a ledger -/

/-- A store keeps what is in a ledger, and no write is to fail. -/
structure Store.Shows (s : Store) (l : Ledger) : Prop where
  keyed : s.Keyed
  calm : s.outages = []
  executions : s.executions = l.executions
  steps : s.steps = l.steps

namespace Tables

variable {t : Tables} {e : Execution} {s : Step}

theorem create_total (hfit : ∀ text ∈ e.texts, Text.Whole text) (hnew : ∀ x ∈ t.executions, x.id ≠ e.id) :
    ∃ t', t.create e = .ok t' := by
  simp only [create, fitColumns_of_whole hfit, insertRow_of_new hnew]
  exact ⟨_, rfl⟩

theorem createStep_total (hfit : ∀ text ∈ s.texts, Text.Whole text)
    (hnew : ∀ r ∈ t.steps, r.step.id ≠ s.id) : ∃ t', t.createStep s = .ok t' := by
  have hrow : ∀ n, insertRow (·.step.id) ⟨n, s⟩ t.steps = .ok (t.steps ++ [⟨n, s⟩]) := fun n =>
    insertRow_of_new hnew
  simp only [createStep, fitColumns_of_whole hfit, hrow]
  exact ⟨_, rfl⟩

theorem update_total (hfit : ∀ text ∈ e.texts, Text.Whole text) :
    ∃ t', t.update e = .ok (t', t.executions.any (·.id == e.id)) := by
  have hid : fitColumns [e.id] = .ok () :=
    fitColumns_of_whole (by simpa using hfit e.id (by simp [Execution.texts]))
  simp only [update, hid, fitColumns_of_whole hfit]
  cases t.executions.any (·.id == e.id) <;> exact ⟨_, rfl⟩

theorem updateStep_total (hfit : ∀ text ∈ s.texts, Text.Whole text) :
    ∃ t', t.updateStep s = .ok (t', t.steps.any (·.step.id == s.id)) := by
  have hid : fitColumns [s.id] = .ok () :=
    fitColumns_of_whole (by simpa using hfit s.id (by simp [Step.texts]))
  have hrest : fitColumns s.changingTexts = .ok () :=
    fitColumns_of_whole fun text ht => hfit text (by simp [Step.texts, ht])
  simp only [updateStep, hid, hrest]
  cases t.steps.any (·.step.id == s.id) <;> exact ⟨_, rfl⟩

end Tables

/-! ### Records that are not there -/

namespace Store.Keyed

variable {s s' : Store} {e : Execution} {step : Step} {b : Bool}

/-- An execution that is not there is not replaced: nothing changes. -/
theorem update_absent (hk : s.Keyed) (he : e.id ∉ s.executions.map Execution.id)
    (h : Store.update e s = (.ok b, s')) : s'.records = s.records := by
  have hany : s.executions.any (·.id == e.id) = false := by simpa using he
  rcases write_ok h with ⟨m, hm, hm'⟩ | ⟨t, t', ht, hok, ht'⟩
  · have hn := hk.numbered
    rw [hm] at hn
    have hhas : m.executions.has e.id = false := by
      simpa only [hn.2.has_eq, Store.executions, hm] using hany
    simp only [hm', hm, Memory.update, hhas, Bool.false_eq_true, if_false]
  · simp only [Store.executions, ht] at hany
    obtain ⟨-, -, hok⟩ := Outcome.bind_eq_ok.1 hok
    simp only [hany, Bool.false_eq_true, if_false] at hok
    cases hok
    rw [ht', ht]

/-- A step that is not there is not replaced: nothing changes. -/
theorem updateStep_absent (hk : s.Keyed) (hs : step.id ∉ s.steps.map Step.id)
    (h : Store.updateStep step s = (.ok b, s')) : s'.records = s.records := by
  have hany : s.steps.any (·.id == step.id) = false := by simpa using hs
  rcases write_ok h with ⟨m, hm, hm'⟩ | ⟨t, t', ht, hok, ht'⟩
  · have hn := hk.numbered
    rw [hm] at hn
    have hhas : m.steps.has step.id = false := by
      simpa only [hn.1.has_eq, Store.steps, hm] using hany
    simp only [hm', hm, Memory.updateStep, hhas, Bool.false_eq_true, if_false]
  · simp only [Store.steps, ht, List.any_map, Function.comp_def] at hany
    obtain ⟨-, -, hok⟩ := Outcome.bind_eq_ok.1 hok
    simp only [hany, Bool.false_eq_true, if_false] at hok
    cases hok
    rw [ht', ht]

end Store.Keyed

/-! ### Calls on a store that shows a ledger -/

namespace Store.Shows

variable {s : Store} {l : Ledger} {e : Execution} {step : Step}

theorem create (h : s.Shows l) (hfit : (ExecutionCall.create e).Fits)
    (hc : (ExecutionCall.create e).Suits l) :
    ∃ s', Store.create e s = (.ok e.id, s') ∧
      s'.Shows { l with executions := l.executions ++ [e] } := by
  have hnew : ∀ x ∈ s.executions, x.id ≠ e.id := fun x hx =>
    ((hc.executions x (h.executions ▸ hx)).1).symm
  obtain ⟨s', hs', hcalm⟩ : ∃ s', Store.create e s = (.ok e.id, s') ∧ s'.outages = [] := by
    refine write_total h.calm (fun m _ => rfl) fun t ht => ?_
    simp only [Store.executions, ht] at hnew
    obtain ⟨t', ht'⟩ := Tables.create_total hfit hnew
    exact ⟨t', by rw [ht']; rfl⟩
  obtain ⟨hk, hex, hst⟩ := h.keyed.create_ok (by simpa [eq_comm] using hnew) hs'
  exact ⟨s', hs', hk, hcalm, by rw [hex, h.executions], by rw [hst, h.steps]⟩

theorem createStep (h : s.Shows l) (hfit : (ExecutionCall.createStep step).Fits)
    (hc : (ExecutionCall.createStep step).Suits l) :
    ∃ s', Store.createStep step s = (.ok step.id, s') ∧
      s'.Shows { l with steps := l.steps ++ [step] } := by
  have hnew : ∀ x ∈ s.steps, x.id ≠ step.id := fun x hx => (hc.steps x (h.steps ▸ hx)).symm
  obtain ⟨s', hs', hcalm⟩ : ∃ s', Store.createStep step s = (.ok step.id, s') ∧ s'.outages = [] := by
    refine write_total h.calm (fun m _ => rfl) fun t ht => ?_
    simp only [Store.steps, ht, List.forall_mem_map] at hnew
    obtain ⟨t', ht'⟩ := Tables.createStep_total hfit hnew
    exact ⟨t', by rw [ht']; rfl⟩
  obtain ⟨hk, hst, hex⟩ := h.keyed.createStep_ok (by simpa [eq_comm] using hnew) hs'
  exact ⟨s', hs', hk, hcalm, by rw [hex, h.executions], by rw [hst, h.steps]⟩

theorem of_records (h : s.Shows l) {s' : Store} (hr : s'.records = s.records) (hcalm : s'.outages = []) :
    s'.Shows l :=
  ⟨h.keyed.of_records hr, hcalm, by rw [← h.executions, Store.executions, hr, Store.executions],
    by rw [← h.steps, Store.steps, hr, Store.steps]⟩

theorem update (h : s.Shows l) (hfit : (ExecutionCall.update e).Fits) :
    ∃ s', Store.update e s = (.ok (l.executions.any (·.id == e.id)), s') ∧
      s'.Shows { l with executions := replaceRow Execution.id e l.executions } := by
  rw [← h.executions]
  obtain ⟨s', hs', hcalm⟩ :
      ∃ s', Store.update e s = (.ok (s.executions.any (·.id == e.id)), s') ∧ s'.outages = [] := by
    refine write_total h.calm (fun m hm => ?_) fun t ht => ?_
    · have hn := h.keyed.numbered
      rw [hm] at hn
      simp only [Memory.update, hn.2.has_eq, Store.executions, hm]
      cases m.executions.values.any (·.id == e.id) <;> rfl
    · simpa only [Store.executions, ht] using Tables.update_total hfit
  refine ⟨s', hs', ?_⟩
  by_cases hid : e.id ∈ s.executions.map Execution.id
  · obtain ⟨hk, hex, hst⟩ := h.keyed.update_ok hid hs'
    exact ⟨hk, hcalm, hex, by rw [hst, h.steps]⟩
  · rw [replaceRow_of_ne fun x hx hxe => hid (List.mem_map.2 ⟨x, hx, hxe⟩), h.executions]
    exact h.of_records (h.keyed.update_absent hid hs') hcalm

theorem updateStep (h : s.Shows l) (hfit : (ExecutionCall.updateStep step).Fits)
    (hc : (ExecutionCall.updateStep step).Suits l) :
    ∃ s', Store.updateStep step s = (.ok (l.steps.any (·.id == step.id)), s') ∧
      s'.Shows { l with steps := replaceRow Step.id step l.steps } := by
  have hown := hc.steps
  rw [← h.steps] at hown ⊢
  obtain ⟨s', hs', hcalm⟩ :
      ∃ s', Store.updateStep step s = (.ok (s.steps.any (·.id == step.id)), s') ∧ s'.outages = [] := by
    refine write_total h.calm (fun m hm => ?_) fun t ht => ?_
    · have hn := h.keyed.numbered
      rw [hm] at hn
      simp only [Memory.updateStep, hn.1.has_eq, Store.steps, hm]
      cases m.steps.values.any (·.id == step.id) <;> rfl
    · simpa only [Store.steps, ht, List.any_map, Function.comp_def] using Tables.updateStep_total hfit
  refine ⟨s', hs', ?_⟩
  by_cases hid : step.id ∈ s.steps.map Step.id
  · obtain ⟨x, hx, hxid⟩ := List.mem_map.1 hid
    obtain ⟨hk, hst, hex⟩ := h.keyed.updateStep_ok ⟨x, hx, hxid, (hown x hx hxid.symm).symm⟩ hs'
    exact ⟨hk, hcalm, by rw [hex, h.executions], hst⟩
  · rw [replaceRow_of_ne fun x hx hxe => hid (List.mem_map.2 ⟨x, hx, hxe⟩), h.steps]
    exact h.of_records (h.keyed.updateStep_absent hid hs') hcalm

theorem executionsOf_eq (h : s.Shows l) {flow : String} {status : Option ExecutionStatus} {page : Page}
    (hfit : (ExecutionCall.list flow status page).Fits) :
    (s.executionsOf flow status page).map ExecutionAnswer.executions =
      let c := ExecutionCall.list flow status page
      if s.inTables then c.bounded (.ok (c.reply l)) else .ok (c.reply l) := by
  obtain ⟨-, ho, hl⟩ := hfit
  simp only [ExecutionCall.reply, ExecutionCall.bounded, ← h.executions]
  cases hr : s.records with
  | memory m =>
    simp only [executionsOf, inTables, Store.executions, hr, Memory.executionsOf,
      Page.slice_eq_window ho hl]
    rfl
  | tables t =>
    simp only [executionsOf, inTables, Store.executions, hr, Tables.executionsOf,
      Page.forTables_of_nonneg ho hl, if_true]
    split <;> rfl

/-- A store that shows a ledger answers a call from it, and then shows what the call makes of it. -/
theorem perform (h : s.Shows l) {c : ExecutionCall} (hfit : c.Fits) (hc : c.Suits l) :
    ∃ s', c.perform s = (if s.inTables then c.bounded (.ok (c.reply l)) else .ok (c.reply l), s') ∧
      s'.inTables = s.inTables ∧ s'.Shows (c.enter l) := by
  cases c with
  | create e =>
    obtain ⟨s', hs', hshows⟩ := h.create hfit hc
    refine ⟨s', ?_, inTables_of_write hs', hshows⟩
    simp only [ExecutionCall.bounded, ite_self]
    exact Stateful.map_ok hs'
  | update e =>
    obtain ⟨s', hs', hshows⟩ := h.update hfit
    refine ⟨s', ?_, inTables_of_write hs', hshows⟩
    simp only [ExecutionCall.bounded, ite_self]
    exact Stateful.map_ok hs'
  | createStep step =>
    obtain ⟨s', hs', hshows⟩ := h.createStep hfit hc
    refine ⟨s', ?_, inTables_of_write hs', hshows⟩
    simp only [ExecutionCall.bounded, ite_self]
    exact Stateful.map_ok hs'
  | updateStep step =>
    obtain ⟨s', hs', hshows⟩ := h.updateStep hfit hc
    refine ⟨s', ?_, inTables_of_write hs', hshows⟩
    simp only [ExecutionCall.bounded, ite_self]
    exact Stateful.map_ok hs'
  | get id =>
    refine ⟨s, ?_, rfl, h⟩
    simp only [ExecutionCall.perform, Stateful.bind_apply, Stateful.get_apply, Stateful.pure_apply,
      h.keyed.execution?_eq, h.executions, ExecutionCall.bounded, ite_self]
    rfl
  | steps execution =>
    refine ⟨s, ?_, rfl, h⟩
    simp only [ExecutionCall.perform, Stateful.bind_apply, Stateful.get_apply, Stateful.pure_apply,
      h.keyed.stepsOf_eq, h.steps, ExecutionCall.bounded, ite_self]
    rfl
  | list flow status page =>
    refine ⟨s, ?_, rfl, h⟩
    have hlist := h.executionsOf_eq hfit
    simp only [ExecutionCall.perform, Stateful.bind_apply, Stateful.get_apply, Stateful.ofExcept_apply]
    rw [← hlist]
    cases s.executionsOf flow status page <;> rfl

end Store.Shows

/-! ### Histories of calls -/

/-- Where no two items were created at the same time there is one order only that has the latest first. -/
theorem eq_newestFirst {α : Type} {created : α → Instant} {items l : List α}
    (hn : (items.map created).Nodup) (hp : l.Perm items)
    (hl : l.Pairwise fun a b => (created b).microseconds ≤ (created a).microseconds) :
    l = newestFirst created items := by
  have hsorted : (newestFirst created items).Pairwise fun a b =>
      decide ((created b).microseconds ≤ (created a).microseconds) = true :=
    List.pairwise_mergeSort (fun a b c hab hbc => by simp only [decide_eq_true_eq] at *; omega)
      (fun a b => by simp only [Bool.or_eq_true, decide_eq_true_eq]; omega) items
  have hperm : l.Perm (newestFirst created items) := hp.trans (List.mergeSort_perm ..).symm
  refine hperm.eq_of_pairwise (fun a b ha hb hab hba => ?_) hl (hsorted.imp of_decide_eq_true)
  refine List.inj_on_of_nodup_map hn (hp.subset ha) ((List.mergeSort_perm ..).subset hb) ?_
  exact congrArg Instant.mk (Int.le_antisymm hba hab)

namespace ExecutionCall

variable {m t : Store} {l : Ledger} {calls : List ExecutionCall}

theorem shows_empty : ({} : Store).Shows {} :=
  ⟨⟨List.nodup_nil, List.nodup_nil, by simp [Store.Numbered, Shelf.Keyed]⟩, rfl, rfl, rfl⟩

theorem shows_emptyTables : ({ records := .tables {} } : Store).Shows {} :=
  ⟨⟨List.nodup_nil, List.nodup_nil, fun _ => ⟨0, rfl⟩⟩, rfl, rfl, rfl⟩

/-- Two stores that show the same ledger answer alike, and show the same ledger then. -/
theorem answers_of_shows (hm : m.Shows l) (ht : t.Shows l) (hmemory : m.inTables = false)
    (htables : t.inTables = true) (hfit : ∀ c ∈ calls, c.Fits) (hagree : calls.Pairwise Agrees)
    (hsuits : ∀ c ∈ calls, c.Suits l) (hcreated : (l.executions.map Execution.created).Nodup) :
    answers perform calls t = List.zipWith bounded calls (answers perform calls m) ∧
      (∀ r ∈ answers perform calls m, ∃ a, r = .ok a) ∧
      ∃ l', (after perform calls t).Shows l' ∧ (l'.executions.map Execution.created).Nodup := by
  induction calls generalizing l m t with
  | nil => exact ⟨rfl, by simp [answers], l, ht, hcreated⟩
  | cons c calls ih =>
    have hc := hsuits c (by simp)
    obtain ⟨m', hm', hkind, hmshows⟩ := hm.perform (hfit c (by simp)) hc
    obtain ⟨t', ht', hkind', htshows⟩ := ht.perform (hfit c (by simp)) hc
    simp only [hmemory, htables, if_true, Bool.false_eq_true, if_false] at hm' ht' hkind hkind'
    -- what agrees with the first call suits what it makes of the ledger
    obtain ⟨hhead, htail⟩ := List.pairwise_cons.1 hagree
    obtain ⟨ih, ihok, ihlast⟩ := ih hmshows htshows hkind hkind' (fun d hd => hfit d (by simp [hd])) htail
      (fun d hd => (hsuits d (by simp [hd])).enter hc (hhead d hd)) (hc.created_nodup hcreated)
    rw [answers_cons hm', answers_cons ht', after_cons ht', List.zipWith_cons_cons, ih]
    refine ⟨rfl, fun r hr => ?_, ihlast⟩
    rcases List.mem_cons.1 hr with rfl | hr
    · exact ⟨_, rfl⟩
    · exact ihok r hr

/-- A store with tables answers every history of calls as one in memory does, which fails in none of them,
except that it refuses a page that is no pair of 64-bit integers. Each listing is the only one that has the
latest first. -/
theorem answers_of_tables (hfit : ∀ c ∈ calls, c.Fits) (hagree : calls.Pairwise Agrees) :
    answers perform calls { records := .tables {} } =
        List.zipWith bounded calls (answers perform calls {}) ∧
      (∀ r ∈ answers perform calls {}, ∃ a, r = .ok a) ∧
      ∀ flow status rows, let kept := (after perform calls { records := .tables {} }).executions
        rows.Perm (kept.filter (·.isOf flow status)) →
        rows.Pairwise (fun e f => f.created.microseconds ≤ e.created.microseconds) →
        rows = newestFirst Execution.created (kept.filter (·.isOf flow status)) := by
  obtain ⟨hanswers, hok, l, hl, hcreated⟩ := answers_of_shows shows_empty shows_emptyTables rfl rfl hfit
    hagree (fun c _ => ⟨by simp, by simp⟩) List.nodup_nil
  refine ⟨hanswers, hok, ?_⟩
  intro flow status rows kept hperm hsorted
  refine eq_newestFirst ?_ hperm hsorted
  rw [show kept = l.executions from hl.executions]
  exact hcreated.sublist (List.filter_sublist.map _)

/-- The ids of the records in an answer, or whether a record was there. -/
def summary : ExecutionAnswer → List String
  | .id name => [name]
  | .found e => e.toList.map Execution.id
  | .done b => [if b then "yes" else "no"]
  | .executions l => l.map Execution.id
  | .steps l => l.map Step.id

/-- Two executions of a flow, of which the first comes to its end after the second was created, with two
steps of the first and one of the second. -/
def inTurn : List ExecutionCall :=
  let first : Execution := { id := "x", flow := "f", created := ⟨1⟩ }
  let second : Execution := { id := "y", flow := "f", created := ⟨2⟩ }
  let step (id execution : String) : Step := { id, execution, node := "n" }
  [.create first, .createStep (step "a" "x"), .create second, .createStep (step "b" "y"),
    .createStep (step "c" "x"), .updateStep { step "a" "x" with status := .success, output := some "7" },
    .update { first with status := .success }, .update { first with id := "z" }, .get "x", .steps "x",
    .list "f" none ⟨0, 100⟩, .list "f" (some .success) ⟨0, 100⟩, .list "f" none ⟨1, 100⟩]

/-- What the tables answer where the steps of two executions come in turn. -/
theorem answers_of_inTurn :
    (∀ c ∈ inTurn, c.Fits) ∧ inTurn.Pairwise Agrees ∧
      answers perform inTurn { records := .tables {} } = answers perform inTurn {} ∧
      ((answers perform inTurn { records := .tables {} }).take 10).map
          (fun r => r.toOption.map summary) =
        [some ["x"], some ["a"], some ["y"], some ["b"], some ["c"], some ["yes"], some ["yes"],
          some ["no"], some ["x"], some ["a", "c"]] := by
  have hfit : ∀ c ∈ inTurn, c.Fits := by
    simp only [inTurn, List.mem_cons, List.not_mem_nil, or_false, forall_eq_or_imp, forall_eq, Fits]
    decide
  have hagree : inTurn.Pairwise Agrees := by simp [inTurn, Agrees]
  obtain ⟨hanswers, -, -⟩ := answers_of_tables hfit hagree
  have hsame : answers perform inTurn { records := .tables {} } = answers perform inTurn {} := hanswers
  refine ⟨hfit, hagree, hsame, ?_⟩
  rw [hsame]
  decide +kernel

/-- A page that begins behind all 64-bit integers is empty in memory and refused by the tables. -/
theorem differs_of_wide :
    ¬ ∀ calls : List ExecutionCall, (∀ c ∈ calls, c.Fits) → calls.Pairwise Agrees →
      answers perform calls { records := .tables {} } = answers perform calls {} := by
  intro h
  have hfit : ∀ c ∈ [list "f" none ⟨2 ^ 63, 1⟩], c.Fits := by
    simp only [List.mem_singleton, forall_eq, Fits]
    decide
  have hmemory : answers perform [list "f" none ⟨2 ^ 63, 1⟩] {} = [.ok (.executions [])] := by
    decide +kernel
  have htables : answers perform [list "f" none ⟨2 ^ 63, 1⟩] { records := .tables {} } =
      [.error .wideInteger] := by decide +kernel
  have heq := h _ hfit (List.pairwise_singleton ..)
  rw [hmemory, htables] at heq
  simp at heq

end ExecutionCall

end Workflow
