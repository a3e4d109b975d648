import Workflow.Proofs.Magnitudes
import Workflow.Proofs.StepLife

/-!
# How long a step took

A step that has ended shows whole milliseconds if it was started, and none if it was not. The time from its
last start is made a number of seconds and that a number of milliseconds, and both are rounded; so what is
shown may be one less than the whole milliseconds that have gone by. Below `2 ^ 52` microseconds that is so
just for some times that are whole milliseconds (`IsShort`), and every other time is shown exactly
(`duration_of_run`).
-/

namespace Workflow

open Double

namespace Duration

variable {n b k : Nat}

/-! ### Seconds and milliseconds -/

/-- The mantissa of the seconds in `n` microseconds, with `b` binary places behind the point. -/
def secondsMantissa (n b : Nat) : Nat := roundQuotient (n * twoTo b) 1000000

/-- How many places a thousand times this mantissa is too long by. -/
def excess (n b : Nat) : Nat := if 1000 * secondsMantissa n b < twoTo 62 then 9 else 10

/-- The mantissa of the milliseconds, without these places. -/
def millisMantissa (n b : Nat) : Nat := roundQuotient (1000 * secondsMantissa n b) (twoTo (excess n b))

/-- The milliseconds without the fraction. -/
def millis (n b : Nat) : Nat := millisMantissa n b / twoTo (b - excess n b)

theorem excess_cases (n b : Nat) :
    twoTo (excess n b) = 512 ∧ 1000 * secondsMantissa n b < twoTo 62 ∨
      twoTo (excess n b) = 1024 ∧ twoTo 62 ≤ 1000 * secondsMantissa n b := by
  unfold excess
  split
  next h => exact .inl ⟨rfl, h⟩
  next h => exact .inr ⟨rfl, Nat.not_lt.1 h⟩

theorem excess_le (n b : Nat) : excess n b ≤ 10 := by
  unfold excess
  split <;> decide

theorem isRatio_thousand : (roundInt 1000).IsRatio 1000 1 :=
  ⟨rankOfRatio 1000 1, by decide +kernel, by decide +kernel, by decide +kernel, one_pos, by decide +kernel,
    by decide +kernel⟩

/-- Without these places it has the length of a mantissa. -/
theorem excess_spec (h : Leads n 1000000 b) :
    twoTo (excess n b) * twoTo 52 ≤ 1000 * secondsMantissa n b ∧
      1000 * secondsMantissa n b < twoTo (excess n b) * twoTo 53 := by
  obtain ⟨hlow, hhigh⟩ : twoTo 52 ≤ secondsMantissa n b ∧ secondsMantissa n b ≤ twoTo 53 :=
    h.roundQuotient_bounds
  have h52 : twoTo 52 = 4503599627370496 := rfl
  have h53 : twoTo 53 = 9007199254740992 := rfl
  have h62 : twoTo 62 = 4611686018427387904 := rfl
  rcases excess_cases n b with ⟨hc, hm⟩ | ⟨hc, hm⟩ <;> rw [hc] <;> omega

theorem leads_millis (h : Leads n 1000000 b) (hb : 10 < b) :
    Leads (secondsMantissa n b * 1000) (twoTo b * 1) (b - excess n b) := by
  obtain ⟨hlow, hhigh⟩ := excess_spec h
  have hc : excess n b ≤ b := (excess_le n b).trans hb.le
  generalize excess n b = c at hlow hhigh hc ⊢
  have hsplit (t : Nat) : twoTo b * 1 * twoTo t = twoTo c * twoTo t * twoTo (b - c) := by
    rw [← twoTo_add, ← twoTo_add, Nat.mul_one, ← twoTo_add, show c + t + (b - c) = b + t by omega]
  rw [Nat.mul_comm 1000] at hlow hhigh
  constructor
  · rw [hsplit]
    exact Nat.mul_le_mul_right _ hlow
  · rw [hsplit]
    exact Nat.mul_lt_mul_of_pos_right hhigh (twoTo_pos _)

theorem millisecondsBetween_eq {start stop : Instant} (hn : stop.microseconds = start.microseconds + n)
    (h : Leads n 1000000 b) (hb : 10 < b) (hb' : b ≤ 1074) :
    millisecondsBetween start stop = millis n b := by
  have helapsed : stop.microseconds - start.microseconds = n := by omega
  have hsign : decide ((n : Int) < 0) = false := decide_eq_false (by omega)
  have hc := excess_le n b
  have hseconds : (ofRatio false n 1000000).IsRatio (secondsMantissa n b) (twoTo b) :=
    isRatio_ofRatio h (by omega) hb'
  have hmillis := hseconds.isRatio_mul isRatio_thousand (leads_millis h hb) (by omega) (by omega)
  have hround : roundQuotient (secondsMantissa n b * 1000 * twoTo (b - excess n b)) (twoTo b * 1) =
      millisMantissa n b := by
    refine roundQuotient_congr (Nat.mul_pos (twoTo_pos b) one_pos) (twoTo_pos _) ?_
    rw [Nat.mul_assoc, ← twoTo_add, Nat.sub_add_cancel (by omega), Nat.mul_one, Nat.mul_comm 1000]
  rw [millisecondsBetween]
  simp only [helapsed, hsign, Int.natAbs_natCast]
  rw [hmillis.truncate_eq, hround, millis]

/-! ### What is lost -/

/-- The milliseconds that are shown for `n` microseconds: the whole ones, or one less or one more if `n` is
close to a whole millisecond from above or from below, in proportion to `n`. -/
def IsNear (n ms : Nat) : Prop :=
  ms = n / 1000 ∨ (ms + 1 = n / 1000 ∧ 2 ^ 52 * (n % 1000) ≤ n) ∨
    (ms = n / 1000 + 1 ∧ 2 ^ 52 * (1000 - n % 1000) ≤ n)

/-- Below `2 ^ 52` microseconds just whole milliseconds can be shown as less. -/
theorem IsNear.eq_of_lt {ms : Nat} (h : IsNear n ms) (hn : n < 2 ^ 52)
    (hless : n % 1000 = 0 → ms + 1 ≠ n / 1000) : ms = n / 1000 := by
  unfold IsNear at h
  omega

/-- A whole number of milliseconds that is shown as one less. In seconds it is in the first part of its
binade, where a thousandfold mantissa has nine places too many, and between 256 and 500 thousandths of the
last place of its mantissa are rounded away. -/
def IsShort (k : Nat) : Prop :=
  ∃ b, 1000 * 2 ^ 52 ≤ k * 2 ^ b ∧ k * 2 ^ b < 2 ^ 62 ∧ 256 < k * 2 ^ b % 1000 ∧ k * 2 ^ b % 1000 < 500

theorem secondsMantissa_near (n b : Nat) :
    2 * (1000000 * secondsMantissa n b) ≤ 2 * (n * twoTo b) + 1000000 ∧
      2 * (n * twoTo b) ≤ 2 * (1000000 * secondsMantissa n b) + 1000000 :=
  roundQuotient_near _ (by decide)

theorem millisMantissa_near (n b : Nat) :
    2 * (twoTo (excess n b) * millisMantissa n b) ≤ 2 * (1000 * secondsMantissa n b) + twoTo (excess n b) ∧
      2 * (1000 * secondsMantissa n b) ≤ 2 * (twoTo (excess n b) * millisMantissa n b) + twoTo (excess n b) :=
  roundQuotient_near _ (twoTo_pos _)

/-- The integer part of a quotient that is near an integer is at most one away from it. -/
theorem div_cases {p t k : Nat} (ht : 0 < t) (hlow : k * t ≤ p + t) (hhigh : p < k * t + 2 * t) :
    p < k * t ∧ p / t + 1 = k ∨ p / t = k ∨ k * t + t ≤ p ∧ p / t = k + 1 := by
  have hle : k ≤ p / t + 1 := by
    rw [← Nat.add_div_right _ ht]
    exact (Nat.le_div_iff_mul_le ht).2 hlow
  have hlt : p / t < k + 2 := by
    rw [Nat.div_lt_iff_lt_mul ht, Nat.add_mul]
    exact hhigh
  rcases Nat.lt_or_ge p (k * t) with hp | hp
  · have := (Nat.div_lt_iff_lt_mul ht).2 hp
    exact .inl ⟨hp, by omega⟩
  · have := (Nat.le_div_iff_mul_le ht).2 hp
    rcases Nat.lt_or_ge p (k * t + t) with hp' | hp'
    · have := (Nat.div_lt_iff_lt_mul ht).2 (Nat.succ_mul k t ▸ hp')
      exact .inr (.inl (by omega))
    · have := (Nat.le_div_iff_mul_le ht).2 (Nat.succ_mul k t ▸ hp')
      exact .inr (.inr ⟨hp', by omega⟩)

/-- The mantissa of the milliseconds beside the whole ones with as many places. The errors of both roundings
together take it out of the whole millisecond only if the time is close to that end of it. -/
theorem millisMantissa_bounds (h : Leads n 1000000 b) (hb : 10 < b) :
    let t := twoTo (b - excess n b)
    n / 1000 * t ≤ millisMantissa n b + t ∧ millisMantissa n b < n / 1000 * t + 2 * t ∧
      (millisMantissa n b < n / 1000 * t → 2 ^ 52 * (n % 1000 * twoTo b) ≤ n * twoTo b) ∧
      (n / 1000 * t + t ≤ millisMantissa n b → 2 ^ 52 * ((1000 - n % 1000) * twoTo b) ≤ n * twoTo b) := by
  intro t
  have hc := excess_le n b
  obtain ⟨hm, hm'⟩ := secondsMantissa_near n b
  obtain ⟨hp, hp'⟩ := millisMantissa_near n b
  have hlow := h.low
  have h52 : twoTo 52 = 4503599627370496 := rfl
  have h62 : twoTo 62 = 4611686018427387904 := rfl
  have ht : 2 ^ 1 ≤ t := Nat.pow_le_pow_right (by decide) (by omega)
  have hsplit : twoTo b = twoTo (excess n b) * t := twoTo_split (by omega)
  have hwhole : n / 1000 * twoTo b = twoTo (excess n b) * (n / 1000 * t) := by
    rw [hsplit, Nat.mul_left_comm]
  have hn : n * twoTo b = 1000 * (n / 1000 * twoTo b) + n % 1000 * twoTo b := by
    rw [← Nat.mul_assoc, ← Nat.add_mul, Nat.div_add_mod]
  have hrest : n % 1000 * twoTo b ≤ 999 * twoTo b :=
    Nat.mul_le_mul_right _ (Nat.le_of_lt_succ (Nat.mod_lt n (by decide)))
  have hgap : (1000 - n % 1000) * twoTo b = 1000 * twoTo b - n % 1000 * twoTo b := Nat.sub_mul _ _ _
  rcases excess_cases n b with ⟨hc, h⟩ | ⟨hc, h⟩ <;> rw [hc] at hp hp' hsplit hwhole <;> omega

theorem isNear_millis (h : Leads n 1000000 b) (hb : 10 < b) : IsNear n (millis n b) := by
  have hscale {r : Nat} (hle : 2 ^ 52 * (r * twoTo b) ≤ n * twoTo b) : 2 ^ 52 * r ≤ n :=
    Nat.le_of_mul_le_mul_right (Nat.mul_assoc _ r _ ▸ hle) (twoTo_pos b)
  obtain ⟨hlow, hhigh, hless, hmore⟩ := millisMantissa_bounds h hb
  rcases div_cases (twoTo_pos _) hlow hhigh with ⟨hlt, heq⟩ | heq | ⟨hge, heq⟩
  · exact .inr (.inl ⟨heq, hscale (hless hlt)⟩)
  · exact .inl heq
  · exact .inr (.inr ⟨heq, hscale (hmore hge)⟩)

theorem secondsMantissa_whole (k b : Nat) :
    secondsMantissa (1000 * k) b = roundQuotient (k * twoTo b) 1000 := by
  have hmul : 1000 * k * twoTo b = k * twoTo b * 1000 := by ac_rfl
  rw [secondsMantissa, hmul]
  exact roundQuotient_mul_right _ 1000 (by decide)

/-- Whole milliseconds are shown as less if the seconds are rounded down by too much for the second rounding
to make up for it. -/
theorem millis_lt_iff (k : Nat) (hb : 10 < b) :
    millis (1000 * k) b < k ↔
      k * twoTo b < 2 ^ 62 ∧ 256 < k * twoTo b % 1000 ∧ k * twoTo b % 1000 < 500 := by
  have h62 : twoTo 62 = 4611686018427387904 := rfl
  have hmul (c : Nat) : k * (twoTo c * twoTo (b - c)) = twoTo c * (k * twoTo (b - c)) := Nat.mul_left_comm _ _ _
  obtain ⟨u, hu⟩ : ∃ u, k * twoTo b = 1024 * u := ⟨_, (congrArg (k * ·) (twoTo_split hb.le)).trans (hmul 10)⟩
  have hround : secondsMantissa (1000 * k) b = k * twoTo b / 1000 ∧ k * twoTo b % 1000 < 500 ∨
      secondsMantissa (1000 * k) b = k * twoTo b / 1000 + 1 ∧ 500 < k * twoTo b % 1000 := by
    rw [secondsMantissa_whole, roundQuotient]
    -- The remainder is a multiple of eight, so that it is not one half.
    split_ifs <;> omega
  have heven {c : Nat} (hc : c < b) : k * twoTo (b - c) % 2 = 0 := by
    rw [show b - c = b - c - 1 + 1 by omega, twoTo_add, ← Nat.mul_assoc]
    exact Nat.mul_mod_left _ 2
  have hc := Nat.lt_of_le_of_lt (excess_le (1000 * k) b) hb
  rw [millis, Nat.div_lt_iff_lt_mul (twoTo_pos _), millisMantissa,
    roundQuotient_lt_iff (twoTo_pos _) (heven hc), ← hmul, ← twoTo_split hc.le]
  rcases excess_cases (1000 * k) b with ⟨hc, h⟩ | ⟨hc, h⟩ <;> rw [hc] <;> omega

/-- The seconds in less than `2 ^ 60` microseconds have more than ten places. -/
theorem places_of_leads (h : Leads n 1000000 b) (hn : n < 2 ^ 60) : 10 < b ∧ b ≤ 1074 := by
  have hlow := h.low
  have hhigh := h.high
  have h52 : twoTo 52 = 4503599627370496 := rfl
  have h53 : twoTo 53 = 9007199254740992 := rfl
  constructor
  · by_contra hb
    have hle : twoTo b ≤ 2 ^ 10 := Nat.pow_le_pow_right (by decide) (Nat.not_lt.1 hb)
    have := Nat.mul_le_mul_left n hle
    omega
  · by_contra hb
    have hle : 2 ^ 73 ≤ twoTo b := Nat.pow_le_pow_right (by decide) (by omega)
    have hpos : 1 * twoTo b ≤ n * twoTo b := Nat.mul_le_mul_right _ (Nat.pos_of_ne_zero h.pos.2)
    omega

theorem leads_iff_whole : Leads (1000 * k) 1000000 b ↔
    1000 * 2 ^ 52 ≤ k * 2 ^ b ∧ k * 2 ^ b < 1000 * 2 ^ 53 := by
  have hmul : 1000 * k * twoTo b = 1000 * (k * 2 ^ b) := Nat.mul_assoc 1000 k _
  have h52 : twoTo 52 = 4503599627370496 := rfl
  have h53 : twoTo 53 = 9007199254740992 := rfl
  constructor
  · rintro ⟨hlow, hhigh⟩
    constructor <;> omega
  · rintro ⟨hlow, hhigh⟩
    constructor <;> omega

/-- The milliseconds between two instants that are not too far from each other. -/
theorem exists_millisecondsBetween {start stop : Instant} (hn : stop.microseconds = start.microseconds + n)
    (hlt : n < 2 ^ 60) : ∃ ms : Nat, millisecondsBetween start stop = ms ∧ IsNear n ms ∧
      (n % 1000 = 0 → (ms + 1 = n / 1000 ↔ IsShort (n / 1000))) := by
  rcases Nat.eq_zero_or_pos n with rfl | hpos
  · have helapsed : stop.microseconds - start.microseconds = 0 := by omega
    refine ⟨0, ?_, .inl rfl, fun _ => ⟨fun h => absurd h (by decide), ?_⟩⟩
    · rw [millisecondsBetween, helapsed]
      decide +kernel
    · rintro ⟨b, hlow, -⟩
      simp at hlow
  · obtain ⟨b, h⟩ : ∃ b, Leads n 1000000 b :=
      exists_leads (Nat.ne_of_gt hpos) (lt_trans hlt (by decide))
    obtain ⟨hb, hb'⟩ := places_of_leads h hlt
    have heq := millisecondsBetween_eq hn h hb hb'
    refine ⟨_, heq, isNear_millis h hb, fun hwhole => ?_⟩
    obtain ⟨k, rfl⟩ := Nat.dvd_of_mod_eq_zero hwhole
    rw [Nat.mul_div_cancel_left k (by decide)]
    constructor
    · intro hms
      obtain ⟨h62, hrest⟩ := (millis_lt_iff k hb).1 (by omega)
      exact ⟨b, (leads_iff_whole.1 h).1, h62, hrest⟩
    · rintro ⟨c, hlow, h62, hrest⟩
      -- The places do not matter: there is but one number that is shown.
      have hc : Leads (1000 * k) 1000000 c := leads_iff_whole.2 ⟨hlow, lt_trans h62 (by decide)⟩
      obtain ⟨hc', hc''⟩ := places_of_leads hc hlt
      have hms := (millis_lt_iff k hc').2 ⟨h62, hrest⟩
      have hnear := isNear_millis hc hc'
      rw [← Int.natCast_inj.1 (heq.symm.trans (millisecondsBetween_eq hn hc hc' hc''))] at hms hnear
      unfold IsNear at hnear
      omega

end Duration

/-! ### Steps -/

namespace Step

open Duration

namespace Deed

variable {s : Step}

/-- Whether a deed is to end a step. -/
def ends : Deed → Bool
  | start _ => false
  | _ => true

/-- A deed sets the status and the times of a step that has not ended, whether its data can be kept or not. -/
theorem times_perform (h : s.status.isTerminal = false) (now : Instant) (d : Deed) :
    (d.perform s now).1.status.isTerminal = d.ends ∧
      (d.perform s now).1.started = (if d.ends then s.started else some now) ∧
      (d.ends = true → (d.perform s now).1.completed = some now ∧
        (d.perform s now).1.duration = s.started.map (millisecondsBetween · now)) := by
  rw [perform_of_open h]
  cases dataText d.data with
  | ok text =>
    cases d with
    | start => exact ⟨rfl, rfl, nofun⟩
    | _ => exact ⟨rfl, rfl, fun _ => ⟨rfl, rfl⟩⟩
  | error f =>
    cases d with
    | start => exact ⟨rfl, rfl, nofun⟩
    | _ => exact ⟨rfl, rfl, fun _ => ⟨rfl, rfl⟩⟩

end Deed

def Event.isStart : Event → Bool
  | .deed (.start _) => true
  | _ => false

namespace Moment

variable {m : Moment} {events : List Event} {event : Event}

theorem run_append (m : Moment) (events more : List Event) : m.run (events ++ more) = (m.run events).run more :=
  List.foldl_append

/-- What has not ended after the events had not ended before. -/
theorem open_of_run (events : List Event) (h : (m.run events).step.status.isTerminal = false) :
    m.step.status.isTerminal = false := by
  by_contra hm
  have hm : m.step.status.isTerminal = true := by simpa using hm
  rw [step_run_of_terminal hm] at h
  exact Bool.false_ne_true (h.symm.trans hm)

/-- The time of the start is that of the last start. -/
theorem started_after (h : (m.after event).step.status.isTerminal = false) :
    (m.after event).step.started = if event.isStart then some m.now else m.step.started := by
  have hm : m.step.status.isTerminal = false := open_of_run [event] h
  cases event with
  | pass => rfl
  | deed d =>
    obtain ⟨hstatus, hstarted, -⟩ := d.times_perform hm m.now
    have hends : d.ends = false := hstatus.symm.trans h
    refine hstarted.trans ?_
    cases d with
    | start => rfl
    | _ => cases hends

/-- Without a start among the events a step was started when it had been before. -/
theorem started_run (h : (m.run events).step.status.isTerminal = false)
    (hevents : ∀ event ∈ events, event.isStart = false) : (m.run events).step.started = m.step.started := by
  induction events generalizing m with
  | nil => rfl
  | cons event events ih =>
    obtain ⟨hevent, hevents⟩ := List.forall_mem_cons.1 hevents
    have hafter := started_after (open_of_run (m := m.after event) events h)
    rw [hevent] at hafter
    exact (ih h hevents).trans hafter

theorem started_run_of_start {before after : List Event} (hevent : event.isStart = true)
    (hafter : ∀ event ∈ after, event.isStart = false)
    (h : (m.run (before ++ event :: after)).step.status.isTerminal = false) :
    (m.run (before ++ event :: after)).step.started = some (m.run before).now := by
  rw [run_append] at h ⊢
  have hstart := started_after (open_of_run (m := (m.run before).after event) after h)
  rw [hevent] at hstart
  exact (started_run (m := (m.run before).after event) h hafter).trans hstart

/-- The last start among events. -/
theorem exists_last_start (h : ∃ event ∈ events, event.isStart = true) :
    ∃ before event after, events = before ++ event :: after ∧ event.isStart = true ∧
      ∀ event ∈ after, event.isStart = false := by
  induction events with
  | nil => simp at h
  | cons first events ih =>
    by_cases hrest : ∃ event ∈ events, event.isStart = true
    · obtain ⟨before, event, after, rfl, hevent, hafter⟩ := ih hrest
      exact ⟨first :: before, event, after, rfl, hevent, hafter⟩
    · have hfirst : first.isStart = true := by
        obtain ⟨event, hmem, hevent⟩ := h
        rcases List.mem_cons.1 hmem with rfl | hmem
        · exact hevent
        · exact absurd ⟨event, hmem, hevent⟩ hrest
      exact ⟨[], first, events, rfl, hfirst, fun event hmem => by
        simpa using fun hevent => hrest ⟨event, hmem, hevent⟩⟩

theorem started_eq_none_iff (hm : m.step.started = none) (h : (m.run events).step.status.isTerminal = false) :
    (m.run events).step.started = none ↔ ∀ event ∈ events, event.isStart = false := by
  constructor
  · intro hnone event hmem
    by_contra hevent
    obtain ⟨before, last, after, rfl, hlast, hafter⟩ :=
      exists_last_start ⟨event, hmem, by simpa using hevent⟩
    rw [started_run_of_start hlast hafter h] at hnone
    cases hnone
  · exact fun hevents => (started_run h hevents).trans hm

/-- What has ended shows its times for good. -/
theorem step_run_of_ends (h : (m.run events).step.status.isTerminal = false) {d : Deed} (hd : d.ends = true)
    (later : List Event) : (m.run (events ++ .deed d :: later)).step =
      (d.perform (m.run events).step (m.run events).now).1 := by
  rw [run_append]
  refine step_run_of_terminal (m := (m.run events).after (.deed d)) ?_ later
  exact (d.times_perform h _).1.trans hd

/-- A step that was not started is put through events, and then a deed ends it. From then on, whatever is done
later, it shows a duration just if a start was among the events. For a time of `n` microseconds since the last
start, which are fewer than `2 ^ 60` within the years of a calendar with four digits, the duration is near the
whole milliseconds. It is exact below `2 ^ 52` microseconds, unless `n` is a whole number of milliseconds that
is short; such a number is shown as one less. -/
theorem duration_of_run (hnew : m.step.started = none) (events : List Event) {d : Deed} (hd : d.ends = true)
    (later : List Event) (hopen : (m.run events).step.status.isTerminal = false) :
    let ended := (m.run (events ++ .deed d :: later)).step
    ended.completed = some (m.run events).now ∧
    (ended.duration = none ↔ ∀ event ∈ events, event.isStart = false) ∧
    ∀ before event after, events = before ++ event :: after → event.isStart = true →
      (∀ event ∈ after, event.isStart = false) →
      ended.started = some (m.run before).now ∧
      ∀ n : Nat, (m.run events).now.microseconds = (m.run before).now.microseconds + n → n < 2 ^ 60 →
        ∃ ms : Nat, ended.duration = some (ms : Int) ∧ IsNear n ms ∧
          (n < 2 ^ 52 → ¬ (n % 1000 = 0 ∧ IsShort (n / 1000)) → ms = n / 1000) ∧
          (n % 1000 = 0 → IsShort (n / 1000) → ms + 1 = n / 1000) := by
  intro ended
  obtain ⟨-, hstarted, htimes⟩ := d.times_perform hopen (m.run events).now
  obtain ⟨hcompleted, hduration⟩ := htimes hd
  rw [hd] at hstarted
  rw [show ended = _ from step_run_of_ends hopen hd later]
  refine ⟨hcompleted, ?_, ?_⟩
  · rw [hduration, Option.map_eq_none_iff, started_eq_none_iff hnew hopen]
  · rintro before event after rfl hevent hafter
    have hstart := started_run_of_start hevent hafter hopen
    refine ⟨hstarted.trans hstart, fun n hn hlt => ?_⟩
    obtain ⟨ms, hms, hnear, hwhole⟩ := exists_millisecondsBetween hn hlt
    refine ⟨ms, ?_, hnear, fun hn hshort => hnear.eq_of_lt hn ?_, fun hn => (hwhole hn).2⟩
    · rw [hduration, hstart, Option.map_some, hms]
    · exact fun hn hless => hshort ⟨hn, (hwhole hn).1 hless⟩

/-- A step that is skipped one second and one millisecond after its start shows a second. -/
theorem duration_of_second :
    let m : Moment := ⟨{ id := "s" }, ⟨0⟩⟩
    let events : List Event := [.deed (.start .null), .pass 1001000]
    m.step.started = none ∧ (m.run events).step.status.isTerminal = false ∧ IsShort 1001 ∧
      (m.run (events ++ [.deed .skip])).step.duration = some 1000 := by
  intro m events
  have hshort : IsShort 1001 := ⟨52, by decide, by decide, by decide, by decide⟩
  obtain ⟨-, -, h⟩ := duration_of_run (m := m) rfl events (d := .skip) rfl [] rfl
  obtain ⟨-, h⟩ := h [] (.deed (.start .null)) [.pass 1001000] rfl rfl (by decide)
  obtain ⟨ms, hms, -, -, hless⟩ := h 1001000 rfl (by decide)
  obtain rfl : ms = 1000 := Nat.succ.inj (hless (by decide) hshort)
  exact ⟨rfl, rfl, hshort, hms⟩

end Moment

end Step

end Workflow
