import Mathlib.Algebra.Order.Floor.Div
import Walkthrough.Check.Assertion
import Walkthrough.Page.Scripted
import Walkthrough.Proofs.Play.Laws

/-!
Polling: probes in a row, up to the first that holds or that ends when the time is up. The waits in
between never go past the deadline, so every probe begins by then, and there are no more of them
than the interval allows.
-/
namespace Walkthrough

variable {σ : Type}

def World.rest (w : World σ) (deadline interval : Nat) : World σ :=
  { w with now := w.now + min interval (deadline - w.now) }

def Expect.settle (outcome : Except PageFault Probe) : Except String Unit :=
  match observed? outcome with
  | none => .ok ()
  | some observed => .error observed

theorem Expect.observed?_eq_none_iff (outcome : Except PageFault Probe) :
    observed? outcome = none ↔ outcome = .ok .holds := by
  rcases outcome with _ | _ | _ <;> simp [observed?]

structure Polling (σ : Type) where
  page : Page σ
  probe : Play (Except PageFault Probe)
  interval : Nat
  deadline : Nat

namespace Polling

variable (p : Polling σ)

def start (w : World σ) : Nat → World σ
  | 0 => w
  | n + 1 => (p.probe.perform p.page (start w n)).world.rest p.deadline p.interval

def attempt (w : World σ) (n : Nat) : Course σ (Except PageFault Probe) :=
  p.probe.perform p.page (p.start w n)

def finish (w : World σ) (n : Nat) : Nat := (p.attempt w n).world.now

theorem start_succ (w : World σ) (n : Nat) :
    p.start w (n + 1) = (p.attempt w n).world.rest p.deadline p.interval := rfl

theorem start_shift (w : World σ) (n : Nat) :
    p.start w (n + 1) = p.start (p.start w 1) n := by
  induction n with
  | zero => rfl
  | succ n ih => rw [start_succ p w (n + 1), attempt, ih, start_succ p (p.start w 1) n, attempt]

theorem attempt_shift (w : World σ) (n : Nat) :
    p.attempt w (n + 1) = p.attempt (p.start w 1) n := by
  rw [attempt, start_shift, attempt]

theorem start_le_finish (w : World σ) (n : Nat) : (p.start w n).now ≤ p.finish w n :=
  Play.now_le_perform p.page p.probe (p.start w n)

/-- The polling ends with a probe: the first that holds, or the first that is over when the time is
up. All of them begin by then. -/
structure EndsWith (w : World σ) (outcomes : Nat → Except PageFault Probe) (last : Nat)
    (c : Course σ (Except String Unit)) : Prop where
  result : c.result = some (Expect.settle (outcomes last))
  calls : c.calls = (List.range (last + 1)).flatMap fun n => (p.attempt w n).calls
  world : c.world = (p.attempt w last).world
  begun : ∀ n ≤ last, (p.start w n).now ≤ p.deadline
  earlier : ∀ n < last, outcomes n ≠ .ok .holds ∧ p.finish w n < p.deadline
  stops : outcomes last = .ok .holds ∨ p.deadline ≤ p.finish w last

variable {p} {w : World σ} {outcomes : Nat → Except PageFault Probe}

theorem endsWith_first (begins : w.now ≤ p.deadline)
    (stops : outcomes 0 = .ok .holds ∨ p.deadline ≤ p.finish w 0) :
    p.EndsWith w outcomes 0
      ⟨some (Expect.settle (outcomes 0)), (p.attempt w 0).calls, (p.attempt w 0).world⟩ where
  result := rfl
  calls := by simp
  world := rfl
  begun n le := by
    obtain rfl : n = 0 := by omega
    exact begins
  earlier n lt := absurd lt (Nat.not_lt_zero n)
  stops := stops

theorem EndsWith.after {last : Nat} {d : Course σ (Except String Unit)}
    (begins : w.now ≤ p.deadline) (fails : outcomes 0 ≠ .ok .holds)
    (early : p.finish w 0 < p.deadline)
    (rest : p.EndsWith (p.start w 1) (fun n => outcomes (n + 1)) last d) :
    p.EndsWith w outcomes (last + 1) { d with calls := (p.attempt w 0).calls ++ d.calls } where
  result := rest.result
  calls := by
    simp only [rest.calls, List.range_succ_eq_map (n := last + 1), List.flatMap_cons,
      List.flatMap_map, attempt_shift]
  world := by rw [attempt_shift, ← rest.world]
  begun n le := by
    cases n with
    | zero => exact begins
    | succ n =>
      rw [start_shift]
      exact rest.begun n (by omega)
  earlier n lt := by
    cases n with
    | zero => exact ⟨fails, early⟩
    | succ n =>
      rw [finish, attempt_shift]
      exact rest.earlier n (by omega)
  stops := by
    rw [finish, attempt_shift]
    exact rest.stops

theorem perform_probe_bind {α : Type} (told : (p.attempt w 0).result = some (outcomes 0))
    (next : Except PageFault Probe → Play α) :
    (p.probe >>= next).perform p.page w =
      let c := p.attempt w 0
      let d := (next (outcomes 0)).perform p.page c.world
      { d with calls := c.calls ++ d.calls } := by
  have ended : (p.probe.perform p.page w).result = some (outcomes 0) := told
  rw [Play.perform_bind]
  simp only [Course.andThen, ended]
  rfl

theorem perform_waitOr (observed : String) (again : Play (Except String Unit)) (v : World σ) :
    (Expect.waitOr p.deadline p.interval observed again).perform p.page v =
      if p.deadline ≤ v.now then ⟨some (.error observed), [], v⟩
      else again.perform p.page (v.rest p.deadline p.interval) := by
  rw [Expect.waitOr, Play.perform_clock_bind]
  split <;> rfl

/-- With waits enough to reach the deadline, polling does not run out of rounds before. -/
theorem probeUntil_ends (rounds : Nat) (begins : w.now ≤ p.deadline)
    (enough : p.deadline - w.now ≤ rounds * p.interval)
    (told : ∀ n, (p.attempt w n).result = some (outcomes n)) :
    ∃ last ≤ rounds, p.EndsWith w outcomes last
      ((Expect.probeUntil p.deadline p.interval p.probe rounds).perform p.page w) := by
  induction rounds generalizing w outcomes with
  | zero =>
    have due : p.deadline ≤ p.finish w 0 := by
      have le := p.start_le_finish w 0
      simp only [start] at le
      omega
    have first := @endsWith_first σ p w outcomes begins (.inr due)
    rw [Expect.probeUntil, perform_probe_bind (told 0)]
    refine ⟨0, Nat.le_refl 0, ?_⟩
    cases shown : Expect.observed? (outcomes 0) <;> simpa [Expect.settle, shown] using first
  | succ rounds ih =>
    rw [Expect.probeUntil, perform_probe_bind (told 0)]
    cases shown : Expect.observed? (outcomes 0) with
    | none =>
      have holds := (Expect.observed?_eq_none_iff _).mp shown
      have first := endsWith_first begins (.inl holds)
      exact ⟨0, Nat.zero_le _, by simpa [Expect.settle, shown] using first⟩
    | some observed =>
      simp only [perform_waitOr]
      split
      · rename_i due
        have first := @endsWith_first σ p w outcomes begins (.inr due)
        exact ⟨0, Nat.zero_le _, by simpa [Expect.settle, shown] using first⟩
      · rename_i notDue
        have early : p.finish w 0 < p.deadline := Nat.lt_of_not_le notDue
        have fails : outcomes 0 ≠ .ok .holds := by
          rw [ne_eq, ← Expect.observed?_eq_none_iff, shown]
          nofun
        have le : w.now ≤ p.finish w 0 := p.start_le_finish w 0
        have rested : (p.start w 1).now =
            p.finish w 0 + min p.interval (p.deadline - p.finish w 0) := rfl
        have left : p.deadline - (p.start w 1).now ≤ rounds * p.interval := by
          rw [Nat.succ_mul] at enough
          omega
        have later (n : Nat) : (p.attempt (p.start w 1) n).result = some (outcomes (n + 1)) := by
          rw [← attempt_shift]
          exact told (n + 1)
        obtain ⟨last, le_rounds, rest⟩ := ih (by omega) left later
        exact ⟨last + 1, Nat.succ_le_succ le_rounds, rest.after begins fails early⟩

theorem probeUntil_of_holds (holds : (p.attempt w 0).result = some (.ok .holds)) (rounds : Nat) :
    (Expect.probeUntil p.deadline p.interval p.probe rounds).perform p.page w =
      ⟨some (.ok ()), (p.attempt w 0).calls, (p.attempt w 0).world⟩ := by
  have probed := @perform_probe_bind σ p w (fun _ => .ok .holds) (Except String Unit) holds
  cases rounds <;> simp [Expect.probeUntil, probed, Expect.observed?]

/-- When all of them come to the same, so does polling, however often it probes. -/
theorem probeUntil_steady {outcome : Except PageFault Probe}
    (told : ∀ n, (p.attempt w n).result = some outcome) (rounds : Nat) :
    ((Expect.probeUntil p.deadline p.interval p.probe rounds).perform p.page w).result =
      some (Expect.settle outcome) := by
  induction rounds generalizing w with
  | zero =>
    have probed := @perform_probe_bind σ p w (fun _ => outcome) (Except String Unit) (told 0)
    rw [Expect.probeUntil, probed]
    cases shown : Expect.observed? outcome <;> simp [Expect.settle, shown]
  | succ rounds ih =>
    have probed := @perform_probe_bind σ p w (fun _ => outcome) (Except String Unit) (told 0)
    rw [Expect.probeUntil, probed]
    cases shown : Expect.observed? outcome with
    | none => simp [Expect.settle, shown]
    | some observed =>
      simp only [perform_waitOr]
      split
      · simp [Expect.settle, shown]
      · have later (n : Nat) : (p.attempt (p.start w 1) n).result = some outcome := by
          rw [← attempt_shift]
          exact told (n + 1)
        exact ih later

theorem start_of_idle (begins : w.now ≤ p.deadline)
    (idle : ∀ n, p.finish w n = (p.start w n).now) (n : Nat) :
    (p.start w n).now = min (w.now + n * p.interval) p.deadline := by
  induction n with
  | zero => simpa [start] using begins
  | succ n ih =>
    have rested : (p.start w (n + 1)).now =
        p.finish w n + min p.interval (p.deadline - p.finish w n) := rfl
    rw [rested, idle n, ih, Nat.succ_mul]
    omega

end Polling

namespace Expect

def polling (e : Expect) (page : Page σ) (probe : Play (Except PageFault Probe)) (w : World σ) :
    Polling σ := ⟨page, probe, e.interval, w.now + e.timeout⟩

variable {e : Expect} {page : Page σ} {probe : Play (Except PageFault Probe)} {w : World σ}
  {outcomes : Nat → Except PageFault Probe}

theorem poll_of_holds (holds : (probe.perform page w).result = some (.ok .holds)) :
    (e.poll probe).perform page w =
      ⟨some (.ok ()), (probe.perform page w).calls, (probe.perform page w).world⟩ := by
  rw [poll, Play.perform_clock_bind]
  exact Polling.probeUntil_of_holds (p := e.polling page probe w) holds e.rounds

theorem poll_steady {outcome : Except PageFault Probe}
    (told : ∀ n, ((e.polling page probe w).attempt w n).result = some outcome) :
    ((e.poll probe).perform page w).result = some (settle outcome) := by
  rw [poll, Play.perform_clock_bind]
  exact Polling.probeUntil_steady (p := e.polling page probe w) told e.rounds

theorem rounds_eq_ceilDiv (positive : 0 < e.interval) : e.rounds = e.timeout ⌈/⌉ e.interval := by
  rw [rounds, Nat.ceilDiv_eq_add_pred_div, Nat.max_eq_left positive, Nat.add_sub_assoc positive]

theorem poll_ends (positive : 0 < e.interval)
    (told : ∀ n, ((e.polling page probe w).attempt w n).result = some (outcomes n)) :
    ∃ last ≤ e.timeout ⌈/⌉ e.interval,
      (e.polling page probe w).EndsWith w outcomes last ((e.poll probe).perform page w) := by
  have enough : w.now + e.timeout - w.now ≤ e.rounds * e.interval := by
    have covered := (ceilDiv_le_iff_le_mul positive).mp (Nat.le_refl (e.timeout ⌈/⌉ e.interval))
    rw [rounds_eq_ceilDiv positive, Nat.mul_comm]
    omega
  rw [← rounds_eq_ceilDiv positive, poll, Play.perform_clock_bind]
  exact Polling.probeUntil_ends (p := e.polling page probe w) e.rounds (Nat.le_add_right ..) enough
    told

/-- Polling makes the probes up to the one with the given number, and comes to what they show. -/
structure PollsTo (e : Expect) (page : Page σ) (probe : Play (Except PageFault Probe))
    (w : World σ) (outcomes : Nat → Except PageFault Probe) (last : Nat) : Prop where
  few : last ≤ e.timeout ⌈/⌉ e.interval
  calls : ((e.poll probe).perform page w).calls =
    (List.range (last + 1)).flatMap fun n => ((e.polling page probe w).attempt w n).calls
  world : ((e.poll probe).perform page w).world = ((e.polling page probe w).attempt w last).world
  begun : ∀ n ≤ last, ((e.polling page probe w).start w n).now ≤ w.now + e.timeout
  passes_iff : ((e.poll probe).perform page w).result = some (.ok ()) ↔
    ∃ n, outcomes n = .ok .holds ∧
      ∀ i < n, (e.polling page probe w).finish w i < w.now + e.timeout
  first : ((e.poll probe).perform page w).result = some (.ok ()) →
    outcomes last = .ok .holds ∧ ∀ i < last, outcomes i ≠ .ok .holds
  fails : ((e.poll probe).perform page w).result ≠ some (.ok ()) →
    (∃ observed, observed? (outcomes last) = some observed ∧
        ((e.poll probe).perform page w).result = some (.error observed)) ∧
      w.now + e.timeout ≤ (e.polling page probe w).finish w last ∧
        ∀ i < last, (e.polling page probe w).finish w i < w.now + e.timeout
  ends : ((e.poll probe).perform page w).world.now ≤
    w.now + e.timeout + ((e.polling page probe w).finish w last -
      ((e.polling page probe w).start w last).now)
  idle : (∀ n, outcomes n ≠ .ok .holds) →
    (∀ n, (e.polling page probe w).finish w n = ((e.polling page probe w).start w n).now) →
      last = e.timeout ⌈/⌉ e.interval ∧
        ((e.poll probe).perform page w).world.now = w.now + e.timeout

theorem settle_eq_ok_iff (outcome : Except PageFault Probe) :
    settle outcome = .ok () ↔ outcome = .ok .holds := by
  rcases outcome with _ | _ | _ <;> simp [settle, observed?]

theorem settle_of_fails {outcome : Except PageFault Probe} (fails : outcome ≠ .ok .holds) :
    ∃ observed, observed? outcome = some observed ∧ settle outcome = .error observed := by
  rcases outcome with _ | _ | _
  · exact ⟨_, rfl, rfl⟩
  · exact absurd rfl fails
  · exact ⟨_, rfl, rfl⟩

theorem pollsTo_of_endsWith {last : Nat} (positive : 0 < e.interval)
    (few : last ≤ e.timeout ⌈/⌉ e.interval)
    (h : (e.polling page probe w).EndsWith w outcomes last ((e.poll probe).perform page w)) :
    e.PollsTo page probe w outcomes last := by
  have passes : ((e.poll probe).perform page w).result = some (.ok ()) ↔
      outcomes last = .ok .holds := by
    rw [h.result, Option.some.injEq, settle_eq_ok_iff]
  have ended : ((e.poll probe).perform page w).world.now =
      (e.polling page probe w).finish w last := by
    rw [h.world]
    rfl
  refine ⟨few, h.calls, h.world, h.begun, ?_, ?_, ?_, ?_, ?_⟩
  · rw [passes]
    refine ⟨fun holds => ⟨last, holds, fun i lt => (h.earlier i lt).2⟩, ?_⟩
    rintro ⟨n, holds, early⟩
    rcases h.stops with stops | stops
    · exact stops
    · -- Neither the probe that holds nor the last one is before the other.
      have le : n ≤ last := Nat.le_of_not_lt fun lt => absurd (early last lt) (Nat.not_lt.mpr stops)
      have ge : last ≤ n := Nat.le_of_not_lt fun lt => (h.earlier n lt).1 holds
      exact Nat.le_antisymm le ge ▸ holds
  · exact fun ok => ⟨passes.mp ok, fun i lt => (h.earlier i lt).1⟩
  · intro notOk
    have fails : outcomes last ≠ .ok .holds := fun holds => notOk (passes.mpr holds)
    obtain ⟨observed, shown, settled⟩ := settle_of_fails fails
    exact ⟨⟨observed, shown, by rw [h.result, settled]⟩, h.stops.resolve_left fails,
      fun i lt => (h.earlier i lt).2⟩
  · have begun : ((e.polling page probe w).start w last).now ≤ w.now + e.timeout :=
      h.begun last (Nat.le_refl last)
    omega
  · intro never idle
    have stops : w.now + e.timeout ≤ (e.polling page probe w).finish w last :=
      h.stops.resolve_left (never last)
    have begun : (e.polling page probe w).finish w last =
        min (w.now + last * e.interval) (w.now + e.timeout) :=
      (idle last).trans (Polling.start_of_idle (Nat.le_add_right ..) idle last)
    have reached : e.timeout ⌈/⌉ e.interval ≤ last := by
      rw [ceilDiv_le_iff_le_mul positive, Nat.mul_comm]
      omega
    exact ⟨Nat.le_antisymm few reached, by omega⟩

/-- Polling makes one probe at least, and one more for every wait that the timeout has room for at
most. It passes with the first probe that holds when all before it are over in time, and otherwise
it shows what the last one saw, which is the first to be over when the time is up. -/
theorem polls_to_last (e : Expect) (positive : 0 < e.interval) (page : Page σ)
    (probe : Play (Except PageFault Probe)) (w : World σ) (outcomes : Nat → Except PageFault Probe)
    (told : ∀ n, ((e.polling page probe w).attempt w n).result = some (outcomes n)) :
    ∃ last, e.PollsTo page probe w outcomes last := by
  obtain ⟨last, few, ends⟩ := poll_ends positive told
  exact ⟨last, pollsTo_of_endsWith positive few ends⟩

namespace Sample

def shy : World ScriptedPage where
  page := { script := [("isVisible #x", [
    { delay := some 30, line := some (.value (.bool false)) },
    { line := some (.value (.bool false)) },
    { delay := some 400, line := some (.value (.bool true)) }])] }

def look : Play (Except PageFault Probe) := (Assertion.visible ⟨.selector "#x", none⟩).probe

def patience : Expect := ⟨250, 100⟩

/-- The third probe begins at 230 ms and holds at 630 ms, long after the time is up. -/
theorem shy_polls_to_last :
    0 < patience.interval ∧ ∃ outcomes last,
      (∀ n, ((patience.polling ScriptedPage.page look shy).attempt shy n).result =
        some (outcomes n)) ∧
      patience.PollsTo ScriptedPage.page look shy outcomes last ∧
        outcomes last = .ok .holds ∧
          ((patience.poll look).perform ScriptedPage.page shy).world.now = 630 := by
  have positive : 0 < patience.interval := by decide
  let outcomes (n : Nat) : Except PageFault Probe :=
    let world := (patience.polling ScriptedPage.page look shy).start shy n
    (ScriptedPage.page.serve (.isVisible ⟨.selector "#x", none⟩) world.page).answer.map
      (Assertion.visible ⟨.selector "#x", none⟩).judge
  have told (n : Nat) : ((patience.polling ScriptedPage.page look shy).attempt shy n).result =
      some (outcomes n) := rfl
  obtain ⟨last, polls⟩ :=
    polls_to_last patience positive ScriptedPage.page look shy outcomes told
  have passed : ((patience.poll look).perform ScriptedPage.page shy).result = some (.ok ()) := by
    decide +kernel
  exact ⟨positive, outcomes, last, told, polls, (polls.first passed).1, by decide +kernel⟩

end Sample

end Expect

end Walkthrough
