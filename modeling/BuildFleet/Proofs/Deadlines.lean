/-
Waits and their deadlines.

A spot request that stays open for ever is given up soon after the deadline, however long its
answers take.  An instance that is waited for is looked at as often as the time that is left needs
it.

* **`StaysOpen`** — an answer that leaves a spot request open, after any time;
* **`exists_givesUpAt`** — a wait with no other answers ends, and no look starts late;
* **`CoversRest`** — how often an instance is looked at until the deadline;
* **`Waited`** — the two ends of a wait, with the looks at the instance in the second;
* **`awaitRunning_timely`** — waits respect their timeouts.
-/
import BuildFleet.Proofs.Fulfilment

namespace BuildFleet.Ec2

open Json (Value)
open Compute

variable {σ : Type}

/-! ### Requests that stay open -/

/-- The answer comes after any time, and shows a spot request without an instance that may still be
fulfilled. -/
structure StaysOpen (r : Response σ ℚ Value) : Prop where
  took : 0 ≤ r.took
  waits : ∃ reply v state, r.outcome = .ok reply ∧ Shows "InstanceId" v reply ∧
    v.isTruthy = false ∧ Shows "State" state reply ∧ MayFollow state

/-- The wait ends with the look that starts after so many others, because the deadline has passed,
and no look starts later than a pause after the deadline. -/
def Compute.GivesUpAt (c : Compute σ ℚ) (id : Value) (deadline : ℚ) (w : Timeline σ ℚ) (n : ℕ) :
    Prop :=
  (∀ k ≤ n, ((c.lookAgain id)^[k] w).clock ≤ deadline + c.pollInterval) ∧
    ∀ looks, n < looks → c.awaitFulfilment id deadline looks w =
      (.error (.launchTimeout s!"Spot request {id.display} was not fulfilled in time"),
        (c.look id n w).2)

section Looks

variable {c : Compute σ ℚ} {id : Value} {deadline : ℚ} {w : Timeline σ ℚ}

/-- A look that shows an open request after the deadline is the last. -/
theorem givesUpAt_zero (hopen : StaysOpen (c.client.send (.spotRequest id) w.outside))
    (hstart : w.clock ≤ deadline + c.pollInterval) (hlate : deadline ≤ (c.look id 0 w).2.clock) :
    c.GivesUpAt id deadline w 0 := by
  obtain ⟨reply, v, state, hreply, hid, hempty, hstate, hfollow⟩ := hopen.waits
  have hdecided : c.DecidedAt id deadline w 0
      (.error (.launchTimeout s!"Spot request {id.display} was not fulfilled in time")) := by
    have hanswer : (c.look id 0 w).1 = .ok reply := hreply
    rw [Compute.DecidedAt, hanswer]
    exact .late hid hempty hstate hfollow (decide_eq_true hlate)
  refine ⟨fun k hk => ?_, fun looks hlooks => ?_⟩
  · obtain rfl : k = 0 := Nat.le_zero.mp hk
    exact hstart
  · obtain ⟨more, rfl⟩ := Nat.exists_eq_succ_of_ne_zero (Nat.ne_of_gt hlooks)
    exact awaitFulfilment_of_decided hdecided more

/-- A look that shows an open request before the deadline is followed by a pause. -/
theorem givesUpAt_succ (hpause : w.refusal? c.pollInterval = none)
    (hopen : StaysOpen (c.client.send (.spotRequest id) w.outside))
    (hstart : w.clock ≤ deadline + c.pollInterval) (hearly : (c.look id 0 w).2.clock < deadline)
    {n : ℕ} (hrest : c.GivesUpAt id deadline (c.lookAgain id w) n) :
    c.GivesUpAt id deadline w (n + 1) := by
  obtain ⟨reply, v, state, hreply, hid, hempty, hstate, hfollow⟩ := hopen.waits
  have hsight : sightOf reply = .ok .waiting := by
    rw [sightOf_of_shows hid hstate, hempty, isWaitingState_iff.mpr hfollow]
    rfl
  refine ⟨fun k hk => ?_, fun looks hlooks => ?_⟩
  · cases k with
    | zero => exact hstart
    | succ k => exact hrest.1 k (Nat.le_of_succ_le_succ hk)
  · obtain ⟨more, rfl⟩ := Nat.exists_eq_succ_of_ne_zero (Nat.ne_of_gt (Nat.zero_lt_of_lt hlooks))
    rw [awaitFulfilment_of_waiting hreply hsight (decide_eq_false (not_le.mpr hearly)),
      Action.bind_of_ok (pause_lookAgain id hpause), hrest.2 more (Nat.lt_of_succ_lt_succ hlooks)]
    rfl

/-- The look that ends the wait comes after no more pauses than the time to the deadline has room
for. -/
theorem exists_givesUpAt (hpoll : 0 ≤ c.pollInterval)
    (hopen : ∀ v, StaysOpen (c.client.send (.spotRequest id) v)) (pauses : ℕ)
    (hrest : deadline ≤ w.clock + pauses * c.pollInterval)
    (hstart : w.clock ≤ deadline + c.pollInterval) :
    ∃ n ≤ pauses, c.GivesUpAt id deadline w n := by
  -- By induction on the pauses: each look with its pause uses up one of them, and perhaps more.
  induction pauses generalizing w with
  | zero =>
    have hlate : deadline ≤ (c.look id 0 w).2.clock := by
      have hadvance : (c.look id 0 w).2.clock =
          w.clock + (c.client.send (.spotRequest id) w.outside).took := rfl
      have := (hopen w.outside).took
      rw [hadvance]
      simp only [Nat.cast_zero, zero_mul, add_zero] at hrest
      linarith
    exact ⟨0, le_rfl, givesUpAt_zero (hopen w.outside) hstart hlate⟩
  | succ pauses ih =>
    rcases le_or_gt deadline (c.look id 0 w).2.clock with hlate | hearly
    · exact ⟨0, Nat.zero_le _, givesUpAt_zero (hopen w.outside) hstart hlate⟩
    · have hmade := w.refusal?_of_nonneg hpoll
      have hpaused : (c.lookAgain id w).clock = (c.look id 0 w).2.clock + c.pollInterval := by
        rw [lookAgain_eq id hmade]
        rfl
      have hadvance : (c.look id 0 w).2.clock =
          w.clock + (c.client.send (.spotRequest id) w.outside).took := rfl
      have htook := (hopen w.outside).took
      have hrest' : deadline ≤ (c.lookAgain id w).clock + pauses * c.pollInterval := by
        rw [hpaused, hadvance]
        push_cast at hrest
        linarith
      have hstart' : (c.lookAgain id w).clock ≤ deadline + c.pollInterval := by
        rw [hpaused]
        linarith
      obtain ⟨n, hn, hlast⟩ := ih hrest' hstart'
      have hlater := givesUpAt_succ hmade (hopen w.outside) hstart hearly hlast
      exact ⟨n + 1, Nat.succ_le_succ hn, hlater⟩

end Looks

/-! ### Looks at an instance -/

/-- So many attempts, each of a quarter of a minute, are the fewest that cover the time to the
deadline, or a second if less is left; there is one at least. -/
structure CoversRest (deadline now : ℚ) (attempts : ℤ) : Prop where
  least : IsLeast {m : ℤ | 1 ≤ m ∧ max (deadline - now) 1 ≤ 15 * m} attempts
  lower : 15 * ((attempts : ℚ) - 1) < max (deadline - now) 1
  upper : max (deadline - now) 1 ≤ 15 * (attempts : ℚ)

theorem looksUntil_eq (deadline now : ℚ) :
    looksUntil deadline now = .ok (max 1 (max (deadline - now) 1 / 15).ceil) := by
  have hrest : Duration.orAtLeast (Duration.sub deadline now) 1 = max (deadline - now) 1 := by
    show (if decide (deadline - now < ((1 : ℕ) : ℚ)) = true then ((1 : ℕ) : ℚ)
      else deadline - now) = _
    simp only [decide_eq_true_eq, Nat.cast_one]
    rcases lt_or_ge (deadline - now) 1 with hless | hmore
    · rw [if_pos hless, max_eq_right hless.le]
    · rw [if_neg (not_lt.mpr hmore), max_eq_left hmore]
  have hsteps : Duration.steps waiterDelay (max (deadline - now) 1) =
      .ok (max (deadline - now) 1 / ((15 : ℕ) : ℚ)).ceil := rfl
  rw [looksUntil, hrest, hsteps, Nat.cast_ofNat]
  rfl

theorem coversRest_looks (deadline now : ℚ) :
    CoversRest deadline now (max 1 (max (deadline - now) 1 / 15).ceil) := by
  have hsecond : 1 ≤ max (deadline - now) 1 := le_max_right _ _
  -- As there is time left, the quotient alone makes one attempt at least.
  have hpos : 0 < (max (deadline - now) 1 / 15).ceil := by
    refine Rat.lt_ceil_iff.mpr ?_
    rw [Int.cast_zero]
    linarith
  have hone : 1 ≤ (max (deadline - now) 1 / 15).ceil := by omega
  rw [max_eq_right hone]
  have hceil : max (deadline - now) 1 / 15 ≤ (max (deadline - now) 1 / 15).ceil := Rat.le_ceil
  have hless : ((max (deadline - now) 1 / 15).ceil : ℚ) < max (deadline - now) 1 / 15 + 1 :=
    Rat.ceil_lt
  have hupper : max (deadline - now) 1 ≤ 15 * ((max (deadline - now) 1 / 15).ceil : ℚ) := by
    linarith
  refine ⟨⟨⟨hone, hupper⟩, fun m hm => Rat.ceil_le_iff.mpr ?_⟩, by linarith, hupper⟩
  have := hm.2
  linarith

/-! ### Whole waits -/

/-- The ends of a wait for a launch. -/
inductive Waited (c : Compute σ ℚ) (timeout : ℚ) (looks : ℕ) (handle : Handle) (w : Timeline σ ℚ) :
    Except Failure Value × Handle × Timeline σ ℚ → Prop
  /-- There is no instance that could be waited for. -/
  | unfulfilled {e : Failure} {y : Timeline σ ℚ}
      (hlooked : c.awaitFulfilment handle.spotRequestId (w.clock + timeout) looks w =
        (.error e, y)) :
      Waited c timeout looks handle w (.error e, handle, y)
  /-- The service waits for an instance, which comes with the spot request if it is not known and
  there is one, with as many attempts as the time to the deadline needs. -/
  | reached {v : Value} {y : Timeline σ ℚ} {attempts : ℤ} {result : Except Failure Value}
      (log : List LogEntry)
      (hfound : if handle.instanceId.isTruthy = false ∧ handle.spotRequestId.isTruthy = true then
          c.awaitFulfilment handle.spotRequestId (w.clock + timeout) looks w = (.ok v, y)
        else handle.instanceId = v ∧ w = y)
      (hattempts : CoversRest (w.clock + timeout) y.clock attempts)
      (harrival : Arrival v (c.send (.awaitRunning v attempts) y).1 result) :
      Waited c timeout looks handle w (result, { handle with instanceId := v },
        { (c.send (.awaitRunning v attempts) y).2 with log })

section Waits

variable {c : Compute σ ℚ} {timeout : ℚ} {looks : ℕ} {handle : Handle} {w : Timeline σ ℚ}

theorem awaitRunning_of_known
    (hknown : ¬(handle.instanceId.isTruthy = false ∧ handle.spotRequestId.isTruthy = true))
    {result : Except Failure Value} {y : Timeline σ ℚ}
    (hwait : c.awaitInstance handle.instanceId (w.clock + timeout) w = (result, y)) :
    c.awaitRunning timeout looks (handle, w) = (result, handle, y) := by
  have hdeadline : Duration.add w.clock timeout = w.clock + timeout := rfl
  simp [awaitRunning, Timeline.now, hknown, hdeadline, hwait]

theorem waited_awaitRunning :
    Waited c timeout looks handle w (c.awaitRunning timeout looks (handle, w)) := by
  have hwait : ∀ v y, ∃ attempts result log, CoversRest (w.clock + timeout) y.clock attempts ∧
      Arrival v (c.send (.awaitRunning v attempts) y).1 result ∧
      c.awaitInstance v (w.clock + timeout) y =
        (result, { (c.send (.awaitRunning v attempts) y).2 with log }) := by
    intro v y
    obtain ⟨result, log, harrival, hwaited⟩ :=
      awaitInstance_arrival v (w.clock + timeout) (looksUntil_eq (w.clock + timeout) y.clock)
    exact ⟨_, result, log, coversRest_looks _ _, harrival, hwaited⟩
  by_cases hopen : handle.instanceId.isTruthy = false ∧ handle.spotRequestId.isTruthy = true
  · rcases hlooked : c.awaitFulfilment handle.spotRequestId (w.clock + timeout) looks w
      with ⟨e | v, y⟩
    · rw [awaitRunning_of_error hopen.1 hopen.2 hlooked]
      exact .unfulfilled hlooked
    · obtain ⟨attempts, result, log, hattempts, harrival, hwaited⟩ := hwait v y
      rw [awaitRunning_of_ok hopen.1 hopen.2 hlooked hwaited]
      exact .reached log (by rwa [if_pos hopen]) hattempts harrival
  · obtain ⟨attempts, result, log, hattempts, harrival, hwaited⟩ := hwait handle.instanceId w
    rw [awaitRunning_of_known hopen hwaited]
    exact .reached log (by rw [if_neg hopen]; exact ⟨rfl, rfl⟩) hattempts harrival

/-- **Waits respect their timeouts.**  A wait for a spot request that stays open ends, with one look
more than there are pauses in the timeout at most, none of which starts later than a pause after the
deadline; and whenever the service is asked to wait for an instance, the number of attempts is the
least that covers the time to the deadline, or a second if less is left. -/
theorem awaitRunning_timely (htimeout : 0 ≤ timeout) (hpoll : 0 < c.pollInterval) :
    (handle.instanceId.isTruthy = false → handle.spotRequestId.isTruthy = true →
      (∀ v, StaysOpen (c.client.send (.spotRequest handle.spotRequestId) v)) →
        ∃ n ≤ ⌈timeout / c.pollInterval⌉₊,
          (∀ k ≤ n, ((c.lookAgain handle.spotRequestId)^[k] w).clock ≤
            w.clock + timeout + c.pollInterval) ∧
          ∀ looks, n < looks → c.awaitRunning timeout looks (handle, w) =
            (.error (.launchTimeout
              s!"Spot request {handle.spotRequestId.display} was not fulfilled in time"),
              handle, (c.look handle.spotRequestId n w).2)) ∧
      ∀ looks, Waited c timeout looks handle w (c.awaitRunning timeout looks (handle, w)) := by
  refine ⟨fun hnone hspot hopen => ?_, fun looks => waited_awaitRunning⟩
  have hrest : w.clock + timeout ≤
      w.clock + (⌈timeout / c.pollInterval⌉₊ : ℚ) * c.pollInterval := by
    have := (div_le_iff₀ hpoll).mp (Nat.le_ceil (timeout / c.pollInterval))
    linarith
  have hstart : w.clock ≤ w.clock + timeout + c.pollInterval := by linarith
  obtain ⟨n, hn, hstarts, hends⟩ := exists_givesUpAt hpoll.le hopen _ hrest hstart
  refine ⟨n, hn, hstarts, fun looks hlooks => ?_⟩
  exact awaitRunning_of_error hnone hspot (hends looks hlooks)

end Waits

/-- A spot request that stays open for ever, and a second for each answer. -/
theorem awaitRunning_timely_stalled : ∃ n ≤ 12, ∀ looks, n < looks →
    ((⟨.stalled, "fleet", 5⟩ : Compute Unit ℚ).awaitRunning 60 looks
      (.unfulfilled, ⟨(), 0, [], [], false⟩)).1 =
        .error (.launchTimeout "Spot request sir-1 was not fulfilled in time") := by
  have hopen : ∀ v, StaysOpen (Client.stalled.send (.spotRequest (.text "sir-1")) v) := fun v =>
    ⟨zero_le_one, _, _, _, rfl, ⟨_, [], rfl, rfl⟩, rfl, ⟨_, [], rfl, rfl⟩, .inl rfl⟩
  have htimeout : (0 : ℚ) ≤ 60 := by norm_num
  have hpoll : (0 : ℚ) < 5 := by norm_num
  obtain ⟨n, hn, -, hends⟩ := (@awaitRunning_timely _ ⟨.stalled, "fleet", 5⟩ 60 .unfulfilled
    ⟨(), 0, [], [], false⟩ htimeout hpoll).1 rfl rfl hopen
  refine ⟨n, ?_, fun looks hlooks => congrArg Prod.fst (hends looks hlooks)⟩
  norm_num at hn
  exact hn

end BuildFleet.Ec2
