/-
Waits for spot requests.

A wait looks at its spot request again and again, and most answers leave it where it was.  The first
one that does not decides what becomes of the wait:

* **`Decides`** — the five kinds of answers that decide a wait, each with what it comes to;
* **`awaitFulfilment_iterate`** — an answer of another kind costs a pause, and nothing else;
* **`Arrival`** — what becomes of an instance that is waited for;
* **`Followed`** — what becomes of a wait once it is decided;
* **`awaitRunning_follows`** — a wait follows the first answer that decides it;
* **`foundering_waits`** — waits that founder by themselves, on a pause that the clock does not make
  and on a time to the deadline that cannot be counted.
-/
import BuildFleet.Proofs.Surfacing

namespace BuildFleet.Ec2

open Json (Value)
open Compute

variable {σ τ : Type}

/-! ### Answers -/

/-- The reply has a list of objects for spot requests, or lacks the list, or the service is in
trouble. -/
def Answers (r : Except Failure Value) : Prop :=
  Ends (Listed "SpotInstanceRequests" fun request => ∃ fields, request.fields? = some fields)
    IsFault r

/-- The spot requests of a reply. -/
def Lists (requests : List Value) (reply : Value) : Prop :=
  reply.getField "SpotInstanceRequests" (.list []) = .ok (.list requests)

/-- The value in a field of the first spot request, which is null where there is none. -/
def Shows (name : String) (v : Value) (reply : Value) : Prop :=
  ∃ request rest, Lists (request :: rest) reply ∧ request.getField name .null = .ok v

/-- A request in this state may still be fulfilled. -/
def MayFollow (state : Value) : Prop := state = .text "open" ∨ state = .text "active"

/-- An answer that comes at a time decides the wait for a spot request, which then ends with the id
of an instance or with a failure.  The kinds of such answers stand in the order in which they are
looked for. -/
inductive Decides [Duration τ] (id : Value) (deadline now : τ) :
    Except Failure Value → Except Failure Value → Prop
  | fault (fault : Fault) :
      Decides id deadline now (.error (.service fault))
        (.error (.provider s!"Failed to describe spot request {id.display}: {fault.message}"))
  | gone {reply : Value} (hnone : Lists [] reply) :
      Decides id deadline now (.ok reply)
        (.error (.provider
          s!"Spot request {id.display} ended in state {RequestState.closed.name}"))
  /-- The instance is there, whatever the state and however late it is. -/
  | fulfilled {reply v : Value} (hshown : Shows "InstanceId" v reply) (hv : v.isTruthy = true) :
      Decides id deadline now (.ok reply) (.ok v)
  | ended {reply v state : Value} (hshown : Shows "InstanceId" v reply) (hv : v.isTruthy = false)
      (hstate : Shows "State" state reply) (hover : ¬MayFollow state) :
      Decides id deadline now (.ok reply)
        (.error (.provider s!"Spot request {id.display} ended in state {state.display}"))
  | late {reply v state : Value} (hshown : Shows "InstanceId" v reply) (hv : v.isTruthy = false)
      (hstate : Shows "State" state reply) (hopen : MayFollow state)
      (hlate : Duration.atLeast now deadline = true) :
      Decides id deadline now (.ok reply)
        (.error (.launchTimeout s!"Spot request {id.display} was not fulfilled in time"))

theorem isWaitingState_iff {state : Value} : isWaitingState state = true ↔ MayFollow state := by
  rw [isWaitingState, Bool.or_eq_true, decide_eq_true_eq, decide_eq_true_eq, MayFollow]
  cases state <;> simp [Value.text?, RequestState.name]

theorem sightOf_of_nil {reply : Value} (h : Lists [] reply) :
    sightOf reply = .ok (.ended (.text RequestState.closed.name)) := by
  rw [sightOf, requestsOf, h]
  rfl

theorem Shows.other {name : String} {v reply : Value} (h : Shows name v reply) (other : String) :
    ∃ u, Shows other u reply := by
  obtain ⟨request, rest, hlist, hv⟩ := h
  cases hfields : request.fields? with
  | none => simp [Value.getField, hfields] at hv
  | some fields => exact ⟨_, request, rest, hlist, by rw [Value.getField, hfields]⟩

theorem sightOf_of_shows {reply v state : Value} (hid : Shows "InstanceId" v reply)
    (hstate : Shows "State" state reply) :
    sightOf reply = .ok (if v.isTruthy then .fulfilled v
      else if isWaitingState state then .waiting else .ended state) := by
  obtain ⟨request, rest, hlist, hv⟩ := hid
  obtain ⟨request', rest', hlist', hs⟩ := hstate
  cases hlist.symm.trans hlist'
  have hthere : (Value.list (request :: rest)).isTruthy = true := rfl
  have hfirst : (Value.list (request :: rest)).needFirst = .ok request := rfl
  rw [sightOf, requestsOf, hlist]
  by_cases hi : v.isTruthy <;>
    simp [bind, pure, Except.bind, Except.pure, hthere, hfirst, hv, hs, hi]

section Undecided

variable [Duration τ] {id : Value} {deadline now : τ}

/-- While there is time left, the answer of a request that waits decides nothing. -/
theorem undecided_of_waiting {reply : Value} (hsight : sightOf reply = .ok .waiting)
    (hearly : Duration.atLeast now deadline = false) :
    ¬∃ decision, Decides id deadline now (.ok reply) decision := by
  rintro ⟨decision, h⟩
  cases h with
  | gone hnone => simp [sightOf_of_nil hnone] at hsight
  | fulfilled hshown hv =>
    obtain ⟨state, hstate⟩ := hshown.other "State"
    simp [sightOf_of_shows hshown hstate, hv] at hsight
  | ended hshown hv hstate hover =>
    simp [sightOf_of_shows hshown hstate, hv, mt isWaitingState_iff.mp hover] at hsight
  | late hshown hv hstate hopen hlate =>
    rw [hlate] at hearly
    cases hearly

/-- No other answer decides nothing. -/
theorem waiting_of_undecided {r : Except Failure Value} (h : Answers r)
    (hnot : ¬∃ decision, Decides id deadline now r decision) :
    ∃ reply, r = .ok reply ∧ sightOf reply = .ok .waiting ∧
      Duration.atLeast now deadline = false := by
  cases r with
  | error e =>
    obtain ⟨fault, rfl⟩ := h
    exact absurd ⟨_, .fault fault⟩ hnot
  | ok reply =>
    obtain ⟨requests, hlist, hall⟩ := h
    cases requests with
    | nil => exact absurd ⟨_, .gone hlist⟩ hnot
    | cons request rest =>
      obtain ⟨fields, hfields⟩ := hall request List.mem_cons_self
      obtain ⟨v, hv⟩ : ∃ v, Shows "InstanceId" v reply :=
        ⟨_, request, rest, hlist, by rw [Value.getField, hfields]⟩
      obtain ⟨state, hstate⟩ := hv.other "State"
      have hempty : v.isTruthy = false :=
        Bool.eq_false_iff.mpr fun hi => hnot ⟨_, .fulfilled hv hi⟩
      have hopen : MayFollow state := by
        by_contra hover
        exact hnot ⟨_, .ended hv hempty hstate hover⟩
      refine ⟨reply, rfl, ?_, Bool.eq_false_iff.mpr fun hlate => ?_⟩
      · rw [sightOf_of_shows hv hstate, hempty, isWaitingState_iff.mpr hopen]
        rfl
      · exact hnot ⟨_, .late hv hempty hstate hopen hlate⟩

end Undecided

/-! ### Looks -/

/-- The next look at a spot request comes after an answer and a pause. -/
def Compute.lookAgain [Duration τ] (c : Compute σ τ) (id : Value) (w : Timeline σ τ) :
    Timeline σ τ :=
  (Timeline.pause c.pollInterval (c.send (.spotRequest id) w).2).2

/-- The answer to a look at the spot request after so many others, and the world after it. -/
def Compute.look [Duration τ] (c : Compute σ τ) (id : Value) (n : Nat) (w : Timeline σ τ) :
    Except Failure Value × Timeline σ τ :=
  c.send (.spotRequest id) ((c.lookAgain id)^[n] w)

/-- The look after so many others decides the wait so. -/
def Compute.DecidedAt [Duration τ] (c : Compute σ τ) (id : Value) (deadline : τ)
    (w : Timeline σ τ) (n : Nat) (decision : Except Failure Value) : Prop :=
  Decides id deadline (c.look id n w).2.clock (c.look id n w).1 decision

section Looks

variable [Duration τ] {c : Compute σ τ} {id : Value} {deadline : τ} {w : Timeline σ τ}

theorem look_zero (c : Compute σ τ) (id : Value) (w : Timeline σ τ) :
    c.look id 0 w = c.send (.spotRequest id) w := rfl

theorem lookAgain_eq (id : Value) (hpause : w.refusal? c.pollInterval = none) :
    c.lookAgain id w =
      { (c.look id 0 w).2 with
        clock := Duration.add (c.look id 0 w).2.clock c.pollInterval
        pauses := w.pauses ++ [c.pollInterval] } := by
  have hmade := Timeline.pause_of_none (w := (c.send (.spotRequest id) w).2) hpause
  rw [Compute.lookAgain, hmade]
  rfl

theorem pause_lookAgain (id : Value) (hpause : w.refusal? c.pollInterval = none) :
    Timeline.pause c.pollInterval (c.send (.spotRequest id) w).2 = (.ok (), c.lookAgain id w) := by
  have hmade := Timeline.pause_of_none (w := (c.send (.spotRequest id) w).2) hpause
  rw [Compute.lookAgain, hmade]

theorem refusal?_lookAgain (c : Compute σ τ) (id : Value) (w : Timeline σ τ) (d : τ) :
    (c.lookAgain id w).refusal? d = w.refusal? d :=
  Timeline.refusal?_congr (Timeline.pause_setByHand _ _) d

theorem look_pauses (hpause : w.refusal? c.pollInterval = none) (id : Value) (n : Nat) :
    (c.look id n w).2.pauses = w.pauses ++ List.replicate n c.pollInterval := by
  show ((c.lookAgain id)^[n] w).pauses = _
  induction n generalizing w with
  | zero => exact (List.append_nil _).symm
  | succ n ih =>
    have hnext : (c.lookAgain id w).pauses = w.pauses ++ [c.pollInterval] := by
      rw [lookAgain_eq id hpause]
    rw [Function.iterate_succ_apply, ih ((refusal?_lookAgain c id w _).trans hpause), hnext,
      List.append_assoc, List.singleton_append, List.replicate_succ]

theorem awaitFulfilment_of_decided {decision : Except Failure Value}
    (h : c.DecidedAt id deadline w 0 decision) (looks : Nat) :
    c.awaitFulfilment id deadline (looks + 1) w = (decision, (c.look id 0 w).2) := by
  rw [Compute.DecidedAt, look_zero] at h
  rw [awaitFulfilment, Action.bind_apply, asProviderFailure, Action.bind_apply,
    Action.attempt_apply, look_zero]
  generalize c.send (.spotRequest id) w = asked at h ⊢
  obtain ⟨r, y⟩ := asked
  cases h with
  | fault fault => rfl
  | gone hnone =>
    simp only [Action.bind_apply, Action.pure_apply, Action.ofExcept_apply, sightOf_of_nil hnone]
    rfl
  | fulfilled hshown hv =>
    obtain ⟨state, hstate⟩ := hshown.other "State"
    simp [sightOf_of_shows hshown hstate, hv]
  | ended hshown hv hstate hover =>
    have hnot := mt isWaitingState_iff.mp hover
    simp [sightOf_of_shows hshown hstate, hv, hnot]
  | late hshown hv hstate hopen hlate =>
    have hwaits := isWaitingState_iff.mpr hopen
    simp [sightOf_of_shows hshown hstate, hv, hwaits, Timeline.now, hlate]

/-- An answer that leaves the request open is followed by a pause, and then by the other looks. -/
theorem awaitFulfilment_of_waiting {reply : Value}
    (hreply : (c.send (.spotRequest id) w).1 = .ok reply)
    (hsight : sightOf reply = .ok .waiting)
    (hearly : Duration.atLeast (c.send (.spotRequest id) w).2.clock deadline = false)
    (looks : Nat) :
    c.awaitFulfilment id deadline (looks + 1) w =
      (Timeline.pause c.pollInterval >>= fun _ => c.awaitFulfilment id deadline looks)
        (c.send (.spotRequest id) w).2 := by
  rw [awaitFulfilment, Action.bind_apply, asProviderFailure, Action.bind_apply,
    Action.attempt_apply]
  generalize c.send (.spotRequest id) w = asked at hreply hearly ⊢
  obtain ⟨r, y⟩ := asked
  obtain rfl : r = .ok reply := hreply
  simp [hsight, Timeline.now, hearly]

theorem awaitFulfilment_of_undecided (h : Answers (c.send (.spotRequest id) w).1)
    (hnot : ¬∃ decision, c.DecidedAt id deadline w 0 decision) (looks : Nat) :
    c.awaitFulfilment id deadline (looks + 1) w =
      (Timeline.pause c.pollInterval >>= fun _ => c.awaitFulfilment id deadline looks)
        (c.send (.spotRequest id) w).2 := by
  simp only [Compute.DecidedAt, look_zero] at hnot
  obtain ⟨reply, hreply, hsight, hearly⟩ := waiting_of_undecided h hnot
  exact awaitFulfilment_of_waiting hreply hsight hearly looks

/-- A pause that the clock does not make ends the wait. -/
theorem awaitFulfilment_of_refused (h : Answers (c.send (.spotRequest id) w).1)
    (hnot : ¬∃ decision, c.DecidedAt id deadline w 0 decision) {failure : Failure}
    (hrefused : w.refusal? c.pollInterval = some failure) (looks : Nat) :
    c.awaitFulfilment id deadline (looks + 1) w = (.error failure, (c.look id 0 w).2) := by
  have hpause := Timeline.pause_of_some (w := (c.send (.spotRequest id) w).2) hrefused
  rw [awaitFulfilment_of_undecided h hnot, Action.bind_apply, hpause, look_zero]

/-- Looks that decide nothing take the wait to where it can be taken up. -/
theorem awaitFulfilment_iterate (hanswers : ∀ v, Answers (c.send (.spotRequest id) v).1) {n : Nat}
    (hpause : n = 0 ∨ w.refusal? c.pollInterval = none)
    (hearlier : ∀ k < n, ¬∃ decision, c.DecidedAt id deadline w k decision) (looks : Nat) :
    c.awaitFulfilment id deadline (n + looks) w =
      c.awaitFulfilment id deadline looks ((c.lookAgain id)^[n] w) := by
  induction n generalizing w with
  | zero => rw [Nat.zero_add, Function.iterate_zero_apply]
  | succ n ih =>
    have hmade := hpause.resolve_left (Nat.succ_ne_zero n)
    have hfirst := hearlier 0 (Nat.succ_pos n)
    -- The looks after the first one are those of a wait that starts after its pause.
    have hrest : ∀ k < n, ¬∃ decision, c.DecidedAt id deadline (c.lookAgain id w) k decision := by
      intro k hk
      exact hearlier (k + 1) (Nat.succ_lt_succ hk)
    rw [Nat.succ_add_eq_add_succ, Nat.add_succ, awaitFulfilment_of_undecided (hanswers w) hfirst,
      Action.bind_of_ok (pause_lookAgain id hmade),
      ih (.inr ((refusal?_lookAgain c id w _).trans hmade)) hrest, Function.iterate_succ_apply]

theorem awaitFulfilment_follows (hanswers : ∀ v, Answers (c.send (.spotRequest id) v).1) {n : Nat}
    (hpause : n = 0 ∨ w.refusal? c.pollInterval = none)
    (hearlier : ∀ k < n, ¬∃ decision, c.DecidedAt id deadline w k decision)
    {decision : Except Failure Value} (hdecided : c.DecidedAt id deadline w n decision)
    {looks : Nat} (hlooks : n < looks) :
    c.awaitFulfilment id deadline looks w = (decision, (c.look id n w).2) := by
  obtain ⟨more, rfl⟩ : ∃ more, looks = n + (more + 1) := ⟨looks - n - 1, by omega⟩
  have hlast : c.DecidedAt id deadline ((c.lookAgain id)^[n] w) 0 decision := hdecided
  rw [awaitFulfilment_iterate hanswers hpause hearlier, awaitFulfilment_of_decided hlast]
  rfl

end Looks

/-! ### Arrivals -/

/-- What a wait for an instance comes to, by what the service says when it has waited. -/
inductive Arrival (v : Value) : Except Failure Value → Except Failure Value → Prop
  | runs (reply : Value) : Arrival v (.ok reply) (.ok v)
  | late (reason : String) :
      Arrival v (.error (.service (.waiter reason))) (.error (.launchTimeout
        s!"Instance {v.display} did not reach running: {(Fault.waiter reason).message}"))
  | trouble (fault : Fault) (hfault : ∀ reason, fault ≠ .waiter reason) :
      Arrival v (.error (.service fault)) (.error (.provider
        s!"Failed waiting for instance {v.display}: {fault.message}"))
  /-- The service has not answered. -/
  | other (e : Failure) (he : ¬IsFault e) : Arrival v (.error e) (.error e)

section Arrivals

variable [Duration τ] {c : Compute σ τ}

theorem awaitInstance_arrival (v : Value) (deadline : τ) {w : Timeline σ τ} {attempts : Int}
    (h : looksUntil deadline w.clock = .ok attempts) :
    ∃ result log, Arrival v (c.send (.awaitRunning v attempts) w).1 result ∧
      c.awaitInstance v deadline w =
        (result, { (c.send (.awaitRunning v attempts) w).2 with log }) := by
  simp only [awaitInstance, Timeline.now, Action.bind_apply, Action.reads_apply,
    Action.ofExcept_apply, h, Action.attempt_apply]
  generalize c.send (.awaitRunning v attempts) w = asked
  obtain ⟨waited, y⟩ := asked
  cases waited with
  | ok reply => exact ⟨_, _, .runs reply, rfl⟩
  | error e =>
    cases e with
    | service fault =>
      cases fault with
      | waiter reason => exact ⟨_, y.log, .late reason, rfl⟩
      | _ => exact ⟨_, y.log, .trouble _ (by simp), rfl⟩
    | _ => exact ⟨_, y.log, .other _ (by simp [IsFault]), rfl⟩

variable {handle : Handle} {timeout : τ} {w y : Timeline σ τ} {looks : Nat}
  (hnone : handle.instanceId.isTruthy = false) (hspot : handle.spotRequestId.isTruthy = true)

include hnone hspot

theorem awaitRunning_of_error {e : Failure}
    (h : c.awaitFulfilment handle.spotRequestId (Duration.add w.clock timeout) looks w =
      (.error e, y)) :
    c.awaitRunning timeout looks (handle, w) = (.error e, handle, y) := by
  simp [awaitRunning, Timeline.now, hnone, hspot, h]

/-- The handle learns the id before the instance runs. -/
theorem awaitRunning_of_ok {v : Value} {result : Except Failure Value} {y' : Timeline σ τ}
    (h : c.awaitFulfilment handle.spotRequestId (Duration.add w.clock timeout) looks w = (.ok v, y))
    (hwait : c.awaitInstance v (Duration.add w.clock timeout) y = (result, y')) :
    c.awaitRunning timeout looks (handle, w) = (result, { handle with instanceId := v }, y') := by
  simp [awaitRunning, Timeline.now, hnone, hspot, h, hwait]

end Arrivals

/-! ### Waits -/

/-- What a wait comes to, for what the look after which it was decided has decided: the outcome, the
handle, and the world. -/
inductive Followed [Duration τ] (c : Compute σ τ) (deadline : τ) (handle : Handle)
    (asked : Timeline σ τ) :
    Except Failure Value → Except Failure Value × Handle × Timeline σ τ → Prop
  | failed (e : Failure) : Followed c deadline handle asked (.error e) (.error e, handle, asked)
  /-- The service waits for the instance, and only the log is written after that. -/
  | fulfilled {v : Value} {attempts : Int} {result : Except Failure Value} (log : List LogEntry)
      (hattempts : looksUntil deadline asked.clock = .ok attempts)
      (harrival : Arrival v (c.send (.awaitRunning v attempts) asked).1 result) :
      Followed c deadline handle asked (.ok v)
        (result, { handle with instanceId := v },
          { (c.send (.awaitRunning v attempts) asked).2 with log })
  /-- The time to the deadline cannot be counted, so the service is not asked to wait. -/
  | uncountable {v : Value} {e : Failure} (hattempts : looksUntil deadline asked.clock = .error e) :
      Followed c deadline handle asked (.ok v) (.error e, { handle with instanceId := v }, asked)

/-- A rational time can be counted. -/
theorem Followed.of_rat {c : Compute σ ℚ} {deadline : ℚ} {handle : Handle} {asked : Timeline σ ℚ}
    {v : Value} {outcome : Except Failure Value × Handle × Timeline σ ℚ}
    (h : Followed c deadline handle asked (.ok v) outcome) :
    ∃ attempts result log, Arrival v (c.send (.awaitRunning v attempts) asked).1 result ∧
      outcome = (result, { handle with instanceId := v },
        { (c.send (.awaitRunning v attempts) asked).2 with log }) := by
  cases h with
  | fulfilled log hattempts harrival => exact ⟨_, _, log, harrival, rfl⟩
  | uncountable hattempts => cases hattempts

/-- **A wait follows the first answer that decides it.**  The earlier answers cost a pause each, and
there is no pause after it.  If it has the id of an instance, whatever the state and however late it
is, the handle keeps the id, and if the time to the deadline can be counted the service waits for
that instance, once; the id is returned if and only if that goes well.  Otherwise the wait fails,
the handle is unchanged, and nothing more is asked for.  Where the clock does not make the pause,
the wait fails on that at the first answer that decides nothing. -/
theorem awaitRunning_follows [Duration τ] {c : Compute σ τ} {handle : Handle} {timeout : τ}
    {w : Timeline σ τ} (hnone : handle.instanceId.isTruthy = false)
    (hspot : handle.spotRequestId.isTruthy = true)
    (hanswers : ∀ v, Answers (c.client.send (.spotRequest handle.spotRequestId) v).outcome) :
    let deadline := Duration.add w.clock timeout
    (∀ n decision,
      (∀ k < n, ¬∃ decision, c.DecidedAt handle.spotRequestId deadline w k decision) →
      c.DecidedAt handle.spotRequestId deadline w n decision →
      n = 0 ∨ w.refusal? c.pollInterval = none →
      ∀ looks, n < looks →
        (c.look handle.spotRequestId n w).2.pauses =
            w.pauses ++ List.replicate n c.pollInterval ∧
          Followed c deadline handle (c.look handle.spotRequestId n w).2 decision
            (c.awaitRunning timeout looks (handle, w))) ∧
      ∀ failure, w.refusal? c.pollInterval = some failure →
        (¬∃ decision, c.DecidedAt handle.spotRequestId deadline w 0 decision) →
        ∀ looks, 0 < looks → c.awaitRunning timeout looks (handle, w) =
          (.error failure, handle, (c.look handle.spotRequestId 0 w).2) := by
  intro deadline
  have hsent : ∀ v, Answers (c.send (.spotRequest handle.spotRequestId) v).1 := fun v =>
    hanswers v.outside
  constructor
  · intro n decision hearlier hdecided hpause looks hlooks
    have hfollows := awaitFulfilment_follows hsent hpause hearlier hdecided hlooks
    constructor
    · rcases hpause with rfl | hmade
      · exact (List.append_nil _).symm
      · exact look_pauses hmade handle.spotRequestId n
    · cases decision with
      | error e =>
        rw [awaitRunning_of_error hnone hspot hfollows]
        exact .failed e
      | ok v =>
        cases hattempts : looksUntil deadline (c.look handle.spotRequestId n w).2.clock with
        | ok attempts =>
          obtain ⟨result, log, harrival, hwait⟩ := awaitInstance_arrival (c := c) v _ hattempts
          rw [awaitRunning_of_ok hnone hspot hfollows hwait]
          exact .fulfilled log hattempts harrival
        | error e =>
          rw [awaitRunning_of_ok hnone hspot hfollows (awaitInstance_of_uncountable v hattempts)]
          exact .uncountable hattempts
  · intro failure hrefused hnot looks hlooks
    obtain ⟨more, rfl⟩ := Nat.exists_eq_succ_of_ne_zero (Nat.ne_of_gt hlooks)
    have hwait := awaitFulfilment_of_refused (hsent w) hnot hrefused more
    exact awaitRunning_of_error hnone hspot hwait

/-- A service that shows a spot request as open at first, and then as closed and fulfilled, and that
waits for no instance.  It keeps the names of what it is asked. -/
def Client.belated (took : τ) : Client (List String) τ where
  send r asked :=
    { took
      outside := asked ++ [r.method]
      outcome := match r with
        | .spotRequest _ => .ok (.object [("SpotInstanceRequests", .list [.object
            (if asked.isEmpty then [("State", .text "open")]
             else [("State", .text "closed"), ("InstanceId", .text "i-1")])])])
        | _ => .error (.service (.waiter "Max attempts exceeded")) }

theorem answers_belated (took : τ) (id : Value) (asked : List String) :
    Answers ((Client.belated took).send (.spotRequest id) asked).outcome := by
  refine ⟨_, rfl, fun request hrequest => ?_⟩
  obtain rfl := List.mem_singleton.mp hrequest
  exact ⟨_, rfl⟩

def Compute.belated (took pollInterval : τ) : Compute (List String) τ :=
  ⟨.belated took, "fleet", pollInterval⟩

/-- A spot launch that has no instance yet. -/
def Handle.unfulfilled : Handle := ⟨.null, .text "ami-1", .text "sir-1"⟩

section Belated

variable [Duration τ] (took pollInterval deadline now : τ) (id : Value)

/-- The first answer decides nothing. -/
theorem undecided_belated (hearly : Duration.atLeast (Duration.add now took) deadline = false) :
    ¬∃ decision, (Compute.belated took pollInterval).DecidedAt id deadline
      ⟨[], now, [], [], false⟩ 0 decision :=
  undecided_of_waiting rfl hearly

theorem answers_send_belated (v : Timeline (List String) τ) :
    Answers ((Compute.belated took pollInterval).send (.spotRequest id) v).1 :=
  answers_belated took id v.outside

theorem look_belated (hmade : Duration.pauseFault? pollInterval = none) :
    (Compute.belated took pollInterval).look id 1 ⟨[], now, [], [], false⟩ =
      (.ok (.object [("SpotInstanceRequests",
          .list [.object [("State", .text "closed"), ("InstanceId", .text "i-1")]])]),
        ⟨["describe_spot_instance_requests", "describe_spot_instance_requests"],
          Duration.add (Duration.add (Duration.add now took) pollInterval) took, [pollInterval], [],
          false⟩) := by
  have hagain := lookAgain_eq (c := .belated took pollInterval) (w := ⟨[], now, [], [], false⟩) id
    hmade
  rw [Compute.look, Function.iterate_one, hagain]
  rfl

/-- The second answer is the first that decides. -/
theorem decidedAt_belated (hmade : Duration.pauseFault? pollInterval = none)
    (hearly : Duration.atLeast (Duration.add now took) deadline = false) :
    (∀ k < 1, ¬∃ decision, (Compute.belated took pollInterval).DecidedAt id deadline
        ⟨[], now, [], [], false⟩ k decision) ∧
      (Compute.belated took pollInterval).DecidedAt id deadline ⟨[], now, [], [], false⟩ 1
        (.ok (.text "i-1")) := by
  constructor
  · intro k hk
    obtain rfl : k = 0 := Nat.lt_one_iff.mp hk
    exact undecided_belated took pollInterval deadline now id hearly
  · rw [Compute.DecidedAt, look_belated took pollInterval now id hmade]
    exact .fulfilled ⟨_, [], rfl, rfl⟩ rfl

end Belated

/-- The second answer comes after the deadline.  The instance does not come up, but the handle keeps
its id. -/
theorem awaitRunning_follows_belated :
    ∃ w, (Compute.belated 40 5 : Compute _ ℚ).awaitRunning 60 9
        (.unfulfilled, ⟨[], 0, [], [], false⟩) =
          (.error (.launchTimeout ("Instance i-1 did not reach running: " ++
              "Waiter InstanceRunning failed: Max attempts exceeded")),
            { Handle.unfulfilled with instanceId := .text "i-1" }, w) ∧
      w.pauses = [5] ∧
      w.outside = ["describe_spot_instance_requests", "describe_spot_instance_requests",
        "wait:instance_running"] := by
  have hmade : Duration.pauseFault? (5 : ℚ) = none :=
    Duration.pauseFault?_of_nonneg (by decide +kernel)
  obtain ⟨hearlier, hdecided⟩ := decidedAt_belated 40 5 (Duration.add 0 60) 0
    Handle.unfulfilled.spotRequestId hmade (by decide +kernel)
  have hanswers := answers_belated (40 : ℚ) Handle.unfulfilled.spotRequestId
  obtain ⟨-, hfollowed⟩ := (awaitRunning_follows (c := .belated 40 5)
    (w := ⟨[], 0, [], [], false⟩) rfl rfl hanswers).1 1 _ hearlier hdecided (.inr hmade) 9
    (by decide)
  obtain ⟨attempts, result, log, harrival, hrun⟩ := hfollowed.of_rat
  rw [hrun, look_belated 40 5 0 _ hmade]
  rw [look_belated 40 5 0 _ hmade] at harrival
  cases harrival with
  | late => exact ⟨_, rfl, rfl, rfl⟩
  | trouble fault hfault => exact absurd rfl (hfault _)
  | other e he => exact absurd ⟨_, rfl⟩ he

/-- Rational durations, and one that is not a number. -/
instance : Duration (Option ℚ) where
  seconds n := some n
  half := some (1 / 2)
  add x y := x.bind fun x => y.map (x + ·)
  sub x y := x.bind fun x => y.map (x - ·)
  scale x y := x.bind fun x => y.map (x * ·)
  atLeast x y := x.any fun x => y.any (decide <| · ≤ x)
  longer x y := x.any fun x => y.any (decide <| · < x)
  steps n x := x.elim (.error (.badValue "cannot convert float NaN to integer")) (Duration.steps n)
  pauseFault? x := x.elim (some (.badValue "Invalid value NaN (not a number)")) Duration.pauseFault?
  text x := x.elim "nan" Duration.text

/-- With a pause of a negative length, the first answer that decides nothing is the last.  With a
timeout that is not a number, the id is known in the end but the service is not asked to wait. -/
theorem foundering_waits :
    (∃ w, (Compute.belated 40 (-5) : Compute _ ℚ).awaitRunning 60 9
        (.unfulfilled, ⟨[], 0, [], [], false⟩) =
          (.error (.badValue "sleep length must be non-negative"), .unfulfilled, w) ∧
      w.pauses = [] ∧ w.outside = ["describe_spot_instance_requests"]) ∧
    ∃ w, (Compute.belated (some 40) (some 5) : Compute _ (Option ℚ)).awaitRunning none 9
        (.unfulfilled, ⟨[], some 0, [], [], false⟩) =
          (.error (.badValue "cannot convert float NaN to integer"),
            { Handle.unfulfilled with instanceId := .text "i-1" }, w) ∧
      w.pauses = [some 5] ∧
      w.outside = ["describe_spot_instance_requests", "describe_spot_instance_requests"] := by
  constructor
  · have hrefused : Duration.pauseFault? (-5 : ℚ) = some Duration.negativePause :=
      if_pos (by decide +kernel)
    have hnot := undecided_belated (40 : ℚ) (-5) (Duration.add 0 60) 0
      Handle.unfulfilled.spotRequestId (by decide +kernel)
    have hwait := awaitFulfilment_of_refused (answers_send_belated 40 (-5) _ _) hnot hrefused 8
    exact ⟨_, awaitRunning_of_error rfl rfl hwait, rfl, rfl⟩
  · have hmade : Duration.pauseFault? (some 5 : Option ℚ) = none :=
      Duration.pauseFault?_of_nonneg (d := 5) (by decide +kernel)
    obtain ⟨hearlier, hdecided⟩ := decidedAt_belated (some 40) (some 5)
      (Duration.add (some 0) none) (some 0) Handle.unfulfilled.spotRequestId hmade rfl
    have hwait := awaitFulfilment_follows (w := ⟨[], some 0, [], [], false⟩)
      (answers_send_belated (some 40) (some 5) _) (.inr hmade) hearlier hdecided
      (by decide : 1 < 9)
    rw [look_belated _ _ _ _ hmade] at hwait
    exact ⟨_, awaitRunning_of_ok rfl rfl hwait (awaitInstance_of_uncountable _ rfl), rfl, rfl⟩

end BuildFleet.Ec2
