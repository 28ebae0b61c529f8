/-
How faults of the service surface.

A client answers every request with a reply of the shape that the service promises for it, or with a
fault of any kind.  Then an operation on instances returns, or it fails as the controllers expect of
a provider.

* **`Request.Fits`** — the shapes of the replies;
* **`Ends`** — what the outcome of a step is, value or failure, with one lemma for each way to put
  steps together;
* **`awaitRunning_of_uncountable`** — a wait whose time cannot be counted;
* **`awaitFulfilment_ends`** — the looks at a spot request come to an end;
* **`operations_surface`** — all operations, and the one answer for which a failure of another kind
  gets through: a reply without an error entry to the question for the state of a spot request.
-/
import BuildFleet.Ec2.Compute
import Mathlib.Algebra.Order.Archimedean.Basic
import Mathlib.Algebra.Order.Ring.Rat
import Mathlib.Data.Rat.Cast.Order
import Mathlib.Data.Rat.Floor
import Mathlib.Tactic.Linarith

namespace BuildFleet.Ec2

open Json (Value)
open Compute

variable {σ τ α β : Type}

/-! ### Replies -/

/-- The value has a list in the field, or the field is absent, and all items are as `p` says. -/
def Listed (name : String) (p : Value → Prop) (v : Value) : Prop :=
  ∃ items, v.getField name (.list []) = .ok (.list items) ∧ ∀ item ∈ items, p item

/-- The value has a list with a first item in the field, and that has a text in a field. -/
def LeadsWith (name field : String) (v : Value) : Prop :=
  ∃ first rest id, v.needField name = .ok (.list (first :: rest)) ∧
    first.needField field = .ok (.text id)

/-- The reply has the shape that the service promises for the request. -/
def Request.Fits : Request → Value → Prop
  | .list _, reply =>
    ∃ pages, reply = .list pages ∧
      ∀ page ∈ pages, Listed "Reservations" (Listed "Instances" fun _ => True) page
  | .spotRequest _, reply =>
    Listed "SpotInstanceRequests" (fun r => ∃ state, r.needField "State" = .ok (.text state)) reply
  | .run _, reply => LeadsWith "Instances" "InstanceId" reply
  | .requestSpot _, reply => LeadsWith "SpotInstanceRequests" "SpotInstanceRequestId" reply
  | .describe _, reply => Listed "Reservations" (Listed "Instances" fun _ => True) reply
  | .awaitRunning .., _ => True
  | .terminate _, _ => True

/-! ### Outcomes -/

/-- A fault of the service. -/
def IsFault (e : Failure) : Prop := ∃ fault, e = .service fault

/-- A failure that the controllers expect of a provider. -/
inductive Surfaced : Failure → Prop
  | provider (detail : String) : Surfaced (.provider detail)
  | launchTimeout (detail : String) : Surfaced (.launchTimeout detail)

/-- The outcome is a value or a failure of which something holds. -/
def Ends (Q : α → Prop) (P : Failure → Prop) : Except Failure α → Prop
  | .ok a => Q a
  | .error e => P e

/-- A client that replies to every request in the promised shape, or with a fault. -/
def Client.Regular (client : Client σ τ) : Prop :=
  ∀ r w, Ends r.Fits IsFault (client.send r w).outcome

section Ends

variable {s : Type} {Q : α → Prop} {R : β → Prop} {P : Failure → Prop}

theorem Ends.bind {m : Action s α} {f : α → Action s β} {x : s} (hm : Ends Q P (m x).1)
    (hf : ∀ a y, Q a → Ends R P (f a y).1) : Ends R P ((m >>= f) x).1 := by
  rw [Action.bind_apply]
  rcases h : m x with ⟨e | a, y⟩
  · rw [h] at hm
    exact hm
  · rw [h] at hm
    exact hf a y hm

/-- A failure that is caught is a value of the step. -/
theorem Ends.attempt_bind {m : Action s α} {f : Except Failure α → Action s β} {x : s}
    (hm : Ends Q P (m x).1) {P' : Failure → Prop}
    (hf : ∀ r y, Ends Q P r → Ends R P' (f r y).1) : Ends R P' ((m.attempt >>= f) x).1 :=
  hf _ _ hm

theorem Ends.mono {r : Except Failure α} (h : Ends Q P r) {Q' : α → Prop} {P' : Failure → Prop}
    (hQ : ∀ a, Q a → Q' a) (hP : ∀ e, P e → P' e) : Ends Q' P' r := by
  cases r with
  | ok a => exact hQ a h
  | error e => exact hP e h

end Ends

section Steps

variable {c : Compute σ τ} {Q : α → Prop} {P : Failure → Prop}

theorem ends_send [Duration τ] (hc : c.client.Regular) (r : Request) (w : Timeline σ τ) :
    Ends r.Fits IsFault (c.send r w).1 :=
  hc r w.outside

theorem ends_asProviderFailure {step : Step σ τ α} {w : Timeline σ τ} (work : String)
    (h : Ends Q IsFault (step w).1) : Ends Q Surfaced (asProviderFailure work step w).1 := by
  refine h.attempt_bind fun r y hr => ?_
  cases r with
  | ok a => exact hr
  | error e =>
    obtain ⟨fault, rfl⟩ := hr
    exact .provider _

theorem asProviderFailure_snd (work : String) (step : Step σ τ α) (w : Timeline σ τ) :
    (asProviderFailure work step w).2 = (step w).2 := by
  rw [asProviderFailure, Action.bind_apply, Action.attempt_apply]
  dsimp only
  rcases (step w).1 with e | a
  · cases e <;> rfl
  · rfl

/-- What every attempt ends in, all of them together end in. -/
theorem ends_retry {step : Step σ Rat α} (h : ∀ w, Ends Q P (step w).1) {policy : RetryPolicy Rat}
    (hdelay : 0 ≤ policy.delay) (hbackoff : 0 ≤ policy.backoff) (name : String)
    (w : Timeline σ Rat) :
    Ends (fun found => ∀ a, found = some a → Q a) P (retry policy name step w).1 := by
  have hfrom : ∀ left attempt pause w, 0 ≤ pause →
      Ends (fun found => ∀ a, found = some a → Q a) P
        (retryFrom policy name step attempt pause left w).1 := by
    -- By induction on the attempts that are left.
    intro left
    induction left with
    | zero =>
      intro attempt pause w _ a ha
      cases ha
    | succ left ih =>
      intro attempt pause w hpause
      refine (h w).attempt_bind fun r y hr => ?_
      cases r with
      | ok a =>
        intro b hb
        cases hb
        exact hr
      | error e =>
        -- The failure of the last attempt gets out, and so does one that will not pass.
        by_cases hlast : left = 0 || !policy.mayPass e
        · simp only [hlast, if_true]
          exact hr
        · simp only [hlast, Bool.false_eq_true, if_false]
          refine Ends.bind (Q := fun _ => True) trivial fun _ z _ => ?_
          rw [Action.bind_of_ok (Timeline.pause_of_none (z.refusal?_of_nonneg hpause))]
          exact ih _ _ _ (mul_nonneg hpause hbackoff)
  exact hfrom _ _ _ w hdelay

end Steps

/-! ### Parts of replies -/

/-- The items of the list in a field; none without the field. -/
def itemsIn (name : String) (v : Value) : List Value :=
  match v.field? name with
  | some (.list items) => items
  | _ => []

/-- The instances in all reservations of all pages. -/
def instancesOn (pages : List Value) : Nat :=
  (pages.map fun page =>
    ((itemsIn "Reservations" page).map fun r => (itemsIn "Instances" r).length).sum).sum

theorem itemsIn_of_getField {name : String} {v : Value} {items : List Value}
    (h : v.getField name (.list []) = .ok (.list items)) : itemsIn name v = items := by
  rw [itemsIn, Value.field?]
  rw [Value.getField] at h
  cases hfields : v.fields? with
  | none =>
    rw [hfields] at h
    cases h
  | some fields =>
    rw [hfields] at h
    dsimp only at h
    rw [Option.bind_some]
    cases hfound : Value.lookup name fields with
    | none =>
      rw [hfound] at h
      cases h
      rfl
    | some found =>
      rw [hfound] at h
      cases h
      rfl

theorem countReservations_of_listed {reservations : List Value}
    (h : ∀ r ∈ reservations, Listed "Instances" (fun _ => True) r) :
    countReservations reservations =
      .ok ((reservations.map fun r => (itemsIn "Instances" r).length).sum) := by
  induction reservations with
  | nil => rfl
  | cons r rest ih =>
    obtain ⟨instances, hr, -⟩ := h r List.mem_cons_self
    have hrest := ih fun r' hr' => h r' (List.mem_cons_of_mem _ hr')
    rw [countReservations, hr, hrest, List.map_cons, List.sum_cons, itemsIn_of_getField hr]
    rfl

theorem countPages_of_listed {pages : List Value}
    (h : ∀ page ∈ pages, Listed "Reservations" (Listed "Instances" fun _ => True) page) :
    countPages pages = .ok (instancesOn pages) := by
  induction pages with
  | nil => rfl
  | cons page rest ih =>
    obtain ⟨reservations, hpage, hall⟩ := h page List.mem_cons_self
    have hrest := ih fun page' hp => h page' (List.mem_cons_of_mem _ hp)
    have hinstances : instancesOn (page :: rest) =
        (reservations.map fun r => (itemsIn "Instances" r).length).sum + instancesOn rest := by
      rw [← itemsIn_of_getField hpage]
      rfl
    rw [countPages, hpage, hrest, hinstances]
    show (do let n ← countReservations reservations; _) = _
    rw [countReservations_of_listed hall]
    rfl

theorem firstInReservations_of_listed {reservations : List Value}
    (h : ∀ r ∈ reservations, Listed "Instances" (fun _ => True) r) :
    ∃ found, firstInReservations reservations = .ok found := by
  induction reservations with
  | nil => exact ⟨none, rfl⟩
  | cons r rest ih =>
    obtain ⟨instances, hr, -⟩ := h r List.mem_cons_self
    cases instances with
    | nil =>
      obtain ⟨found, hfound⟩ := ih fun r' hr' => h r' (List.mem_cons_of_mem _ hr')
      exact ⟨found, by rw [firstInReservations, hr]; exact hfound⟩
    | cons first more => exact ⟨some first, by rw [firstInReservations, hr]; rfl⟩

/-- What has a field has any other field, or its default. -/
theorem getField_of_needField {v w : Value} {name : String} (h : v.needField name = .ok w)
    (other : String) (default : Value) : ∃ u, v.getField other default = .ok u := by
  unfold Value.needField at h
  unfold Value.getField
  cases hf : v.fields? with
  | none =>
    rw [hf] at h
    cases h
  | some fields => exact ⟨_, rfl⟩

/-- A reply in the promised shape says which state a spot request has. -/
theorem stateIn_of_fits [Duration τ] {id reply : Value} (h : (Request.spotRequest id).Fits reply)
    (w : Timeline σ τ) : ∃ state, (stateIn id reply w).1 = .ok state := by
  obtain ⟨requests, hrequests, hall⟩ := h
  have hof : requestsOf reply = .ok (.list requests) := hrequests
  rw [stateIn, Action.bind_apply, Action.ofExcept_apply, hof]
  cases requests with
  | nil => exact ⟨.closed, rfl⟩
  | cons first rest =>
    obtain ⟨state, hstate⟩ := hall first List.mem_cons_self
    have hfirst : (do (← (Value.list (first :: rest)).needFirst).needField "State") =
        Except.ok (.text state) := hstate
    dsimp only
    rw [if_neg (by simp [Value.isTruthy]), hfirst]
    -- A state of another name counts as that of a failed request.
    cases hv : RequestState.ofValue (.text state) with
    | ok known => exact ⟨known, by simp [hv]⟩
    | error e => exact ⟨.failed, by simp [hv, Timeline.note]⟩

theorem sightOf_of_fits (id : Value) {reply : Value} (h : (Request.spotRequest id).Fits reply) :
    ∃ sight, sightOf reply = .ok sight := by
  obtain ⟨requests, hrequests, hall⟩ := h
  have hof : requestsOf reply = .ok (.list requests) := hrequests
  rw [sightOf, hof]
  cases requests with
  | nil => exact ⟨_, rfl⟩
  | cons first rest =>
    obtain ⟨state, hstate⟩ := hall first List.mem_cons_self
    obtain ⟨instanceId, hinstance⟩ := getField_of_needField hstate "InstanceId" .null
    obtain ⟨shown, hshown⟩ := getField_of_needField hstate "State" .null
    have hfirst : (Value.list (first :: rest)).needFirst = .ok first := rfl
    have hthere : (Value.list (first :: rest)).isTruthy = true := rfl
    by_cases hid : instanceId.isTruthy
    · exact ⟨.fulfilled instanceId, by
        simp [bind, pure, Except.bind, Except.pure, hthere, hfirst, hinstance, hid]⟩
    · exact ⟨if isWaitingState shown then .waiting else .ended shown, by
        simp [bind, pure, Except.bind, Except.pure, hthere, hfirst, hinstance, hid, hshown]⟩

theorem launchedOnDemand_of_leadsWith [Duration τ] (o : LaunchOrder) {reply : Value}
    (h : LeadsWith "Instances" "InstanceId" reply) (w : Timeline σ τ) :
    ∃ handle, (launchedOnDemand o reply w).1 = .ok handle := by
  obtain ⟨first, rest, id, hfirst, hid⟩ := h
  have hinstance : (do (← (← reply.needField "Instances").needFirst).needField "InstanceId") =
      Except.ok (.text id) := by
    rw [hfirst]
    exact hid
  rw [launchedOnDemand, hinstance]
  exact ⟨_, rfl⟩

theorem launchedSpot_of_leadsWith [Duration τ] (o : LaunchOrder) {reply : Value}
    (h : LeadsWith "SpotInstanceRequests" "SpotInstanceRequestId" reply) (w : Timeline σ τ) :
    ∃ handle, (launchedSpot o reply w).1 = .ok handle := by
  obtain ⟨first, rest, id, hfirst, hid⟩ := h
  obtain ⟨instanceId, hinstance⟩ := getField_of_needField hid "InstanceId" .null
  have hrequest : (do (← reply.needField "SpotInstanceRequests").needFirst) =
      Except.ok first := by
    rw [hfirst]
    rfl
  rw [launchedSpot, hrequest]
  simp [hid, hinstance, Timeline.note]

/-! ### The operations -/

section Operations

variable [Duration τ] {c : Compute σ τ} (hc : c.client.Regular)
include hc

theorem ends_listOnce (image : Option String) (w : Timeline σ τ) :
    Ends (fun _ => True) IsFault (c.listOnce image w).1 := by
  refine (ends_send hc (.list image) w).bind fun reply y hreply => ?_
  obtain ⟨pages, rfl, hpages⟩ := hreply
  show Ends _ _ (countPages pages)
  rw [countPages_of_listed hpages]
  trivial

/-- A reply without an error entry to the question for the state of a spot request. -/
def BareReply (c : Compute σ τ) (id : Value) (w : Timeline σ τ) : Prop :=
  ∃ operation, (c.client.send (.spotRequest id) w.outside).outcome =
    .error (.service (.reply operation none))

omit hc in
theorem requestState_of_bareReply {id : Value} {w : Timeline σ τ} (h : BareReply c id w) :
    (c.requestState id w).1 = .error (.missing "Error") := by
  obtain ⟨operation, h⟩ := h
  have hsend : (c.send (.spotRequest id) w).1 = .error (.service (.reply operation none)) := h
  rw [requestState, Action.bind_apply, Action.attempt_apply, hsend]
  rfl

theorem ends_requestState {id : Value} {w : Timeline σ τ} (h : ¬BareReply c id w) :
    Ends (fun _ => True) Surfaced (c.requestState id w).1 := by
  have hanswer : Ends (Request.spotRequest id).Fits
      (fun e => ∃ fault, e = .service fault ∧ ∀ operation, fault ≠ .reply operation none)
      (c.send (.spotRequest id) w).1 := by
    have hregular := ends_send hc (.spotRequest id) w
    cases hsend : (c.send (.spotRequest id) w).1 with
    | ok reply =>
      rw [hsend] at hregular
      exact hregular
    | error e =>
      rw [hsend] at hregular
      obtain ⟨fault, rfl⟩ := hregular
      exact ⟨fault, rfl, fun operation hbare => h ⟨operation, hbare ▸ hsend⟩⟩
  refine hanswer.attempt_bind fun r y hr => ?_
  cases r with
  | ok reply =>
    obtain ⟨state, hstate⟩ := stateIn_of_fits hr y
    show Ends _ _ (stateIn id reply y).1
    rw [hstate]
    trivial
  | error e =>
    obtain ⟨fault, rfl, hfull⟩ := hr
    cases fault with
    | reply operation error =>
      cases error with
      | none => exact absurd rfl (hfull operation)
      | some error =>
        -- A request that the service does not know is not a failure.
        by_cases hcode : (Fault.reply operation (some error)).code? = some unknownRequestCode
        · simp only [if_pos hcode]
          trivial
        · simp only [if_neg hcode]
          exact .provider _
    | _ => exact .provider _

theorem ends_launch (t : Template) (w : Timeline σ τ) :
    Ends (fun _ => True) Surfaced (c.launch t w).1 := by
  rw [launch, timed_fst]
  have hsend := ends_send hc (if t.spot then .requestSpot ⟨t, c.appName⟩ else .run ⟨t, c.appName⟩) w
  refine (ends_asProviderFailure _ hsend).bind fun reply y hreply => ?_
  by_cases ht : t.spot
  · rw [if_pos ht] at hreply ⊢
    obtain ⟨handle, hhandle⟩ := launchedSpot_of_leadsWith ⟨t, c.appName⟩ hreply y
    rw [hhandle]
    trivial
  · rw [if_neg ht] at hreply ⊢
    obtain ⟨handle, hhandle⟩ := launchedOnDemand_of_leadsWith ⟨t, c.appName⟩ hreply y
    rw [hhandle]
    trivial

theorem ends_describe (id : String) (w : Timeline σ τ) :
    Ends (fun _ => True) Surfaced (c.describe id w).1 := by
  refine (ends_asProviderFailure _ (ends_send hc (.describe id) w)).bind fun reply y hreply => ?_
  obtain ⟨reservations, hreply, hall⟩ := hreply
  obtain ⟨found, hfound⟩ := firstInReservations_of_listed hall
  have hparts : (do
      firstInReservations (← (← reply.getField "Reservations" (.list [])).needParts)) =
      Except.ok found := by
    rw [hreply]
    exact hfound
  rw [Action.bind_apply, Action.ofExcept_apply, hparts]
  cases found with
  | some v => trivial
  | none => exact .provider _

theorem ends_terminate (id : String) (w : Timeline σ τ) :
    Ends (fun _ => True) Surfaced (c.terminate id w).1 := by
  rw [terminate, timed_fst]
  exact (ends_asProviderFailure _ (ends_send hc (.terminate id) w)).bind fun _ _ _ => trivial

theorem ends_awaitInstance (id : Value) (deadline : τ) {w : Timeline σ τ} {looks : Int}
    (hlooks : looksUntil deadline w.clock = .ok looks) :
    Ends (fun _ => True) Surfaced (c.awaitInstance id deadline w).1 := by
  rw [awaitInstance, Timeline.now, Action.bind_apply, Action.reads_apply]
  dsimp only
  rw [hlooks, Action.bind_apply, Action.ofExcept_apply]
  refine (ends_send hc (.awaitRunning id looks) w).attempt_bind fun r y hr => ?_
  cases r with
  | ok reply => trivial
  | error e =>
    obtain ⟨fault, rfl⟩ := hr
    cases fault with
    | waiter reason => exact .launchTimeout _
    | _ => exact .provider _

omit hc in
/-- Where the time that is left cannot be counted, the service is not asked. -/
theorem awaitInstance_of_uncountable (id : Value) {deadline : τ} {w : Timeline σ τ} {e : Failure}
    (h : looksUntil deadline w.clock = .error e) :
    c.awaitInstance id deadline w = (.error e, w) := by
  rw [awaitInstance, Timeline.now, Action.bind_apply, Action.reads_apply]
  dsimp only
  rw [h, Action.bind_apply, Action.ofExcept_apply]

/-- A look at a spot request settles the wait, or there is time left and the next look comes after a
pause. -/
theorem awaitFulfilment_look (id : Value) (deadline : τ) (looks : Nat) (w : Timeline σ τ) :
    Ends (fun _ => True) Surfaced (c.awaitFulfilment id deadline (looks + 1) w).1 ∨
      ∃ y : Timeline σ τ,
        y.clock = Duration.add w.clock (c.client.send (.spotRequest id) w.outside).took ∧
        Duration.atLeast y.clock deadline = false ∧
        c.awaitFulfilment id deadline (looks + 1) w =
          (Timeline.pause c.pollInterval >>= fun _ => c.awaitFulfilment id deadline looks) y := by
  have hasked := ends_asProviderFailure (lookingAt id) (ends_send hc (.spotRequest id) w)
  have hafter := asProviderFailure_snd (lookingAt id) (c.send (.spotRequest id)) w
  rw [awaitFulfilment, Action.bind_apply]
  rcases hlook : asProviderFailure (lookingAt id) (c.send (.spotRequest id)) w with ⟨e | reply, y⟩
  · rw [hlook] at hasked
    exact .inl hasked
  · rw [hlook] at hasked hafter
    obtain ⟨sight, hsight⟩ := sightOf_of_fits id hasked
    dsimp only
    rw [hsight]
    cases sight with
    | fulfilled instanceId => exact .inl trivial
    | ended state => exact .inl (.provider _)
    | waiting =>
      by_cases hlate : Duration.atLeast y.clock deadline
      · left
        simp only [Action.bind_apply, Action.ofExcept_apply, Timeline.now, Action.reads_apply,
          if_pos hlate]
        exact .launchTimeout _
      · right
        refine ⟨y, congrArg Timeline.clock hafter, Bool.eq_false_iff.mpr hlate, ?_⟩
        simp only [Action.bind_apply, Action.ofExcept_apply, Timeline.now, Action.reads_apply,
          if_neg hlate]

end Operations

theorem ends_count {c : Compute σ Rat} (hc : c.client.Regular) (image : Option String)
    (w : Timeline σ Rat) : Ends (fun _ => True) Surfaced (c.count image w).1 := by
  have hdelay : 0 ≤ (listingPolicy : RetryPolicy Rat).delay := one_half_pos.le
  have hbackoff : 0 ≤ (listingPolicy : RetryPolicy Rat).backoff := zero_le_two
  have hlisted := ends_retry (ends_listOnce hc image) hdelay hbackoff "_describe_instances" w
  rw [count, timed_fst]
  exact ends_asProviderFailure _ (hlisted.bind fun _ _ _ => trivial)

/-! ### Waits that end -/

/-- What a wait comes to: the instance is there from the start, or it comes with the request. -/
theorem awaitRunning_fst [Duration τ] (c : Compute σ τ) (timeout : τ) (looks : Nat)
    (handle : Handle) (w : Timeline σ τ) :
    (c.awaitRunning timeout looks (handle, w)).1 =
      (((if !handle.instanceId.isTruthy && handle.spotRequestId.isTruthy then
          c.awaitFulfilment handle.spotRequestId (Duration.add w.clock timeout) looks
        else pure handle.instanceId) >>= fun id =>
          c.awaitInstance id (Duration.add w.clock timeout)) w).1 := by
  simp only [awaitRunning, Timeline.now, Action.bind_apply, Action.onPart_apply,
    Action.reads_apply]
  by_cases hspot : !handle.instanceId.isTruthy && handle.spotRequestId.isTruthy
  · rw [if_pos hspot, if_pos hspot]
    simp only [Action.bind_apply, Action.onPart_apply]
    rcases c.awaitFulfilment handle.spotRequestId (Duration.add w.clock timeout) looks w
      with ⟨e | id, y⟩
    · rfl
    · rfl
  · rw [if_neg hspot, if_neg hspot]
    rfl

/-- A wait for an instance whose time cannot be counted fails on that, and in no other way. -/
theorem awaitRunning_of_uncountable [Duration τ] {c : Compute σ τ} {timeout : τ} {looks : Nat}
    {handle : Handle} {w y : Timeline σ τ} {id : Value} {e : Failure}
    (hfound : (if !handle.instanceId.isTruthy && handle.spotRequestId.isTruthy then
        c.awaitFulfilment handle.spotRequestId (Duration.add w.clock timeout) looks
      else pure handle.instanceId) w = (.ok id, y))
    (h : looksUntil (Duration.add w.clock timeout) y.clock = .error e) :
    (c.awaitRunning timeout looks (handle, w)).1 = .error e := by
  rw [awaitRunning_fst, Action.bind_of_ok hfound, awaitInstance_of_uncountable id h]

section Waits

variable {c : Compute σ Rat} (hc : c.client.Regular) (htook : ∀ r w, 0 ≤ (c.client.send r w).took)
include hc htook

/-- The looks at a spot request come to an end: each takes the clock on by a pause at least. -/
theorem awaitFulfilment_ends (hpoll : 0 ≤ c.pollInterval) (id : Value) (deadline : Rat)
    (pauses : Nat) {w : Timeline σ Rat}
    (hw : deadline ≤ w.clock + pauses * c.pollInterval) {looks : Nat} (hlooks : pauses < looks) :
    Ends (fun _ => True) Surfaced (c.awaitFulfilment id deadline looks w).1 := by
  -- By induction on the pauses that take the clock to the deadline.
  induction pauses generalizing w looks with
  | zero =>
    obtain ⟨looks, rfl⟩ := Nat.exists_eq_succ_of_ne_zero (Nat.ne_of_gt hlooks)
    rcases awaitFulfilment_look hc id deadline looks w with hends | ⟨y, hy, hearly, -⟩
    · exact hends
    -- The deadline has come before the look, so there cannot be time left after it.
    · have hlate : y.clock < deadline := not_le.mp (of_decide_eq_false hearly)
      have hadvance : y.clock = w.clock + (c.client.send (.spotRequest id) w.outside).took := hy
      have := htook (.spotRequest id) w.outside
      simp only [Nat.cast_zero, zero_mul, add_zero] at hw
      linarith
  | succ pauses ih =>
    obtain ⟨looks, rfl⟩ := Nat.exists_eq_succ_of_ne_zero (Nat.ne_of_gt (Nat.zero_lt_of_lt hlooks))
    rcases awaitFulfilment_look hc id deadline looks w with hends | ⟨y, hy, -, hnext⟩
    · exact hends
    · rw [hnext, Action.bind_of_ok (Timeline.pause_of_none (y.refusal?_of_nonneg hpoll))]
      refine ih ?_ (Nat.lt_of_succ_lt_succ hlooks)
      have hadvance : y.clock = w.clock + (c.client.send (.spotRequest id) w.outside).took := hy
      have := htook (.spotRequest id) w.outside
      show deadline ≤ y.clock + c.pollInterval + pauses * c.pollInterval
      push_cast at hw
      linarith

theorem ends_awaitRunning (hpoll : 0 < c.pollInterval) (handle : Handle) (timeout : Rat)
    (w : Timeline σ Rat) :
    ∃ n, ∀ looks, n ≤ looks →
      Ends (fun _ => True) Surfaced (c.awaitRunning timeout looks (handle, w)).1 := by
  -- As many pauses as the timeout has room for, and one look more than pauses.
  obtain ⟨n, hn⟩ := exists_nat_ge (timeout / c.pollInterval)
  have htime : w.clock + timeout ≤ w.clock + n * c.pollInterval := by
    have := (div_le_iff₀ hpoll).mp hn
    linarith
  refine ⟨n + 1, fun looks hlooks => ?_⟩
  rw [awaitRunning_fst]
  refine Ends.bind (Q := fun _ => True) ?_ fun id y _ => ends_awaitInstance hc id _ rfl
  split
  · exact awaitFulfilment_ends hc htook hpoll.le handle.spotRequestId _ n htime hlooks
  · trivial

end Waits

/-! ### All operations -/

/-- The operations on instances, each with its arguments. -/
inductive Operation where
  | count (image : Option String)
  | requestState (id : Value)
  | launch (t : Template)
  | awaitRunning (handle : Handle) (timeout : Rat)
  | describe (id : String)
  | terminate (id : String)

/-- Whether an operation returns, and with what failure if it does not, when a wait is given up
after so many looks at a spot request. -/
def Operation.outcome (c : Compute σ Rat) (looks : Nat) (w : Timeline σ Rat) :
    Operation → Except Failure Unit
  | .count image => (c.count image w).1.map fun _ => ()
  | .requestState id => (c.requestState id w).1.map fun _ => ()
  | .launch t => (c.launch t w).1.map fun _ => ()
  | .awaitRunning handle timeout => (c.awaitRunning timeout looks (handle, w)).1.map fun _ => ()
  | .describe id => (c.describe id w).1.map fun _ => ()
  | .terminate id => (c.terminate id w).1

/-- The operation asks for the state of a spot request, and the answer is an error reply without an
error entry. -/
def Operation.MeetsBareReply (c : Compute σ Rat) (w : Timeline σ Rat) : Operation → Prop
  | .requestState id => BareReply c id w
  | _ => False

theorem Ends.of_map {P : Failure → Prop} {r : Except Failure α} (h : Ends (fun _ => True) P r) :
    Ends (fun _ => True) P (r.map fun _ => ()) := by
  cases r with
  | ok a => trivial
  | error e => exact h

/-- **Every fault of the service surfaces as a failure that the controllers expect of a provider**,
or the operation returns, whatever it is and whatever the client answers, and waits come to an end;
the exception is a reply without an error entry to the question for the state of a spot request, of
which the absent entry is what gets through. -/
theorem operations_surface {c : Compute σ Rat} (hc : c.client.Regular)
    (htook : ∀ r w, 0 ≤ (c.client.send r w).took) (hpoll : 0 < c.pollInterval)
    (operation : Operation) (w : Timeline σ Rat) :
    ∃ n, ∀ looks, n ≤ looks →
      (¬operation.MeetsBareReply c w →
        operation.outcome c looks w = .ok () ∨
          (∃ detail, operation.outcome c looks w = .error (.provider detail)) ∨
          ∃ detail, operation.outcome c looks w = .error (.launchTimeout detail)) ∧
      (operation.MeetsBareReply c w → operation.outcome c looks w = .error (.missing "Error")) := by
  have hspelt : ∀ {r : Except Failure Unit}, Ends (fun _ => True) Surfaced r →
      r = .ok () ∨ (∃ detail, r = .error (.provider detail)) ∨
        ∃ detail, r = .error (.launchTimeout detail) := by
    intro r h
    match r, h with
    | .ok (), _ => exact .inl rfl
    | .error _, .provider detail => exact .inr (.inl ⟨detail, rfl⟩)
    | .error _, .launchTimeout detail => exact .inr (.inr ⟨detail, rfl⟩)
  cases operation with
  | count image =>
    exact ⟨0, fun _ _ => ⟨fun _ => hspelt (ends_count hc image w).of_map, False.elim⟩⟩
  | requestState id =>
    refine ⟨0, fun _ _ => ⟨fun h => hspelt (ends_requestState hc h).of_map, fun h => ?_⟩⟩
    show (c.requestState id w).1.map _ = _
    rw [requestState_of_bareReply h]
    rfl
  | launch t => exact ⟨0, fun _ _ => ⟨fun _ => hspelt (ends_launch hc t w).of_map, False.elim⟩⟩
  | awaitRunning handle timeout =>
    obtain ⟨n, hn⟩ := ends_awaitRunning hc htook hpoll handle timeout w
    exact ⟨n, fun looks hlooks => ⟨fun _ => hspelt (hn looks hlooks).of_map, False.elim⟩⟩
  | describe id =>
    exact ⟨0, fun _ _ => ⟨fun _ => hspelt (ends_describe hc id w).of_map, False.elim⟩⟩
  | terminate id => exact ⟨0, fun _ _ => ⟨fun _ => hspelt (ends_terminate hc id w), False.elim⟩⟩

/-- A client whose spot requests stay open, and that has nothing but faults for anything else. -/
def Client.stalled : Client Unit Rat where
  send r _ := match r with
    | .spotRequest _ =>
      ⟨.ok (.object [("SpotInstanceRequests", .list [.object [("State", .text "open")]])]), 1, ()⟩
    | _ => ⟨.error (.service .unspecified), 1, ()⟩

theorem regular_stalled : Client.stalled.Regular := by
  intro r w
  cases r with
  | spotRequest id =>
    refine ⟨_, rfl, fun item hitem => ?_⟩
    obtain rfl := List.mem_singleton.mp hitem
    exact ⟨"open", rfl⟩
  | _ => exact ⟨_, rfl⟩

/-- A wait for a spot request that stays open does not go on for ever. -/
theorem operations_surface_stalled : ∃ n, ∀ looks, n ≤ looks →
    (Operation.awaitRunning ⟨.null, .text "ami-1", .text "sir-1"⟩ 60).outcome
      ⟨.stalled, "fleet", 5⟩ looks ⟨(), 0, [], [], false⟩ ≠ .error .undecided := by
  have htook : ∀ r w, 0 ≤ (Client.stalled.send r w).took := by
    intro r w
    cases r <;> exact rfl
  obtain ⟨n, hn⟩ := operations_surface (c := ⟨.stalled, "fleet", 5⟩) regular_stalled htook
    (by norm_num) (.awaitRunning ⟨.null, .text "ami-1", .text "sir-1"⟩ 60) ⟨(), 0, [], [], false⟩
  refine ⟨n, fun looks hlooks hundecided => ?_⟩
  obtain h | ⟨_, h⟩ | ⟨_, h⟩ := (hn looks hlooks).1 not_false
  · cases hundecided.symm.trans h
  · cases hundecided.symm.trans h
  · cases hundecided.symm.trans h

/-- A client whose every answer is an error reply without an error entry. -/
def Client.bare : Client Unit Rat where
  send _ _ := ⟨.error (.service (.reply "Op" none)), 0, ()⟩

/-- The absent entry gets through where the state of a spot request is asked for, though every
answer of the client is a fault of the service. -/
theorem missing_entry_gets_through :
    Client.bare.Regular ∧
      (Operation.requestState (.text "sir-1")).outcome ⟨.bare, "fleet", 5⟩ 0 ⟨(), 0, [], [], false⟩ =
        .error (.missing "Error") ∧
      (Failure.missing "Error").isFleet = false :=
  ⟨fun _ _ => ⟨_, rfl⟩, rfl, rfl⟩

end BuildFleet.Ec2
