/-
Provisioning.

Unmet demand for a label, and idle capacity that is to be kept ready, become launches:

* **`decide`** — plans launches for a label and hands them to the pool, as many as are needed and
  as the caps and the pool allow; trouble with the provider ends the plan but not the step;
* **`launch`** — carries out one launch: an instance, a node for it, the wait until it runs;
* **`provision`** — one launch of a named template, carried out at once;
* **`attach`** — a node for an instance that is there already.

A slot of the ledger is taken before a launch is handed to the pool.  It is given back when the
launch comes to an end, whatever the end is, when the pool refuses the launch, and when the launch
is cancelled before its turn.
-/
import BuildFleet.Fleet
import BuildFleet.Json.Access

namespace BuildFleet

open Json (Value)
open Fleet (Step note consult changeRoster changeLedger changePool nodeAt makeNode register connect
  remove)

variable {σ : Type}

/-- A launch that was planned. -/
structure PlannedUnit where
  template : String
  /-- The executors that the node will have. -/
  executors : Nat
  /-- The number of the launch in the pool. -/
  launch : Nat
deriving DecidableEq, Repr

namespace Controller

/-! ### Slots -/

/-- What the provider counts, first of all images and then of one. -/
def countInstances (c : Controller σ) (image : String) : Step σ Counted := do
  let total ← consult (c.provider.count none)
  let ofImage ← consult (c.provider.count (some image))
  return ⟨total, ofImage⟩

/-- What the log says about a slot that was asked for. -/
def slotNote (image : String) (estimated : Counted) (caps : Caps) : Option Refusal → String
  | some .total => s!"Total instance cap of {caps.total} reached, not provisioning."
  | some .image =>
    s!"Image instance cap of {caps.image} reached for {image}, not provisioning."
  | none =>
    s!"Provisioning for image {image}; estimated total instances: {estimated.total}; " ++
      s!"estimated instances for image: {estimated.image}"

/-- Takes a slot for an image within the caps, given what the provider counted; tells whether there
was one. -/
def takeSlot (c : Controller σ) (image : String) (imageCap : Int) (counted : Counted) :
    Step σ Bool := do
  let ledger ← Action.reads (·.ledger)
  let caps : Caps := ⟨c.instanceCap, imageCap⟩
  note .info (slotNote image (ledger.estimate image counted) caps
    (ledger.refusal? image counted caps))
  let (taken, ledger) := ledger.takeWithin image counted caps
  changeLedger fun _ => ledger
  return taken

/-- Takes a slot for an image if the caps leave one, and tells whether they do. -/
def reserve (c : Controller σ) (image : String) (imageCap : Int) : Step σ Bool := do
  let counted ← c.countInstances image
  c.takeSlot image imageCap counted

/-- Gives a slot for an image back. -/
def release (image : String) : Step σ Unit := changeLedger (·.release image)

/-- No slot is taken when a cap stands against it. -/
theorem takeSlot_of_refusal (c : Controller σ) (image : String) (imageCap : Int)
    (counted : Counted) {f : Fleet σ} {r : Refusal}
    (hr : f.ledger.refusal? image counted ⟨c.instanceCap, imageCap⟩ = some r) :
    ∃ log, c.takeSlot image imageCap counted f = (.ok false, { f with log }) :=
  ⟨_, by simp [takeSlot, note, changeLedger, Ledger.takeWithin, hr]; rfl⟩

/-- A slot is taken when no cap stands against it. -/
theorem takeSlot_of_none (c : Controller σ) (image : String) (imageCap : Int)
    (counted : Counted) {f : Fleet σ}
    (hr : f.ledger.refusal? image counted ⟨c.instanceCap, imageCap⟩ = none) :
    ∃ log, c.takeSlot image imageCap counted f =
      (.ok true, { f with ledger := f.ledger.take image, log }) :=
  ⟨_, by simp [takeSlot, note, changeLedger, Ledger.takeWithin, hr]; rfl⟩

section Reserve

variable (c : Controller σ) (image : String) (imageCap : Int) {f : Fleet σ} {w w' : σ}

theorem reserve_of_total_error {e : Failure}
    (hn : c.provider.count none f.cloud = (.error e, w)) :
    c.reserve image imageCap f = (.error e, { f with cloud := w }) := by
  simp [reserve, countInstances, consult, hn]

theorem reserve_of_image_error {n : Nat} {e : Failure}
    (hn : c.provider.count none f.cloud = (.ok n, w))
    (hm : c.provider.count (some image) w = (.error e, w')) :
    c.reserve image imageCap f = (.error e, { f with cloud := w' }) := by
  simp [reserve, countInstances, consult, hn, hm]

/-- Once both counts are there, the caps decide. -/
theorem reserve_of_counts {n m : Nat} (hn : c.provider.count none f.cloud = (.ok n, w))
    (hm : c.provider.count (some image) w = (.ok m, w')) :
    c.reserve image imageCap f = c.takeSlot image imageCap ⟨n, m⟩ { f with cloud := w' } := by
  simp [reserve, countInstances, consult, hn, hm]

end Reserve

/-- What a reservation can come to, each with what it takes. -/
inductive Reserved (c : Controller σ) (image : String) (imageCap : Int) (f : Fleet σ) :
    Except Failure Bool × Fleet σ → Prop
  | totalError {e : Failure} {w : σ} (hn : c.provider.count none f.cloud = (.error e, w)) :
      Reserved c image imageCap f (.error e, { f with cloud := w })
  | imageError {n : Nat} {e : Failure} {w w' : σ}
      (hn : c.provider.count none f.cloud = (.ok n, w))
      (hm : c.provider.count (some image) w = (.error e, w')) :
      Reserved c image imageCap f (.error e, { f with cloud := w' })
  | refused {n m : Nat} {w w' : σ} {log : List LogEntry}
      (hn : c.provider.count none f.cloud = (.ok n, w))
      (hm : c.provider.count (some image) w = (.ok m, w')) :
      Reserved c image imageCap f (.ok false, { f with cloud := w', log })
  | granted {n m : Nat} {w w' : σ} {log : List LogEntry}
      (hn : c.provider.count none f.cloud = (.ok n, w))
      (hm : c.provider.count (some image) w = (.ok m, w'))
      (hr : f.ledger.refusal? image ⟨n, m⟩ ⟨c.instanceCap, imageCap⟩ = none) :
      Reserved c image imageCap f
        (.ok true, { f with cloud := w', ledger := f.ledger.take image, log })

theorem reserved (c : Controller σ) (image : String) (imageCap : Int) (f : Fleet σ) :
    Reserved c image imageCap f (c.reserve image imageCap f) := by
  rcases hn : c.provider.count none f.cloud with ⟨e | n, w⟩
  · rw [c.reserve_of_total_error image imageCap hn]
    exact .totalError hn
  rcases hm : c.provider.count (some image) w with ⟨e | m, w'⟩
  · rw [c.reserve_of_image_error image imageCap hn hm]
    exact .imageError hn hm
  rw [c.reserve_of_counts image imageCap hn hm]
  rcases hr : f.ledger.refusal? image ⟨n, m⟩ ⟨c.instanceCap, imageCap⟩ with _ | r
  · obtain ⟨log, hs⟩ :=
      c.takeSlot_of_none image imageCap ⟨n, m⟩ (f := { f with cloud := w' }) hr
    rw [hs]
    exact .granted hn hm hr
  · obtain ⟨log, hs⟩ :=
      c.takeSlot_of_refusal image imageCap ⟨n, m⟩ (f := { f with cloud := w' }) hr
    rw [hs]
    exact .refused hn hm

/-! ### One launch -/

/-- Asks the provider for an instance, and registers a node for it. -/
def beginLaunch (c : Controller σ) (t : Template) : Step σ (LaunchHandle × Nat) := do
  let handle ← consult (c.provider.launch t)
  let k ← makeNode (Node.ofLaunch t handle)
  register k
  return (handle, k)

/-- Waits until the instance of a node runs, and connects the node. -/
def bringUp (c : Controller σ) (handle : LaunchHandle) (k : Nat) : Step σ Unit := do
  Action.modify c.interlude.happen
  let id ← consult (c.provider.awaitRunning handle c.launchTimeout)
  changeRoster (·.update k (Node.setInstance id) (Node.name_setInstance id))
  connect k (← Action.reads (·.now))

/-- Takes out a node that did not come online. -/
def giveUp (k : Nat) (failure : Failure) : Step σ Unit := do
  let n ← nodeAt k
  note .error s!"Node {n.name} failed to come online: {failure.display}"
  let _ ← remove n.name

/-- Carries out one launch, and gives the number of its node.  The slot is given back in the end. -/
def launch (c : Controller σ) (t : Template) : Step σ Nat :=
  Action.ensuring
    (do
      let (handle, k) ← c.beginLaunch t
      match ← (c.bringUp handle k).attempt with
      | .ok _ => return k
      | .error failure =>
        giveUp k failure
        Action.fail failure)
    (release t.imageId)

/-! ### The pool -/

/-- Carries out the launch with a number, unless it was cancelled. -/
def carryOut (c : Controller σ) (k : Nat) : Step σ Unit := do
  match ← Action.reads (·.pool.launches[k]?) with
  | some ⟨t, .queued⟩ =>
    changePool (·.record k .running)
    match ← (c.launch t).attempt with
    | .ok node => changePool (·.record k (.done node))
    | .error failure => changePool (·.record k (.failed failure))
  | _ => return

/-- Gives at most so many launches of the queue their turn, and tells how many had it. -/
def runQueue (c : Controller σ) : (atMost : Nat) → Step σ Nat
  | 0 => return 0
  | n + 1 => do
    match ← Action.reads (·.pool.queue) with
    | [] => return 0
    | k :: rest =>
      changePool ({ · with queue := rest })
      c.carryOut k
      return (← c.runQueue n) + 1

/-- Gives all launches of the queue their turn, also those that are handed in meanwhile, as long as
that happens so often at most. -/
def drainWithin (c : Controller σ) : (refills : Nat) → Step σ Nat
  | 0 => do c.runQueue (← Action.reads (·.pool.queue.length))
  | n + 1 => do
    let count ← c.runQueue (← Action.reads (·.pool.queue.length))
    return count + (← c.drainWithin n)

/-- Gives all launches of the queue their turn, and tells how many had it. -/
def drain (c : Controller σ) : Step σ Nat := c.drainWithin c.interlude.refills

/-- What a closed pool says of a launch. -/
def closedText : String := "cannot schedule new futures after shutdown"

/-- Why the pool does not take a launch. -/
def refusal? (c : Controller σ) : Step σ (Option String) := do
  if ← Action.reads (·.pool.isOpen) then
    consult fun w =>
      let (reason, w) := c.refuses w
      (.ok reason, w)
  else return some closedText

/-- The pool has an answer, and the question changes only the world outside. -/
theorem refusal?_ok (c : Controller σ) (f : Fleet σ) :
    ∃ reason w, c.refusal? f = (.ok reason, { f with cloud := w }) ∧
      (w = f.cloud ∨ w = (c.refuses f.cloud).2) := by
  rw [refusal?, Action.bind_apply, Action.reads_apply]
  cases f.pool.isOpen with
  | true => exact ⟨_, _, rfl, .inr rfl⟩
  | false => exact ⟨_, _, rfl, .inl rfl⟩

/-- Hands a launch whose slot is taken to the pool, and gives its number; a launch that the pool
refuses loses its slot. -/
def submit (c : Controller σ) (t : Template) : Step σ (Except String Nat) := do
  match ← c.refusal? with
  | some reason =>
    release t.imageId
    return .error reason
  | none =>
    let k ← Action.reads (·.pool.next)
    changePool (·.push t)
    if c.isEager then
      let _ ← c.drain
    return .ok k

/-- Cancels a launch that has not had its turn, and tells whether it is cancelled now. -/
def cancel (k : Nat) : Step σ Bool := do
  match ← Action.reads (·.pool.launches[k]?) with
  | some ⟨t, .queued⟩ =>
    changePool (·.record k .cancelled)
    release t.imageId
    return true
  | some ⟨_, .cancelled⟩ => return true
  | _ => return false

/-- Closes a pool that ends with the controllers, after all launches have had their turn if `wait`
is set. -/
def shutdown (c : Controller σ) (wait : Bool) : Step σ Unit := do
  if c.ownsPool then
    changePool (·.close)
    if wait then
      let _ ← c.drain

/-! ### Decisions -/

/-- Some template serves the label. -/
def canProvision (c : Controller σ) (label : Option String) : Bool :=
  (c.catalog.forLabel? label).isSome

/-- Those of some nodes that may still come up by their spot requests. -/
def pendingAmong (c : Controller σ) : List Node → Step σ (List Node)
  | [] => return []
  | n :: rest => do
    match n.awaitedRequest? with
    | none => c.pendingAmong rest
    | some id =>
      let state ← consult (c.provider.requestState id)
      let more ← c.pendingAmong rest
      return if state.isPending then n :: more else more

/-- The executors of some nodes together. -/
def executorsOf (nodes : List Node) : Int :=
  nodes.foldr (fun n total => n.executors + total) 0

/-- How many nodes are missing at the primed target. -/
def shortfall (t : Template) (idle : Int) : Int := max 0 (t.primed - idle)

/-- What is missing for a label: the template for it, and how many executors.  The primed target
counts only inside a primed window. -/
def assess (c : Controller σ) (label : String) (excess : Int) :
    Step σ (Option (Template × Int)) := do
  let pending ← c.pendingAmong (← Action.reads (·.roster.withLabel label))
  let excess := excess - executorsOf pending
  let idle : Int := (← Action.reads (·.roster.spareCount label)) - pending.length
  note .info s!"Excess workload after pending spot instances: {excess}"
  match c.catalog.forLabel? (some label) with
  | none =>
    note .debug s!"No template serves label '{label}'"
    return none
  | some t =>
    let missing := shortfall t idle
    note .info (s!"Primed instances needed: {missing} = primed instances: {t.primed} " ++
      s!"- idle nodes: {idle}")
    if missing = 0 then return some (t, excess)
    else
      let now ← Action.reads (·.now)
      Action.modify fun f => { f with log := f.log ++ Window.remarks t.windows now }
      return some (t, if t.isPrimedAt now then excess + missing * t.executors.val else excess)

/-- Which nodes may still come up is a question to the world outside, and only the world outside is
changed by it. -/
theorem pendingAmong_of_cloud (c : Controller σ) (nodes : List Node) (w : σ) :
    ∃ r w', ∀ f : Fleet σ, f.cloud = w → c.pendingAmong nodes f = (r, { f with cloud := w' }) := by
  induction nodes generalizing w with
  | nil =>
    refine ⟨.ok [], w, fun f hf => ?_⟩
    rw [← hf]
    rfl
  | cons n rest ih =>
    unfold pendingAmong
    cases n.awaitedRequest? with
    | none => exact ih w
    | some id =>
      rcases hs : c.provider.requestState id w with ⟨e | state, v⟩
      · exact ⟨.error e, v, fun f hf => by simp [consult, hf, hs]⟩
      · obtain ⟨r, w', hr⟩ := ih v
        cases r with
        | error e =>
          refine ⟨.error e, w', fun f hf => ?_⟩
          simp [consult, hf, hs, hr { f with cloud := v } rfl]
        | ok more =>
          refine ⟨.ok (if state.isPending then n :: more else more), w', fun f hf => ?_⟩
          simp [consult, hf, hs, hr { f with cloud := v } rfl]

theorem pendingAmong_congr (c : Controller σ) (nodes : List Node) {f g : Fleet σ}
    (h : g.cloud = f.cloud) : (c.pendingAmong nodes g).1 = (c.pendingAmong nodes f).1 := by
  obtain ⟨r, w, hr⟩ := c.pendingAmong_of_cloud nodes f.cloud
  rw [hr f rfl, hr g h]

/-- How many executors of a template are missing for a label, given the nodes that may still come
up. -/
def needFor (t : Template) (label : String) (excess : Int) (pending : List Node) (f : Fleet σ) :
    Int :=
  let missing := shortfall t (f.roster.spareCount label - pending.length)
  excess - executorsOf pending + if t.isPrimedAt f.now then missing * t.executors.val else 0

/-- What is missing is decided by the nodes that may still come up. -/
theorem assess_of_pending (c : Controller σ) (label : String) (excess : Int) {f : Fleet σ}
    {pending : List Node} {w : σ}
    (hp : c.pendingAmong (f.roster.withLabel label) f = (.ok pending, { f with cloud := w })) :
    ∃ log, c.assess label excess f =
      (.ok ((c.catalog.forLabel? (some label)).map fun t =>
        (t, needFor t label excess pending f)), { f with cloud := w, log }) := by
  simp only [assess, Action.bind_apply, Action.reads_apply, hp, note, Action.modify_apply]
  cases hc : c.catalog.forLabel? (some label) with
  | none => exact ⟨_, rfl⟩
  | some t =>
    by_cases hm : shortfall t (f.roster.spareCount label - pending.length) = 0
    · simp [hm, needFor]
    · by_cases ht : t.isPrimedAt f.now
      · exact ⟨_, by simp [hm, ht, needFor]; rfl⟩
      · exact ⟨_, by simp [hm, ht, needFor]; rfl⟩

theorem assess_of_error (c : Controller σ) (label : String) (excess : Int) {f g : Fleet σ}
    {e : Failure} (hp : c.pendingAmong (f.roster.withLabel label) f = (.error e, g)) :
    c.assess label excess f = (.error e, g) := by
  simp [assess, hp]

/-- The template for which something is missing is the one that serves the label. -/
theorem forLabel?_of_assess {c : Controller σ} {label : String} {excess need : Int} {f : Fleet σ}
    {t : Template} (h : (c.assess label excess f).1 = .ok (some (t, need))) :
    c.catalog.forLabel? (some label) = some t := by
  obtain ⟨r, w, hr⟩ := c.pendingAmong_of_cloud (f.roster.withLabel label) f.cloud
  cases r with
  | error e => simp [c.assess_of_error label excess (hr f rfl)] at h
  | ok pending =>
    obtain ⟨log, ha⟩ := c.assess_of_pending label excess (hr f rfl)
    rw [ha] at h
    cases hc : c.catalog.forLabel? (some label) with
    | none => simp [hc] at h
    | some s =>
      have hst : s = t := by
        have := congrArg (Except.map (Option.map Prod.fst)) h
        simpa [hc, Except.map] using this
      rw [hst]

/-- A step that settles for a default when the provider is in trouble. -/
def settlingFor {α : Type} (default : α) (label : String) (step : Step σ α) : Step σ α := do
  match ← step.attempt with
  | .ok a => return a
  | .error (.provider detail) =>
    note .error s!"Failed to count the number of live instances for '{label}': {detail}"
    return default
  | .error failure => Action.fail failure

section SettlingFor

variable {α : Type} (default : α) (label : String) {step : Step σ α} {f g : Fleet σ}

theorem settlingFor_of_ok {a : α} (h : step f = (.ok a, g)) :
    settlingFor default label step f = (.ok a, g) := by
  simp [settlingFor, h]

theorem settlingFor_of_provider {detail : String} (h : step f = (.error (.provider detail), g)) :
    ∃ log, settlingFor default label step f = (.ok default, { g with log }) :=
  ⟨_, by simp [settlingFor, h, note]; rfl⟩

theorem settlingFor_of_other {e : Failure} (h : step f = (.error e, g))
    (he : ∀ detail, e ≠ .provider detail) :
    settlingFor default label step f = (.error e, g) := by
  cases e with
  | provider detail => exact absurd rfl (he detail)
  | _ => simp [settlingFor, h]

end SettlingFor

/-- The same template is meant when trouble with the provider is settled for nothing missing. -/
theorem forLabel?_of_settled {c : Controller σ} {label : String} {excess need : Int}
    {f : Fleet σ} {t : Template}
    (h : (settlingFor none label (c.assess label excess) f).1 = .ok (some (t, need))) :
    c.catalog.forLabel? (some label) = some t := by
  rcases ha : c.assess label excess f with ⟨e | found, g⟩
  · cases e with
    | provider detail =>
      obtain ⟨log, hs⟩ := settlingFor_of_provider none label ha
      simp [hs] at h
    | _ => simp [settlingFor_of_other none label ha (by simp)] at h
  · rw [settlingFor_of_ok none label ha] at h
    exact forLabel?_of_assess (by rw [ha]; exact h)

/-- Hands a launch of a template to the pool, and goes on with the rest of a plan.  The plan ends
where a cap or the pool stands against it. -/
def launchThen (c : Controller σ) (label : String) (t : Template)
    (rest : Step σ (List PlannedUnit)) : Step σ (List PlannedUnit) := do
  if ← settlingFor false label (c.reserve t.imageId t.instanceCap) then
    match ← c.submit t with
    | .ok k => return ⟨t.name, t.executors.val, k⟩ :: (← rest)
    | .error reason =>
      note .error s!"Launch pool unavailable, stopping plan for '{label}': {reason}"
      return []
  else return []

/-- Hands launches of a template to the pool as long as executors are missing.  Each of them makes
up for the executors of one node. -/
def launchWhile (c : Controller σ) (label : String) (t : Template) (need : Int) :
    Step σ (List PlannedUnit) :=
  if 0 < need then c.launchThen label t (c.launchWhile label t (need - t.executors.val))
  else return []
termination_by need.toNat
decreasing_by
  have hpos := t.executors.property
  omega

/-- Plans launches for a label with so many executors of unmet demand, and hands them to the
pool. -/
def decide (c : Controller σ) (label : String) (excess : Int) : Step σ (List PlannedUnit) := do
  note .info s!"Excess workload start for '{label}': {excess}"
  match ← settlingFor none label (c.assess label excess) with
  | none => return []
  | some (t, need) =>
    let plan ← c.launchWhile label t need
    if !plan.isEmpty then note .info s!"Planned {plan.length} new node(s) for '{label}'"
    return plan

/-! ### Rounds of a decision -/

/-- The least number of nodes that have so many executors together. -/
def unitsFor (t : Template) (need : Int) : Nat :=
  (need.toNat + t.executors.val - 1) / t.executors.val

theorem unitsFor_of_nonpos (t : Template) {need : Int} (h : need ≤ 0) : unitsFor t need = 0 := by
  have hpos := t.executors.property
  rw [unitsFor, Int.toNat_of_nonpos h, Nat.zero_add]
  exact Nat.div_eq_of_lt (by omega)

/-- One node makes up for its executors. -/
theorem unitsFor_of_pos (t : Template) {need : Int} (h : 0 < need) :
    unitsFor t need = unitsFor t (need - t.executors.val) + 1 := by
  have hpos := t.executors.property
  have hround : need.toNat + t.executors.val - 1 = need.toNat - 1 + t.executors.val := by omega
  rw [unitsFor, unitsFor, hround, Nat.add_div_right _ hpos]
  congr 1
  rcases Nat.lt_or_ge need.toNat t.executors.val with hlast | hmore
  · have hnone : (need - t.executors.val).toNat = 0 := by omega
    rw [hnone, Nat.div_eq_of_lt (by omega), Nat.div_eq_of_lt (by omega)]
  · have hrest : (need - t.executors.val).toNat + t.executors.val - 1 = need.toNat - 1 := by omega
    rw [hrest]

/-- Hands so many launches of a template to the pool. -/
def launchUpTo (c : Controller σ) (label : String) (t : Template) :
    (units : Nat) → Step σ (List PlannedUnit)
  | 0 => return []
  | n + 1 => c.launchThen label t (c.launchUpTo label t n)

/-- Executors are missing for as many rounds as there are nodes to make up for them. -/
theorem launchWhile_eq (c : Controller σ) (label : String) (t : Template) (need : Int) :
    c.launchWhile label t need = c.launchUpTo label t (unitsFor t need) := by
  -- By induction on the rounds, each of which takes the executors of one node off the need.
  induction hunits : unitsFor t need generalizing need with
  | zero =>
    have hnone : ¬0 < need := fun h => by
      rw [unitsFor_of_pos t h] at hunits
      cases hunits
    rw [launchWhile, if_neg hnone, launchUpTo]
  | succ n ih =>
    have hneed : 0 < need := Int.not_le.mp fun h => by
      rw [unitsFor_of_nonpos t h] at hunits
      cases hunits
    rw [unitsFor_of_pos t hneed] at hunits
    rw [launchWhile, if_pos hneed, ih _ (Nat.succ.inj hunits), launchUpTo]

/-! ### Single nodes -/

/-- Launches one node of a named template, and gives its number when it is online. -/
def provision (c : Controller σ) (name : String) : Step σ Nat := do
  let t ← Action.ofExcept (c.catalog.named name)
  if ← c.reserve t.imageId t.instanceCap then c.launch t
  else Action.fail (.capReached name)

/-- The template with a name, or the first one if no name is given. -/
def templateFor (c : Controller σ) (name : Option String) : Except Failure Template :=
  match name.filter (!·.isEmpty) with
  | some name => c.catalog.named name
  | none =>
    match c.catalog.templates with
    | t :: _ => .ok t
    | [] => .error .noTemplates

/-- The described instance is running. -/
def isRunning (description : Value) : Except Failure Bool := do
  let state ← description.getField "State" (.object [])
  return (← state.getField "Name" .null).text? = some "running"

/-- Makes a node for an instance that is there already, and gives its number. -/
def attach (c : Controller σ) (id : String) (template : Option String) : Step σ Nat := do
  let t ← Action.ofExcept (c.templateFor template)
  let description ← consult (c.provider.describe id)
  let imageId ← Action.ofExcept (description.getField "ImageId" (.text t.imageId))
  let n := Node.ofTemplate t id id imageId none
  let k ← makeNode n
  register k
  if ← Action.ofExcept (isRunning description) then connect k (← Action.reads (·.now))
  note .info s!"Attached instance {id} as {n.name}"
  return k

end Controller

end BuildFleet
