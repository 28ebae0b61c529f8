/-
Phases of launches.

Several launches can be under way at a time, and what any of them does next may come before or after
what happens elsewhere.  So a launch has two phases: in the first one it asks for an instance and
enters a node, and in the second one its wait is over.  The phases of different launches may come in
any order, and so may all that happens besides.

* **`Controller.beginLaunch_of_ok`**, **`Controller.conclude`** — the two phases of a launch;
* **`Attached`** — what a call for an instance that is there already comes to;
* **`Traffic`**, **`Controller.phase`** — a fleet with launches under way, and what a phase does;
* **`carryOut_eq`**, **`provision_eq`** — a whole launch is its two phases, with all that happens
  during the wait in between.
-/
import BuildFleet.Proofs.Growth

namespace BuildFleet

open Fleet (Step)

variable {σ : Type} {c : Controller σ} {f : Fleet σ}

/-! ### The beginning of a launch -/

theorem Controller.beginLaunch_of_error (c : Controller σ) {t : Template} {e : Failure} {w : σ}
    (hl : c.provider.launch t f.cloud = (.error e, w)) :
    c.beginLaunch t f = (.error e, { f with cloud := w }) := by
  simp [beginLaunch, Fleet.consult, hl]

theorem Controller.beginLaunch_of_ok (c : Controller σ) {t : Template} {handle : LaunchHandle}
    {w : σ} (hl : c.provider.launch t f.cloud = (.ok handle, w)) :
    ∃ log, c.beginLaunch t f = (.ok (handle, f.roster.next),
      { f with cloud := w, roster := f.roster.enter (.ofLaunch t handle), log }) := by
  obtain ⟨log, henter⟩ := Fleet.enter (.ofLaunch t handle) { f with cloud := w }
  refine ⟨log, ?_⟩
  simp only [beginLaunch, Fleet.consult, Fleet.makeNode, Fleet.changeRoster, Action.bind_apply,
    Action.onPart_apply, Action.reads_apply, Action.modify_apply, Action.pure_apply, hl, henter]

/-! ### The end of a launch -/

/-- A launch that waits for its instance. -/
structure Wait where
  template : Template
  handle : LaunchHandle
  /-- The number of its node. -/
  node : Nat
  /-- The number of the launch in the pool, unless somebody waits for the node. -/
  launch : Option Nat

/-- The same controllers, with nothing that happens during a wait. -/
def Controller.atOnce (c : Controller σ) : Controller σ := { c with interlude := .none }

/-- Ends the wait of a launch, and gives its slot back. -/
def Controller.conclude (c : Controller σ) (w : Wait) : Step σ Nat :=
  Action.ensuring
    (do
      match ← (c.atOnce.bringUp w.handle w.node).attempt with
      | .ok _ => return w.node
      | .error failure =>
        Controller.giveUp w.node failure
        Action.fail failure)
    (Controller.release w.template.imageId)

theorem Controller.launch_eq_conclude (c : Controller σ) (t : Template) (launch : Option Nat)
    (f : Fleet σ) : c.launch t f =
      match c.beginLaunch t f with
      | (.ok (handle, k), g) => c.conclude ⟨t, handle, k, launch⟩ (c.interlude.happen g)
      | (.error e, g) => (.error e, (Controller.release t.imageId g).2) := by
  -- Both sides ask for the instance first; from there on they are the same text.
  unfold Controller.launch Action.ensuring
  rw [Action.bind_apply]
  rcases c.beginLaunch t f with ⟨e | ⟨handle, k⟩, g⟩
  · rfl
  · rfl

section Conclude

variable {w : Wait} {n : Node} (hn : f.roster.node? w.node = some n)

include hn

theorem Controller.conclude_of_error {e : Failure} {v : σ}
    (hr : c.provider.awaitRunning w.handle c.launchTimeout f.cloud = (.error e, v)) :
    ∃ log, c.conclude w f =
      (.error e, { f with
        cloud := v, roster := f.roster.remove n.name
        ledger := f.ledger.release w.template.imageId, log }) := by
  have hup : c.atOnce.bringUp w.handle w.node f = (.error e, { f with cloud := v }) := by
    simp [bringUp, atOnce, Interlude.none, Fleet.consult, hr]
  obtain ⟨log, hdown⟩ := giveUp_of_some (f := { f with cloud := v }) hn e
  refine ⟨log, ?_⟩
  simp only [conclude, Action.ensuring, Action.bind_apply, Action.attempt_apply, hup, hdown,
    Action.fail_apply]
  rfl

theorem Controller.conclude_of_ok (hk : w.node ∈ f.roster.order) {id : String} {v : σ}
    (hr : c.provider.awaitRunning w.handle c.launchTimeout f.cloud = (.ok id, v)) :
    ∃ roster log,
      c.conclude w f =
        (.ok w.node, { f with
          cloud := v, roster, ledger := f.ledger.release w.template.imageId, log }) ∧
      roster.order = f.roster.order ∧
      ∃ now, roster.nodes = f.roster.nodes.modify w.node fun n =>
        (n.setInstance id).markOnline now := by
  obtain ⟨roster, log, hup, horder, hnodes⟩ := bringUp_of_ok (c := c.atOnce) hn hk hr
  refine ⟨roster, log, ?_, horder, hnodes⟩
  simp only [conclude, Action.ensuring, Action.bind_apply, Action.attempt_apply, hup]
  rfl

end Conclude

/-- What the end of a wait can come to, whatever has happened to the node meanwhile. -/
inductive Concluded (c : Controller σ) (w : Wait) (n : Node) (f : Fleet σ) : Fleet σ → Prop
  | lost {e : Failure} {v : σ} {ledger : Ledger} {log : List LogEntry}
      (ha : c.provider.awaitRunning w.handle c.launchTimeout f.cloud = (.error e, v)) :
      Concluded c w n f { f with cloud := v, roster := f.roster.remove n.name, ledger, log }
  | up {id : String} {v : σ} {ledger : Ledger} {log : List LogEntry}
      (ha : c.provider.awaitRunning w.handle c.launchTimeout f.cloud = (.ok id, v)) :
      Concluded c w n f { f with
        cloud := v
        roster := (f.roster.update w.node (.setInstance id) (Node.name_setInstance id)).update
          w.node (.markOnline f.now) (Node.name_markOnline f.now)
        ledger, log }
  /-- The name was taken out during the wait, and the node is not connected. -/
  | late {id : String} {v : σ} {ledger : Ledger} {log : List LogEntry}
      (ha : c.provider.awaitRunning w.handle c.launchTimeout f.cloud = (.ok id, v)) :
      Concluded c w n f { f with
        cloud := v
        roster := f.roster.update w.node (.setInstance id) (Node.name_setInstance id)
        ledger, log }

theorem Controller.concluded (c : Controller σ) {w : Wait} {n : Node} {f : Fleet σ}
    (hn : f.roster.node? w.node = some n) : Concluded c w n f (c.conclude w f).2 := by
  rcases ha : c.provider.awaitRunning w.handle c.launchTimeout f.cloud with ⟨e | id, v⟩
  · obtain ⟨log, hconclude⟩ := conclude_of_error hn ha
    rw [hconclude]
    exact .lost ha
  · set g : Fleet σ := { f with
      cloud := v, roster := f.roster.update w.node (.setInstance id) (Node.name_setInstance id) }
    have hnode : g.roster.node? w.node = some (n.setInstance id) :=
      f.roster.node?_update hn _ (Node.name_setInstance id)
    have hbring : c.atOnce.bringUp w.handle w.node f = Fleet.connect w.node f.now g := by
      simp [bringUp, atOnce, Interlude.none, Fleet.consult, Fleet.changeRoster, ha, g]
    cases hfound : g.roster.find? n.name with
    | some j =>
      obtain ⟨log, hconnect⟩ := Fleet.connect_of_some hnode hfound f.now
      have hconclude : (c.conclude w f).2 = { g with
          roster := g.roster.update w.node (.markOnline f.now) (Node.name_markOnline f.now)
          ledger := g.ledger.release w.template.imageId, log } := by
        simp only [conclude, Action.ensuring, Action.bind_apply, Action.attempt_apply, hbring,
          hconnect]
        rfl
      rw [hconclude]
      exact .up ha
    | none =>
      have hconnect : Fleet.connect w.node f.now g = (.error (.notRegistered n.name), g) := by
        simp [Fleet.connect, Fleet.nodeAt_of_some hnode, hfound]
      -- Nothing is left to be taken out.
      obtain ⟨log, hdown⟩ := giveUp_of_some hnode (.notRegistered n.name)
      rw [Node.name_setInstance, Roster.remove_of_find? hfound] at hdown
      have hconclude : (c.conclude w f).2 =
          { g with ledger := g.ledger.release w.template.imageId, log } := by
        simp only [conclude, Action.ensuring, Action.bind_apply, Action.attempt_apply, hbring,
          hconnect, hdown]
        rfl
      rw [hconclude]
      exact .late ha

/-! ### Attaching -/

/-- As clouds describe instances, the description is an object, and so is the state in it. -/
structure DescribesInstance (v : Json.Value) : Prop where
  isObject : v.fields?.isSome
  state : ∀ state, v.field? "State" = some state → state.fields?.isSome

/-- The description gives the state as running. -/
def ReportsRunning (v : Json.Value) : Prop :=
  ∃ state, v.field? "State" = some state ∧ state.field? "Name" = some (.text "running")

theorem Json.Value.getField_of_isObject {v : Json.Value} (h : v.fields?.isSome) (name : String)
    (default : Json.Value) : v.getField name default = .ok ((v.field? name).getD default) := by
  obtain ⟨fields, hfields⟩ := Option.isSome_iff_exists.mp h
  rw [getField, field?, hfields]
  rfl

theorem Json.Value.text?_eq_some {v : Json.Value} {s : String} : v.text? = some s ↔ v = .text s := by
  cases v <;> simp [text?]

theorem DescribesInstance.isRunning {v : Json.Value} (h : DescribesInstance v) :
    ∃ running, Controller.isRunning v = .ok running ∧ (running = true ↔ ReportsRunning v) := by
  -- A description without a state is read as one with an empty state.
  have hstate : ((v.field? "State").getD (.object [])).fields?.isSome := by
    cases hfield : v.field? "State" with
    | none => rfl
    | some state => exact h.state state hfield
  set name := (((v.field? "State").getD (.object [])).field? "Name").getD .null with hname
  refine ⟨decide (name.text? = some "running"), ?_, ?_⟩
  · rw [Controller.isRunning, Json.Value.getField_of_isObject h.isObject]
    show ((v.field? "State").getD (.object [])).getField "Name" .null >>= _ = _
    rw [Json.Value.getField_of_isObject hstate]
    rfl
  · rw [decide_eq_true_eq, Json.Value.text?_eq_some, ReportsRunning, hname]
    cases v.field? "State" with
    | none => simp [Json.Value.field?, Json.Value.fields?, Json.Value.lookup]
    | some state =>
      rw [Option.getD_some]
      cases hfield : state.field? "Name" with
      | none => simp [hfield]
      | some name => simp [hfield]

/-- The provider describes instances as clouds do. -/
def Controller.Describes (c : Controller σ) : Prop :=
  ∀ id w v w', c.provider.describe id w = (.ok v, w') → DescribesInstance v

/-- The node has what its template and its instance give it. -/
structure Node.IsFor (n : Node) (t : Template) (instanceId : String) : Prop where
  template : n.template = t.name
  labelString : n.labelString = t.labelString
  executors : n.executors = t.executors.val
  instanceId : n.instanceId = instanceId

/-- What a call for an instance that is there already can come to. -/
inductive Attached (c : Controller σ) (id : String) (template : Option String) (f : Fleet σ) :
    Except Failure Nat × Fleet σ → Prop
  | failed {e : Failure} {g : Fleet σ} (hr : g.roster = f.roster) :
      Attached c id template f (.error e, g)
  | entered {t : Template} {v : Json.Value} {w : σ} {n : Node} {r : Roster} {log : List LogEntry}
      (ht : c.templateFor template = .ok t) (hv : c.provider.describe id f.cloud = (.ok v, w))
      (name : n.name = Node.nameFor t.name id) (isFor : n.IsFor t id)
      (online : n.isOnline = true ↔ ReportsRunning v) (nodes : r.nodes = f.roster.nodes ++ [n])
      (order : some n.name ∉ f.roster.order.map f.roster.nameOf →
        r.order = f.roster.order ++ [f.roster.next]) :
      Attached c id template f (.ok f.roster.next, { f with cloud := w, roster := r, log })

theorem Controller.attached (c : Controller σ) (hc : c.Describes) (id : String)
    (template : Option String) (f : Fleet σ) :
    Attached c id template f (c.attach id template f) := by
  unfold attach
  simp only [Action.bind_apply, Action.ofExcept_apply]
  -- Whatever fails, fails before the node is made: with a description in which the state is an
  -- object, nothing is left that could fail later.
  cases ht : c.templateFor template with
  | error e => exact .failed rfl
  | ok t =>
    simp only [Fleet.consult, Action.onPart_apply]
    rcases hv : c.provider.describe id f.cloud with ⟨e | v, w⟩
    · exact .failed rfl
    simp only
    cases himage : v.getField "ImageId" (.text t.imageId) with
    | error e => exact .failed rfl
    | ok imageId =>
      obtain ⟨running, hrunning, hreports⟩ := (hc id f.cloud v w hv).isRunning
      obtain ⟨log, henter⟩ := Fleet.enter (.ofTemplate t id id imageId none) { f with cloud := w }
      simp only [Fleet.makeNode, Fleet.changeRoster, Action.bind_apply, Action.reads_apply,
        Action.modify_apply, Action.pure_apply, henter, hrunning]
      cases running with
      | false =>
        have hoffline : (Node.ofTemplate t id id imageId none).isOnline = true ↔
            ReportsRunning v := hreports
        exact .entered ht hv rfl ⟨rfl, rfl, rfl, rfl⟩ hoffline (f.roster.nodes_enter _)
          Roster.order_enter
      | true =>
        obtain ⟨log', hconnect⟩ := Fleet.connect_enter (.ofTemplate t id id imageId none)
          { f with cloud := w, log } f.now
        have honline : ((Node.ofTemplate t id id imageId none).markOnline f.now).isOnline = true ↔
            ReportsRunning v := hreports
        simp only [if_true, Action.reads_apply, Action.bind_apply, hconnect]
        refine .entered ht hv rfl ⟨rfl, rfl, rfl, rfl⟩ honline ?_ fun hnew =>
          Roster.order_enter hnew
        show (f.roster.enter _).nodes.modify f.roster.next _ = _
        rw [Roster.nodes_enter, Roster.next]
        simp [List.modify_eq_set_getElem?]

/-! ### Phases -/

/-- One phase of what goes on. -/
inductive Phase (σ : Type) where
  /-- The launch with a number in the pool is taken up. -/
  | takeUp (launch : Nat)
  /-- Somebody asks for one node of a named template. -/
  | call (template : String)
  /-- The wait of the launch at a place is over. -/
  | finish (place : Nat)
  /-- Somebody asks for a node for an instance that is there already. -/
  | attach (id : String) (template : Option String)
  /-- The node with a number is checked. -/
  | check (node : Nat) (moment : Option Moment)
  /-- Something else happens. -/
  | aside (change : Fleet σ → Fleet σ)

/-- A fleet with launches under way, and what has come of it so far. -/
structure Traffic (σ : Type) where
  fleet : Fleet σ
  /-- The launches that wait for their instances. -/
  waits : List Wait
  /-- The ids by which nodes were named. -/
  ids : List String
  /-- The numbers of the nodes that launches and calls have ended with. -/
  came : List Nat
  /-- The numbers of the nodes that were terminated. -/
  went : List Nat
  /-- What the calls have ended with. -/
  answers : List (Except Failure Nat)

namespace Traffic

/-- Nothing is under way yet. -/
def start (f : Fleet σ) : Traffic σ := ⟨f, [], [], [], [], []⟩

/-- The outcome of a launch is recorded in the pool, that of a call is its answer. -/
def deliver (launch : Option Nat) (r : Except Failure Nat) (x : Traffic σ) : Traffic σ :=
  let x := { x with came := x.came ++ r.toOption.toList }
  match launch with
  | some j => { x with fleet := { x.fleet with pool := x.fleet.pool.record j (.ofOutcome r) } }
  | none => { x with answers := x.answers ++ [r] }

end Traffic

namespace Controller

/-- The first phase of a launch. -/
def begin (c : Controller σ) (t : Template) (launch : Option Nat) (x : Traffic σ) : Traffic σ :=
  match c.beginLaunch t x.fleet with
  | (.ok (handle, k), g) =>
    { x with
      fleet := g
      waits := x.waits ++ [⟨t, handle, k, launch⟩]
      ids := x.ids ++ [handle.id] }
  | (.error e, g) => { x with fleet := (release t.imageId g).2 }.deliver launch (.error e)

/-- What a phase does. -/
def phase (c : Controller σ) (x : Traffic σ) : Phase σ → Traffic σ
  | .takeUp j =>
    match x.fleet.pool.launches[j]? with
    | some ⟨t, .queued⟩ =>
      c.begin t (some j)
        { x with fleet := { x.fleet with pool := x.fleet.pool.record j .running } }
    | _ => x
  | .call name =>
    match c.catalog.named name with
    | .error e => x.deliver none (.error e)
    | .ok t =>
      match c.reserve t.imageId t.instanceCap x.fleet with
      | (.ok true, g) => c.begin t none { x with fleet := g }
      | (.ok false, g) => { x with fleet := g }.deliver none (.error (.capReached name))
      | (.error e, g) => { x with fleet := g }.deliver none (.error e)
  | .finish place =>
    match x.waits[place]? with
    | some w =>
      let (r, g) := c.conclude w x.fleet
      { x with fleet := g, waits := x.waits.eraseIdx place }.deliver w.launch r
    | none => x
  | .attach id template =>
    match c.attach id template x.fleet with
    | (.ok k, g) => { x with fleet := g, ids := x.ids ++ [id] }.deliver none (.ok k)
    | (.error e, g) => { x with fleet := g }.deliver none (.error e)
  | .check k moment =>
    match x.fleet.roster.node? k with
    | some n =>
      match c.check n moment x.fleet with
      | (.ok .terminate, g) => { x with fleet := g, went := x.went ++ [k] }
      | (_, g) => { x with fleet := g }
    | none => x
  | .aside change => { x with fleet := change x.fleet }

/-- What some phases do, one after the other. -/
def proceed (c : Controller σ) (phases : List (Phase σ)) (x : Traffic σ) : Traffic σ :=
  phases.foldl c.phase x

@[simp]
theorem proceed_nil (c : Controller σ) (x : Traffic σ) : c.proceed [] x = x := rfl

@[simp]
theorem proceed_cons (c : Controller σ) (p : Phase σ) (rest : List (Phase σ)) (x : Traffic σ) :
    c.proceed (p :: rest) x = c.proceed rest (c.phase x p) := rfl

/-! ### Whole launches -/

/-- The second phase of the launch under way, if there is one, after all that happens meanwhile. -/
def await (c : Controller σ) (x : Traffic σ) : Traffic σ :=
  if x.waits.isEmpty then x else c.proceed [.aside c.interlude.happen, .finish 0] x

/-- A launch is delivered when its second phase is over, or its first, if that fails. -/
theorem await_begin (c : Controller σ) (t : Template) (launch : Option Nat) (f : Fleet σ) :
    ∃ ids, c.await (c.begin t launch (.start f)) =
      { Traffic.start (c.launch t f).2 with ids }.deliver launch (c.launch t f).1 := by
  rw [c.launch_eq_conclude t launch f]
  rcases hb : c.beginLaunch t f with ⟨e | ⟨handle, k⟩, g⟩
  · refine ⟨[], ?_⟩
    have hbegin : c.begin t launch (.start f) =
        (Traffic.start (release t.imageId g).2).deliver launch (.error e) := by
      simp only [begin, Traffic.start, hb]
    -- No launch waits here, so that there is no second phase.
    rw [hbegin, await]
    cases launch <;> rfl
  · refine ⟨[handle.id], ?_⟩
    have hbegin : c.begin t launch (.start f) =
        { Traffic.start g with waits := [⟨t, handle, k, launch⟩], ids := [handle.id] } := by
      simp only [begin, Traffic.start, hb, List.nil_append]
    rw [hbegin]
    rfl

theorem carryOut_eq (c : Controller σ) (j : Nat) (f : Fleet σ) :
    c.carryOut j f = (.ok (), (c.await (c.phase (.start f) (.takeUp j))).fleet) := by
  by_cases hwaits : ∃ t, f.pool.launches[j]? = some ⟨t, .queued⟩
  · obtain ⟨t, hj⟩ := hwaits
    obtain ⟨ids, hawait⟩ := c.await_begin t (some j) { f with pool := f.pool.record j .running }
    have hphase : c.phase (.start f) (.takeUp j) =
        c.begin t (some j) (.start { f with pool := f.pool.record j .running }) := by
      simp only [phase, Traffic.start, hj]
    rw [c.carryOut_of_queued hj, hphase, hawait]
    rfl
  · have hphase : c.phase (.start f) (.takeUp j) = .start f := by
      simp only [phase, Traffic.start]
      split
      next t ht => exact absurd ⟨t, ht⟩ hwaits
      · rfl
    rw [c.carryOut_of_not_queued (by simpa using hwaits), hphase]
    rfl

theorem provision_eq (c : Controller σ) (name : String) (f : Fleet σ) :
    ∃ r, (c.await (c.phase (.start f) (.call name))).answers = [r] ∧
      c.provision name f = (r, (c.await (c.phase (.start f) (.call name))).fleet) := by
  simp only [provision, Action.bind_apply, Action.ofExcept_apply]
  cases hname : c.catalog.named name with
  | error e =>
    have hphase : c.phase (.start f) (.call name) = (Traffic.start f).deliver none (.error e) := by
      simp only [phase, hname]
    rw [hphase]
    exact ⟨.error e, rfl, rfl⟩
  | ok t =>
    simp only
    rcases hr : c.reserve t.imageId t.instanceCap f with ⟨e | granted, g⟩
    · have hphase : c.phase (.start f) (.call name) = (Traffic.start g).deliver none (.error e) := by
        simp only [phase, Traffic.start, hname, hr]
      rw [hphase]
      exact ⟨.error e, rfl, rfl⟩
    · cases granted with
      | false =>
        have hphase : c.phase (.start f) (.call name) =
            (Traffic.start g).deliver none (.error (.capReached name)) := by
          simp only [phase, Traffic.start, hname, hr]
        rw [hphase]
        exact ⟨.error (.capReached name), rfl, rfl⟩
      | true =>
        obtain ⟨ids, hawait⟩ := c.await_begin t none g
        have hphase : c.phase (.start f) (.call name) = c.begin t none (.start g) := by
          simp only [phase, Traffic.start, hname, hr]
        rw [hphase, hawait]
        exact ⟨(c.launch t g).1, rfl, rfl⟩

end Controller

end BuildFleet
