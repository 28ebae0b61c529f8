/-
Ownership of instances.

An instance that was launched costs money until somebody ends it, and only registered nodes are ever
checked.  So every instance should have a registered node.  It has one unless the wait for the
instance failed: then its node is taken out, and nobody ends the instance.

* **`Controller.Tracks`** — ids as clouds give them, by which an instance can be told from others;
* **`Owned`** — the invariant: a launch that is neither lost nor ended has a registered name;
* **`Tracks.phase`** — whatever happens, it holds afterwards;
* **`launches_owned`** — every instance that is neither lost nor ended has a registered node.
-/
import BuildFleet.Proofs.Health
import BuildFleet.Proofs.Invariants
import BuildFleet.Proofs.Record

namespace BuildFleet

open Fleet (Step consult)

variable {σ : Type}

/-! ### Ids -/

/-- Every instance that is known stays the one that it is. -/
def Lasts (known later : String → Option String) : Prop :=
  ∀ id i, known id = some i → later id = some i

/-- Let `instanceOf` tell the instance that a launch with an id has come to.  A launch on demand has
come to its instance, and so has every launch whose wait is over; an instance that can be described
is that of its own id; no launch comes to another instance later; and no id has an opening bracket
in it. -/
structure Controller.Tracks (c : Controller σ) (instanceOf : σ → String → Option String) :
    Prop where
  launched : ∀ {t handle w w'}, c.provider.launch t w = (.ok handle, w') →
    '(' ∉ handle.id.toList ∧
      (instanceOf w' handle.id = some handle.instanceId ∨
        handle.instanceId = "" ∧ handle.spotRequest.isSome)
  running : ∀ {handle seconds id w w'}, c.provider.awaitRunning handle seconds w = (.ok id, w') →
    instanceOf w' handle.id = some id
  described : ∀ {id v w w'}, c.provider.describe id w = (.ok v, w') →
    '(' ∉ id.toList ∧ instanceOf w' id = some id
  launch : ∀ t w, Lasts (instanceOf w) (instanceOf (c.provider.launch t w).2)
  asked : ∀ {v w}, Drift c (fun _ => False) v w → Lasts (instanceOf v) (instanceOf w)

/-- When the world outside changes, no launch comes to another instance. -/
def Occurrence.Within (instanceOf : σ → String → Option String) : Occurrence σ → Prop
  | .elsewhere world _ => ∀ w, Lasts (instanceOf w) (instanceOf (world w))
  | _ => True

/-- The node is named by the id of a launch.  It has the instance of the launch, or it is not
connected yet and waits for the spot request with the id. -/
structure Node.StandsFor (n : Node) (known : String → Option String) (id : String) : Prop where
  plain : '(' ∉ id.toList
  name : n.name = nameFor n.template id
  carries : known id = some n.instanceId ∨
    n.instanceId = "" ∧ n.isOnline = false ∧ n.spotRequest = some id

/-! ### The invariant -/

/-- Registered names. -/
def Roster.names (r : Roster) : List (Option String) := r.order.map r.nameOf

namespace Roster

theorem names_update (r : Roster) (k : Nat) {change : Node → Node}
    (hname : ∀ n, (change n).name = n.name) : (r.update k change hname).names = r.names :=
  List.map_congr_left fun j _ => nameIn_modify k j hname

theorem mem_names_remove {r : Roster} {name : String} {a : Option String} (ha : a ∈ r.names)
    (hne : a ≠ some name) : a ∈ (r.remove name).names := by
  obtain ⟨k, hk, rfl⟩ := List.mem_map.mp ha
  exact List.mem_map.mpr ⟨k, List.mem_filter.mpr ⟨hk, decide_eq_true hne⟩, rfl⟩

theorem nameOf_enter (r : Roster) (n : Node) {k : Nat} {a : String} (h : r.nameOf k = some a) :
    (r.enter n).nameOf k = some a := by
  obtain ⟨m, hm, -⟩ := Option.map_eq_some_iff.mp h
  rw [nameOf, nodes_enter, nameIn_append n (List.getElem?_eq_some_iff.mp hm).1]
  exact h

theorem name_mem_enter (r : Roster) (n : Node) : some n.name ∈ (r.enter n).names :=
  List.mem_map.mpr ⟨r.next, r.mem_order_enter n, nameOf_of_node? (r.node?_enter n)⟩

/-- A name that is registered stays registered when a node is entered, if not as that of the same
node. -/
theorem mem_names_enter {r : Roster} (n : Node) {a : String} (ha : some a ∈ r.names) :
    some a ∈ (r.enter n).names := by
  obtain ⟨j, hj, hname⟩ := List.mem_map.mp ha
  by_cases hsame : n.name = a
  · exact hsame ▸ r.name_mem_enter n
  · have hlt : r.next < (r.make n).nodes.length := by
      simp [make, next]
    have hnode : (r.make n).node? r.next = some n := List.getElem?_concat_length
    have hold : (r.make n).nameOf j = some a := (nameIn_append n (r.known j hj)).trans hname
    have hne : (r.make n).nameOf j ≠ (r.make n).nameOf r.next := by
      rw [hold, nameOf_of_node? hnode]
      exact fun ha => hsame (Option.some.inj ha).symm
    -- A node with another name keeps its place.
    refine List.mem_map.mpr ⟨j, ?_, r.nameOf_enter n hname⟩
    rw [enter, register, dif_pos hlt]
    show j ∈ (r.make n).orderWith r.next
    rw [orderWith]
    split
    · exact List.mem_map.mpr ⟨j, hj, if_neg hne⟩
    · exact List.mem_append_left _ hj

end Roster

section Owned

variable {known later : String → Option String} {waits : List Wait} {r : Roster} {d : Deeds}

theorem Node.StandsFor.lasts {n : Node} {id : String} (h : n.StandsFor known id)
    (hlasts : Lasts known later) : n.StandsFor later id :=
  ⟨h.plain, h.name, h.carries.imp_left (hlasts id n.instanceId)⟩

/-- Every node stands for a launch, the nodes of the launches under way are there, and every launch
that is neither lost nor ended has a registered name. -/
structure Owned (known : String → Option String) (waits : List Wait) (r : Roster) (d : Deeds) :
    Prop where
  stands : ∀ n ∈ r.nodes, ∃ id, n.StandsFor known id
  waiting : ∀ w ∈ waits, '(' ∉ w.handle.id.toList ∧
    r.nameOf w.node = some (Node.nameFor w.template.name w.handle.id)
  plain : ∀ handle ∈ d.launched, '(' ∉ handle.id.toList
  owned : ∀ handle ∈ d.launched, handle.id ∈ d.lost ∨
    (∃ i ∈ d.ended, known handle.id = some i) ∨
      ∃ template, some (Node.nameFor template handle.id) ∈ r.names

namespace Owned

theorem lasts (h : Owned known waits r d) (hlasts : Lasts known later) :
    Owned later waits r d where
  stands n hn := by
    obtain ⟨id, hid⟩ := h.stands n hn
    exact ⟨id, hid.lasts hlasts⟩
  waiting := h.waiting
  plain := h.plain
  owned handle hmem := by
    rcases h.owned handle hmem with hlost | ⟨i, hi, hknown⟩ | hname
    · exact .inl hlost
    · exact .inr (.inl ⟨i, hi, hlasts _ i hknown⟩)
    · exact .inr (.inr hname)

theorem of_waits {fewer : List Wait} (h : Owned known waits r d) (hfewer : fewer ⊆ waits) :
    Owned known fewer r d :=
  { h with waiting := fun w hw => h.waiting w (hfewer hw) }

theorem enter (h : Owned known waits r d) {n : Node} {id : String} (hn : n.StandsFor known id) :
    Owned known waits (r.enter n) d where
  stands m hm := by
    rw [Roster.nodes_enter] at hm
    rcases List.mem_append.mp hm with hm | hm
    · exact h.stands m hm
    · exact ⟨id, List.mem_singleton.mp hm ▸ hn⟩
  waiting w hw := ⟨(h.waiting w hw).1, r.nameOf_enter n (h.waiting w hw).2⟩
  plain := h.plain
  owned handle hmem := by
    rcases h.owned handle hmem with hlost | hended | ⟨template, hname⟩
    · exact .inl hlost
    · exact .inr (.inl hended)
    · exact .inr (.inr ⟨template, Roster.mem_names_enter n hname⟩)

/-- A node is changed, and stands for the same launch. -/
theorem update (h : Owned known waits r d) {k : Nat} {change : Node → Node}
    (hname : ∀ n, (change n).name = n.name)
    (hchange : ∀ n id, r.node? k = some n → n.StandsFor known id → (change n).StandsFor known id) :
    Owned known waits (r.update k change hname) d where
  stands m hm := by
    obtain ⟨j, hj⟩ := List.getElem?_of_mem hm
    have hmodify : (r.nodes.modify k change)[j]? = some m := hj
    rw [List.getElem?_modify] at hmodify
    obtain ⟨n, hn, hsame⟩ := Option.map_eq_some_iff.mp hmodify
    obtain ⟨id, hid⟩ := h.stands n (List.mem_of_getElem? hn)
    refine ⟨id, ?_⟩
    rw [← hsame]
    split
    next hkj =>
      subst hkj
      exact hchange n id hn hid
    · exact hid
  waiting w hw := by
    obtain ⟨hplain, hnode⟩ := h.waiting w hw
    exact ⟨hplain, (Roster.nameIn_modify k w.node hname).trans hnode⟩
  plain := h.plain
  owned handle hmem := by
    rw [Roster.names_update]
    exact h.owned handle hmem

/-- A name is taken out; all launches that may have had it are lost or ended. -/
theorem remove {after : Deeds} (h : Owned known waits r d) {name : String}
    (hlaunched : after.launched = d.launched) (hlost : d.lost ⊆ after.lost)
    (hended : d.ended ⊆ after.ended)
    (hgone : ∀ handle template, name = Node.nameFor template handle.id →
      handle ∈ d.launched → handle.id ∈ after.lost ∨ ∃ i ∈ after.ended, known handle.id = some i) :
    Owned known waits (r.remove name) after where
  stands := h.stands
  waiting := h.waiting
  plain := by
    rw [hlaunched]
    exact h.plain
  owned := by
    rw [hlaunched]
    intro handle hmem
    rcases h.owned handle hmem with hold | ⟨i, hi, hknown⟩ | ⟨template, hname⟩
    · exact .inl (hlost hold)
    · exact .inr (.inl ⟨i, hended hi, hknown⟩)
    · by_cases hsame : name = Node.nameFor template handle.id
      · rcases hgone handle template hsame hmem with hnow | hnow
        · exact .inl hnow
        · exact .inr (.inl hnow)
      · refine .inr (.inr ⟨template, Roster.mem_names_remove hname fun hname => ?_⟩)
        exact hsame (Option.some.inj hname).symm

end Owned

end Owned

/-! ### What the controllers do to it -/

/-- The invariant, for a fleet with a record. -/
def Fleet.Owns (instanceOf : σ → String → Option String) (waits : List Wait)
    (f : Fleet (σ × Deeds)) : Prop :=
  Owned (instanceOf f.cloud.1) waits f.roster f.cloud.2

/-- The same, for launches under way. -/
def Traffic.Owns (instanceOf : σ → String → Option String) (x : Traffic (σ × Deeds)) : Prop :=
  x.fleet.Owns instanceOf x.waits

theorem Traffic.Owns.deliver {instanceOf : σ → String → Option String} {x : Traffic (σ × Deeds)}
    (h : x.Owns instanceOf) (launch : Option Nat) (r : Except Failure Nat) :
    (x.deliver launch r).Owns instanceOf := by
  cases launch with
  | none => exact h
  | some j => exact h

/-- A node has one name, and a name has one id. -/
theorem Node.StandsFor.id_eq {n : Node} {known : String → Option String} {id id' template : String}
    (h : n.StandsFor known id) (hid' : '(' ∉ id'.toList) (hname : n.name = nameFor template id') :
    id' = id :=
  Node.id_of_nameFor hid' h.plain (hname.symm.trans h.name)

namespace Controller.Tracks

variable {c : Controller σ} {instanceOf : σ → String → Option String} {waits : List Wait}
  {f : Fleet (σ × Deeds)} (hc : c.Tracks instanceOf)

include hc

/-- The node of a launch on demand has its instance at once; that of a spot launch waits for it. -/
theorem standsFor_ofLaunch {t : Template} {handle : LaunchHandle} {w w' : σ}
    (hl : c.provider.launch t w = (.ok handle, w')) :
    (Node.ofLaunch t handle).StandsFor (instanceOf w') handle.id := by
  obtain ⟨hplain, hknown | ⟨hempty, hspot⟩⟩ := hc.launched hl
  · exact ⟨hplain, rfl, .inl hknown⟩
  · obtain ⟨request, hrequest⟩ := Option.isSome_iff_exists.mp hspot
    have hid : handle.id = request := by
      simp [LaunchHandle.id, hempty, hrequest]
    exact ⟨hplain, rfl, .inr ⟨hempty, rfl, hid ▸ hrequest⟩⟩

theorem begun (h : f.Owns instanceOf waits) {t : Template} {handle : LaunchHandle} {w : σ}
    (hl : c.provider.launch t f.cloud.1 = (.ok handle, w)) (launch : Option Nat) :
    Owned (instanceOf w) (waits ++ [⟨t, handle, f.roster.next, launch⟩])
      (f.roster.enter (.ofLaunch t handle)) (f.cloud.2.launch (.ok handle)) := by
  have hlasts : Lasts (instanceOf f.cloud.1) (instanceOf w) := by
    have := hc.launch t f.cloud.1
    rwa [hl] at this
  have hstands := hc.standsFor_ofLaunch hl
  have hentered := (h.lasts hlasts).enter hstands
  constructor
  · exact hentered.stands
  · intro wait hwait
    rcases List.mem_append.mp hwait with hold | hnew
    · exact hentered.waiting wait hold
    · rw [List.mem_singleton.mp hnew]
      exact ⟨hstands.plain, Roster.nameOf_of_node? (f.roster.node?_enter _)⟩
  · intro other hother
    rcases List.mem_append.mp hother with hold | hnew
    · exact hentered.plain other hold
    · rw [List.mem_singleton.mp hnew]
      exact hstands.plain
  · intro other hother
    rcases List.mem_append.mp hother with hold | hnew
    · exact hentered.owned other hold
    · -- Only just now the name was registered.
      rw [List.mem_singleton.mp hnew]
      exact .inr (.inr ⟨t.name, f.roster.name_mem_enter _⟩)

theorem conclude (h : f.Owns instanceOf waits) {w : Wait} (hw : w ∈ waits) :
    (c.recording.conclude w f).2.Owns instanceOf waits := by
  obtain ⟨hplain, hname⟩ := h.waiting w hw
  obtain ⟨n, hn, hnname⟩ := Option.map_eq_some_iff.mp hname
  have hlasts := hc.asked (.awaitRunning w.handle c.recording.launchTimeout f.cloud.1)
  -- Once the instance is known, the node has it, and is found under its name or not.
  have hset : ∀ id v,
      c.provider.awaitRunning w.handle c.recording.launchTimeout f.cloud.1 = (.ok id, v) →
      instanceOf v w.handle.id = some id ∧ Owned (instanceOf v) waits
        (f.roster.update w.node (.setInstance id) (Node.name_setInstance id)) f.cloud.2 := by
    intro id v ha
    rw [ha] at hlasts
    have hknown : instanceOf v w.handle.id = some id := hc.running ha
    refine ⟨hknown, (h.lasts hlasts).update _ fun m id' hm hstands => ?_⟩
    obtain rfl : n = m := Option.some.inj (hn.symm.trans hm)
    have hid := hstands.id_eq hplain hnname
    exact ⟨hstands.plain, hstands.name, .inl (hid ▸ hknown)⟩
  have hconcluded := c.recording.concluded hn
  generalize (c.recording.conclude w f).2 = g at hconcluded
  cases hconcluded with
  | @lost e v ledger log hr =>
    -- The name that is taken out is that of the launch whose wait has just failed.
    obtain ⟨v, d⟩ := v
    obtain ⟨ha, rfl⟩ := of_recording_awaitRunning hr
    rw [ha] at hlasts
    refine (h.lasts hlasts).remove rfl (List.subset_append_left _ _) (List.Subset.refl _) ?_
    intro handle template hsame hmem
    have hid := Node.id_of_nameFor (h.plain handle hmem) hplain (hsame.symm.trans hnname)
    exact .inl (List.mem_append_right _ (List.mem_singleton.mpr hid))
  | @up id v ledger log hr =>
    obtain ⟨v, d⟩ := v
    obtain ⟨ha, rfl⟩ := of_recording_awaitRunning hr
    obtain ⟨hknown, hnamed⟩ := hset id v ha
    refine hnamed.update (Node.name_markOnline f.now) fun m id' hm hstands => ?_
    have hnode := f.roster.node?_update hn _ (Node.name_setInstance id)
    obtain rfl : n.setInstance id = m := Option.some.inj (hnode.symm.trans hm)
    have hid := hstands.id_eq hplain hnname
    exact ⟨hstands.plain, hstands.name, .inl (hid ▸ hknown)⟩
  | @late id v ledger log hr =>
    obtain ⟨v, d⟩ := v
    obtain ⟨ha, rfl⟩ := of_recording_awaitRunning hr
    exact (hset id v ha).2

theorem check (h : f.Owns instanceOf waits) {n : Node} (hn : n ∈ f.roster.nodes)
    (moment : Option Moment) : (c.recording.check n moment f).2.Owns instanceOf waits := by
  have hlasts := hc.asked (.terminate n.instanceId f.cloud.1)
  have hstays : ∀ e (v : σ × Deeds),
      c.recording.provider.terminate n.instanceId f.cloud = (.error e, v) →
        Owned (instanceOf v.1) waits f.roster v.2 := by
    rintro e ⟨v, d⟩ hr
    obtain ⟨ht, rfl⟩ := of_recording_terminate hr
    rw [ht] at hlasts
    exact h.lasts hlasts
  have hchecked := c.recording.checked n moment f
  generalize c.recording.check n moment f = outcome at hchecked
  cases hchecked with
  | kept => exact h
  | @terminated t v log hlets hr =>
    obtain ⟨v, d⟩ := v
    obtain ⟨ht, rfl⟩ := of_recording_terminate hr
    rw [ht] at hlasts
    obtain ⟨-, -, honline, -⟩ := hlets.isIdle
    obtain ⟨id, hid⟩ := h.stands n hn
    -- A node that waits for its instance is not connected.
    have hknown : instanceOf f.cloud.1 id = some n.instanceId := by
      rcases hid.carries with hknown | ⟨-, hoffline, -⟩
      · exact hknown
      · rw [honline] at hoffline
        cases hoffline
    refine (h.lasts hlasts).remove rfl (List.Subset.refl _) (List.subset_append_left _ _) ?_
    intro handle template hsame hmem
    obtain rfl := hid.id_eq (h.plain handle hmem) hsame
    exact .inr ⟨n.instanceId, List.mem_append_right _ List.mem_cons_self, hlasts _ _ hknown⟩
  | refused _ hr => exact hstays _ _ hr
  | failed _ hr => exact hstays _ _ hr

/-- A node that is attached has the instance that was described, whether it is then connected or
not. -/
theorem attach (h : f.Owns instanceOf waits) (id : String) (template : Option String) :
    (c.recording.attach id template f).2.Owns instanceOf waits := by
  unfold Controller.attach
  simp only [Action.bind_apply, Action.ofExcept_apply, consult, Action.onPart_apply]
  cases c.recording.templateFor template with
  | error e => exact h
  | ok t =>
    have hlasts := hc.asked (.describe id f.cloud.1)
    rcases hv : c.provider.describe id f.cloud.1 with ⟨e | v, w⟩
    · rw [hv] at hlasts
      simp only [recording_describe hv]
      exact h.lasts hlasts
    rw [hv] at hlasts
    simp only [recording_describe hv]
    cases v.getField "ImageId" (.text t.imageId) with
    | error e => exact h.lasts hlasts
    | ok imageId =>
      obtain ⟨hplain, hknown⟩ := hc.described hv
      have hcarries : instanceOf w id = some (Node.ofTemplate t id id imageId none).instanceId :=
        hknown
      have hstands : (Node.ofTemplate t id id imageId none).StandsFor (instanceOf w) id :=
        ⟨hplain, rfl, .inl hknown⟩
      simp only [Fleet.makeNode, Fleet.changeRoster, Action.bind_apply, Action.reads_apply,
        Action.modify_apply, Action.pure_apply]
      generalize Node.ofTemplate t id id imageId none = n at hcarries hstands ⊢
      have hentered : Owned (instanceOf w) waits (f.roster.enter n) f.cloud.2 :=
        (h.lasts hlasts).enter hstands
      obtain ⟨log, henter⟩ := Fleet.enter n { f with cloud := (w, f.cloud.2) }
      simp only [henter]
      cases Controller.isRunning v with
      | error e => exact hentered
      | ok running =>
        cases running with
        | false => exact hentered
        | true =>
          obtain ⟨log', hconnect⟩ :=
            Fleet.connect_enter n { f with cloud := (w, f.cloud.2), log } f.now
          simp only [if_true, Action.bind_apply, Action.reads_apply, hconnect]
          refine hentered.update (Node.name_markOnline f.now) fun m id' hm hother => ?_
          obtain rfl : n = m := Option.some.inj ((f.roster.node?_enter n).symm.trans hm)
          obtain rfl := hother.id_eq hstands.plain hstands.name
          exact ⟨hother.plain, hother.name, .inl hcarries⟩

/-- Whatever the controllers do at once, the invariant is upheld. -/
theorem upholds (waits : List Wait) : c.recording.Upholds (Fleet.Owns instanceOf waits) where
  still roster cloud h := by
    rw [Fleet.Owns, roster, cloud]
    exact h
  count image f h := h.lasts (hc.asked (.count image f.cloud.1))
  requestState id f h := h.lasts (hc.asked (.requestState id f.cloud.1))
  refuses {f} h := h.lasts (hc.asked (.refuses f.cloud.1))
  check hn moment h := hc.check h hn moment
  launch t f h := by
    rw [c.recording.launch_eq_conclude t none f]
    rcases hl : c.provider.launch t f.cloud.1 with ⟨e | handle, w⟩
    · have hrecorded := recording_launch hl
      rw [c.recording.beginLaunch_of_error hrecorded]
      have hlasts := hc.launch t f.cloud.1
      rw [hl] at hlasts
      exact h.lasts hlasts
    · have hrecorded := recording_launch hl
      obtain ⟨log, hbegin⟩ := c.recording.beginLaunch_of_ok hrecorded
      rw [hbegin]
      set g : Fleet (σ × Deeds) := { f with
        cloud := (w, f.cloud.2.launch (.ok handle)), roster := f.roster.enter (.ofLaunch t handle)
        log }
      have hbegun : g.Owns instanceOf (waits ++ [⟨t, handle, f.roster.next, none⟩]) :=
        hc.begun h hl none
      have hlast : ⟨t, handle, f.roster.next, none⟩ ∈
          waits ++ [(⟨t, handle, f.roster.next, none⟩ : Wait)] :=
        List.mem_append_right _ List.mem_cons_self
      exact (hc.conclude hbegun hlast).of_waits (List.subset_append_left _ _)

/-! ### Occurrences -/

variable {x : Traffic (σ × Deeds)}

theorem begin (h : x.Owns instanceOf) (t : Template) (launch : Option Nat) :
    (c.recording.begin t launch x).Owns instanceOf := by
  rcases hl : c.provider.launch t x.fleet.cloud.1 with ⟨e | handle, w⟩
  · have hrecorded := recording_launch hl
    have hlasts := hc.launch t x.fleet.cloud.1
    rw [hl] at hlasts
    simp only [Controller.begin, c.recording.beginLaunch_of_error hrecorded]
    refine Traffic.Owns.deliver ?_ launch _
    exact h.lasts hlasts
  · have hrecorded := recording_launch hl
    obtain ⟨log, hbegin⟩ := c.recording.beginLaunch_of_ok hrecorded
    simp only [Controller.begin, hbegin]
    exact hc.begun h hl launch

theorem phase_call (h : x.Owns instanceOf) (name : String) :
    (c.recording.phase x (.call name)).Owns instanceOf := by
  simp only [Controller.phase]
  split
  · exact h.deliver none _
  next t ht =>
    have hreserved := (hc.upholds x.waits).reserve t.imageId t.instanceCap x.fleet h
    split
    next g hr =>
      rw [hr] at hreserved
      exact hc.begin (x := { x with fleet := g }) hreserved t none
    next g hr =>
      rw [hr] at hreserved
      exact Traffic.Owns.deliver (x := { x with fleet := g }) hreserved none _
    next e g hr =>
      rw [hr] at hreserved
      exact Traffic.Owns.deliver (x := { x with fleet := g }) hreserved none _

theorem phase_finish (h : x.Owns instanceOf) (place : Nat) :
    (c.recording.phase x (.finish place)).Owns instanceOf := by
  simp only [Controller.phase]
  split
  next w hw =>
    have hover := hc.conclude h (List.mem_of_getElem? hw)
    refine Traffic.Owns.deliver ?_ w.launch _
    exact hover.of_waits (List.eraseIdx_subset ..)
  · exact h

theorem phase_attach (h : x.Owns instanceOf) (id : String) (template : Option String) :
    (c.recording.phase x (.attach id template)).Owns instanceOf := by
  have hattached := hc.attach h id template
  simp only [Controller.phase]
  split
  next k g hr =>
    rw [hr] at hattached
    exact Traffic.Owns.deliver (x := { x with fleet := g, ids := x.ids ++ [id] }) hattached none _
  next e g hr =>
    rw [hr] at hattached
    exact Traffic.Owns.deliver (x := { x with fleet := g }) hattached none _

theorem phase_check (h : x.Owns instanceOf) (k : Nat) (moment : Option Moment) :
    (c.recording.phase x (.check k moment)).Owns instanceOf := by
  simp only [Controller.phase]
  split
  next n hn =>
    have hchecked := hc.check h (List.mem_of_getElem? hn) moment
    split
    next g hr =>
      rw [hr] at hchecked
      exact hchecked
    next r g _ hr =>
      rw [hr] at hchecked
      exact hchecked
  · exact h

/-- Whatever happens, the invariant holds afterwards. -/
theorem phase (h : x.Owns instanceOf) {e : Occurrence σ} (he : e.Within instanceOf) :
    (c.recording.phase x (e.phase c)).Owns instanceOf := by
  have hup := hc.upholds x.waits
  cases e with
  | takeUp j =>
    simp only [Occurrence.phase, Controller.phase]
    split
    next t hj =>
      refine hc.begin ?_ t (some j)
      exact h
    · exact h
  | call name => exact hc.phase_call h name
  | finish place => exact hc.phase_finish h place
  | attach id template => exact hc.phase_attach h id template
  | check k moment => exact hc.phase_check h k moment
  | demand label excess => exact hup.decide label excess x.fleet h
  | sweep retains => exact hup.sweep retains x.fleet h
  | runQueue atMost => exact hup.runQueue atMost x.fleet h
  | cancel launch => exact hup.cancel launch x.fleet h
  | shutdown wait => exact hup.shutdown wait x.fleet h
  | work node busy =>
    exact h.update (Node.name_setBusy busy x.fleet.now) fun n id _ hn =>
      ⟨hn.plain, hn.name, hn.carries⟩
  | disconnect node =>
    refine h.update Node.name_markOffline fun n id _ hn =>
      ⟨hn.plain, hn.name, hn.carries.imp_right ?_⟩
    rintro ⟨hempty, -, hrequest⟩
    exact ⟨hempty, rfl, hrequest⟩
  | reconnect node =>
    refine h.update (Node.name_reconnect x.fleet.now) fun n id _ hn => ?_
    rw [Node.reconnect]
    split
    · exact hn
    next hknown =>
      refine ⟨hn.plain, hn.name, hn.carries.imp_right ?_⟩
      rintro ⟨hempty, -, -⟩
      simp [hempty] at hknown
  | elsewhere world now => exact h.lasts (he x.fleet.cloud.1)

end Controller.Tracks

/-- **Instances that were launched have registered nodes.**  Let launches and their waits, calls,
checks, demand, sweeps and cancellations come in any order, each with any outcome, while the
surroundings change.  Then every instance that a launch has come to, if it was not ended and no wait
for it has failed, has a registered node: one with the id of the instance or, as long as the node
does not know it, one with the spot request. -/
theorem launches_owned {c : Controller σ} {instanceOf : σ → String → Option String}
    (hc : c.Tracks instanceOf) {f : Fleet σ}
    (hf : ∀ n ∈ f.roster.nodes, ∃ id, n.StandsFor (instanceOf f.cloud) id)
    {events : List (Occurrence σ)} (he : ∀ e ∈ events, e.Within instanceOf)
    {x : Traffic (σ × Deeds)} (hx : c.after events f = x) :
    ∀ handle ∈ x.fleet.cloud.2.launched, ∀ i, instanceOf x.fleet.cloud.1 handle.id = some i →
      i ∉ x.fleet.cloud.2.ended → handle.id ∉ x.fleet.cloud.2.lost →
      ∃ n ∈ x.fleet.roster.registered,
        n.instanceId = i ∨ n.instanceId = "" ∧ n.spotRequest = some handle.id := by
  -- By induction on what happens: the invariant is carried over each occurrence.
  have hrun : ∀ (events : List (Occurrence σ)) (y : Traffic (σ × Deeds)),
      (∀ e ∈ events, e.Within instanceOf) → y.Owns instanceOf →
        (c.recording.proceed (events.map (·.phase c)) y).Owns instanceOf := by
    intro events
    induction events with
    | nil => exact fun y _ hy => hy
    | cons e rest ih =>
      intro y hwithin hy
      exact ih _ (fun e he => hwithin e (List.mem_cons_of_mem _ he))
        (hc.phase hy (hwithin e List.mem_cons_self))
  have hstart : (Traffic.start f.recorded).Owns instanceOf := by
    constructor
    · exact hf
    · intro w hw
      exact absurd hw List.not_mem_nil
    · intro handle hmem
      exact absurd hmem List.not_mem_nil
    · intro handle hmem
      exact absurd hmem List.not_mem_nil
  have hend : x.Owns instanceOf := hx ▸ hrun events _ he hstart
  intro handle hmem i hi hended hlost
  -- The launch has a registered name, and only its own nodes have that name.
  rcases hend.owned handle hmem with hgone | ⟨j, hj, hknown⟩ | ⟨template, hname⟩
  · exact absurd hgone hlost
  · obtain rfl : i = j := Option.some.inj (hi.symm.trans hknown)
    exact absurd hj hended
  · obtain ⟨k, hk, hkname⟩ := List.mem_map.mp hname
    obtain ⟨n, hn, hnname⟩ := Option.map_eq_some_iff.mp hkname
    obtain ⟨id, hid⟩ := hend.stands n (List.mem_of_getElem? hn)
    obtain rfl := hid.id_eq (hend.plain handle hmem) hnname
    refine ⟨n, List.mem_filterMap.mpr ⟨k, hk, hn⟩, ?_⟩
    rcases hid.carries with hcarries | ⟨hempty, -, hrequest⟩
    · exact .inl (Option.some.inj (hcarries.symm.trans hi))
    · exact .inr ⟨hempty, hrequest⟩

/-! ### A cloud that stalls -/

/-- A cloud with numbered ids, in which waits fail as long as it stalls. -/
structure StallingCloud where
  /-- The instances, each with its image. -/
  running : List (String × String)
  /-- How many ids were given so far. -/
  ids : Nat
  stalls : Bool
deriving DecidableEq, Repr

/-- The instance of a launch: that of a spot request is called after the request. -/
def StallingCloud.instanceFor (id : String) : String :=
  if id.toList.head? = some 's' then s!"i-{id}" else id

/-- The operations of a cloud that stalls.  A spot launch has its instance when it is waited for. -/
def Provider.stalling : Provider StallingCloud where
  count which w := (.ok (w.running.countP fun i => which.all (· = i.2)), w)
  requestState _ w := (.ok .opened, w)
  launch t w :=
    if t.spot then
      (.ok ⟨"", t.imageId, some s!"sir-{w.ids}"⟩, { w with ids := w.ids + 1 })
    else
      (.ok ⟨s!"i-{w.ids}", t.imageId, none⟩,
        { w with running := w.running ++ [(s!"i-{w.ids}", t.imageId)], ids := w.ids + 1 })
  awaitRunning handle _ w :=
    if w.stalls then (.error (.launchTimeout "Instance did not reach running"), w)
    else
      let id := StallingCloud.instanceFor handle.id
      (.ok id, { w with
        running := w.running.filter (·.1 ≠ id) ++ [(id, handle.imageId)] })
  describe id w :=
    if '(' ∉ id.toList ∧ StallingCloud.instanceFor id = id then (.ok (.object []), w)
    else (.error (.provider s!"Instance {id} not found"), w)
  terminate id w := (.ok (), { w with running := w.running.filter (·.1 ≠ id) })

/-- Controllers of a cloud that stalls, with a template for spot instances. -/
def stalling : Controller StallingCloud where
  provider := .stalling
  catalog :=
    ⟨[.plain "a" "ami-1" "linux" 9, { Template.plain "b" "ami-2" "gpu" 9 with spot := true }]⟩
  instanceCap := 9
  launchTimeout := 600
  retentionDisabled := false
  minutes microseconds := microseconds / 60000000
  refuses w := (none, w)
  isEager := false
  ownsPool := true
  interlude := .none

theorem tracks_stalling : stalling.Tracks fun _ id => some (StallingCloud.instanceFor id) where
  launched {t handle w w'} h := by
    simp only [stalling, Provider.stalling] at h
    split at h
    · cases h
      exact ⟨plain_numbered "sir-" (by decide) w.ids, .inr ⟨rfl, rfl⟩⟩
    · cases h
      have hid : (⟨s!"i-{w.ids}", t.imageId, none⟩ : LaunchHandle).id = s!"i-{w.ids}" := by
        simp [LaunchHandle.id]
      rw [hid]
      refine ⟨plain_numbered "i-" (by decide) w.ids, .inl (congrArg some (if_neg ?_))⟩
      intro hhead
      rw [String.toList_append] at hhead
      have hletter : some 'i' = some 's' := hhead
      cases hletter
  running {handle seconds id w w'} h := by
    simp only [stalling, Provider.stalling] at h
    split at h <;> cases h
    rfl
  described {id v w w'} h := by
    simp only [stalling, Provider.stalling] at h
    split at h
    next hid =>
      cases h
      exact ⟨hid.1, congrArg some hid.2⟩
    · cases h
  launch _ _ _ _ h := h
  asked _ _ _ h := h

/-- One node was there before. -/
def stallingFleet : Fleet StallingCloud :=
  { Fleet.fresh ⟨[("i-9", "ami-1")], 0, false⟩ ⟨0⟩ with
    roster := Roster.empty.enter
      (.ofTemplate (.plain "a" "ami-1" "linux" 9) "i-9" "i-9" .null none) }

/-- Two launches are under way when somebody asks for a node for the first instance and the cloud
stalls; the first wait fails, and the second one is over when the cloud no longer stalls. -/
def stallingEvents : List (Occurrence StallingCloud) :=
  [.call "a", .call "b", .attach "i-0" (some "b"), .elsewhere ({ · with stalls := true }) ⟨0⟩,
    .finish 0, .elsewhere ({ · with stalls := false }) ⟨0⟩, .finish 0, .call "b"]

theorem launches_owned_stallingEvents :
    (stalling.after stallingEvents stallingFleet).fleet.cloud.2.launched =
        [⟨"i-0", "ami-1", none⟩, ⟨"", "ami-2", some "sir-1"⟩, ⟨"", "ami-2", some "sir-2"⟩] ∧
      (stalling.after stallingEvents stallingFleet).fleet.cloud.2.lost = ["i-0"] ∧
      (stalling.after stallingEvents stallingFleet).fleet.cloud.2.ended = [] ∧
      ∃ n ∈ (stalling.after stallingEvents stallingFleet).fleet.roster.registered,
        n.instanceId = "i-sir-1" ∨ n.instanceId = "" ∧ n.spotRequest = some "sir-1" := by
  have hlaunched : (stalling.after stallingEvents stallingFleet).fleet.cloud.2.launched =
      [⟨"i-0", "ami-1", none⟩, ⟨"", "ami-2", some "sir-1"⟩, ⟨"", "ami-2", some "sir-2"⟩] := by
    decide +kernel
  have hlost : (stalling.after stallingEvents stallingFleet).fleet.cloud.2.lost = ["i-0"] := by
    decide +kernel
  have hended : (stalling.after stallingEvents stallingFleet).fleet.cloud.2.ended = [] := by
    decide +kernel
  have hstands : ∀ n ∈ stallingFleet.roster.nodes, ∃ id,
      n.StandsFor (fun id => some (StallingCloud.instanceFor id)) id := by
    intro n hn
    rw [stallingFleet, Roster.nodes_enter] at hn
    obtain rfl := List.mem_singleton.mp hn
    exact ⟨"i-9", by decide, rfl, .inl (by decide)⟩
  have hwithin : ∀ e ∈ stallingEvents,
      e.Within fun _ id => some (StallingCloud.instanceFor id) := by
    simp [stallingEvents, Occurrence.Within, Lasts]
  refine ⟨hlaunched, hlost, hended, ?_⟩
  refine launches_owned tracks_stalling hstands hwithin rfl ⟨"", "ami-2", some "sir-1"⟩ ?_ "i-sir-1"
    (by decide +kernel) ?_ ?_
  · rw [hlaunched]
    decide
  · rw [hended]
    exact List.not_mem_nil
  · rw [hlost]
    decide

/-- When a wait fails, the instance is there and nobody has ended it, but no node is registered. -/
theorem failed_wait_leaves_instance :
    (stalling.after [.call "a", .finish 0] (.fresh ⟨[], 0, true⟩ ⟨0⟩)).fleet.cloud.2.launched =
        [⟨"i-0", "ami-1", none⟩] ∧
      (stalling.after [.call "a", .finish 0] (.fresh ⟨[], 0, true⟩ ⟨0⟩)).fleet.cloud.1.running =
        [("i-0", "ami-1")] ∧
      (stalling.after [.call "a", .finish 0] (.fresh ⟨[], 0, true⟩ ⟨0⟩)).fleet.cloud.2.ended = [] ∧
      (stalling.after [.call "a", .finish 0] (.fresh ⟨[], 0, true⟩ ⟨0⟩)).fleet.roster.registered.map
        (·.name) = [] := by
  refine ⟨?_, ?_, ?_, ?_⟩ <;> decide +kernel

end BuildFleet
