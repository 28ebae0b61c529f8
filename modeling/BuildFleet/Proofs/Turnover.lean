/-
Turnover.

Nodes come with launches and with calls, and they go with checks.  Whatever fails on the way leaves
no trace: a launch either comes up with one node, or its error is delivered and no node is left of
it.

* **`Effect`** — all that a phase can do to the nodes, and what it delivers;
* **`Accounted`** — which nodes are registered, and in what order;
* **`accounted_proceed`** — the nodes are accounted for after any phases in any order, and each of
  them has had its effect.
-/
import BuildFleet.Proofs.Checks
import BuildFleet.Proofs.Phases
import Mathlib.Data.List.Nodup

namespace BuildFleet

variable {σ : Type} {c : Controller σ} {f : Fleet σ} {x y : Traffic σ}

/-! ### What a phase can do -/

/-- The phase begins a launch of the template, and this is the world in which the provider is asked
for the instance. -/
inductive Begins (c : Controller σ) (x : Traffic σ) : Phase σ → Template → Option Nat → σ → Prop
  | takeUp {j : Nat} {t : Template} (h : x.fleet.pool.launches[j]? = some ⟨t, .queued⟩) :
      Begins c x (.takeUp j) t (some j) x.fleet.cloud
  | call {name : String} {t : Template} {g : Fleet σ} (h : c.catalog.named name = .ok t)
      (hr : c.reserve t.imageId t.instanceCap x.fleet = (.ok true, g)) :
      Begins c x (.call name) t none g.cloud

/-- A call for a node of a template comes to its end before anything is launched. -/
def Declines (c : Controller σ) (x : Traffic σ) (name : String) (e : Failure) : Prop :=
  c.catalog.named name = .error e ∨
    ∃ t, c.catalog.named name = .ok t ∧
      ((c.reserve t.imageId t.instanceCap x.fleet).1 = .error e ∨
        (c.reserve t.imageId t.instanceCap x.fleet).1 = .ok false ∧ e = .capReached name)

/-- The node is connected, and its idle clock runs. -/
structure Node.IsUp (n : Node) : Prop where
  online : n.isOnline = true
  clock : n.idleSince.isSome

/-- What a phase can do to the nodes, with what it delivers. -/
inductive Effect (c : Controller σ) (x : Traffic σ) : Phase σ → Traffic σ → Prop
  /-- The provider has no instance: the error is delivered, and the nodes are as they were. -/
  | refused {p : Phase σ} {t : Template} {launch : Option Nat} {v v' : σ} {e : Failure}
      {fleet : Fleet σ} (hbegins : Begins c x p t launch v)
      (hl : c.provider.launch t v = (.error e, v')) (roster : fleet.roster = x.fleet.roster) :
      Effect c x p ({ x with fleet }.deliver launch (.error e))
  /-- The provider has an instance: a node for it is registered, and its launch waits. -/
  | begun {p : Phase σ} {t : Template} {launch : Option Nat} {v v' : σ} {handle : LaunchHandle}
      {fleet : Fleet σ} (hbegins : Begins c x p t launch v)
      (hl : c.provider.launch t v = (.ok handle, v'))
      (nodes : fleet.roster.nodes = x.fleet.roster.nodes ++ [.ofLaunch t handle])
      (order : fleet.roster.order = x.fleet.roster.order ++ [x.fleet.roster.next]) :
      Effect c x p { x with
        fleet
        waits := x.waits ++ [⟨t, handle, x.fleet.roster.next, launch⟩]
        ids := x.ids ++ [handle.id] }
  | declined {name : String} {e : Failure} {fleet : Fleet σ} (hd : Declines c x name e)
      (roster : fleet.roster = x.fleet.roster) :
      Effect c x (.call name) ({ x with fleet }.deliver none (.error e))
  /-- The wait fails: the error is delivered, and the node is taken out. -/
  | gaveUp {place : Nat} {w : Wait} {e : Failure} {v : σ} {fleet : Fleet σ}
      (hw : x.waits[place]? = some w)
      (ha : c.provider.awaitRunning w.handle c.launchTimeout x.fleet.cloud = (.error e, v))
      (nodes : fleet.roster.nodes = x.fleet.roster.nodes)
      (order : fleet.roster.order = x.fleet.roster.order.filter (· ≠ w.node)) :
      Effect c x (.finish place)
        ({ x with fleet, waits := x.waits.eraseIdx place }.deliver w.launch (.error e))
  /-- The instance runs: the node is connected and delivered. -/
  | cameUp {place : Nat} {w : Wait} {id : String} {v : σ} {n : Node} {fleet : Fleet σ}
      (hw : x.waits[place]? = some w)
      (ha : c.provider.awaitRunning w.handle c.launchTimeout x.fleet.cloud = (.ok id, v))
      (name : n.name = Node.nameFor w.template.name w.handle.id) (isFor : n.IsFor w.template id)
      (isUp : n.IsUp) (nodes : fleet.roster.nodes = x.fleet.roster.nodes.set w.node n)
      (order : fleet.roster.order = x.fleet.roster.order) :
      Effect c x (.finish place)
        ({ x with fleet, waits := x.waits.eraseIdx place }.deliver w.launch (.ok w.node))
  | unattached {id : String} {template : Option String} {e : Failure} {fleet : Fleet σ}
      (roster : fleet.roster = x.fleet.roster) :
      Effect c x (.attach id template) ({ x with fleet }.deliver none (.error e))
  /-- A node for the instance is registered, and it is connected if the instance runs. -/
  | attached {id : String} {template : Option String} {t : Template} {d : Json.Value} {v : σ}
      {n : Node} {fleet : Fleet σ} (ht : c.templateFor template = .ok t)
      (hd : c.provider.describe id x.fleet.cloud = (.ok d, v))
      (name : n.name = Node.nameFor t.name id) (isFor : n.IsFor t id)
      (online : n.isOnline = true ↔ ReportsRunning d)
      (nodes : fleet.roster.nodes = x.fleet.roster.nodes ++ [n])
      (order : fleet.roster.order = x.fleet.roster.order ++ [x.fleet.roster.next]) :
      Effect c x (.attach id template)
        ({ x with fleet, ids := x.ids ++ [id] }.deliver none (.ok x.fleet.roster.next))
  | terminated {k : Nat} {moment : Option Moment} {n : Node} {fleet : Fleet σ}
      (hn : x.fleet.roster.node? k = some n)
      (hc : (c.check n moment x.fleet).1 = .ok .terminate)
      (nodes : fleet.roster.nodes = x.fleet.roster.nodes)
      (order : fleet.roster.order = x.fleet.roster.order.filter (· ≠ k)) :
      Effect c x (.check k moment) { x with fleet, went := x.went ++ [k] }
  | kept {k : Nat} {moment : Option Moment} {fleet : Fleet σ}
      (hkept : ∀ n, x.fleet.roster.node? k = some n →
        (c.check n moment x.fleet).1 ≠ .ok .terminate)
      (roster : fleet.roster = x.fleet.roster) :
      Effect c x (.check k moment) { x with fleet }
  /-- Nothing waits to be taken up. -/
  | untaken {j : Nat} (h : ∀ t, x.fleet.pool.launches[j]? ≠ some ⟨t, .queued⟩) :
      Effect c x (.takeUp j) x
  /-- No launch waits at the place. -/
  | unfinished {place : Nat} (h : x.waits[place]? = none) : Effect c x (.finish place) x
  | aside {change : Fleet σ → Fleet σ} {fleet : Fleet σ}
      (roster : fleet.roster = x.fleet.roster) : Effect c x (.aside change) { x with fleet }

/-! ### Accounts -/

@[simp]
theorem Traffic.deliver_roster (launch : Option Nat) (r : Except Failure Nat) (x : Traffic σ) :
    (x.deliver launch r).fleet.roster = x.fleet.roster := by
  cases launch <;> rfl

@[simp]
theorem Traffic.deliver_waits (launch : Option Nat) (r : Except Failure Nat) (x : Traffic σ) :
    (x.deliver launch r).waits = x.waits := by
  cases launch <;> rfl

@[simp]
theorem Traffic.deliver_ids (launch : Option Nat) (r : Except Failure Nat) (x : Traffic σ) :
    (x.deliver launch r).ids = x.ids := by
  cases launch <;> rfl

@[simp]
theorem Traffic.deliver_went (launch : Option Nat) (r : Except Failure Nat) (x : Traffic σ) :
    (x.deliver launch r).went = x.went := by
  cases launch <;> rfl

@[simp]
theorem Traffic.deliver_ok_came (launch : Option Nat) (k : Nat) (x : Traffic σ) :
    (x.deliver launch (.ok k)).came = x.came ++ [k] := by
  cases launch <;> rfl

@[simp]
theorem Traffic.deliver_error_came (launch : Option Nat) (e : Failure) (x : Traffic σ) :
    (x.deliver launch (.error e)).came = x.came := by
  cases launch <;> exact List.append_nil _

/-- The node with the number `k` is there: it is one of the `first` nodes, it has come since, or its
launch waits; and it was not terminated. -/
def Traffic.holds (x : Traffic σ) (first k : Nat) : Bool :=
  (k < first || x.came.contains k || (x.waits.map (·.node)).contains k) && !x.went.contains k

theorem Traffic.holds_iff {first k : Nat} : x.holds first k = true ↔
    (k < first ∨ k ∈ x.came ++ x.waits.map (·.node)) ∧ k ∉ x.went := by
  simp [holds, or_assoc]

/-- The numbers of all nodes: those registered at first, and the new ones as they were made. -/
def Traffic.numbers (f : Fleet σ) (x : Traffic σ) : List Nat :=
  f.roster.order ++ List.range' f.roster.next (x.fleet.roster.next - f.roster.next)

/-- New numbers come behind the others. -/
theorem Traffic.numbers_append (hx : f.roster.next ≤ x.fleet.roster.next)
    (hy : x.fleet.roster.next ≤ y.fleet.roster.next) : y.numbers f = x.numbers f ++
      List.range' x.fleet.roster.next (y.fleet.roster.next - x.fleet.roster.next) := by
  have hsplit := List.range'_append_1 (s := f.roster.next)
    (m := x.fleet.roster.next - f.roster.next) (n := y.fleet.roster.next - x.fleet.roster.next)
  have hlength : x.fleet.roster.next - f.roster.next +
      (y.fleet.roster.next - x.fleet.roster.next) = y.fleet.roster.next - f.roster.next := by
    omega
  rw [Nat.add_sub_cancel' hx, hlength] at hsplit
  rw [numbers, ← hsplit, numbers, List.append_assoc]

/-- The ids are all different, contain no bracket, and no node of the beginning is named by one. -/
structure Traffic.Named (f : Fleet σ) (x : Traffic σ) : Prop where
  nodup : x.ids.Nodup
  plain : ∀ id ∈ x.ids, '(' ∉ id.toList
  new : ∀ template, ∀ id ∈ x.ids, Node.nameFor template id ∉ f.roster.nodes.map (·.name)

/-- The nodes are accounted for: registered are those that were registered at first, and in the
order in which they were made those that have come and those whose launches wait, but for the nodes
that were terminated. -/
structure Accounted (f : Fleet σ) (x : Traffic σ) : Prop where
  longer : f.roster.next ≤ x.fleet.roster.next
  old : ∀ k < f.roster.next, x.fleet.roster.node? k = f.roster.node? k
  names : (x.fleet.roster.nodes.map (·.name)).Nodup
  made : ∀ name ∈ x.fleet.roster.nodes.map (·.name),
    name ∈ f.roster.nodes.map (·.name) ∨ ∃ template, ∃ id ∈ x.ids, name = Node.nameFor template id
  order : x.fleet.roster.order = (x.numbers f).filter (x.holds f.roster.next)
  once : (x.came ++ x.waits.map (·.node)).Nodup
  came : ∀ k ∈ x.came, f.roster.next ≤ k ∧ k < x.fleet.roster.next
  went : ∀ k ∈ x.went, k < x.fleet.roster.next
  waiting : ∀ w ∈ x.waits, f.roster.next ≤ w.node ∧ w.node ∉ x.went ∧
    x.fleet.roster.node? w.node = some (.ofLaunch w.template w.handle)

theorem Roster.eq_of_names {r : Roster} (hr : (r.nodes.map (·.name)).Nodup) {j k : Nat} {a : String}
    (hj : r.nameOf j = some a) (hk : r.nameOf k = some a) : j = k := by
  have hname : ∀ i, r.nameOf i = (r.nodes.map (·.name))[i]? := by
    intro i
    rw [nameOf, nameIn, List.getElem?_map]
  rw [hname] at hj hk
  have hlt : j < (r.nodes.map (·.name)).length := (List.getElem?_eq_some_iff.mp hj).1
  exact (List.getElem?_inj hlt hr).mp (hj.trans hk.symm)

theorem Roster.notMem_of_names {r : Roster} {a : String} (h : a ∉ r.nodes.map (·.name)) :
    some a ∉ r.order.map r.nameOf := by
  intro hmem
  obtain ⟨k, -, hk⟩ := List.mem_map.mp hmem
  obtain ⟨n, hn, hname⟩ := Option.map_eq_some_iff.mp hk
  exact h (List.mem_map.mpr ⟨n, List.mem_of_getElem? hn, hname⟩)

namespace Accounted

theorem start (hf : (f.roster.nodes.map (·.name)).Nodup) : Accounted f (.start f) where
  longer := le_rfl
  old _ _ := rfl
  names := hf
  made _ h := .inl h
  order := by
    have hall : ∀ k ∈ f.roster.order, (Traffic.start f).holds f.roster.next k = true := by
      intro k hk
      exact Traffic.holds_iff.mpr ⟨.inl (f.roster.known k hk), List.not_mem_nil⟩
    rw [Traffic.numbers]
    show f.roster.order = (f.roster.order ++ List.range' _ (f.roster.next - f.roster.next)).filter _
    rw [Nat.sub_self, List.range'_zero, List.append_nil, List.filter_eq_self.mpr hall]
  once := List.nodup_nil
  came _ h := absurd h List.not_mem_nil
  went _ h := absurd h List.not_mem_nil
  waiting _ h := absurd h List.not_mem_nil

theorem lt_of_mem (hx : Accounted f x) {k : Nat} (hk : k ∈ x.numbers f) :
    k < x.fleet.roster.next := by
  have hlonger := hx.longer
  rcases List.mem_append.mp hk with hk | hk
  · exact (f.roster.known k hk).trans_le hlonger
  · have := List.mem_range'_1.mp hk
    omega

/-- A new name is made of a new id. -/
theorem notMem_names (hx : Accounted f x) (hy : y.Named f) {id : String}
    (hids : y.ids = x.ids ++ [id]) (template : String) :
    Node.nameFor template id ∉ x.fleet.roster.nodes.map (·.name) := by
  have hid : id ∈ y.ids := by
    rw [hids]
    simp
  intro hmem
  rcases hx.made _ hmem with hold | ⟨template', id', hid', hname⟩
  · exact hy.new template id hid hold
  · have hid'' : id' ∈ y.ids := by
      rw [hids]
      exact List.mem_append_left _ hid'
    obtain rfl := Node.id_of_nameFor (hy.plain id hid) (hy.plain id' hid'') hname
    have hnodup := hy.nodup
    rw [hids] at hnodup
    exact List.disjoint_of_nodup_append hnodup hid' (List.mem_singleton_self id)

/-- As no other node has the name, only the node with the number is taken out with it. -/
theorem order_remove (hx : Accounted f x) {k : Nat} {n : Node}
    (hn : x.fleet.roster.node? k = some n) :
    (x.fleet.roster.remove n.name).order = x.fleet.roster.order.filter (· ≠ k) := by
  have hk := Roster.nameOf_of_node? hn
  refine List.filter_congr fun j _ => ?_
  rw [decide_eq_decide]
  constructor
  · rintro hne rfl
    exact hne hk
  · intro hne hj
    exact hne (Roster.eq_of_names hx.names hj hk)

theorem bounds (hx : Accounted f x) {k : Nat} (hk : k ∈ x.came ++ x.waits.map (·.node)) :
    f.roster.next ≤ k ∧ k < x.fleet.roster.next := by
  rcases List.mem_append.mp hk with hk | hk
  · exact hx.came k hk
  · obtain ⟨w, hw, rfl⟩ := List.mem_map.mp hk
    obtain ⟨hfirst, -, hnode⟩ := hx.waiting w hw
    exact ⟨hfirst, (List.getElem?_eq_some_iff.mp hnode).1⟩

/-- The numbers of the nodes that are there for a reason: those of the beginning, those that have
come, and those whose launches wait. -/
theorem nodup_held (hx : Accounted f x) :
    (f.roster.order ++ (x.came ++ x.waits.map (·.node))).Nodup := by
  refine List.nodup_append.mpr ⟨f.roster.distinct.of_map, hx.once, ?_⟩
  rintro j hj k hk rfl
  have hlt := f.roster.known j hj
  have hge := (hx.bounds hk).1
  exact absurd hlt (Nat.not_lt.mpr hge)

/-- Registered are all nodes that are there for a reason, but for those that were terminated. -/
theorem order_perm (hx : Accounted f x) : x.fleet.roster.order.Perm
    ((f.roster.order ++ (x.came ++ x.waits.map (·.node))).filter (· ∉ x.went)) := by
  refine (List.perm_ext_iff_of_nodup x.fleet.roster.distinct.of_map
    (hx.nodup_held.filter _)).mpr fun k => ?_
  rw [hx.order, List.mem_filter, List.mem_filter, Traffic.holds_iff, decide_eq_true_eq,
    ← and_assoc]
  refine and_congr_left fun _ => ?_
  constructor
  · rintro ⟨hk, hfirst | hheld⟩
    · rcases List.mem_append.mp hk with hold | hnew
      · exact List.mem_append_left _ hold
      · have := (List.mem_range'_1.mp hnew).1
        omega
    · exact List.mem_append_right _ hheld
  · intro hk
    rcases List.mem_append.mp hk with hold | hheld
    · exact ⟨List.mem_append_left _ hold, .inl (f.roster.known k hold)⟩
    · have := hx.bounds hheld
      refine ⟨List.mem_append_right _ (List.mem_range'_1.mpr ?_), .inr hheld⟩
      omega

theorem mem_order (hx : Accounted f x) {w : Wait} (hw : w ∈ x.waits) :
    w.node ∈ x.fleet.roster.order := by
  obtain ⟨-, hwent, -⟩ := hx.waiting w hw
  have hheld : w.node ∈ x.came ++ x.waits.map (·.node) :=
    List.mem_append_right _ (List.mem_map_of_mem hw)
  exact hx.order_perm.mem_iff.mpr
    (List.mem_filter.mpr ⟨List.mem_append_right _ hheld, decide_eq_true hwent⟩)

end Accounted

/-! ### One phase -/

theorem Controller.roster_reserve (c : Controller σ) (image : String) (imageCap : Int)
    (f : Fleet σ) : (c.reserve image imageCap f).2.roster = f.roster := by
  have hreserved := c.reserved image imageCap f
  generalize c.reserve image imageCap f = outcome at hreserved
  cases hreserved <;> rfl

theorem effect_begin (hx : Accounted f x) {p : Phase σ} {t : Template} {launch : Option Nat}
    {g : Fleet σ} (hbegins : Begins c x p t launch g.cloud) (hg : g.roster = x.fleet.roster)
    (hy : (c.begin t launch { x with fleet := g }).Named f) :
    Effect c x p (c.begin t launch { x with fleet := g }) := by
  rcases hl : c.provider.launch t g.cloud with ⟨e | handle, v⟩
  · have hbegin : c.begin t launch { x with fleet := g } =
        { x with fleet := (Controller.release t.imageId { g with cloud := v }).2 }.deliver launch
          (.error e) := by
      simp only [Controller.begin, c.beginLaunch_of_error hl]
    rw [hbegin]
    exact .refused hbegins hl hg
  · obtain ⟨log, hlaunch⟩ := c.beginLaunch_of_ok hl
    have hbegin : c.begin t launch { x with fleet := g } =
        { x with
          fleet := { g with cloud := v, roster := g.roster.enter (.ofLaunch t handle), log }
          waits := x.waits ++ [⟨t, handle, g.roster.next, launch⟩]
          ids := x.ids ++ [handle.id] } := by
      simp only [Controller.begin, hlaunch]
    rw [hbegin] at hy ⊢
    -- The node gets the last place, as no other node has its name.
    have hnew := hx.notMem_names hy rfl t.name
    rw [hg]
    exact .begun hbegins hl (Roster.nodes_enter _ _)
      (Roster.order_enter (Roster.notMem_of_names hnew))

theorem effect_finish (hx : Accounted f x) (place : Nat) :
    Effect c x (.finish place) (c.phase x (.finish place)) := by
  cases hw : x.waits[place]? with
  | none =>
    have hphase : c.phase x (.finish place) = x := by
      simp only [Controller.phase, hw]
    rw [hphase]
    exact .unfinished hw
  | some w =>
    have hmem : w ∈ x.waits := List.mem_of_getElem? hw
    -- The node is there as it was made, so that it is found at the end of the wait.
    obtain ⟨-, -, hnode⟩ := hx.waiting w hmem
    have horder := hx.mem_order hmem
    have hphase : c.phase x (.finish place) =
        { x with
          fleet := (c.conclude w x.fleet).2
          waits := x.waits.eraseIdx place }.deliver w.launch (c.conclude w x.fleet).1 := by
      simp only [Controller.phase, hw]
    rw [hphase]
    rcases ha : c.provider.awaitRunning w.handle c.launchTimeout x.fleet.cloud with ⟨e | id, v⟩
    · obtain ⟨log, hconclude⟩ := Controller.conclude_of_error hnode ha
      rw [hconclude]
      exact .gaveUp hw ha rfl (hx.order_remove hnode)
    · obtain ⟨roster, log, hconclude, hsame, now, hnodes⟩ :=
        Controller.conclude_of_ok hnode horder ha
      rw [hconclude]
      set n := ((Node.ofLaunch w.template w.handle).setInstance id).markOnline now with hn
      have hset : roster.nodes = x.fleet.roster.nodes.set w.node n := by
        rw [Roster.node?] at hnode
        rw [hnodes, List.modify_eq_set_getElem?, hnode]
        rfl
      exact .cameUp hw ha rfl ⟨rfl, rfl, rfl, rfl⟩ ⟨rfl, rfl⟩ hset hsame

theorem effect_call (hx : Accounted f x) (name : String)
    (hy : (c.phase x (.call name)).Named f) :
    Effect c x (.call name) (c.phase x (.call name)) := by
  cases hname : c.catalog.named name with
  | error e =>
    have hphase : c.phase x (.call name) = x.deliver none (.error e) := by
      simp only [Controller.phase, hname]
    rw [hphase]
    exact .declined (.inl hname) rfl
  | ok t =>
    have hroster := c.roster_reserve t.imageId t.instanceCap x.fleet
    rcases hr : c.reserve t.imageId t.instanceCap x.fleet with ⟨e | granted, g⟩
    · have hphase : c.phase x (.call name) = { x with fleet := g }.deliver none (.error e) := by
        simp only [Controller.phase, hname, hr]
      rw [hr] at hroster
      rw [hphase]
      exact .declined (.inr ⟨t, hname, .inl (congrArg Prod.fst hr)⟩) hroster
    · rw [hr] at hroster
      cases granted with
      | false =>
        have hphase : c.phase x (.call name) =
            { x with fleet := g }.deliver none (.error (.capReached name)) := by
          simp only [Controller.phase, hname, hr]
        rw [hphase]
        exact .declined (.inr ⟨t, hname, .inr ⟨congrArg Prod.fst hr, rfl⟩⟩) hroster
      | true =>
        have hphase : c.phase x (.call name) = c.begin t none { x with fleet := g } := by
          simp only [Controller.phase, hname, hr]
        rw [hphase] at hy ⊢
        exact effect_begin hx (.call hname hr) hroster hy

theorem effect_check (hx : Accounted f x) (k : Nat) (moment : Option Moment) :
    Effect c x (.check k moment) (c.phase x (.check k moment)) := by
  cases hn : x.fleet.roster.node? k with
  | none =>
    have hphase : c.phase x (.check k moment) = x := by
      simp only [Controller.phase, hn]
    rw [hphase]
    refine .kept (fun n hn' => ?_) rfl
    rw [hn] at hn'
    cases hn'
  | some n =>
    have hphase : ∀ {r g}, c.check n moment x.fleet = (r, g) → c.phase x (.check k moment) =
        if r = .ok .terminate then { x with fleet := g, went := x.went ++ [k] }
        else { x with fleet := g } := by
      intro r g hc
      simp only [Controller.phase, hn, hc]
      rcases r with e | ⟨_ | _⟩ <;> rfl
    have hkept : (c.check n moment x.fleet).1 ≠ .ok .terminate → ∀ m,
        x.fleet.roster.node? k = some m → (c.check m moment x.fleet).1 ≠ .ok .terminate := by
      intro h m hm
      obtain rfl : n = m := Option.some.inj (hn.symm.trans hm)
      exact h
    have hchecked := c.checked n moment x.fleet
    rcases hc : c.check n moment x.fleet with ⟨r, g⟩
    rw [hc] at hchecked hkept
    rw [hphase hc]
    cases hchecked with
    | kept => exact .kept (hkept (by simp)) rfl
    | terminated => exact .terminated hn (congrArg Prod.fst hc) rfl (hx.order_remove hn)
    | refused => exact .kept (hkept (by simp)) rfl
    | failed => exact .kept (hkept (by simp)) rfl

theorem effect_attach (hx : Accounted f x) (hc : c.Describes) (id : String)
    (template : Option String) (hy : (c.phase x (.attach id template)).Named f) :
    Effect c x (.attach id template) (c.phase x (.attach id template)) := by
  have hattached := c.attached hc id template x.fleet
  rw [Controller.phase] at hy ⊢
  generalize c.attach id template x.fleet = outcome at hattached hy ⊢
  cases hattached with
  | failed hr => exact .unattached hr
  | @entered t v w n r log ht hv name isFor online nodes order =>
    have hnew := hx.notMem_names hy (Traffic.deliver_ids _ _ _) t.name
    rw [← name] at hnew
    exact .attached ht hv name isFor online nodes (order (Roster.notMem_of_names hnew))

/-- The phase leaves the nodes alone, if it is something else that happens. -/
def Phase.Spares : Phase σ → Prop
  | .aside change => ∀ f, (change f).roster = f.roster
  | _ => True

theorem effect_phase (hx : Accounted f x) (hc : c.Describes) {p : Phase σ} (hp : p.Spares)
    (hy : (c.phase x p).Named f) : Effect c x p (c.phase x p) := by
  cases p with
  | takeUp j =>
    by_cases hwaits : ∃ t, x.fleet.pool.launches[j]? = some ⟨t, .queued⟩
    · obtain ⟨t, hj⟩ := hwaits
      have hphase : c.phase x (.takeUp j) = c.begin t (some j)
          { x with fleet := { x.fleet with pool := x.fleet.pool.record j .running } } := by
        simp only [Controller.phase, hj]
      rw [hphase] at hy ⊢
      exact effect_begin hx (.takeUp hj) rfl hy
    · have hphase : c.phase x (.takeUp j) = x := by
        simp only [Controller.phase]
        split
        next t ht => exact absurd ⟨t, ht⟩ hwaits
        · rfl
      rw [hphase]
      exact .untaken (by simpa using hwaits)
  | call name => exact effect_call hx name hy
  | finish place => exact effect_finish hx place
  | attach id template => exact effect_attach hx hc id template hy
  | check k moment => exact effect_check hx k moment
  | aside change => exact .aside (hp x.fleet)

/-! ### What a phase leaves accounted for -/

namespace Accounted

/-- No node is made: then those stay registered for which there is still a reason. -/
theorem settle (hx : Accounted f x) {p : Nat → Bool}
    (hnext : y.fleet.roster.next = x.fleet.roster.next)
    (hold : ∀ k < f.roster.next, y.fleet.roster.node? k = x.fleet.roster.node? k)
    (hnames : y.fleet.roster.nodes.map (·.name) = x.fleet.roster.nodes.map (·.name))
    (hids : y.ids = x.ids) (horder : y.fleet.roster.order = x.fleet.roster.order.filter p)
    (hholds : ∀ k ∈ x.numbers f, y.holds f.roster.next k = (x.holds f.roster.next k && p k))
    (once : (y.came ++ y.waits.map (·.node)).Nodup)
    (came : ∀ k ∈ y.came, f.roster.next ≤ k ∧ k < x.fleet.roster.next)
    (went : ∀ k ∈ y.went, k < x.fleet.roster.next)
    (waiting : ∀ w ∈ y.waits, f.roster.next ≤ w.node ∧ w.node ∉ y.went ∧
      y.fleet.roster.node? w.node = some (.ofLaunch w.template w.handle)) : Accounted f y where
  longer := by
    rw [hnext]
    exact hx.longer
  old k hk := (hold k hk).trans (hx.old k hk)
  names := by
    rw [hnames]
    exact hx.names
  made := by
    rw [hnames, hids]
    exact hx.made
  order := by
    have hnumbers : y.numbers f = x.numbers f := by
      rw [Traffic.numbers, Traffic.numbers, hnext]
    rw [horder, hx.order, List.filter_filter, hnumbers]
    refine List.filter_congr fun k hk => ?_
    rw [hholds k hk, Bool.and_comm]
  once := once
  came := by
    rw [hnext]
    exact came
  went := by
    rw [hnext]
    exact went
  waiting := waiting

theorem congr (hx : Accounted f x) (hroster : y.fleet.roster = x.fleet.roster)
    (hwaits : y.waits = x.waits) (hids : y.ids = x.ids) (hcame : y.came = x.came)
    (hwent : y.went = x.went) : Accounted f y := by
  refine hx.settle (p := fun _ => true) (by rw [hroster]) (fun k _ => by rw [hroster])
    (by rw [hroster]) hids ?_ ?_ ?_ ?_ ?_ ?_
  · rw [hroster, List.filter_true]
  · intro k _
    rw [Traffic.holds, Traffic.holds, hwaits, hcame, hwent, Bool.and_true]
  · rw [hcame, hwaits]
    exact hx.once
  · rw [hcame]
    exact hx.came
  · rw [hwent]
    exact hx.went
  · rw [hwaits, hwent, hroster]
    exact hx.waiting

/-- A new name is made of a new id. -/
theorem names_enter (hx : Accounted f x) {n : Node} {id template : String}
    (hnodes : y.fleet.roster.nodes = x.fleet.roster.nodes ++ [n])
    (hids : y.ids = x.ids ++ [id]) (hname : n.name = Node.nameFor template id) (hy : y.Named f) :
    (y.fleet.roster.nodes.map (·.name)).Nodup ∧
      ∀ name ∈ y.fleet.roster.nodes.map (·.name), name ∈ f.roster.nodes.map (·.name) ∨
        ∃ template, ∃ id ∈ y.ids, name = Node.nameFor template id := by
  rw [hnodes, List.map_append, List.map_singleton, hids]
  constructor
  · refine List.nodup_append.mpr ⟨hx.names, List.nodup_singleton _, ?_⟩
    rintro a ha b hb rfl
    rw [List.mem_singleton.mp hb, hname] at ha
    exact hx.notMem_names hy hids template ha
  · intro name hmem
    rcases List.mem_append.mp hmem with hmem | hmem
    · rcases hx.made name hmem with hfirst | ⟨template', id', hid', heq⟩
      · exact .inl hfirst
      · exact .inr ⟨template', id', List.mem_append_left _ hid', heq⟩
    · exact .inr ⟨template, id, by simp, (List.mem_singleton.mp hmem).trans hname⟩

/-- A new node is entered, which has come already or whose launch waits. -/
theorem enter (hx : Accounted f x) {n : Node} {id template : String}
    (hnodes : y.fleet.roster.nodes = x.fleet.roster.nodes ++ [n])
    (horder : y.fleet.roster.order = x.fleet.roster.order ++ [x.fleet.roster.next])
    (hids : y.ids = x.ids ++ [id]) (hname : n.name = Node.nameFor template id) (hy : y.Named f)
    (hwent : y.went = x.went)
    (hheld : (y.came ++ y.waits.map (·.node)).Perm
      (x.fleet.roster.next :: (x.came ++ x.waits.map (·.node))))
    (hwaiting : ∀ w ∈ y.waits,
      w ∈ x.waits ∨ w.node = x.fleet.roster.next ∧ n = .ofLaunch w.template w.handle) :
    Accounted f y := by
  have hnext : y.fleet.roster.next = x.fleet.roster.next + 1 := by
    rw [Roster.next, hnodes, List.length_append]
    rfl
  have hlonger := hx.longer
  have hold : ∀ k < x.fleet.roster.next,
      y.fleet.roster.node? k = x.fleet.roster.node? k := by
    intro k hk
    rw [Roster.node?, Roster.node?, hnodes, List.getElem?_append_left hk]
  have hnewest : y.fleet.roster.node? x.fleet.roster.next = some n := by
    rw [Roster.node?, hnodes]
    exact List.getElem?_concat_length
  have hnumbers : y.numbers f = x.numbers f ++ [x.fleet.roster.next] := by
    rw [Traffic.numbers_append hlonger (by omega), hnext, Nat.add_sub_cancel_left]
    rfl
  -- The new number is there from now on, and for the others nothing has changed.
  have hwentnot : x.fleet.roster.next ∉ x.went := fun h => Nat.lt_irrefl _ (hx.went _ h)
  have hholdsnew : y.holds f.roster.next x.fleet.roster.next = true := by
    refine Traffic.holds_iff.mpr ⟨.inr (hheld.mem_iff.mpr List.mem_cons_self), ?_⟩
    rw [hwent]
    exact hwentnot
  have hholds : ∀ k ∈ x.numbers f, y.holds f.roster.next k = x.holds f.roster.next k := by
    intro k hk
    have hne := (hx.lt_of_mem hk).ne
    rw [Bool.eq_iff_iff, Traffic.holds_iff, Traffic.holds_iff, hheld.mem_iff, List.mem_cons, hwent]
    simp [hne]
  obtain ⟨hnodup, hmade⟩ := hx.names_enter hnodes hids hname hy
  refine ⟨by omega, ?_, hnodup, hmade, ?_, ?_, ?_, ?_, ?_⟩
  · intro k hk
    rw [hold k (by omega), hx.old k hk]
  · rw [horder, hnumbers, List.filter_append, List.filter_cons_of_pos hholdsnew, List.filter_nil,
      hx.order, List.filter_congr fun k hk => (hholds k hk).symm]
  · refine hheld.nodup_iff.mpr (List.nodup_cons.mpr ⟨fun h => ?_, hx.once⟩)
    exact Nat.lt_irrefl _ (hx.bounds h).2
  · intro k hk
    rcases List.mem_cons.mp (hheld.mem_iff.mp (List.mem_append_left _ hk)) with rfl | hk
    · omega
    · have := hx.bounds hk
      omega
  · intro k hk
    rw [hwent] at hk
    have := hx.went k hk
    omega
  · intro w hw
    rw [hwent]
    rcases hwaiting w hw with hw | ⟨hnode, hn⟩
    · obtain ⟨hfirst, hnot, hnode⟩ := hx.waiting w hw
      have hlt : w.node < x.fleet.roster.next := (List.getElem?_eq_some_iff.mp hnode).1
      exact ⟨hfirst, hnot, (hold _ hlt).trans hnode⟩
    · rw [hnode, ← hn]
      exact ⟨hlonger, hwentnot, hnewest⟩

/-- The launch at a place waits no longer. -/
theorem perm_erase {waits : List Wait} {place : Nat} {w : Wait} (hw : waits[place]? = some w) :
    (w.node :: (waits.eraseIdx place).map (·.node)).Perm (waits.map (·.node)) := by
  obtain ⟨hlt, rfl⟩ := List.getElem?_eq_some_iff.mp hw
  exact (List.getElem_cons_eraseIdx_perm hlt).map _

theorem gaveUp (hx : Accounted f x) {place : Nat} {w : Wait} (hw : x.waits[place]? = some w)
    (hnodes : y.fleet.roster.nodes = x.fleet.roster.nodes)
    (horder : y.fleet.roster.order = x.fleet.roster.order.filter (· ≠ w.node))
    (hwaits : y.waits = x.waits.eraseIdx place) (hids : y.ids = x.ids) (hcame : y.came = x.came)
    (hwent : y.went = x.went) : Accounted f y := by
  have hnode := Roster.node?_of_nodes hnodes
  have hperm := perm_erase hw
  -- The launch waits no longer, and its node has not come: nothing is left to hold its number.
  have honce : (w.node :: (x.came ++ (x.waits.eraseIdx place).map (·.node))).Nodup := by
    refine (List.Perm.nodup_iff ?_).mpr hx.once
    exact List.perm_middle.symm.trans (hperm.append_left _)
  obtain ⟨hwnot, hrest⟩ := List.nodup_cons.mp honce
  have hheld : ∀ k, k ∈ x.came ++ x.waits.map (·.node) ↔
      k = w.node ∨ k ∈ x.came ++ (x.waits.eraseIdx place).map (·.node) := by
    intro k
    rw [List.mem_append, List.mem_append, ← hperm.mem_iff, List.mem_cons]
    exact or_left_comm
  obtain ⟨hfirst, -, -⟩ := hx.waiting w (List.mem_of_getElem? hw)
  refine hx.settle (Roster.next_of_nodes hnodes) (fun k _ => by rw [hnode])
    (by rw [hnodes]) hids horder ?_ ?_ ?_ ?_ ?_
  · intro k _
    rw [Bool.eq_iff_iff, Bool.and_eq_true, Traffic.holds_iff, Traffic.holds_iff, hcame, hwaits,
      hwent, hheld, decide_eq_true_eq]
    constructor
    · rintro ⟨hk, hkwent⟩
      refine ⟨⟨hk.imp_right .inr, hkwent⟩, ?_⟩
      rintro rfl
      rcases hk with hk | hk
      · omega
      · exact hwnot hk
    · rintro ⟨⟨hk, hkwent⟩, hne⟩
      exact ⟨hk.imp_right fun h => h.resolve_left hne, hkwent⟩
  · rw [hcame, hwaits]
    exact hrest
  · rw [hcame]
    exact hx.came
  · rw [hwent]
    exact hx.went
  · rw [hwaits, hwent, hnode]
    exact fun w' hw' => hx.waiting w' (List.mem_of_mem_eraseIdx hw')

theorem cameUp (hx : Accounted f x) {place : Nat} {w : Wait} {n : Node}
    (hw : x.waits[place]? = some w) (hname : n.name = Node.nameFor w.template.name w.handle.id)
    (hnodes : y.fleet.roster.nodes = x.fleet.roster.nodes.set w.node n)
    (horder : y.fleet.roster.order = x.fleet.roster.order)
    (hwaits : y.waits = x.waits.eraseIdx place) (hids : y.ids = x.ids)
    (hcame : y.came = x.came ++ [w.node]) (hwent : y.went = x.went) : Accounted f y := by
  obtain ⟨hfirst, -, hnode⟩ := hx.waiting w (List.mem_of_getElem? hw)
  have hlt : w.node < x.fleet.roster.next := (List.getElem?_eq_some_iff.mp hnode).1
  have hother : ∀ k ≠ w.node, y.fleet.roster.node? k = x.fleet.roster.node? k := by
    intro k hk
    rw [Roster.node?, Roster.node?, hnodes, List.getElem?_set_ne (Ne.symm hk)]
  have hnames : y.fleet.roster.nodes.map (·.name) = x.fleet.roster.nodes.map (·.name) := by
    have hsame : (x.fleet.roster.nodes.map (·.name))[w.node]? = some n.name := by
      rw [List.getElem?_map, ← Roster.node?, hnode, hname]
      rfl
    obtain ⟨hlength, hget⟩ := List.getElem?_eq_some_iff.mp hsame
    rw [hnodes, List.map_set, ← hget, List.set_getElem_self]
  -- The node is counted among those that have come, and no more among those that wait.
  have hheld : (y.came ++ y.waits.map (·.node)).Perm (x.came ++ x.waits.map (·.node)) := by
    rw [hcame, hwaits, List.append_assoc, List.singleton_append]
    exact (perm_erase hw).append_left _
  have honce : (y.came ++ y.waits.map (·.node)).Nodup := hheld.nodup_iff.mpr hx.once
  refine hx.settle (p := fun _ => true) ?_ (fun k hk => hother k (by omega)) hnames hids ?_ ?_
    honce ?_ ?_ ?_
  · rw [Roster.next, Roster.next, hnodes, List.length_set]
  · rw [horder, List.filter_true]
  · intro k _
    rw [Bool.and_true, Bool.eq_iff_iff, Traffic.holds_iff, Traffic.holds_iff, hheld.mem_iff, hwent]
  · exact fun k hk => hx.bounds (hheld.mem_iff.mp (List.mem_append_left _ hk))
  · rw [hwent]
    exact hx.went
  · intro w' hw'
    have hne : w'.node ≠ w.node := by
      intro heq
      rw [hcame] at honce
      refine List.disjoint_of_nodup_append honce (List.mem_append_right _ ?_)
        (List.mem_map_of_mem hw')
      exact List.mem_singleton.mpr heq
    rw [hwaits] at hw'
    rw [hwent, hother _ hne]
    exact hx.waiting w' (List.mem_of_mem_eraseIdx hw')

theorem terminated (hx : Accounted f x) {k : Nat} {n : Node}
    (hn : x.fleet.roster.node? k = some n) (honline : n.isOnline = true)
    (hnodes : y.fleet.roster.nodes = x.fleet.roster.nodes)
    (horder : y.fleet.roster.order = x.fleet.roster.order.filter (· ≠ k))
    (hwaits : y.waits = x.waits) (hids : y.ids = x.ids) (hcame : y.came = x.came)
    (hwent : y.went = x.went ++ [k]) : Accounted f y := by
  have hnode := Roster.node?_of_nodes hnodes
  refine hx.settle (Roster.next_of_nodes hnodes) (fun k _ => by rw [hnode])
    (by rw [hnodes]) hids horder ?_ ?_ ?_ ?_ ?_
  · intro j _
    rw [Bool.eq_iff_iff, Bool.and_eq_true, Traffic.holds_iff, Traffic.holds_iff, hcame, hwaits,
      hwent, List.mem_append (t := [k]), List.mem_singleton, decide_eq_true_eq, not_or, and_assoc]
  · rw [hcame, hwaits]
    exact hx.once
  · rw [hcame]
    exact hx.came
  · intro j hj
    rw [hwent] at hj
    rcases List.mem_append.mp hj with hj | hj
    · exact hx.went j hj
    · rw [List.mem_singleton.mp hj]
      exact (List.getElem?_eq_some_iff.mp hn).1
  · intro w hw
    rw [hwaits] at hw
    obtain ⟨hfirst, hnot, hwaiting⟩ := hx.waiting w hw
    rw [hwent, hnode]
    refine ⟨hfirst, ?_, hwaiting⟩
    intro hmem
    rcases List.mem_append.mp hmem with hmem | hmem
    · exact hnot hmem
    · -- The node of a launch that waits is not connected, so that no check terminates it.
      rw [List.mem_singleton.mp hmem, hn] at hwaiting
      rw [Option.some.inj hwaiting] at honline
      cases honline

end Accounted

theorem Controller.isOnline_of_terminate {n : Node} {moment : Option Moment}
    (h : (c.check n moment f).1 = .ok .terminate) : n.isOnline = true := by
  have hchecked := c.checked n moment f
  generalize c.check n moment f = outcome at h hchecked
  cases hchecked with
  | terminated hlets => exact hlets.isIdle.2.2.1
  | _ => cases h

theorem Accounted.effect (hx : Accounted f x) {p : Phase σ} (h : Effect c x p y)
    (hy : y.Named f) : Accounted f y := by
  cases h with
  | refused hbegins hl roster => exact hx.congr (by simpa) (by simp) (by simp) (by simp) (by simp)
  | begun hbegins hl nodes order =>
    refine hx.enter nodes order rfl rfl hy rfl ?_ ?_
    · rw [List.map_append, ← List.append_assoc]
      exact List.perm_append_singleton _ _
    · intro w hw
      rcases List.mem_append.mp hw with hw | hw
      · exact .inl hw
      · rw [List.mem_singleton.mp hw]
        exact .inr ⟨rfl, rfl⟩
  | declined hd roster => exact hx.congr (by simpa) (by simp) (by simp) (by simp) (by simp)
  | gaveUp hw ha nodes order =>
    exact hx.gaveUp hw (by simpa) (by simpa using order) (by simp) (by simp) (by simp) (by simp)
  | cameUp hw ha name isFor isUp nodes order =>
    exact hx.cameUp hw name (by simpa) (by simpa) (by simp) (by simp) (by simp) (by simp)
  | unattached roster => exact hx.congr (by simpa) (by simp) (by simp) (by simp) (by simp)
  | attached ht hd name isFor online nodes order =>
    refine hx.enter (by simpa) (by simpa) (by simp) name hy (by simp) ?_ ?_
    · rw [Traffic.deliver_ok_came, Traffic.deliver_waits, List.append_assoc, List.singleton_append]
      exact List.perm_middle
    · intro w hw
      exact .inl (by simpa using hw)
  | terminated hn hc nodes order =>
    exact hx.terminated hn (Controller.isOnline_of_terminate hc) nodes order rfl rfl rfl rfl
  | kept hkept roster => exact hx.congr roster rfl rfl rfl rfl
  | untaken h => exact hx
  | unfinished h => exact hx
  | aside roster => exact hx.congr roster rfl rfl rfl rfl

/-! ### Any phases -/

theorem ids_begin (c : Controller σ) (t : Template) (launch : Option Nat) (x : Traffic σ)
    (g : Fleet σ) : x.ids <+: (c.begin t launch { x with fleet := g }).ids := by
  unfold Controller.begin
  split
  · exact List.prefix_append _ _
  · simp

theorem ids_phase (c : Controller σ) (x : Traffic σ) (p : Phase σ) :
    x.ids <+: (c.phase x p).ids := by
  cases p with
  | takeUp j =>
    simp only [Controller.phase]
    split
    · exact ids_begin c _ _ x _
    · exact List.prefix_rfl
  | call name =>
    simp only [Controller.phase]
    split
    · simp
    · split
      · exact ids_begin c _ _ x _
      · simp
      · simp
  | finish place =>
    simp only [Controller.phase]
    split
    · simp
    · exact List.prefix_rfl
  | attach id template =>
    simp only [Controller.phase]
    split
    · rw [Traffic.deliver_ids]
      exact List.prefix_append _ _
    · simp
  | check k moment =>
    simp only [Controller.phase]
    split
    · split <;> exact List.prefix_rfl
    · exact List.prefix_rfl
  | aside change => exact List.prefix_rfl

theorem ids_proceed (c : Controller σ) (phases : List (Phase σ)) (x : Traffic σ) :
    x.ids <+: (c.proceed phases x).ids := by
  induction phases generalizing x with
  | nil => exact List.prefix_rfl
  | cons p rest ih => exact (ids_phase c x p).trans (ih (c.phase x p))

theorem Traffic.Named.of_prefix (hy : y.Named f) (h : x.ids <+: y.ids) : x.Named f where
  nodup := hy.nodup.sublist h.sublist
  plain id hid := hy.plain id (h.subset hid)
  new template id hid := hy.new template id (h.subset hid)

/-- Only nodes whose launches wait are changed. -/
structure Settled (x y : Traffic σ) : Prop where
  longer : x.fleet.roster.next ≤ y.fleet.roster.next
  node : ∀ k < x.fleet.roster.next, k ∉ x.waits.map (·.node) →
    y.fleet.roster.node? k = x.fleet.roster.node? k
  waits : ∀ k ∈ y.waits.map (·.node), k < x.fleet.roster.next → k ∈ x.waits.map (·.node)

namespace Settled

theorem refl (x : Traffic σ) : Settled x x := ⟨le_rfl, fun _ _ _ => rfl, fun _ hk _ => hk⟩

theorem trans {z : Traffic σ} (h : Settled x y) (h' : Settled y z) : Settled x z where
  longer := h.longer.trans h'.longer
  node k hk hwaits := by
    refine (h'.node k (hk.trans_le h.longer) ?_).trans (h.node k hk hwaits)
    exact fun hmem => hwaits (h.waits k hmem hk)
  waits k hk hlt := h.waits k (h'.waits k hk (hlt.trans_le h.longer)) hlt

theorem of_nodes (hnodes : y.fleet.roster.nodes = x.fleet.roster.nodes)
    (hwaits : ∀ k ∈ y.waits.map (·.node), k ∈ x.waits.map (·.node)) : Settled x y where
  longer := (Roster.next_of_nodes hnodes).ge
  node k _ _ := by rw [Roster.node?_of_nodes hnodes]
  waits k hk _ := hwaits k hk

theorem of_enter {n : Node} (hnodes : y.fleet.roster.nodes = x.fleet.roster.nodes ++ [n])
    (hwaits : ∀ k ∈ y.waits.map (·.node), k < x.fleet.roster.next → k ∈ x.waits.map (·.node)) :
    Settled x y where
  longer := by
    rw [Roster.next, Roster.next, hnodes, List.length_append]
    exact Nat.le_add_right _ _
  node k hk _ := by rw [Roster.node?, Roster.node?, hnodes, List.getElem?_append_left hk]
  waits := hwaits

theorem effect {p : Phase σ} (h : Effect c x p y) : Settled x y := by
  have herase : ∀ place, ∀ k ∈ (x.waits.eraseIdx place).map (·.node), k ∈ x.waits.map (·.node) :=
    fun place k hk => ((List.eraseIdx_sublist _ _).map _).subset hk
  cases h with
  | refused hbegins hl roster => exact .of_nodes (by simp [roster]) (by simp)
  | begun hbegins hl nodes order =>
    refine .of_enter nodes fun k hk hlt => ?_
    rw [List.map_append] at hk
    rcases List.mem_append.mp hk with hk | hk
    · exact hk
    · rw [List.mem_singleton.mp hk] at hlt
      exact absurd hlt (Nat.lt_irrefl _)
  | declined hd roster => exact .of_nodes (by simp [roster]) (by simp)
  | gaveUp hw ha nodes order =>
    refine .of_nodes (by simpa using nodes) ?_
    rw [Traffic.deliver_waits]
    exact herase _
  | @cameUp place w id v n fleet hw ha name isFor isUp nodes order =>
    refine ⟨?_, fun k _ hk => ?_, ?_⟩
    · rw [Traffic.deliver_roster, Roster.next, Roster.next, nodes, List.length_set]
    · have hne : w.node ≠ k := by
        rintro rfl
        exact hk (List.mem_map_of_mem (List.mem_of_getElem? hw))
      rw [Traffic.deliver_roster, Roster.node?, Roster.node?, nodes, List.getElem?_set_ne hne]
    · rw [Traffic.deliver_waits]
      exact fun k hk _ => herase _ k hk
  | unattached roster => exact .of_nodes (by simp [roster]) (by simp)
  | attached ht hd name isFor online nodes order =>
    refine .of_enter (by simpa using nodes) ?_
    rw [Traffic.deliver_waits]
    exact fun k hk _ => hk
  | terminated hn hc nodes order => exact .of_nodes nodes fun _ hk => hk
  | kept hkept roster => exact .of_nodes (by rw [roster]) fun _ hk => hk
  | untaken h => exact .refl x
  | unfinished h => exact .refl x
  | aside roster => exact .of_nodes (by rw [roster]) fun _ hk => hk

/-- If nothing has come or gone, and the same launches wait, then the registered nodes are the same
and in the same order, whatever has failed in between. -/
theorem registered (h : Settled x y) (hx : Accounted f x) (hy : Accounted f y)
    (hcame : y.came = x.came) (hwaits : y.waits = x.waits) (hwent : y.went = x.went) :
    y.fleet.roster.registered = x.fleet.roster.registered := by
  have hholds : y.holds f.roster.next = x.holds f.roster.next := by
    funext k
    rw [Traffic.holds, Traffic.holds, hwaits, hcame, hwent]
  -- The nodes that were made in between belong to launches that have failed.
  have hnone : (List.range' x.fleet.roster.next
      (y.fleet.roster.next - x.fleet.roster.next)).filter (x.holds f.roster.next) = [] := by
    refine List.filter_eq_nil_iff.mpr fun k hk hholds => ?_
    have hge := (List.mem_range'_1.mp hk).1
    have hfirst := hx.longer
    obtain ⟨hlt | hheld, -⟩ := Traffic.holds_iff.mp hholds
    · omega
    · have := hx.bounds hheld
      omega
  have horder : y.fleet.roster.order = x.fleet.roster.order := by
    rw [hy.order, hx.order, hholds, Traffic.numbers_append hx.longer h.longer,
      List.filter_append, hnone, List.append_nil]
  rw [Roster.registered, Roster.registered, horder]
  refine List.filterMap_congr fun k hk => ?_
  by_cases hmem : k ∈ x.waits.map (·.node)
  · obtain ⟨w, hw, rfl⟩ := List.mem_map.mp hmem
    rw [(hx.waiting w hw).2.2, (hy.waiting w (hwaits ▸ hw)).2.2]
  · exact h.node k (x.fleet.roster.known k hk) hmem

end Settled

theorem proceed_of_named (hc : c.Describes) {phases : List (Phase σ)}
    (hp : ∀ p ∈ phases, p.Spares) (hx : Accounted f x) (hy : (c.proceed phases x).Named f) :
    Accounted f (c.proceed phases x) ∧ Settled x (c.proceed phases x) := by
  -- By induction on the phases.  No phase loses an id, so that all ids on the way are among those
  -- of the end, and the names that are made on the way are new.
  induction phases generalizing x with
  | nil => exact ⟨hx, .refl x⟩
  | cons p rest ih =>
    have hnamed : (c.phase x p).Named f := hy.of_prefix (ids_proceed c rest (c.phase x p))
    have heffect := effect_phase hx hc (hp p List.mem_cons_self) hnamed
    obtain ⟨hend, hsettled⟩ :=
      ih (fun q hq => hp q (List.mem_cons_of_mem p hq)) (hx.effect heffect hnamed) hy
    exact ⟨hend, (Settled.effect heffect).trans hsettled⟩

theorem Controller.proceed_append (c : Controller σ) (early late : List (Phase σ))
    (x : Traffic σ) : c.proceed (early ++ late) x = c.proceed late (c.proceed early x) :=
  List.foldl_append

/-- **Launches leave one node or none, and no node is lost.**  Let launches, calls and checks go on
in any order, each with any outcome, and let the ids by which nodes are named be different and free
of brackets.  Then at every point the nodes are accounted for: registered are the nodes of the
beginning, those that have come and, not connected yet, those whose launches wait, but for those
that were terminated.  Every phase has its effect; from one point to a later one only nodes whose
launches wait are changed, and if nothing has come or gone and the same launches wait, the same nodes
are registered in the same order; and whole launches are made of such phases, with the outcome of the
last one recorded in the pool or given as the answer. -/
theorem accounted_proceed (hc : c.Describes) (hf : (f.roster.nodes.map (·.name)).Nodup)
    {phases : List (Phase σ)} (hp : ∀ p ∈ phases, p.Spares)
    (hids : (c.proceed phases (.start f)).Named f) :
    (∀ early late, phases = early ++ late → ∀ x, x = c.proceed early (.start f) →
      Accounted f x ∧ x.fleet.roster.order.Perm
        ((f.roster.order ++ (x.came ++ x.waits.map (·.node))).filter (· ∉ x.went))) ∧
    (∀ early p late, phases = early ++ p :: late →
      Effect c (c.proceed early (.start f)) p (c.proceed (early ++ [p]) (.start f))) ∧
    (∀ early middle late, phases = early ++ middle ++ late →
      ∀ x y, x = c.proceed early (.start f) → y = c.proceed (early ++ middle) (.start f) →
        Settled x y ∧
        (y.came = x.came → y.waits = x.waits → y.went = x.went →
          y.fleet.roster.registered = x.fleet.roster.registered)) ∧
    (∀ j g, c.carryOut j g = (.ok (), (c.await (c.phase (.start g) (.takeUp j))).fleet)) ∧
    ∀ name g, ∃ r, (c.await (c.phase (.start g) (.call name))).answers = [r] ∧
      c.provision name g = (r, (c.await (c.phase (.start g) (.call name))).fleet) := by
  have hnamed : ∀ early late, phases = early ++ late → (c.proceed early (.start f)).Named f := by
    rintro early late rfl
    rw [c.proceed_append] at hids
    exact hids.of_prefix (ids_proceed c late _)
  have haccounted : ∀ early late, phases = early ++ late →
      Accounted f (c.proceed early (.start f)) := by
    intro early late hsplit
    refine (proceed_of_named hc (fun p hmem => hp p ?_) (.start hf) (hnamed early late hsplit)).1
    rw [hsplit]
    exact List.mem_append_left _ hmem
  refine ⟨?_, ?_, ?_, c.carryOut_eq, c.provision_eq⟩
  · rintro early late hsplit x rfl
    have hx := haccounted early late hsplit
    exact ⟨hx, hx.order_perm⟩
  · intro early p late hsplit
    have hnext := hnamed (early ++ [p]) late (by rw [hsplit, List.append_cons])
    rw [c.proceed_append] at hnext ⊢
    refine effect_phase (haccounted early (p :: late) hsplit) hc (hp p ?_) hnext
    rw [hsplit]
    simp
  · rintro early middle late hsplit x y rfl rfl
    have hx := haccounted early (middle ++ late) (by rw [hsplit, List.append_assoc])
    have hnext := hnamed (early ++ middle) late hsplit
    have hspares : ∀ p ∈ middle, p.Spares := by
      intro p hmem
      refine hp p ?_
      rw [hsplit]
      exact List.mem_append_left _ (List.mem_append_right _ hmem)
    rw [c.proceed_append] at hnext ⊢
    obtain ⟨hy, hsettled⟩ := proceed_of_named hc hspares hx hnext
    exact ⟨hsettled, hsettled.registered hx hy⟩

/-- Two templates, one of them for spot instances, and a provider that has no luck with the instance
`i-0` and reports every instance as running. -/
def unlucky : Controller AmpleCloud :=
  { Controller.ample
      [.plain "a (x" "ami-1" "linux" 9,
        { Template.primedPlain "b" "ami-2" "gpu" 1 with spot := true, idleMinutes := 1 }] 9 with
    provider :=
      { Provider.ample with
        awaitRunning := fun handle seconds w =>
          if handle.instanceId = "i-0" then (.error (.provider "ResourceNotReady"), w)
          else Provider.ample.awaitRunning handle seconds w
        describe := fun _ w => (.ok (.object [("State", .object [("Name", .text "running")])]), w) } }

/-- Two launches wait to be taken up, one of each template. -/
def unluckyFleet : Fleet AmpleCloud :=
  { Fleet.fresh ⟨[], [], 0⟩ ⟨0⟩ with
    ledger := (Ledger.empty.take "ami-1").take "ami-2"
    pool := unlucky.catalog.templates.foldl Pool.push .empty }

/-- Both are taken up, and while the second one waits the first one fails, somebody asks for a node,
and a node is attached; when all of them are there, one has been idle for too long. -/
def crowdedPhases : List (Phase AmpleCloud) :=
  [.takeUp 0, .takeUp 1, .finish 0, .call "a (x", .attach "i-9" (some "b"), .finish 0, .finish 0,
    .aside fun f => { f with now := ⟨120000000⟩ }, .check 3 none, .call "c"]

theorem accounted_proceed_crowdedPhases :
    Accounted unluckyFleet (unlucky.proceed crowdedPhases (.start unluckyFleet)) ∧
      Effect unlucky (unlucky.proceed (crowdedPhases.take 2) (.start unluckyFleet)) (.finish 0)
        (unlucky.proceed (crowdedPhases.take 3) (.start unluckyFleet)) ∧
      (unlucky.proceed crowdedPhases (.start unluckyFleet)).ids = ["i-0", "sir-1", "i-2", "i-9"] ∧
      (unlucky.proceed crowdedPhases (.start unluckyFleet)).came = [3, 1, 2] ∧
      (unlucky.proceed crowdedPhases (.start unluckyFleet)).went = [3] ∧
      (unlucky.proceed crowdedPhases (.start unluckyFleet)).answers =
        [.ok 3, .ok 2, .error (.noSuchTemplate "c")] ∧
      (unlucky.proceed crowdedPhases (.start unluckyFleet)).fleet.pool.launches.map (·.progress) =
        [.failed (.provider "ResourceNotReady"), .done 1] ∧
      (unlucky.proceed crowdedPhases (.start unluckyFleet)).fleet.roster.registered.map
          (fun n => (n.name, n.instanceId)) =
        [("b (sir-1)", "i-3"), ("a (x (i-2)", "i-2")] := by
  have hdescribes : unlucky.Describes := by
    rintro id w v w' h
    cases h
    refine ⟨rfl, fun state hstate => ?_⟩
    obtain rfl : .object [("Name", .text "running")] = state := Option.some.inj hstate
    rfl
  have hspares : ∀ p ∈ crowdedPhases, p.Spares := by
    simp [crowdedPhases, Phase.Spares]
  have hids : (unlucky.proceed crowdedPhases (.start unluckyFleet)).ids =
      ["i-0", "sir-1", "i-2", "i-9"] := by decide +kernel
  have hnamed : (unlucky.proceed crowdedPhases (.start unluckyFleet)).Named unluckyFleet := by
    refine ⟨?_, ?_, fun _ _ _ => List.not_mem_nil⟩ <;> rw [hids] <;> decide +kernel
  obtain ⟨haccounted, heffect, -⟩ :=
    accounted_proceed (f := unluckyFleet) hdescribes List.nodup_nil hspares hnamed
  refine ⟨(haccounted crowdedPhases [] (List.append_nil _).symm _ rfl).1, ?_, hids, by decide +kernel,
    by decide +kernel, by decide +kernel, by decide +kernel, by decide +kernel⟩
  exact heffect (crowdedPhases.take 2) (.finish 0) (crowdedPhases.drop 3) rfl

end BuildFleet
