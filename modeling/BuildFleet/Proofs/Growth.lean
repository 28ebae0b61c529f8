/-
Launches that come up.

While launches get their turn, and nothing else happens to the nodes, a fleet only grows: nodes stay
where and what they are, and behind them come the nodes of the launches that have come up, connected
and idle, one for each.  This is so although other launches get their turn while one of them waits
for its instance, because the ids of launches are new, and so are then the names of their nodes.

* **`Event.Calm`**, **`Controller.Quiet`** — nothing happens but that launches get their turn, also
  while a launch waits;
* **`Known`** — the names of registered nodes are made of ids that were given;
* **`Grown`** — what has become of the nodes and the launches, closed under composition;
* **`grown_run`** — by calm events a fleet only grows.
-/
import BuildFleet.Proofs.Checks
import BuildFleet.Proofs.Operations
import BuildFleet.Proofs.Sweeps

namespace BuildFleet

variable {σ : Type} {c : Controller σ} {given : σ → Set String}

/-! ### Names -/

/-- Behind the last opening bracket of a name stands the id. -/
theorem Node.id_of_nameFor {template template' id id' : String} (hid : '(' ∉ id.toList)
    (hid' : '(' ∉ id'.toList) (h : nameFor template id = nameFor template' id') : id = id' := by
  have hback : ∀ {t i : String}, '(' ∉ i.toList →
      (nameFor t i).toList.reverse.takeWhile (· ≠ '(') = ')' :: i.toList.reverse := by
    intro t i hi
    have hlist : (nameFor t i).toList.reverse =
        (')' :: i.toList.reverse) ++ '(' :: ' ' :: t.toList.reverse := by
      simp only [nameFor, String.toList_append, List.reverse_append]
      rfl
    rw [hlist, List.takeWhile_append_of_pos]
    · simp
    · intro a ha
      rcases List.mem_cons.mp ha with rfl | ha
      · decide
      · have : a ≠ '(' := fun he => hi (he ▸ List.mem_reverse.mp ha)
        simpa using this
  have hchars := hback (t := template) hid
  rw [h, hback hid'] at hchars
  exact String.toList_inj.mp (List.reverse_inj.mp (List.cons.inj hchars).2.symm)

/-! ### Calm events -/

/-- Nothing happens but that launches get their turn, that time passes, and that the world outside
changes, which gives no id back. -/
def Event.Calm (given : σ → Set String) : Event σ → Prop
  | .carryOut _ | .runQueue _ => True
  | .elsewhere world _ nodes => Remembers given world ∧ nodes = id
  | _ => False

theorem Event.Calm.within {e : Event σ} (h : e.Calm given) : e.Within (Remembers given) := by
  cases e with
  | elsewhere world now nodes => exact h.1
  | _ => trivial

namespace Controller

/-- Nothing happens while a launch waits for its instance, or what happens is calm events, with
waits of the same kind in them. -/
inductive Quiet (given : σ → Set String) : Controller σ → Prop
  | still {c : Controller σ} (h : c.interlude.happen = id) : Quiet given c
  | busy {c : Controller σ} (hc : Quiet given c) (i : Interlude σ)
      (h : ∀ f, ∃ events : List (Event σ),
        (∀ e ∈ events, e.Calm given) ∧ i.happen f = c.run events f) :
      Quiet given { c with interlude := i }

theorem Quiet.during (hc : c.Quiet given) {events : List (Event σ)}
    (he : ∀ e ∈ events, e.Calm given) : (c.during events).Quiet given :=
  .busy hc _ fun _ => ⟨events, he, rfl⟩

theorem Quiet.orderly (h : c.Quiet given) : c.Orderly (Remembers given) := by
  induction h with
  | still hi => exact .still hi
  | busy _ i hi ih =>
    refine .busy ih i fun f => ?_
    obtain ⟨events, hcalm, hf⟩ := hi f
    exact ⟨events, fun e he => (hcalm e he).within, hf⟩

end Controller

theorem Fresh.of_interlude {i : Interlude σ} (h : Fresh { c with interlude := i } given) :
    Fresh c given :=
  ⟨h.launched, h.refused, fun hd => h.asked (hd.of_interlude i)⟩

theorem Fresh.during (h : Fresh c given) (events : List (Event σ)) :
    Fresh (c.during events) given :=
  ⟨h.launched, h.refused, fun hd => h.asked (hd.of_interlude c.interlude)⟩

/-! ### Names that are known -/

/-- Where the name of a registered node is made of an id, the id was given. -/
def Known (given : σ → Set String) (f : Fleet σ) : Prop :=
  ∀ k ∈ f.roster.order, ∀ template id, f.roster.nameOf k = some (Node.nameFor template id) →
    '(' ∉ id.toList → id ∈ given f.cloud

theorem Known.congr {f g : Fleet σ} (h : Known given f) (hgiven : given f.cloud ⊆ given g.cloud)
    (hnames : ∀ k ∈ g.roster.order, k ∈ f.roster.order ∧ g.roster.nameOf k = f.roster.nameOf k) :
    Known given g := by
  intro k hk template id hname hid
  obtain ⟨hkf, hsame⟩ := hnames k hk
  exact hgiven (h k hkf template id (hsame ▸ hname) hid)

theorem Known.not_mem {f : Fleet σ} (h : Known given f) {t : Template} {handle : LaunchHandle}
    (hid : '(' ∉ handle.id.toList) (hnew : handle.id ∉ given f.cloud) :
    some (Node.ofLaunch t handle).name ∉ f.roster.order.map f.roster.nameOf := by
  intro hmem
  obtain ⟨k, hk, hname⟩ := List.mem_map.mp hmem
  exact hnew (h k hk t.name handle.id hname hid)

/-! ### Growing -/

/-- The launch has come up. -/
def Progress.isDone : Progress → Bool
  | .done _ => true
  | _ => false

@[simp]
theorem Progress.isDone_queued : Progress.queued.isDone = false := rfl

@[simp]
theorem Progress.isDone_running : Progress.running.isDone = false := rfl

/-- Every launch has come up. -/
def Pool.AllUp (p : Pool) : Prop := ∀ l ∈ p.launches, l.progress.isDone

instance (p : Pool) : Decidable p.AllUp :=
  inferInstanceAs (Decidable (∀ l ∈ p.launches, l.progress.isDone = true))

/-- How many launches of a label string have come up. -/
def Pool.cameUp (p : Pool) (label : String) : Nat :=
  p.launches.countP fun l => l.template.labelString = label && l.progress.isDone

theorem Pool.cameUp_record {p : Pool} {j : Nat} {l : Launch} (h : p.launches[j]? = some l)
    (progress : Progress) (label : String) :
    (p.record j progress).cameUp label +
        (if l.template.labelString = label ∧ l.progress.isDone = true then 1 else 0) =
      p.cameUp label +
        if l.template.labelString = label ∧ progress.isDone = true then 1 else 0 := by
  have := Pool.countP_modify (fun l => l.template.labelString = label && l.progress.isDone)
    (fun l : Launch => { l with progress }) h
  simpa [cameUp, record] using this

theorem Pool.templates_record (p : Pool) (j : Nat) (progress : Progress) :
    (p.record j progress).launches.map (·.template) = p.launches.map (·.template) := by
  refine List.ext_getElem? fun i => ?_
  simp only [record, List.getElem?_map, List.getElem?_modify]
  cases p.launches[i]? with
  | none => rfl
  | some l => by_cases hij : j = i <;> simp [hij]

/-- The launches that no longer wait are the same, and the nodes that were there are the same; the
nodes with the numbers `added` are registered behind them.  Each of these is connected and idle, and
comes from a launch that has come up since. -/
structure Grown (given : σ → Set String) (f g : Fleet σ) (added : List Nat) : Prop where
  known : Known given g
  ids : given f.cloud ⊆ given g.cloud
  longer : f.roster.nodes.length ≤ g.roster.nodes.length
  kept : ∀ k < f.roster.nodes.length, g.roster.node? k = f.roster.node? k
  order : g.roster.order = f.roster.order ++ added
  above : ∀ k ∈ added, f.roster.nodes.length ≤ k
  joined : ∀ k ∈ added, ∃ n, g.roster.node? k = some n ∧ n.isSpare ∧
    ∃ t ∈ g.pool.launches.map (·.template), n.template = t.name ∧ n.labelString = t.labelString
  templates : g.pool.launches.map (·.template) = f.pool.launches.map (·.template)
  settled : ∀ (j : Nat) (l : Launch), f.pool.launches[j]? = some l → l.progress ≠ .queued →
    g.pool.launches[j]? = some l
  cameUp : ∀ label, g.pool.cameUp label =
    f.pool.cameUp label + (added.filterMap g.roster.node?).countP (·.labelString = label)

namespace Grown

variable {f g h : Fleet σ} {added more : List Nat}

/-- Nothing has happened to the nodes, and no launch has come up. -/
theorem of_roster (hk : Known given f) (hids : given f.cloud ⊆ given g.cloud)
    (hroster : g.roster = f.roster)
    (htemplates : g.pool.launches.map (·.template) = f.pool.launches.map (·.template))
    (hsettled : ∀ (j : Nat) (l : Launch), f.pool.launches[j]? = some l → l.progress ≠ .queued →
      g.pool.launches[j]? = some l)
    (hcameUp : ∀ label, g.pool.cameUp label = f.pool.cameUp label) : Grown given f g [] where
  known := hk.congr hids fun k hkg => by rw [hroster] at *; exact ⟨hkg, rfl⟩
  ids := hids
  longer := by rw [hroster]
  kept k _ := by rw [hroster]
  order := by rw [hroster, List.append_nil]
  above := by simp
  joined := by simp
  templates := htemplates
  settled := hsettled
  cameUp label := by rw [hcameUp, List.filterMap_nil, List.countP_nil, Nat.add_zero]

theorem still (hk : Known given f) (hids : given f.cloud ⊆ given g.cloud)
    (hroster : g.roster = f.roster) (hlaunches : g.pool.launches = f.pool.launches) :
    Grown given f g [] := by
  refine .of_roster hk hids hroster (by rw [hlaunches]) ?_ fun label => ?_
  · intro j l hl _
    rw [hlaunches, hl]
  · rw [Pool.cameUp, Pool.cameUp, hlaunches]

theorem trans (hfg : Grown given f g added) (hgh : Grown given g h more) :
    Grown given f h (added ++ more) where
  known := hgh.known
  ids := Set.Subset.trans hfg.ids hgh.ids
  longer := hfg.longer.trans hgh.longer
  kept k hk := (hgh.kept k (hk.trans_le hfg.longer)).trans (hfg.kept k hk)
  order := by rw [hgh.order, hfg.order, List.append_assoc]
  above k hk := by
    rcases List.mem_append.mp hk with hk | hk
    · exact hfg.above k hk
    · exact hfg.longer.trans (hgh.above k hk)
  joined k hk := by
    rcases List.mem_append.mp hk with hk | hk
    · obtain ⟨n, hn, hjoined⟩ := hfg.joined k hk
      have hlt : k < g.roster.nodes.length := (List.getElem?_eq_some_iff.mp hn).1
      rw [hgh.templates]
      exact ⟨n, (hgh.kept k hlt).trans hn, hjoined⟩
    · exact hgh.joined k hk
  templates := hgh.templates.trans hfg.templates
  settled j l hl hq := hgh.settled j l (hfg.settled j l hl hq) hq
  cameUp label := by
    have hsame : added.filterMap h.roster.node? = added.filterMap g.roster.node? := by
      refine List.filterMap_congr fun k hk => ?_
      obtain ⟨n, hn, -⟩ := hfg.joined k hk
      exact hgh.kept k (List.getElem?_eq_some_iff.mp hn).1
    rw [hgh.cameUp, hfg.cameUp, List.filterMap_append, List.countP_append, hsame, Nat.add_assoc]

theorem registered (hg : Grown given f g added) :
    g.roster.registered = f.roster.registered ++ added.filterMap g.roster.node? := by
  have hold : f.roster.order.filterMap g.roster.node? = f.roster.registered :=
    List.filterMap_congr fun k hk => hg.kept k (f.roster.known k hk)
  rw [Roster.registered, hg.order, List.filterMap_append, hold]

theorem withLabel (hg : Grown given f g added) (label : String) :
    g.roster.withLabel label = f.roster.withLabel label ++
        (added.filterMap g.roster.node?).filter (·.labelString = label) ∧
      g.roster.spareCount label + f.pool.cameUp label =
        f.roster.spareCount label + g.pool.cameUp label := by
  have hnodes : g.roster.withLabel label = f.roster.withLabel label ++
      (added.filterMap g.roster.node?).filter (·.labelString = label) := by
    rw [Roster.withLabel, hg.registered, List.filter_append, Roster.withLabel]
  refine ⟨hnodes, ?_⟩
  have hspare : ((added.filterMap g.roster.node?).filter (·.labelString = label)).countP
      (·.isSpare) = (added.filterMap g.roster.node?).countP (·.labelString = label) := by
    rw [List.countP_eq_length_filter (p := fun n : Node => decide (n.labelString = label)),
      List.countP_eq_length]
    intro n hn
    obtain ⟨k, hk, hkn⟩ := List.mem_filterMap.mp (List.mem_filter.mp hn).1
    obtain ⟨m, hm, hspare, -⟩ := hg.joined k hk
    obtain rfl : m = n := Option.some.inj (hm.symm.trans hkn)
    exact hspare
  rw [Roster.spareCount, hnodes, List.countP_append, hspare, hg.cameUp, ← Roster.spareCount]
  omega

end Grown

/-! ### One launch -/

theorem Pool.getElem?_record_of_ne (p : Pool) {i j : Nat} (h : j ≠ i) (progress : Progress) :
    (p.record j progress).launches[i]? = p.launches[i]? := by
  simp [record, h]

theorem Pool.ne_of_settled {p : Pool} {i j : Nat} {t : Template} {l : Launch}
    (hj : p.launches[j]? = some ⟨t, .queued⟩) (hl : p.launches[i]? = some l)
    (hq : l.progress ≠ .queued) : j ≠ i := by
  rintro rfl
  rw [hj] at hl
  exact hq (Option.some.inj hl ▸ rfl)

theorem Pool.getElem?_record {p : Pool} {j : Nat} {l : Launch} (h : p.launches[j]? = some l)
    (progress : Progress) :
    (p.record j progress).launches[j]? = some { l with progress } := by
  simp [record, h]

/-- A launch of a template has been taken up, and its node is made and registered. -/
structure Entered (given : σ → Set String) (j : Nat) (t : Template) (n : Node) (f g : Fleet σ) :
    Prop where
  waiting : f.pool.launches[j]? = some ⟨t, .queued⟩
  launches : g.pool.launches = (f.pool.record j .running).launches
  ids : given f.cloud ⊆ given g.cloud
  nodes : g.roster.nodes = f.roster.nodes ++ [n]
  order : g.roster.order = f.roster.order ++ [f.roster.next]

theorem Entered.known {f g : Fleet σ} {j : Nat} {t : Template} {handle : LaunchHandle}
    (h : Entered given j t (Node.ofLaunch t handle) f g) (hk : Known given f)
    (hplain : '(' ∉ handle.id.toList) (hgiven : handle.id ∈ given g.cloud) : Known given g := by
  intro k hkg template id hname hid
  rw [h.order] at hkg
  rcases List.mem_append.mp hkg with hkf | hkf
  · refine h.ids (hk k hkf template id ?_ hid)
    rw [Roster.nameOf, h.nodes, Roster.nameIn_append _ (f.roster.known k hkf)] at hname
    exact hname
  · obtain rfl := List.mem_singleton.mp hkf
    have hnew : g.roster.nameOf f.roster.next = some (Node.nameFor t.name handle.id) := by
      rw [Roster.nameOf, nameIn, h.nodes, Roster.next, List.getElem?_concat_length]
      rfl
    rw [hnew] at hname
    exact Node.id_of_nameFor hplain hid (Option.some.inj hname) ▸ hgiven

/-- A launch has come to its end, which concerns no node but the one with the number `k`. -/
structure Ended (given : σ → Set String) (j k : Nat) (progress : Progress) (f g : Fleet σ) :
    Prop where
  launches : g.pool.launches = (f.pool.record j progress).launches
  ids : given f.cloud ⊆ given g.cloud
  length : g.roster.nodes.length = f.roster.nodes.length
  node : ∀ i ≠ k, g.roster.node? i = f.roster.node? i
  names : ∀ i ∈ g.roster.order, i ∈ f.roster.order ∧ g.roster.nameOf i = f.roster.nameOf i

theorem Ended.of_modify {f g : Fleet σ} {j k : Nat} {progress : Progress} {change : Node → Node}
    (hlaunches : g.pool.launches = (f.pool.record j progress).launches)
    (hids : given f.cloud ⊆ given g.cloud) (horder : g.roster.order = f.roster.order)
    (hnodes : g.roster.nodes = f.roster.nodes.modify k change)
    (hname : ∀ n, (change n).name = n.name) : Ended given j k progress f g where
  launches := hlaunches
  ids := hids
  length := by rw [hnodes, List.length_modify]
  node i hi := by
    rw [Roster.node?, Roster.node?, hnodes]
    simp [Ne.symm hi]
  names i hi := by
    refine ⟨horder ▸ hi, ?_⟩
    rw [Roster.nameOf, hnodes, Roster.nameIn_modify k i hname, Roster.nameOf]

theorem Node.isSpare_ofLaunch (t : Template) (handle : LaunchHandle) (id : String)
    (now : Moment) : (((ofLaunch t handle).setInstance id).markOnline now).isSpare := by
  have hpos : (0 : Int) < t.executors.val := Int.natCast_pos.mpr t.executors.property
  have hfree : (((ofLaunch t handle).setInstance id).markOnline now).hasIdleExecutor :=
    decide_eq_true hpos
  rw [isSpare, hfree, Bool.and_true]
  rfl

theorem Grown.cameUp_around {f f₁ f₂ g : Fleet σ} {j : Nat} {t : Template} {n : Node}
    {progress : Progress} {more : List Nat} (h : Grown given f₁ f₂ more)
    (hstart : Entered given j t n f f₁)
    (hend : g.pool.launches = (f₂.pool.record j progress).launches) (label : String) :
    g.pool.cameUp label = f.pool.cameUp label +
      (more.filterMap f₂.roster.node?).countP (·.labelString = label) +
      if t.labelString = label ∧ progress.isDone = true then 1 else 0 := by
  -- While it waits for its instance the launch is recorded as running, and does not count.
  have hrunning : f₂.pool.launches[j]? = some ⟨t, .running⟩ := by
    refine h.settled j _ ?_ (by simp)
    rw [hstart.launches, Pool.getElem?_record hstart.waiting]
  have hfirst := Pool.cameUp_record hstart.waiting .running label
  have hlast := Pool.cameUp_record hrunning progress label
  have hbetween := h.cameUp label
  have hpool : f₁.pool.cameUp label = (f.pool.record j .running).cameUp label := by
    rw [Pool.cameUp, Pool.cameUp, hstart.launches]
  have hpool' : g.pool.cameUp label = (f₂.pool.record j progress).cameUp label := by
    rw [Pool.cameUp, Pool.cameUp, hend]
  simp only [Progress.isDone_queued, Progress.isDone_running, Bool.false_eq_true, and_false,
    if_false] at hfirst hlast
  omega

/-- What happens between the start of a launch and its end only adds to what was there before.  The
node of the launch has joined if the launch has come up, and it is gone otherwise. -/
theorem Grown.around {f f₁ f₂ g : Fleet σ} {j : Nat} {t : Template} {n : Node}
    {progress : Progress} {added more : List Nat} (hstart : Entered given j t n f f₁)
    (h : Grown given f₁ f₂ more) (hend : Ended given j f.roster.next progress f₂ g)
    (horder : g.roster.order = f.roster.order ++ added)
    (hadded : added = more ∧ progress.isDone = false ∨
      added = f.roster.next :: more ∧ progress.isDone = true ∧
        ∃ m, g.roster.node? f.roster.next = some m ∧ m.isSpare ∧ m.template = t.name ∧
          m.labelString = t.labelString) :
    Grown given f g added := by
  have hnext : f.roster.next = f.roster.nodes.length := rfl
  have hlength : f₁.roster.nodes.length = f.roster.nodes.length + 1 := by
    rw [hstart.nodes, List.length_append, List.length_singleton]
  have hmore : ∀ k ∈ more, f.roster.next < k := fun k hk => by
    have := h.above k hk
    omega
  have hnode : ∀ k ∈ more, g.roster.node? k = f₂.roster.node? k := fun k hk =>
    hend.node k (hmore k hk).ne'
  have htemplates : g.pool.launches.map (·.template) = f.pool.launches.map (·.template) := by
    rw [hend.launches, Pool.templates_record, h.templates, hstart.launches, Pool.templates_record]
  have hjoined : ∀ k ∈ more, ∃ n, g.roster.node? k = some n ∧ n.isSpare ∧
      ∃ t ∈ g.pool.launches.map (·.template),
        n.template = t.name ∧ n.labelString = t.labelString := by
    intro k hk
    obtain ⟨m, hm, hspare, s, hs, hms⟩ := h.joined k hk
    rw [hend.launches, Pool.templates_record]
    exact ⟨m, (hnode k hk).trans hm, hspare, s, hs, hms⟩
  refine ⟨h.known.congr hend.ids hend.names, ?_, ?_, ?_, horder, ?_, ?_, htemplates, ?_, ?_⟩
  · exact Set.Subset.trans hstart.ids (Set.Subset.trans h.ids hend.ids)
  · have := h.longer
    rw [hend.length]
    omega
  · intro k hk
    have hne : k ≠ f.roster.next := hk.ne
    rw [hend.node k hne, h.kept k (by omega), Roster.node?,
      hstart.nodes, List.getElem?_append_left hk, Roster.node?]
  · obtain ⟨rfl, -⟩ | ⟨rfl, -⟩ := hadded
    · exact fun k hk => (hmore k hk).le
    · exact List.forall_mem_cons.mpr ⟨le_rfl, fun k hk => (hmore k hk).le⟩
  · obtain ⟨rfl, -⟩ | ⟨rfl, -, m, hm, hspare, htemplate, hlabel⟩ := hadded
    · exact hjoined
    · refine List.forall_mem_cons.mpr ⟨⟨m, hm, hspare, t, ?_, htemplate, hlabel⟩, hjoined⟩
      rw [htemplates]
      exact List.mem_map_of_mem (List.mem_of_getElem? hstart.waiting)
  · intro i l hl hq
    have hne := Pool.ne_of_settled hstart.waiting hl hq
    rw [hend.launches, Pool.getElem?_record_of_ne _ hne]
    refine h.settled i l ?_ hq
    rw [hstart.launches, Pool.getElem?_record_of_ne _ hne, hl]
  · intro label
    have hcameUp := h.cameUp_around hstart hend.launches label
    rw [← List.filterMap_congr hnode] at hcameUp
    rw [hcameUp]
    obtain ⟨rfl, hdone⟩ | ⟨rfl, hdone, m, hm, -, -, hlabel⟩ := hadded
    · simp [hdone]
    · rw [List.filterMap_cons_some hm, List.countP_cons]
      simp only [hdone, and_true, hlabel, decide_eq_true_eq]
      omega

theorem Grown.refused {f g : Fleet σ} {j : Nat} {t : Template} {progress : Progress}
    (hk : Known given f) (hids : given f.cloud ⊆ given g.cloud) (hroster : g.roster = f.roster)
    (hj : f.pool.launches[j]? = some ⟨t, .queued⟩) (hdone : progress.isDone = false)
    (hlaunches : g.pool.launches = (f.pool.record j progress).launches) : Grown given f g [] := by
  refine .of_roster hk hids hroster (by rw [hlaunches, Pool.templates_record]) ?_ fun label => ?_
  · intro i l hl hq
    rw [hlaunches, Pool.getElem?_record_of_ne _ (Pool.ne_of_settled hj hl hq), hl]
  · have hrecord := Pool.cameUp_record hj progress label
    rw [Pool.cameUp, hlaunches, ← Pool.cameUp]
    simpa [hdone] using hrecord

/-- A launch that fails does not fail the one who gives it its turn. -/
theorem Controller.exists_carryOut (c : Controller σ) (j : Nat) (f : Fleet σ) :
    ∃ g, c.carryOut j f = (.ok (), g) := by
  by_cases hwaits : ∃ t, f.pool.launches[j]? = some ⟨t, .queued⟩
  · obtain ⟨t, hj⟩ := hwaits
    exact ⟨_, c.carryOut_of_queued hj⟩
  · exact ⟨f, c.carryOut_of_not_queued (by simpa using hwaits)⟩

/-! ### Entering a node -/

namespace Roster

/-- Makes a node and registers it. -/
def enter (r : Roster) (n : Node) : Roster := (r.make n).register r.next

theorem nodes_enter (r : Roster) (n : Node) : (r.enter n).nodes = r.nodes ++ [n] :=
  nodes_register _ _

theorem node?_enter (r : Roster) (n : Node) : (r.enter n).node? r.next = some n := by
  rw [node?, nodes_enter]
  exact List.getElem?_concat_length

theorem mem_order_enter (r : Roster) (n : Node) : r.next ∈ (r.enter n).order := by
  have hlt : r.next < (r.make n).nodes.length := by
    simp [make, next]
  rw [enter, register, dif_pos hlt]
  show r.next ∈ (r.make n).orderWith r.next
  rw [orderWith]
  split
  next hmem =>
    -- A node with the same name gives up its place.
    obtain ⟨j, hj, hname⟩ := List.mem_map.mp hmem
    refine List.mem_map.mpr ⟨j, hj, ?_⟩
    rw [if_pos hname]
  · simp

theorem order_enter {r : Roster} {n : Node} (hnew : some n.name ∉ r.order.map r.nameOf) :
    (r.enter n).order = r.order ++ [r.next] := by
  have hlt : r.next < (r.make n).nodes.length := by
    simp [make, next]
  have hnode : (r.make n).node? r.next = some n := List.getElem?_concat_length
  have hold : (r.make n).order.map (r.make n).nameOf = r.order.map r.nameOf :=
    List.map_congr_left fun k hk => nameIn_append n (r.known k hk)
  refine order_register _ hlt ?_
  rw [nameOf_of_node? hnode, hold]
  exact hnew

end Roster

theorem Fleet.enter (n : Node) (f : Fleet σ) :
    ∃ log, Fleet.register f.roster.next { f with roster := f.roster.make n } =
      (.ok (), { f with roster := f.roster.enter n, log }) := by
  have hnode : (f.roster.make n).node? f.roster.next = some n := List.getElem?_concat_length
  exact Fleet.register_of_some (f := { f with roster := f.roster.make n }) hnode

/-- A node that was entered just now is found by its name, and can be connected. -/
theorem Fleet.connect_enter (n : Node) (f : Fleet σ) (now : Moment) :
    ∃ log, Fleet.connect f.roster.next now { f with roster := f.roster.enter n } =
      (.ok (), { f with
        roster := (f.roster.enter n).update f.roster.next (Node.markOnline now)
          (Node.name_markOnline now), log }) := by
  have hnode := f.roster.node?_enter n
  obtain ⟨j, hj⟩ := Roster.exists_of_nameOf _ (f.roster.mem_order_enter n)
    (Roster.nameOf_of_node? hnode)
  exact Fleet.connect_of_some (f := { f with roster := f.roster.enter n }) hnode hj now

section CarryOut

variable (hf : Fresh c given)
  (hlull : ∀ f, Known given f → ∃ added, Grown given f (c.interlude.happen f) added)

/-- The node of a launch is made and registered before the wait. -/
theorem Controller.takeIn_of_new (c : Controller σ) {t : Template} {handle : LaunchHandle}
    {f : Fleet σ} (hnew : some (Node.ofLaunch t handle).name ∉ f.roster.order.map f.roster.nameOf) :
    ∃ g, g.cloud = f.cloud ∧ g.pool = f.pool ∧
      g.roster.nodes = f.roster.nodes ++ [Node.ofLaunch t handle] ∧
      g.roster.order = f.roster.order ++ [f.roster.next] ∧
      c.takeIn t handle f = (do
        match ← (c.bringUp handle f.roster.next).attempt with
        | .ok _ => return f.roster.next
        | .error failure =>
          Controller.giveUp f.roster.next failure
          Action.fail failure) g := by
  obtain ⟨log, henter⟩ := Fleet.enter (.ofLaunch t handle) f
  refine ⟨{ f with roster := f.roster.enter (.ofLaunch t handle), log }, rfl, rfl,
    Roster.nodes_enter _ _, Roster.order_enter hnew, ?_⟩
  show (Fleet.register f.roster.next >>= fun _ => _)
    { f with roster := f.roster.make (.ofLaunch t handle) } = _
  exact Action.bind_of_ok henter

theorem Controller.bringUp_of_ok {handle : LaunchHandle} {k : Nat} {n : Node} {f : Fleet σ}
    {id : String} {w : σ} (hn : (c.interlude.happen f).roster.node? k = some n)
    (hk : k ∈ (c.interlude.happen f).roster.order)
    (hr : c.provider.awaitRunning handle c.launchTimeout (c.interlude.happen f).cloud =
      (.ok id, w)) :
    ∃ roster log,
      c.bringUp handle k f =
        (.ok (), { c.interlude.happen f with cloud := w, roster, log }) ∧
      roster.order = (c.interlude.happen f).roster.order ∧
      ∃ now, roster.nodes = (c.interlude.happen f).roster.nodes.modify k fun n =>
        (n.setInstance id).markOnline now := by
  set g := c.interlude.happen f with hg
  -- The node has kept its name and its place, so that it is found again by its name.
  set named := g.roster.update k (Node.setInstance id) (Node.name_setInstance id)
  have hnode : named.node? k = some (n.setInstance id) := g.roster.node?_update hn _ _
  obtain ⟨j, hj⟩ := named.exists_of_nameOf hk (Roster.nameOf_of_node? hnode)
  obtain ⟨log, hconnect⟩ := Fleet.connect_of_some (f := { g with cloud := w, roster := named })
    hnode hj g.now
  refine ⟨named.update k (Node.markOnline g.now) (Node.name_markOnline g.now), log, ?_, rfl, g.now,
    List.modify_modify_eq ..⟩
  simp only [Controller.bringUp, Fleet.consult, Fleet.changeRoster, Action.bind_apply,
    Action.modify_apply, Action.onPart_apply, Action.reads_apply, ← hg, hr]
  exact hconnect

theorem Controller.giveUp_of_some {k : Nat} {n : Node} {f : Fleet σ}
    (hn : f.roster.node? k = some n) (e : Failure) :
    ∃ log, Controller.giveUp k e f =
      (.ok (), { f with roster := f.roster.remove n.name, log }) := by
  obtain ⟨log, hnote⟩ : ∃ log, Fleet.note .error
      s!"Node {n.name} failed to come online: {e.display}" f = (.ok (), { f with log }) :=
    ⟨_, rfl⟩
  obtain ⟨found, log', hremove⟩ := Fleet.removed n.name { f with log }
  exact ⟨log', by simp [Controller.giveUp, Fleet.nodeAt_of_some hn, hnote, hremove]⟩

/-- After the wait the node is connected, or it is taken out. -/
theorem Controller.bringUp_or_giveUp (handle : LaunchHandle) {k : Nat} {n : Node} {f : Fleet σ}
    (hn : (c.interlude.happen f).roster.node? k = some n)
    (hk : k ∈ (c.interlude.happen f).roster.order) :
    ∃ r w roster log,
      (do
        match ← (c.bringUp handle k).attempt with
        | .ok _ => return k
        | .error failure =>
          Controller.giveUp k failure
          Action.fail failure) f =
        (r, { c.interlude.happen f with cloud := w, roster, log }) ∧
      (c.provider.awaitRunning handle c.launchTimeout (c.interlude.happen f).cloud).2 = w ∧
      ((r = .ok k ∧ roster.order = (c.interlude.happen f).roster.order ∧
          ∃ id now, roster.nodes = (c.interlude.happen f).roster.nodes.modify k fun n =>
            (n.setInstance id).markOnline now) ∨
        ∃ e, r = .error e ∧ roster = (c.interlude.happen f).roster.remove n.name) := by
  rcases hr : c.provider.awaitRunning handle c.launchTimeout (c.interlude.happen f).cloud
    with ⟨e | id, w⟩
  · have hup : c.bringUp handle k f = (.error e, { c.interlude.happen f with cloud := w }) := by
      simp [Controller.bringUp, Fleet.consult, hr]
    obtain ⟨log, hdown⟩ :=
      Controller.giveUp_of_some (f := { c.interlude.happen f with cloud := w }) hn e
    refine ⟨.error e, w, _, log, ?_, rfl, .inr ⟨e, rfl, rfl⟩⟩
    simp only [Action.bind_apply, Action.attempt_apply, hup, hdown, Action.fail_apply]
  · obtain ⟨roster, log, hup, horder, now, hnodes⟩ := Controller.bringUp_of_ok hn hk hr
    refine ⟨.ok k, w, roster, log, ?_, rfl, .inl ⟨rfl, horder, id, now, hnodes⟩⟩
    simp only [Action.bind_apply, Action.attempt_apply, hup]
    rfl

include hf hlull

/-- What a launch does that gets its turn, with all that happens while it waits. -/
theorem grown_carryOut (j : Nat) {f : Fleet σ} (hk : Known given f) :
    ∃ added, Grown given f (c.carryOut j f).2 added := by
  by_cases hwaits : ∃ t, f.pool.launches[j]? = some ⟨t, .queued⟩
  swap
  · rw [c.carryOut_of_not_queued (by simpa using hwaits)]
    exact ⟨[], .still hk Set.Subset.rfl rfl rfl⟩
  obtain ⟨t, hj⟩ := hwaits
  rw [c.carryOut_of_queued hj]
  rcases hl : c.provider.launch t f.cloud with ⟨e | handle, w⟩
  · rw [c.launch_of_error (f := { f with pool := f.pool.record j .running }) hl]
    have hdone : (Progress.failed e).isDone = false := rfl
    refine ⟨[], .refused hk (hf.refused hl) rfl hj hdone ?_⟩
    exact List.modify_modify_eq ..
  obtain ⟨hplain, hnew, hgiven, hids⟩ := hf.launched hl
  obtain ⟨f₁, hcloud, hpool, hnodes, horder, htake⟩ :=
    c.takeIn_of_new (f := { f with pool := f.pool.record j .running, cloud := w })
      (hk.not_mem hplain hnew)
  set n := Node.ofLaunch t handle
  have hstart : Entered given j t n f f₁ :=
    ⟨hj, by rw [hpool], by rw [hcloud]; exact hids, hnodes, horder⟩
  -- The id of the launch is known from here on, so that launches in between get other names.
  have hk₁ : Known given f₁ := hstart.known hk hplain (hcloud ▸ hgiven)
  obtain ⟨more, hgrown⟩ := hlull f₁ hk₁
  set f₂ := c.interlude.happen f₁ with hf₂
  have hlt : f.roster.next < f₁.roster.nodes.length := by
    rw [hstart.nodes, List.length_append]
    exact Nat.lt_succ_self _
  have hn : f₂.roster.node? f.roster.next = some n := by
    rw [hgrown.kept _ hlt, Roster.node?, hstart.nodes]
    exact List.getElem?_concat_length
  have hmem : f.roster.next ∈ f₂.roster.order := by
    rw [hgrown.order, hstart.order]
    simp
  obtain ⟨r, w', roster, log, hwait, hw', hr⟩ := Controller.bringUp_or_giveUp handle hn hmem
  rw [← hf₂] at hwait hw' hr
  rw [c.launch_of_ok (f := { f with pool := f.pool.record j .running }) hl, htake, hwait]
  have hgiven' : given f₂.cloud ⊆ given w' := hw' ▸ hf.asked (.awaitRunning _ _ _)
  obtain ⟨rfl, horder', id, now, hnodes'⟩ | ⟨e, rfl, rfl⟩ := hr
  · have hdone : (Progress.done f.roster.next).isDone = true := rfl
    refine ⟨f.roster.next :: more, .around hstart hgrown ?_ ?_
      (.inr ⟨rfl, hdone, (n.setInstance id).markOnline now, ?_, ?_, rfl, rfl⟩)⟩
    · exact .of_modify rfl hgiven' horder' hnodes' fun _ => rfl
    · show roster.order = _
      rw [horder', hgrown.order, hstart.order, List.append_assoc, List.singleton_append]
    · show roster.nodes[f.roster.next]? = _
      rw [Roster.node?] at hn
      simp [hnodes', hn]
    · exact Node.isSpare_ofLaunch t handle id now
  · have hdone : (Progress.failed e).isDone = false := rfl
    refine ⟨more, .around hstart hgrown ?_ ?_ (.inl ⟨rfl, hdone⟩)⟩
    · exact ⟨rfl, hgiven', rfl, fun _ _ => rfl, fun i hi => ⟨(List.mem_filter.mp hi).1, rfl⟩⟩
    · refine Roster.order_remove f₂.roster ?_ (Roster.nameOf_of_node? hn)
      rw [hgrown.order, hstart.order, List.append_assoc, List.singleton_append]

theorem grown_runQueue (n : Nat) {f : Fleet σ} (hk : Known given f) :
    ∃ added, Grown given f (c.runQueue n f).2 added := by
  induction n generalizing f with
  | zero => exact ⟨[], .still hk Set.Subset.rfl rfl rfl⟩
  | succ n ih =>
    unfold Controller.runQueue
    rw [Action.bind_apply, Action.reads_apply]
    cases f.pool.queue with
    | nil => exact ⟨[], .still hk Set.Subset.rfl rfl rfl⟩
    | cons j rest =>
      set taken : Fleet σ := { f with pool := { f.pool with queue := rest } } with htaken
      have htake : Grown given f taken [] := .still hk Set.Subset.rfl rfl rfl
      obtain ⟨added, hfirst⟩ := grown_carryOut hf hlull j htake.known
      obtain ⟨more, hrest⟩ := ih hfirst.known
      refine ⟨[] ++ added ++ more, ?_⟩
      have hall := (htake.trans hfirst).trans hrest
      obtain ⟨g, hone⟩ := c.exists_carryOut j taken
      rw [hone] at hall
      simp only [Action.bind_apply, Fleet.changePool, Action.modify_apply, ← htaken, hone]
      rcases hr : c.runQueue n g with ⟨e | count, g'⟩ <;> rw [hr] at hall <;> exact hall

end CarryOut

theorem grown_events (hf : Fresh c given)
    (hlull : ∀ f, Known given f → ∃ added, Grown given f (c.interlude.happen f) added)
    {events : List (Event σ)} (he : ∀ e ∈ events, e.Calm given) {f : Fleet σ}
    (hk : Known given f) : ∃ added, Grown given f (c.run events f) added := by
  induction events generalizing f with
  | nil => exact ⟨[], .still hk Set.Subset.rfl rfl rfl⟩
  | cons e events ih =>
    have hone : ∃ added, Grown given f (c.perform f e) added := by
      have hcalm := he e List.mem_cons_self
      cases e with
      | carryOut j => exact grown_carryOut hf hlull j hk
      | runQueue n => exact grown_runQueue hf hlull n hk
      | elsewhere world now nodes =>
        obtain ⟨hworld, rfl⟩ := hcalm
        exact ⟨[], .still hk (hworld f.cloud) rfl rfl⟩
      | _ => exact hcalm.elim
    obtain ⟨added, hone⟩ := hone
    obtain ⟨more, hrest⟩ := ih (fun e' he' => he e' (List.mem_cons_of_mem e he')) hone.known
    exact ⟨added ++ more, hone.trans hrest⟩

theorem grown_interlude (hf : Fresh c given) (hq : c.Quiet given) :
    ∀ f, Known given f → ∃ added, Grown given f (c.interlude.happen f) added := by
  -- By induction on how deep waits are nested: what happens during a wait are calm events of a
  -- controller whose waits are less deep.
  induction hq with
  | still hi =>
    intro f hk
    rw [hi]
    exact ⟨[], .still hk Set.Subset.rfl rfl rfl⟩
  | busy _ i hi ih =>
    intro f hk
    obtain ⟨events, hcalm, hhappen⟩ := hi f
    show ∃ added, Grown given f (i.happen f) added
    rw [hhappen]
    exact grown_events hf.of_interlude (ih hf.of_interlude) hcalm hk

/-- **By calm events a fleet only grows**: the nodes that were there stay, and behind them come the
nodes of the launches that have come up. -/
theorem grown_run (hf : Fresh c given) (hq : c.Quiet given) {events : List (Event σ)}
    (he : ∀ e ∈ events, e.Calm given) {f : Fleet σ} (hk : Known given f) :
    ∃ added, Grown given f (c.run events f) added :=
  grown_events hf (grown_interlude hf hq) he hk

/-! ### Sweeps in between -/

theorem Fresh.sweep (hf : Fresh c given) (hq : c.Quiet given) (retains : Bool) (f : Fleet σ) :
    given f.cloud ⊆ given (c.sweep retains f).2.cloud :=
  hf.moves (keeps_sweep hq.orderly.steady retains .none f)

namespace Decided

variable {labels : List String} {decisions : List Decision} {f g : Fleet σ}

theorem known (h : Decided c labels decisions f g) (hk : Known given f)
    (hids : given f.cloud ⊆ given g.cloud) : Known given g :=
  hk.congr hids fun k hkg => by
    rw [h.roster] at *
    exact ⟨hkg, rfl⟩

theorem cameUp (h : Decided c labels decisions f g) (label : String) :
    g.pool.cameUp label = f.pool.cameUp label := by
  have hnone : (decisions.flatMap (·.launches)).countP
      (fun l => l.template.labelString = label && l.progress.isDone) = 0 := by
    rw [List.countP_eq_zero]
    intro l hl
    obtain ⟨d, -, rfl⟩ := exists_of_mem_launches hl
    simp
  rw [Pool.cameUp, Pool.cameUp, h.launches, List.countP_append, hnone, Nat.add_zero]

end Decided

end BuildFleet
