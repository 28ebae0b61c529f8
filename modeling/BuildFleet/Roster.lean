/-
The nodes of a fleet.

Every node gets a number when it is made and keeps it.  Some of the nodes are registered, at most
one for each name, and the registered nodes have an order: a name that is registered again keeps
its place, a new one comes last.

* **`Roster.registered`** — the registered nodes, in order;
* **`Roster.make`**, **`Roster.update`** — make a node, change a node;
* **`Roster.register`**, **`Roster.remove`** — enter a node, take a name out;
* **`Roster.spareCount`** — how much idle capacity there is for a label.

A node that is no longer registered, or not yet, can still be changed; whoever knows its number
sees the change.
-/
import BuildFleet.Node
import BuildFleet.Text.Sorted

namespace BuildFleet

/-- The name of the node with a number. -/
def nameIn (nodes : List Node) (k : Nat) : Option String := (nodes[k]?).map (·.name)

/-- Nodes, and which of them are registered. -/
structure Roster where
  /-- The nodes, by their numbers. -/
  nodes : List Node
  /-- The numbers of the registered nodes, in order. -/
  order : List Nat
  /-- Only nodes are registered. -/
  known : ∀ k ∈ order, k < nodes.length
  /-- No two registered nodes have the same name. -/
  distinct : (order.map (nameIn nodes)).Nodup

namespace Roster

/-- A roster without nodes. -/
def empty : Roster := ⟨[], [], by simp, by simp⟩

/-! ### Looking up -/

/-- The node with a number. -/
def node? (r : Roster) (k : Nat) : Option Node := r.nodes[k]?

/-- The name of the node with a number. -/
def nameOf (r : Roster) (k : Nat) : Option String := nameIn r.nodes k

/-- The registered nodes, in order. -/
def registered (r : Roster) : List Node := r.order.filterMap r.node?

/-- The number of the registered node with a name. -/
def find? (r : Roster) (name : String) : Option Nat :=
  r.order.find? (r.nameOf · = some name)

/-- The registered nodes whose label string is `label`. -/
def withLabel (r : Roster) (label : String) : List Node :=
  r.registered.filter (·.labelString = label)

/-- The label strings of the registered nodes, sorted and each once. -/
def labels (r : Roster) : List String :=
  Text.sortedSet (r.registered.map (·.labelString))

/-- The number of connected nodes with a free executor among those whose label string is
`label`. -/
def spareCount (r : Roster) (label : String) : Nat :=
  (r.withLabel label).countP (·.isSpare)

/-! ### Changing -/

theorem nameIn_append {nodes : List Node} {k : Nat} (n : Node) (hk : k < nodes.length) :
    nameIn (nodes ++ [n]) k = nameIn nodes k := by
  simp [nameIn, List.getElem?_append_left hk]

theorem nameIn_modify {nodes : List Node} (k j : Nat) {f : Node → Node}
    (hf : ∀ n, (f n).name = n.name) : nameIn (nodes.modify k f) j = nameIn nodes j := by
  simp only [nameIn, List.getElem?_modify]
  split <;> cases nodes[j]? <;> simp [hf]

/-- Makes a node, which gets the next number. -/
def make (r : Roster) (n : Node) : Roster :=
  { nodes := r.nodes ++ [n]
    order := r.order
    known := fun k hk => by
      have := r.known k hk
      simp only [List.length_append, List.length_singleton]
      omega
    distinct := by
      rw [List.map_congr_left fun k hk => nameIn_append n (r.known k hk)]
      exact r.distinct }

/-- The number that the next node gets. -/
def next (r : Roster) : Nat := r.nodes.length

/-- Changes a node, but not its name. -/
def update (r : Roster) (k : Nat) (f : Node → Node) (hf : ∀ n, (f n).name = n.name) : Roster :=
  { nodes := r.nodes.modify k f
    order := r.order
    known := fun j hj => by simpa using r.known j hj
    distinct := by
      rw [List.map_congr_left fun j _ => nameIn_modify k j hf]
      exact r.distinct }

/-- The order after the node with the number `k` is entered: it takes the place of a node with its
name, or the last place. -/
def orderWith (r : Roster) (k : Nat) : List Nat :=
  if r.nameOf k ∈ r.order.map r.nameOf then
    r.order.map fun j => if r.nameOf j = r.nameOf k then k else j
  else r.order ++ [k]

/-- Enters a node. -/
def register (r : Roster) (k : Nat) : Roster :=
  if hk : k < r.nodes.length then
    { nodes := r.nodes
      order := r.orderWith k
      known := fun j hj => by
        rw [orderWith] at hj
        split at hj
        · obtain ⟨i, hi, rfl⟩ := List.mem_map.1 hj
          split
          · exact hk
          · exact r.known i hi
        · rcases List.mem_append.1 hj with hj | hj
          · exact r.known j hj
          · exact List.mem_singleton.1 hj ▸ hk
      distinct := by
        rw [orderWith]
        split
        · rw [List.map_map, List.map_congr_left (g := r.nameOf)]
          · exact r.distinct
          · intro j _
            simp only [Function.comp_apply]
            split
            · next h => exact h.symm
            · rfl
        · next h =>
          rw [List.map_append, List.nodup_append]
          refine ⟨r.distinct, by simp, fun a ha b hb hab => h ?_⟩
          rw [List.map_singleton, List.mem_singleton] at hb
          rw [hab, hb] at ha
          exact ha }
  else r

/-- Takes a name out. -/
def remove (r : Roster) (name : String) : Roster :=
  { nodes := r.nodes
    order := r.order.filter (r.nameOf · ≠ some name)
    known := fun k hk => r.known k (List.mem_filter.1 hk).1
    distinct := r.distinct.sublist (List.filter_sublist.map _) }

/-! ### Names and numbers -/

theorem node?_of_nodes {r s : Roster} (h : s.nodes = r.nodes) : s.node? = r.node? := by
  funext k
  rw [node?, node?, h]

theorem next_of_nodes {r s : Roster} (h : s.nodes = r.nodes) : s.next = r.next :=
  congrArg List.length h

theorem nameOf_of_node? {r : Roster} {k : Nat} {n : Node} (h : r.node? k = some n) :
    r.nameOf k = some n.name := by
  rw [nameOf, nameIn, ← node?, h, Option.map_some]

theorem node?_update (r : Roster) {k : Nat} {n : Node} (h : r.node? k = some n)
    (change : Node → Node) (hname : ∀ n, (change n).name = n.name) :
    (r.update k change hname).node? k = some (change n) := by
  rw [node?] at h
  simp [update, node?, h]

/-- Two registered nodes with one name are one. -/
theorem eq_of_nameOf (r : Roster) {j k : Nat} (hj : j ∈ r.order) (hk : k ∈ r.order)
    (h : r.nameOf j = r.nameOf k) : j = k := by
  obtain ⟨a, ha, rfl⟩ := List.getElem_of_mem hj
  obtain ⟨b, hb, rfl⟩ := List.getElem_of_mem hk
  have hne : r.order.Pairwise fun x y => r.nameOf x ≠ r.nameOf y := List.pairwise_map.1 r.distinct
  have hlt := List.pairwise_iff_getElem.1 hne
  rcases Nat.lt_trichotomy a b with hab | rfl | hab
  · exact absurd h (hlt a b ha hb hab)
  · rfl
  · exact absurd h.symm (hlt b a hb ha hab)

/-- The name of a registered node is found. -/
theorem exists_of_nameOf (r : Roster) {k : Nat} (hk : k ∈ r.order) {name : String}
    (h : r.nameOf k = some name) : ∃ j, r.find? name = some j := by
  refine Option.isSome_iff_exists.1 (List.find?_isSome.2 ⟨k, hk, ?_⟩)
  simp [h]

/-- A node with a new name is entered behind all others. -/
theorem order_register (r : Roster) {k : Nat} (hk : k < r.nodes.length)
    (hnew : r.nameOf k ∉ r.order.map r.nameOf) :
    (r.register k).order = r.order ++ [k] := by
  rw [register, dif_pos hk]
  show r.orderWith k = r.order ++ [k]
  rw [orderWith, if_neg hnew]

/-- Only the node with a name is taken out with it. -/
theorem order_remove (r : Roster) {name : String} {k : Nat} {before behind : List Nat}
    (ho : r.order = before ++ k :: behind) (hk : r.nameOf k = some name) :
    (r.remove name).order = before ++ behind := by
  have hdistinct := r.distinct
  rw [ho, List.map_append, List.map_cons, List.nodup_append, List.nodup_cons] at hdistinct
  obtain ⟨-, ⟨hbehind, -⟩, hbefore⟩ := hdistinct
  have hkeep : ∀ j, j ∈ before ∨ j ∈ behind → r.nameOf j ≠ some name := by
    rintro j (hj | hj) hname
    · exact hbefore _ (List.mem_map_of_mem hj) _ List.mem_cons_self (hname.trans hk.symm)
    · exact hbehind (List.mem_map.2 ⟨j, hj, hname.trans hk.symm⟩)
  show r.order.filter (r.nameOf · ≠ some name) = before ++ behind
  rw [ho, List.filter_append, List.filter_cons_of_neg (by simp [hk]),
    List.filter_eq_self.2 fun j hj => decide_eq_true (hkeep j (.inl hj)),
    List.filter_eq_self.2 fun j hj => decide_eq_true (hkeep j (.inr hj))]

theorem nodes_register (r : Roster) (k : Nat) : (r.register k).nodes = r.nodes := by
  rw [register]
  split <;> rfl

end Roster

end BuildFleet
