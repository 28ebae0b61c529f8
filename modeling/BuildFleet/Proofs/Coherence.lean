/-
One client for each service and region.

A process asks for clients, forgets them and starts over with a new manager, while variables, files
and the world outside change around it and some clients do not come about.  Every attempt to make a
client gets a number, by which the client is told from all others:

* **`Process`**, **`Process.run`** — processes with a record of their attempts;
* **`Process.answers`** — the calls that were answered with a client;
* **`Process.Coherent`** — the clients that are kept are those that were made since the last time
  they were forgotten, each under its own key;
* **`cache_coherent`** — between two such times a client stands for its service and region.
-/
import BuildFleet.Proofs.Isolation
import Mathlib.Data.List.Nodup

namespace BuildFleet.Ec2

open Schema (Conversions)
open Settings (Gathering)

variable {σ κ : Type}

/-! ### Clients told apart -/

/-- A client with the number of the attempt that made it. -/
structure Numbered (κ : Type) where
  number : ℕ
  client : κ
deriving DecidableEq

/-- An attempt to make a client. -/
structure Attempt where
  /-- The service and the region. -/
  key : String × String
  /-- Why the client did not come about, if it did not. -/
  failure : Option Failure

/-- A factory that numbers its attempts and keeps a record of them. -/
def ClientFactory.numbering (factory : ClientFactory σ κ) :
    ClientFactory (σ × List Attempt) (Numbered κ) where
  create order w :=
    let key := (order.service, order.region)
    match factory.create order w.1 with
    | (.ok client, outside) => (.ok ⟨w.2.length, client⟩, (outside, w.2 ++ [⟨key, none⟩]))
    | (.error e, outside) => (.error e, (outside, w.2 ++ [⟨key, some e⟩]))

/-- A process whose clients are numbered. -/
abbrev Process (σ κ : Type) := Clients (σ × List Attempt) (Numbered κ)

/-- An answer with a client. -/
structure Answer (κ : Type) where
  /-- The service and the region that were meant. -/
  key : String × String
  client : Numbered κ
deriving DecidableEq

/-- The clients are forgotten, with or without their manager. -/
def ClientEvent.forgets : ClientEvent σ → Bool
  | .clear | .reset => true
  | _ => false

/-- Nothing happens but in the surroundings of the process. -/
def ClientEvent.isQuiet : ClientEvent σ → Bool
  | .client _ _ | .clear | .reset => false
  | _ => true

namespace Process

/-- The attempts so far, in order. -/
def attempts (p : Process σ κ) : List Attempt := p.outside.2

/-- The clients that are kept. -/
def kept (p : Process σ κ) : List ((String × String) × Numbered κ) := p.manager.elim [] (·.clients)

/-- The services and regions of the clients that were made after so many attempts. -/
def madeSince (n : ℕ) (p : Process σ κ) : List (String × String) :=
  ((p.attempts.drop n).filter (·.failure.isNone)).map (·.key)

/-! ### Clients that are kept -/

theorem mem_of_find? {m : Manager κ} {key : String × String} {client : κ}
    (h : m.find? key = some client) : (key, client) ∈ m.clients := by
  obtain ⟨⟨k, c⟩, hfound, rfl⟩ := Option.map_eq_some_iff.mp h
  have hkey : k = key := by simpa using List.find?_some hfound
  exact hkey ▸ List.mem_of_find?_eq_some hfound

theorem notMem_of_find? {m : Manager κ} {key : String × String} (h : m.find? key = none) :
    key ∉ m.clients.map (·.1) := by
  intro hmem
  obtain ⟨entry, hentry, rfl⟩ := List.mem_map.mp hmem
  have hnone := List.find?_eq_none.mp (Option.map_eq_none_iff.mp h) entry hentry
  exact hnone (by simp)

theorem kept_of_manager {p : Process σ κ} {m : Manager (Numbered κ)} (h : p.manager = some m) :
    p.kept = m.clients := by
  rw [kept, h]
  rfl

/-! ### Attempts -/

theorem numbering_of_ok {factory : ClientFactory σ κ} {order : ClientOrder}
    {w w' : σ × List Attempt} {client : Numbered κ}
    (h : factory.numbering.create order w = (.ok client, w')) :
    client.number = w.2.length ∧ w'.2 = w.2 ++ [⟨(order.service, order.region), none⟩] := by
  simp only [ClientFactory.numbering] at h
  split at h
  · cases h
    exact ⟨rfl, rfl⟩
  · cases h

theorem numbering_of_error {factory : ClientFactory σ κ} {order : ClientOrder}
    {w w' : σ × List Attempt} {e : Failure}
    (h : factory.numbering.create order w = (.error e, w')) :
    w'.2 = w.2 ++ [⟨(order.service, order.region), some e⟩] := by
  simp only [ClientFactory.numbering] at h
  split at h
  · cases h
  · cases h
    rfl

/-! ### Runs -/

/-- Unless the clients are forgotten, an event is quiet or a call. -/
theorem quiet_or_client {e : ClientEvent σ} (he : e.forgets = false) :
    e.isQuiet = true ∨ ∃ service region, e = .client service region := by
  cases e with
  | client service region => exact .inr ⟨service, region, rfl⟩
  | clear => cases he
  | reset => cases he
  | _ => exact .inl rfl

variable [Conversions] [Gathering]

/-- A process after an event. -/
def after (factory : ClientFactory σ κ) (p : Process σ κ) : ClientEvent σ → Process σ κ
  | .client service region => (Clients.client factory.numbering service region p).2
  | .clear => (Clients.clear p).2
  | .reset => (Clients.reset p).2
  | .dropSettings => (Clients.dropSettings p).2
  | .setVariables changes => (Clients.setVariables changes p).2
  | .unsetVariable name => (Clients.unsetVariable name p).2
  | .setFiles directory => { p with sources := { p.sources with directory } }
  | .elsewhere change => { p with outside := (change p.outside.1, p.outside.2) }

/-- A process after some events. -/
def run (factory : ClientFactory σ κ) (p : Process σ κ) (events : List (ClientEvent σ)) :
    Process σ κ :=
  events.foldl (after factory) p

/-- The answer with a client that an event is, if it is one. -/
def answer? (factory : ClientFactory σ κ) (p : Process σ κ) : ClientEvent σ → Option (Answer κ)
  | .client service region =>
    match Clients.client factory.numbering service region p with
    | (.ok client, next) => next.manager.map fun m => ⟨(service, m.regionFor region), client⟩
    | (.error _, _) => none
  | _ => none

/-- The answers with clients among some events, in order. -/
def answers (factory : ClientFactory σ κ) (p : Process σ κ) :
    List (ClientEvent σ) → List (Answer κ)
  | [] => []
  | e :: rest => (p.answer? factory e).toList ++ answers factory (p.after factory e) rest

/-! ### One call -/

/-- What a call comes to: the settings cannot be read, the client is kept already, or it is made or
not made, by a manager that has the settings of the one before if there was one. -/
inductive Called (p : Process σ κ) (service : String) (region : Option String) :
    Except Failure (Numbered κ) × Process σ κ → Prop
  | refused {e : Failure} (hm : p.manager = none) (hload : Settings.load p.sources = .error e) :
      Called p service region (.error e, p)
  | found {m : Manager (Numbered κ)} {client : Numbered κ} (hm : p.manager = some m)
      (hmem : ((service, m.regionFor region), client) ∈ p.kept) :
      Called p service region (.ok client, p)
  | made {m : Manager (Numbered κ)} {client : κ} {next : Process σ κ}
      (hm : next.manager = some m)
      (hsettings : ∀ m₀, p.manager = some m₀ → m.settings = m₀.settings)
      (hnew : (service, m.regionFor region) ∉ p.kept.map (·.1))
      (hkept : next.kept =
        ((service, m.regionFor region), ⟨p.attempts.length, client⟩) :: p.kept)
      (hattempts : next.attempts = p.attempts ++ [⟨(service, m.regionFor region), none⟩]) :
      Called p service region (.ok ⟨p.attempts.length, client⟩, next)
  | lost {m : Manager (Numbered κ)} {e : Failure} {next : Process σ κ}
      (hm : next.manager = some m)
      (hsettings : ∀ m₀, p.manager = some m₀ → m.settings = m₀.settings)
      (hnew : (service, m.regionFor region) ∉ p.kept.map (·.1))
      (hkept : next.kept = p.kept)
      (hattempts : next.attempts = p.attempts ++ [⟨(service, m.regionFor region), some e⟩]) :
      Called p service region (.error e, next)

/-- To look for the manager changes neither the clients nor the record. -/
theorem kept_of_opened {p next : Process σ κ} {m : Manager (Numbered κ)}
    (h : Clients.Opened p (.ok m, next)) :
    m.clients = p.kept ∧ next.attempts = p.attempts ∧
      ∀ m₀, p.manager = some m₀ → m.settings = m₀.settings := by
  cases h with
  | kept hm =>
    refine ⟨(kept_of_manager hm).symm, rfl, fun m₀ hm₀ => ?_⟩
    rw [Option.some.inj (hm.symm.trans hm₀)]
  | built hm hs =>
    refine ⟨?_, rfl, fun m₀ hm₀ => nomatch hm.symm.trans hm₀⟩
    rw [kept, hm]
    rfl

theorem called (factory : ClientFactory σ κ) (p : Process σ κ) (service : String)
    (region : Option String) :
    Called p service region (Clients.client factory.numbering service region p) := by
  have hasked := Clients.asked factory.numbering service region p
  generalize Clients.client factory.numbering service region p = outcome at hasked
  cases hasked with
  | refused h =>
    cases h with
    | failed hm hload => exact .refused hm hload
  | found h hfound =>
    have hmem := mem_of_find? hfound
    cases h with
    | kept hm => exact .found hm (kept_of_manager hm ▸ hmem)
    | built hm hs => cases hmem
  | @made m c₁ _ h hfound hmade =>
    obtain ⟨hclients, hattempts, hsettings⟩ := kept_of_opened h
    have hnew := notMem_of_find? hfound
    rw [hclients] at hnew
    cases hmade with
    | @kept client w log hcreate =>
      obtain ⟨number, client⟩ := client
      obtain ⟨rfl, hrecord⟩ := numbering_of_ok hcreate
      have hlength : c₁.outside.2.length = p.attempts.length := congrArg List.length hattempts
      rw [hlength]
      refine .made rfl hsettings hnew ?_ ?_
      · exact congrArg (((service, m.regionFor region), _) :: ·) hclients
      · exact hrecord.trans (congrArg (· ++ [_]) hattempts)
    | @lost e w log hcreate =>
      have hrecord := numbering_of_error hcreate
      refine .lost h.manager hsettings hnew ?_ ?_
      · exact (kept_of_manager h.manager).trans hclients
      · exact hrecord.trans (congrArg (· ++ [_]) hattempts)

/-! ### One event -/

theorem after_quiet {e : ClientEvent σ} (factory : ClientFactory σ κ) (p : Process σ κ)
    (he : e.isQuiet = true) :
    (p.after factory e).manager = p.manager ∧ (p.after factory e).attempts = p.attempts := by
  cases e with
  | client service region => cases he
  | clear => cases he
  | reset => cases he
  | _ => exact ⟨rfl, rfl⟩

theorem kept_after_quiet {e : ClientEvent σ} (factory : ClientFactory σ κ) (p : Process σ κ)
    (he : e.isQuiet = true) : (p.after factory e).kept = p.kept := by
  rw [kept, kept, (after_quiet factory p he).1]

theorem after_forgets {e : ClientEvent σ} (factory : ClientFactory σ κ) (p : Process σ κ)
    (he : e.forgets = true) :
    (p.after factory e).kept = [] ∧ (p.after factory e).attempts = p.attempts := by
  cases e with
  | clear =>
    have hopened := Clients.opened p
    simp only [after, Clients.clear, Action.bind_apply]
    generalize Clients.currentManager p = outcome at hopened ⊢
    cases hopened with
    | kept hm => exact ⟨rfl, rfl⟩
    | built hm hs => exact ⟨rfl, rfl⟩
    | failed hm hload =>
      -- Without settings there is no manager, and so no client.
      exact ⟨by rw [kept, hm]; rfl, rfl⟩
  | reset => exact ⟨rfl, rfl⟩
  | _ => cases he

/-- The record only grows, and so do the clients that are kept, unless they are forgotten. -/
theorem prefix_after (factory : ClientFactory σ κ) (p : Process σ κ) (e : ClientEvent σ) :
    p.attempts <+: (p.after factory e).attempts ∧
      (e.forgets = false → p.kept <:+ (p.after factory e).kept) := by
  cases he : e.forgets with
  | true =>
    have hforgets := after_forgets factory p he
    exact ⟨hforgets.2 ▸ List.prefix_rfl, fun h => nomatch h⟩
  | false =>
    obtain hquiet | ⟨service, region, rfl⟩ := quiet_or_client he
    · have hkept := kept_after_quiet factory p hquiet
      have hattempts := (after_quiet factory p hquiet).2
      exact ⟨hattempts ▸ List.prefix_rfl, fun _ => hkept ▸ List.suffix_rfl⟩
    · have hcalled := called factory p service region
      simp only [after]
      generalize Clients.client factory.numbering service region p = outcome at hcalled ⊢
      cases hcalled with
      | refused hm hload => exact ⟨List.prefix_rfl, fun _ => List.suffix_rfl⟩
      | found hm hmem => exact ⟨List.prefix_rfl, fun _ => List.suffix_rfl⟩
      | made hm hsettings hnew hkept hattempts =>
        exact ⟨hattempts ▸ List.prefix_append _ _, fun _ => hkept ▸ List.suffix_cons _ _⟩
      | lost hm hsettings hnew hkept hattempts =>
        exact ⟨hattempts ▸ List.prefix_append _ _, fun _ => hkept ▸ List.suffix_rfl⟩

/-- The client of an answer is kept. -/
theorem mem_kept_of_answer? {factory : ClientFactory σ κ} {p : Process σ κ} {e : ClientEvent σ}
    {a : Answer κ} (h : p.answer? factory e = some a) :
    e.forgets = false ∧ (a.key, a.client) ∈ (p.after factory e).kept := by
  cases e with
  | client service region =>
    refine ⟨rfl, ?_⟩
    have hcalled := called factory p service region
    simp only [answer?, after] at h ⊢
    generalize Clients.client factory.numbering service region p = outcome at h hcalled ⊢
    cases hcalled with
    | refused hm hload => cases h
    | found hm hmem =>
      simp only [hm, Option.map_some, Option.some.injEq] at h
      subst h
      exact hmem
    | made hm hsettings hnew hkept hattempts =>
      simp only [hm, Option.map_some, Option.some.injEq] at h
      subst h
      rw [hkept]
      exact List.mem_cons_self
    | lost hm hsettings hnew hkept hattempts => cases h
  | _ => cases h

/-- A client that is kept was kept before, or it is that of the answer. -/
theorem mem_kept_after {factory : ClientFactory σ κ} {p : Process σ κ} {e : ClientEvent σ}
    {key : String × String} {client : Numbered κ}
    (h : (key, client) ∈ (p.after factory e).kept) :
    (key, client) ∈ p.kept ∨ p.answer? factory e = some ⟨key, client⟩ := by
  cases he : e.forgets with
  | true =>
    rw [(after_forgets factory p he).1] at h
    cases h
  | false =>
    obtain hquiet | ⟨service, region, rfl⟩ := quiet_or_client he
    · rw [kept_after_quiet factory p hquiet] at h
      exact .inl h
    · have hcalled := called factory p service region
      simp only [answer?, after] at h ⊢
      generalize Clients.client factory.numbering service region p = outcome at h hcalled ⊢
      cases hcalled with
      | refused hm hload => exact .inl h
      | found hm hmem => exact .inl h
      | made hm hsettings hnew hkept hattempts =>
        rw [hkept] at h
        obtain heq | hmem := List.mem_cons.mp h
        · cases heq
          exact .inr (by simp only [hm, Option.map_some])
        · exact .inl hmem
      | lost hm hsettings hnew hkept hattempts => exact .inl (hkept ▸ h)

/-! ### The clients that are kept -/

/-- The clients that are kept are those that were made since there were so many attempts, each under
its own key, and each with the number of the attempt that made it. -/
structure Coherent (n : ℕ) (p : Process σ κ) : Prop where
  le : n ≤ p.attempts.length
  keys : p.kept.map (·.1) = (p.madeSince n).reverse
  nodup : (p.kept.map (·.1)).Nodup
  origin : ∀ entry ∈ p.kept,
    n ≤ entry.2.number ∧ p.attempts[entry.2.number]? = some ⟨entry.1, none⟩

omit [Conversions] [Gathering] in
/-- A process that keeps no clients has made none from now on. -/
theorem coherent_of_kept {p : Process σ κ} (h : p.kept = []) : Coherent p.attempts.length p where
  le := Nat.le_refl _
  keys := by simp [h, madeSince]
  nodup := by simp [h]
  origin := by simp [h]

variable {n : ℕ} {p : Process σ κ}

omit [Conversions] [Gathering] in
theorem madeSince_append {next : Process σ κ} {attempt : Attempt} (hn : n ≤ p.attempts.length)
    (h : next.attempts = p.attempts ++ [attempt]) :
    next.madeSince n =
      p.madeSince n ++ (if attempt.failure.isNone then [attempt.key] else []) := by
  rw [madeSince, h, List.drop_append_of_le_length hn, List.filter_append, List.map_append, madeSince]
  split <;> simp [*]

theorem Coherent.called {service : String} {region : Option String}
    {outcome : Except Failure (Numbered κ) × Process σ κ} (hp : Coherent n p)
    (h : Called p service region outcome) : Coherent n outcome.2 := by
  -- The record grows by one attempt at most, and what it says of the clients that are kept stays.
  have hle : ∀ attempt : Attempt, n ≤ (p.attempts ++ [attempt]).length := by
    intro attempt
    rw [List.length_append]
    exact Nat.le_add_right_of_le hp.le
  have horigin : ∀ (attempt : Attempt), ∀ entry ∈ p.kept, n ≤ entry.2.number ∧
      (p.attempts ++ [attempt])[entry.2.number]? = some ⟨entry.1, none⟩ := by
    intro attempt entry hentry
    obtain ⟨hle, hget⟩ := hp.origin entry hentry
    obtain ⟨hlt, -⟩ := List.getElem?_eq_some_iff.mp hget
    exact ⟨hle, by rw [List.getElem?_append_left hlt, hget]⟩
  cases h with
  | refused hm hload => exact hp
  | found hm hmem => exact hp
  | made hm hsettings hnew hkept hattempts =>
    refine ⟨hattempts ▸ hle _, ?_, ?_, ?_⟩
    · rw [hkept, List.map_cons, hp.keys, madeSince_append hp.le hattempts]
      simp
    · rw [hkept, List.map_cons]
      exact List.nodup_cons.mpr ⟨hnew, hp.nodup⟩
    · rw [hkept, hattempts]
      intro entry hentry
      obtain rfl | hold := List.mem_cons.mp hentry
      · exact ⟨hp.le, List.getElem?_concat_length⟩
      · exact horigin _ entry hold
  | lost hm hsettings hnew hkept hattempts =>
    refine ⟨hattempts ▸ hle _, ?_, hkept ▸ hp.nodup, ?_⟩
    · rw [hkept, hp.keys, madeSince_append hp.le hattempts]
      simp
    · rw [hkept, hattempts]
      exact horigin _

theorem Coherent.after {e : ClientEvent σ} (factory : ClientFactory σ κ) (hp : Coherent n p)
    (he : e.forgets = false) : Coherent n (p.after factory e) := by
  obtain hquiet | ⟨service, region, rfl⟩ := quiet_or_client he
  · have hkept := kept_after_quiet factory p hquiet
    have hattempts := (after_quiet factory p hquiet).2
    refine ⟨hattempts ▸ hp.le, ?_, hkept ▸ hp.nodup, ?_⟩
    · rw [hkept, madeSince, hattempts]
      exact hp.keys
    · rw [hkept, hattempts]
      exact hp.origin
  · exact hp.called (Process.called factory p service region)

/-- Once the clients are forgotten, those that are kept are from a later time. -/
theorem Coherent.exists_after (factory : ClientFactory σ κ) (hp : Coherent n p)
    (e : ClientEvent σ) : ∃ n', n ≤ n' ∧ Coherent n' (p.after factory e) := by
  cases he : e.forgets with
  | true =>
    obtain ⟨hkept, hattempts⟩ := after_forgets factory p he
    exact ⟨_, hattempts ▸ hp.le, coherent_of_kept hkept⟩
  | false => exact ⟨n, Nat.le_refl n, hp.after factory he⟩

omit [Conversions] [Gathering] in
/-- Keys and clients determine each other. -/
theorem Coherent.key_iff (hp : Coherent n p) {a b : Answer κ} (ha : (a.key, a.client) ∈ p.kept)
    (hb : (b.key, b.client) ∈ p.kept) : a.client = b.client ↔ a.key = b.key := by
  constructor
  · intro h
    -- One attempt made both.
    have hattempt := (hp.origin _ ha).2.symm.trans (h ▸ (hp.origin _ hb).2)
    exact congrArg Attempt.key (Option.some.inj hattempt)
  · intro h
    have hentry := List.inj_on_of_nodup_map hp.nodup ha hb h
    exact congrArg Prod.snd hentry

/-! ### Histories -/

section Histories

variable (factory : ClientFactory σ κ) {events : List (ClientEvent σ)}

theorem Coherent.run (hp : Coherent n p) (hevents : ∀ e ∈ events, e.forgets = false) :
    Coherent n (p.run factory events) := by
  induction events generalizing p with
  | nil => exact hp
  | cons e rest ih =>
    obtain ⟨he, hrest⟩ := List.forall_mem_cons.mp hevents
    exact ih (hp.after factory he) hrest

theorem attempts_prefix_run (p : Process σ κ) (events : List (ClientEvent σ)) :
    p.attempts <+: (p.run factory events).attempts := by
  induction events generalizing p with
  | nil => exact List.prefix_rfl
  | cons e rest ih => exact (prefix_after factory p e).1.trans (ih _)

theorem kept_suffix_run (p : Process σ κ) (hevents : ∀ e ∈ events, e.forgets = false) :
    p.kept <:+ (p.run factory events).kept := by
  induction events generalizing p with
  | nil => exact List.suffix_rfl
  | cons e rest ih =>
    obtain ⟨he, hrest⟩ := List.forall_mem_cons.mp hevents
    exact ((prefix_after factory p e).2 he).trans (ih _ hrest)

theorem manager_run_quiet (p : Process σ κ) (hevents : ∀ e ∈ events, e.isQuiet = true) :
    (p.run factory events).manager = p.manager := by
  induction events generalizing p with
  | nil => rfl
  | cons e rest ih =>
    obtain ⟨he, hrest⟩ := List.forall_mem_cons.mp hevents
    exact (ih _ hrest).trans (after_quiet factory p he).1

/-- An answer is the answer to an event, after which the rest is answered. -/
theorem mem_answers_cons {e : ClientEvent σ} {a : Answer κ} :
    a ∈ p.answers factory (e :: events) ↔
      p.answer? factory e = some a ∨ a ∈ (p.after factory e).answers factory events := by
  simp [answers]

theorem mem_kept_of_mem_answers {a : Answer κ} (ha : a ∈ p.answers factory events)
    (hevents : ∀ e ∈ events, e.forgets = false) :
    (a.key, a.client) ∈ (p.run factory events).kept := by
  induction events generalizing p with
  | nil => cases ha
  | cons e rest ih =>
    obtain ⟨-, hrest⟩ := List.forall_mem_cons.mp hevents
    obtain hnow | hlater := (mem_answers_cons factory).mp ha
    · exact (kept_suffix_run factory _ hrest).subset (mem_kept_of_answer? hnow).2
    · exact ih hlater hrest

theorem mem_kept_run {key : String × String} {client : Numbered κ}
    (h : (key, client) ∈ (p.run factory events).kept) :
    (key, client) ∈ p.kept ∨ ⟨key, client⟩ ∈ p.answers factory events := by
  induction events generalizing p with
  | nil => exact .inl h
  | cons e rest ih =>
    rw [mem_answers_cons]
    obtain hmem | hlater := ih h
    · obtain hmem | hnow := mem_kept_after hmem
      · exact .inl hmem
      · exact .inr (.inl hnow)
    · exact .inr (.inr hlater)

/-- The client of an answer is not older than the clients that were kept. -/
theorem Coherent.le_number (hp : Coherent n p) {a : Answer κ}
    (ha : a ∈ p.answers factory events) : n ≤ a.client.number := by
  induction events generalizing n p with
  | nil => cases ha
  | cons e rest ih =>
    obtain ⟨n', hle, hnext⟩ := hp.exists_after factory e
    obtain hnow | hlater := (mem_answers_cons factory).mp ha
    · exact Nat.le_trans hle (hnext.origin _ (mem_kept_of_answer? hnow).2).1
    · exact Nat.le_trans hle (ih hnext hlater)

/-- The client of an answer was made by now. -/
theorem Coherent.number_lt (hp : Coherent n p) {a : Answer κ}
    (ha : a ∈ p.answers factory events) :
    a.client.number < (p.run factory events).attempts.length := by
  induction events generalizing n p with
  | nil => cases ha
  | cons e rest ih =>
    obtain ⟨n', -, hnext⟩ := hp.exists_after factory e
    obtain hnow | hlater := (mem_answers_cons factory).mp ha
    · have hget := (hnext.origin _ (mem_kept_of_answer? hnow).2).2
      obtain ⟨hlt, -⟩ := List.getElem?_eq_some_iff.mp hget
      exact Nat.lt_of_lt_of_le hlt (attempts_prefix_run factory _ rest).length_le
    · exact ih hnext hlater

theorem run_append (p : Process σ κ) (events more : List (ClientEvent σ)) :
    p.run factory (events ++ more) = (p.run factory events).run factory more :=
  List.foldl_append

/-- Nothing is kept when a process starts, or once the clients are forgotten. -/
theorem kept_of_getLast? {sources : Settings.Sources} {outside : σ}
    (hevents : ∀ e ∈ events.getLast?, e.forgets = true) :
    (run factory (.fresh sources (outside, [])) events).kept = [] := by
  obtain rfl | ⟨earlier, e, rfl⟩ := List.eq_nil_or_concat events
  · rfl
  · rw [List.concat_eq_append] at hevents ⊢
    rw [run_append]
    exact (after_forgets factory _ (hevents e List.getLast?_concat)).1

end Histories

end Process

open Process in
/-- **A client stands for its service and region** from one time that the clients are forgotten to
the next: of two answers, one gives the client of the other just if they are for the same service
and region, and so many clients were made as there are services and regions with an answer, one for
each of them.  What was answered is what is kept, and is what the next call is answered from; a
client that was not made leaves that as it is.  Nothing in the surroundings of the process changes
the manager, and no client is given out again once it is forgotten. -/
theorem cache_coherent [Conversions] [Gathering] (factory : ClientFactory σ κ)
    (sources : Settings.Sources) (outside : σ) (before during : List (ClientEvent σ))
    (hbefore : ∀ e ∈ before.getLast?, e.forgets = true) (hduring : ∀ e ∈ during, e.forgets = false) :
    let start : Process σ κ := .fresh sources (outside, [])
    let opened := start.run factory before
    let now := opened.run factory during
    let known := opened.answers factory during
    (∀ a ∈ known, ∀ b ∈ known, a.client = b.client ↔ a.key = b.key) ∧
      ((now.madeSince opened.attempts.length).Nodup ∧
        ∀ key, key ∈ now.madeSince opened.attempts.length ↔ ∃ a ∈ known, a.key = key) ∧
      ((∀ a : Answer κ, (a.key, a.client) ∈ now.kept ↔ a ∈ known) ∧
        ∀ service region,
          Called now service region (Clients.client factory.numbering service region now)) ∧
      (∀ events, (∀ e ∈ events, e.isQuiet = true) →
        (now.run factory events).manager = now.manager) ∧
      ∀ e, e.forgets = true → ∀ later, ∀ b ∈ (now.after factory e).answers factory later,
        now.attempts.length ≤ b.client.number ∧
          ∀ a ∈ start.answers factory (before ++ during), a.client ≠ b.client := by
  intro start opened now known
  have hopened : opened.kept = [] := kept_of_getLast? factory hbefore
  have hnow : Coherent opened.attempts.length now := (coherent_of_kept hopened).run factory hduring
  have hknown : ∀ a : Answer κ, (a.key, a.client) ∈ now.kept ↔ a ∈ known := by
    refine fun a => ⟨fun ha => ?_, fun ha => mem_kept_of_mem_answers factory ha hduring⟩
    obtain hkept | hanswer := mem_kept_run factory ha
    · rw [hopened] at hkept
      cases hkept
    · exact hanswer
  refine ⟨fun a ha b hb => ?_, ⟨?_, fun key => ?_⟩, ⟨hknown, called factory now⟩,
    fun events => manager_run_quiet factory now, fun e he later b hb => ?_⟩
  · exact hnow.key_iff ((hknown a).mpr ha) ((hknown b).mpr hb)
  · rw [← List.nodup_reverse, ← hnow.keys]
    exact hnow.nodup
  · rw [← List.mem_reverse, ← hnow.keys, List.mem_map]
    constructor
    · rintro ⟨⟨_, client⟩, hentry, rfl⟩
      exact ⟨⟨_, client⟩, (hknown _).mp hentry, rfl⟩
    · rintro ⟨a, ha, rfl⟩
      exact ⟨_, (hknown a).mpr ha, rfl⟩
  · obtain ⟨hkept, hattempts⟩ := after_forgets factory now he
    have hle : now.attempts.length ≤ b.client.number := by
      rw [← hattempts]
      exact (coherent_of_kept hkept).le_number factory hb
    refine ⟨hle, fun a ha heq => ?_⟩
    have hstart : Coherent start.attempts.length start := coherent_of_kept rfl
    have hlt := hstart.number_lt factory ha
    rw [run_append] at hlt
    exact Nat.not_lt.mpr hle (heq ▸ hlt)

/-- The client of one service is not made at first, and the region of new settings changes. -/
def hesitant : List (ClientEvent Workshop) :=
  [.client "ec2" none, .elsewhere fun w => { w with obstacle := some (.fleet "down") },
    .client "s3" none, .setVariables [("AWS_DEFAULT_REGION", "us-west-2")], .client "s3" (some ""),
    .client "ec2" (some "eu-west-1"), .client "ec2" none]

/-- The second attempt at a client gives a new one; the other client stays, in the region of the
settings that were read at first. -/
theorem cache_coherent_hesitant :
    let opened : Process Workshop ℕ := Process.run Workshop.factory
      (.fresh ⟨[("_env_file", .null)], [], .empty⟩ (.fresh, [])) [.client "ec2" none, .clear]
    let known := opened.answers Workshop.factory hesitant
    known = [⟨("ec2", "us-east-1"), 1, 1⟩, ⟨("s3", "us-east-1"), 3, 2⟩,
        ⟨("ec2", "eu-west-1"), 4, 3⟩, ⟨("ec2", "us-east-1"), 1, 1⟩] ∧
      (∀ a ∈ known, ∀ b ∈ known, a.client = b.client ↔ a.key = b.key) ∧
      ∀ b ∈ ((opened.run Workshop.factory hesitant).after Workshop.factory .reset).answers
        Workshop.factory hesitant, 5 ≤ b.client.number := by
  intro opened known
  have hcoherent := cache_coherent Workshop.factory ⟨[("_env_file", .null)], [], .empty⟩ .fresh
    [.client "ec2" none, .clear] hesitant (by simp [ClientEvent.forgets])
    (by simp [hesitant, ClientEvent.forgets])
  refine ⟨by decide +kernel, hcoherent.1, fun b hb => ?_⟩
  have hattempts : (opened.run Workshop.factory hesitant).attempts.length = 5 := by decide +kernel
  exact hattempts ▸ (hcoherent.2.2.2.2 .reset rfl hesitant b hb).1

end BuildFleet.Ec2
