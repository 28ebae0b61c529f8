/-
Clients of the local modes.

Over any history of a process, with clients asked for, forgotten and not coming about, with the
manager and the settings dropped, and with the variables, the files and the world outside changing
in between, every client is ordered as the settings of the manager say:

* **`ClientEvent`**, **`Clients.run`** — histories, with a record of all orders;
* **`Opened`** — what it comes to to look for the manager;
* **`Clients.Grounded`** — settings were read from the sources of the process at some point;
* **`orders_isolated`** — in a local mode clients go to the address that was given or to the mock,
  and never by a profile, and otherwise to no special address.

An address that is given as an empty text is neither replaced by that of the mock nor used.
-/
import BuildFleet.Ec2.Clients
import BuildFleet.Proofs.Reading
import BuildFleet.Schema.Convert
import BuildFleet.Settings.Precedence
import Mathlib.Data.List.Infix

namespace BuildFleet.Ec2

open Schema (Conversions LawfulConversions)
open Settings (Gathering mockEndpoint)

variable {σ κ : Type}

/-! ### Histories -/

/-- What happens to the clients of a process, or around them. -/
inductive ClientEvent (σ : Type) where
  /-- A client is asked for. -/
  | client (service : String) (region : Option String)
  | clear
  | reset
  | dropSettings
  | setVariables (changes : List (String × String))
  | unsetVariable (name : String)
  /-- The files change, and among them the file of variables. -/
  | setFiles (directory : Directory)
  /-- Something changes where clients are made. -/
  | elsewhere (change : σ → σ)

/-- A factory that keeps a record of what is ordered, in order. -/
def ClientFactory.recording (factory : ClientFactory σ κ) :
    ClientFactory (σ × List ClientOrder) κ where
  create order w :=
    let (outcome, outside) := factory.create order w.1
    (outcome, (outside, w.2 ++ [order]))

section Parameters

variable [Conversions] [Gathering]

namespace Clients

/-- The clients of a process after an event. -/
def perform (factory : ClientFactory σ κ) (c : Clients (σ × List ClientOrder) κ) :
    ClientEvent σ → Clients (σ × List ClientOrder) κ
  | .client service region => (client factory.recording service region c).2
  | .clear => (clear c).2
  | .reset => (reset c).2
  | .dropSettings => (dropSettings c).2
  | .setVariables changes => (setVariables changes c).2
  | .unsetVariable name => (unsetVariable name c).2
  | .setFiles directory => { c with sources := { c.sources with directory } }
  | .elsewhere change => { c with outside := (change c.outside.1, c.outside.2) }

/-- The clients of a process after some events. -/
def run (factory : ClientFactory σ κ) (c : Clients (σ × List ClientOrder) κ)
    (events : List (ClientEvent σ)) : Clients (σ × List ClientOrder) κ :=
  events.foldl (perform factory) c

theorem run_append (factory : ClientFactory σ κ) (c : Clients (σ × List ClientOrder) κ)
    (events more : List (ClientEvent σ)) :
    run factory c (events ++ more) = run factory (run factory c events) more :=
  List.foldl_append

/-! ### The manager -/

/-- What it comes to to look for the manager: it is there, it is built from settings, or the
settings cannot be read. -/
inductive Opened (c : Clients σ κ) : Except Failure (Manager κ) × Clients σ κ → Prop
  | kept {m : Manager κ} (hm : c.manager = some m) : Opened c (.ok m, c)
  | built {s : Settings} {log : List LogEntry} (hm : c.manager = none)
      (hs : c.settings = some s ∨ Settings.load c.sources = .ok s) :
      Opened c (.ok ⟨s, []⟩, { c with settings := some s, manager := some ⟨s, []⟩, log })
  | failed {e : Failure} (hm : c.manager = none) (hs : Settings.load c.sources = .error e) :
      Opened c (.error e, c)

theorem opened (c : Clients σ κ) : Opened c (currentManager c) := by
  cases hm : c.manager with
  | some m =>
    have hkept : currentManager c = (.ok m, c) := by simp [currentManager, hm]
    rw [hkept]
    exact .kept hm
  | none =>
    cases hs : c.settings with
    | some s =>
      have hbuilt : currentManager c = (.ok ⟨s, []⟩, { c with
          settings := some s, manager := some ⟨s, []⟩,
          log := c.log ++ [⟨.info, openingNote s⟩] }) := by
        simp [currentManager, currentSettings, note, hm, hs]
      rw [hbuilt]
      exact .built hm (.inl hs)
    | none =>
      cases hload : Settings.load c.sources with
      | ok s =>
        have hbuilt : currentManager c = (.ok ⟨s, []⟩, { c with
            settings := some s, manager := some ⟨s, []⟩,
            log := c.log ++ [⟨.info, openingNote s⟩] }) := by
          simp [currentManager, currentSettings, note, hm, hs, hload]
        rw [hbuilt]
        exact .built hm (.inr hload)
      | error e =>
        have hfailed : currentManager c = (.error e, c) := by
          simp [currentManager, currentSettings, hm, hs, hload]
        rw [hfailed]
        exact .failed hm hload

/-- What it comes to to make a client: it is made and kept, or it does not come about. -/
inductive Made (factory : ClientFactory σ κ) (m : Manager κ) (key : String × String)
    (c : Clients σ κ) : Except Failure κ × Clients σ κ → Prop
  | kept {client : κ} {w : σ} {log : List LogEntry}
      (h : factory.create (m.order c.sources.environment key) c.outside = (.ok client, w)) :
      Made factory m key c (.ok client, { c with
        outside := w, manager := some { m with clients := (key, client) :: m.clients }, log })
  | lost {e : Failure} {w : σ} {log : List LogEntry}
      (h : factory.create (m.order c.sources.environment key) c.outside = (.error e, w)) :
      Made factory m key c (.error e, { c with outside := w, log })

omit [Conversions] [Gathering] in
theorem made (factory : ClientFactory σ κ) (m : Manager κ) (key : String × String)
    (c : Clients σ κ) : Made factory m key c (make factory m key c) := by
  -- A profile only shows in the log.
  rcases h : factory.create (m.order c.sources.environment key) c.outside with ⟨e | client, w⟩
  · obtain ⟨log, hmake⟩ : ∃ log, make factory m key c =
        (.error e, { c with outside := w, log }) := by
      cases hp : m.profile? c.sources.environment with
      | none => exact ⟨_, by simp [make, hp, h, note]; rfl⟩
      | some name => exact ⟨_, by simp [make, hp, h, note]; rfl⟩
    rw [hmake]
    exact .lost h
  · obtain ⟨log, hmake⟩ : ∃ log, make factory m key c = (.ok client, { c with
        outside := w, manager := some { m with clients := (key, client) :: m.clients }, log }) := by
      cases hp : m.profile? c.sources.environment with
      | none => exact ⟨_, by simp [make, hp, h, note]; rfl⟩
      | some name => exact ⟨_, by simp [make, hp, h, note]; rfl⟩
    rw [hmake]
    exact .kept h

/-- What it comes to to ask for a client: there is no manager for it, the manager has it, or it is
to be made. -/
inductive Asked (factory : ClientFactory σ κ) (service : String) (region : Option String)
    (c : Clients σ κ) : Except Failure κ × Clients σ κ → Prop
  | refused {e : Failure} {c₁ : Clients σ κ} (h : Opened c (.error e, c₁)) :
      Asked factory service region c (.error e, c₁)
  | found {m : Manager κ} {c₁ : Clients σ κ} {client : κ} (h : Opened c (.ok m, c₁))
      (hfound : m.find? (service, m.regionFor region) = some client) :
      Asked factory service region c (.ok client, c₁)
  | made {m : Manager κ} {c₁ : Clients σ κ} {outcome : Except Failure κ × Clients σ κ}
      (h : Opened c (.ok m, c₁)) (hfound : m.find? (service, m.regionFor region) = none)
      (hmade : Made factory m (service, m.regionFor region) c₁ outcome) :
      Asked factory service region c outcome

theorem asked (factory : ClientFactory σ κ) (service : String) (region : Option String)
    (c : Clients σ κ) : Asked factory service region c (client factory service region c) := by
  have hopened := opened c
  rw [client, Action.bind_apply]
  rcases hm : currentManager c with ⟨e | m, c₁⟩
  · rw [hm] at hopened
    exact .refused hopened
  · rw [hm] at hopened
    dsimp only
    cases hfound : m.find? (service, m.regionFor region) with
    | some client => exact .found hopened hfound
    | none => exact .made hopened hfound (made factory m _ c₁)

/-! ### What is ordered -/

theorem Opened.manager {c c₁ : Clients σ κ} {m : Manager κ} (h : Opened c (.ok m, c₁)) :
    c₁.manager = some m := by
  cases h with
  | kept hm => exact hm
  | built hm hs => rfl

theorem Opened.outside {c : Clients σ κ} {outcome : Except Failure (Manager κ) × Clients σ κ}
    (h : Opened c outcome) : outcome.2.outside = c.outside := by
  cases h <;> rfl

/-- What an event orders is what the manager orders that is there after it. -/
theorem orders_perform (factory : ClientFactory σ κ) (c : Clients (σ × List ClientOrder) κ)
    (e : ClientEvent σ) :
    ∃ orders, (perform factory c e).outside.2 = c.outside.2 ++ orders ∧
      ∀ order ∈ orders, ∃ m environment key, (perform factory c e).manager = some m ∧
        order = m.order environment key := by
  have hquiet : (perform factory c e).outside.2 = c.outside.2 →
      ∃ orders, (perform factory c e).outside.2 = c.outside.2 ++ orders ∧
        ∀ order ∈ orders, ∃ m environment key, (perform factory c e).manager = some m ∧
          order = m.order environment key :=
    fun h => ⟨[], by rw [h, List.append_nil], fun order ho => absurd ho List.not_mem_nil⟩
  cases e with
  | client service region =>
    have hasked := asked factory.recording service region c
    simp only [perform] at hquiet ⊢
    generalize client factory.recording service region c = outcome at hasked hquiet ⊢
    cases hasked with
    | refused h => exact hquiet (congrArg Prod.snd h.outside)
    | found h hfound => exact hquiet (congrArg Prod.snd h.outside)
    | @made m c₁ _ h hfound hmade =>
      have houtside : c₁.outside = c.outside := h.outside
      refine ⟨[m.order c₁.sources.environment (service, m.regionFor region)], ?_, ?_⟩
      · -- The record grows whether the client is made or not.
        have hrecord : ∀ order r w, factory.recording.create order c₁.outside = (r, w) →
            w.2 = c.outside.2 ++ [order] := by
          intro order r w hcreate
          have hw : (factory.recording.create order c₁.outside).2 = w := congrArg Prod.snd hcreate
          rw [← hw, ← houtside]
          rfl
        cases hmade with
        | kept hcreate => exact hrecord _ _ _ hcreate
        | lost hcreate => exact hrecord _ _ _ hcreate
      · intro order ho
        obtain rfl := List.mem_singleton.mp ho
        cases hmade with
        | kept hcreate => exact ⟨_, _, _, rfl, rfl⟩
        | lost hcreate => exact ⟨m, _, _, h.manager, rfl⟩
  | clear =>
    refine hquiet ?_
    have hopened := opened c
    show (clear c).2.outside.2 = c.outside.2
    rw [clear, Action.bind_apply]
    generalize currentManager c = outcome at hopened
    cases hopened <;> rfl
  | _ => exact hquiet rfl

/-! ### Where settings come from -/

/-- The settings, and those of the manager, were read from sources that were seen. -/
structure Grounded (seen : Settings.Sources → Prop) (c : Clients σ κ) : Prop where
  sources : seen c.sources
  settings : ∀ s, c.settings = some s → ∃ origin, seen origin ∧ Settings.load origin = .ok s
  manager : ∀ m, c.manager = some m →
    ∃ origin, seen origin ∧ Settings.load origin = .ok m.settings

variable {seen : Settings.Sources → Prop}

theorem Grounded.opened {c : Clients σ κ} {outcome : Except Failure (Manager κ) × Clients σ κ}
    (hc : Grounded seen c) (h : Opened c outcome) : Grounded seen outcome.2 := by
  cases h with
  | kept hm => exact hc
  | @built s log hm hs =>
    have horigin : ∃ origin, seen origin ∧ Settings.load origin = .ok s := by
      rcases hs with hs | hs
      · exact hc.settings s hs
      · exact ⟨c.sources, hc.sources, hs⟩
    refine ⟨hc.sources, fun s' hs' => ?_, fun m hm => ?_⟩
    · cases hs'
      exact horigin
    · cases hm
      exact horigin
  | failed hm hs => exact hc

theorem Grounded.perform {factory : ClientFactory σ κ} {c : Clients (σ × List ClientOrder) κ}
    {e : ClientEvent σ} (hc : Grounded seen c) (hseen : seen (perform factory c e).sources) :
    Grounded seen (perform factory c e) := by
  cases e with
  | client service region =>
    have hasked := asked factory.recording service region c
    simp only [Clients.perform] at hseen ⊢
    generalize client factory.recording service region c = outcome at hasked hseen ⊢
    cases hasked with
    | refused h => exact hc.opened h
    | found h hfound => exact hc.opened h
    | made h hfound hmade =>
      have hopen := hc.opened h
      cases hmade with
      | kept hcreate =>
        refine ⟨hopen.sources, hopen.settings, fun m' hm' => ?_⟩
        have horigin := hopen.manager _ h.manager
        cases hm'
        exact horigin
      | lost hcreate => exact ⟨hopen.sources, hopen.settings, hopen.manager⟩
  | clear =>
    have hopened := Clients.opened c
    simp only [Clients.perform, clear, Action.bind_apply] at hseen ⊢
    rcases hm : currentManager c with ⟨e | m, c₁⟩
    · rw [hm] at hopened
      exact hc.opened hopened
    · rw [hm] at hopened
      have hopen := hc.opened hopened
      refine ⟨hopen.sources, hopen.settings, fun m' hm' => ?_⟩
      have horigin := hopen.manager _ hopened.manager
      cases hm'
      exact horigin
  | reset => exact ⟨hc.sources, hc.settings, fun m hm => nomatch hm⟩
  | dropSettings => exact ⟨hc.sources, (fun s hs => nomatch hs), hc.manager⟩
  | setVariables changes => exact ⟨hseen, hc.settings, hc.manager⟩
  | unsetVariable name => exact ⟨hseen, hc.settings, hc.manager⟩
  | setFiles directory => exact ⟨hseen, hc.settings, hc.manager⟩
  | elsewhere change => exact ⟨hc.sources, hc.settings, hc.manager⟩

/-- By induction on the events: what was read before stays seen. -/
theorem Grounded.run {factory : ClientFactory σ κ} {c : Clients (σ × List ClientOrder) κ}
    {events : List (ClientEvent σ)} (hc : Grounded seen c)
    (hseen : ∀ before, before <+: events → seen (run factory c before).sources) :
    Grounded seen (run factory c events) := by
  induction events generalizing c with
  | nil => exact hc
  | cons e rest ih =>
    refine ih (hc.perform (hseen [e] ⟨rest, rfl⟩)) fun before hbefore => ?_
    exact hseen (e :: before) (List.cons_prefix_cons.mpr ⟨rfl, hbefore⟩)

end Clients

/-! ### Orders of a manager -/

/-- Under settings that were read from sources, a local mode orders clients with keys, and at the
address that was given or that of the mock, if it is not empty. -/
theorem order_of_load [LawfulConversions] {m : Manager κ} {origin : Settings.Sources}
    (h : Settings.load origin = .ok m.settings) (environment : List (String × String))
    (key : String × String) :
    if m.settings.mode.isLocal then
      (∀ name, (m.order environment key).credentials ≠ .profile name) ∧
        (m.order environment key).endpointUrl =
          if origin.address? = some "" then none
          else some (origin.address?.getD mockEndpoint)
    else (m.order environment key).endpointUrl = none := by
  have hurl := endpointUrl_of_load h
  by_cases hlocal : m.settings.mode.isLocal
  · rw [if_pos hlocal] at hurl ⊢
    have hprofile : m.profile? environment = none := by rw [Manager.profile?, if_pos hlocal]
    have hendpoint : m.endpoint? =
        (some (origin.address?.getD mockEndpoint)).filter (!·.isEmpty) := by
      rw [Manager.endpoint?, if_pos hlocal, hurl]
    constructor
    · intro name
      rw [Manager.order, hprofile]
      exact Credentials.noConfusion
    · show m.endpoint? = _
      rw [hendpoint]
      cases origin.address? with
      | none => rfl
      | some url =>
        by_cases hempty : url = ""
        · simp [hempty]
        · simp [hempty]
  · rw [if_neg hlocal]
    show m.endpoint? = none
    rw [Manager.endpoint?, if_neg hlocal]

/-- **In a local mode no client is made by a profile, and every one goes to the address that was
given when the settings were read, or to the mock**, over any history of the process; only if that
address is the empty text, the client is made without one, and goes where the clients of the service
itself go.  In the other mode no client is made with an address. -/
theorem orders_isolated [LawfulConversions] (factory : ClientFactory σ κ)
    (sources : Settings.Sources) (outside : σ) (events : List (ClientEvent σ)) (e : ClientEvent σ) :
    let start : Clients (σ × List ClientOrder) κ := .fresh sources (outside, [])
    let now := start.run factory events
    let next := now.perform factory e
    ∃ orders, next.outside.2 = now.outside.2 ++ orders ∧ ∀ order ∈ orders, ∃ m,
      next.manager = some m ∧ ∃ before, before <+: events ++ [e] ∧
        let origin := (start.run factory before).sources
        Settings.load origin = .ok m.settings ∧
          if m.settings.mode.isLocal then
            (∀ name, order.credentials ≠ .profile name) ∧
              order.endpointUrl =
                if origin.address? = some "" then none
                else some (origin.address?.getD mockEndpoint)
          else order.endpointUrl = none := by
  intro start now next
  have hnext : next = start.run factory (events ++ [e]) := by
    rw [Clients.run_append]
    rfl
  -- Everything that was read was read from the sources at some point of the history.
  have hfresh : Clients.Grounded
      (fun origin => ∃ before, before <+: events ++ [e] ∧
        origin = (start.run factory before).sources) start :=
    ⟨⟨[], List.nil_prefix, rfl⟩, (fun s hs => nomatch hs), fun m hm => nomatch hm⟩
  have hgrounded : Clients.Grounded _ (start.run factory (events ++ [e])) :=
    hfresh.run fun before hbefore => ⟨before, hbefore, rfl⟩
  obtain ⟨orders, hrecord, horders⟩ := now.orders_perform factory e
  refine ⟨orders, hrecord, fun order ho => ?_⟩
  obtain ⟨m, environment, key, hm, rfl⟩ := horders order ho
  rw [← hnext] at hgrounded
  obtain ⟨origin, ⟨before, hbefore, rfl⟩, hload⟩ := hgrounded.manager m hm
  exact ⟨m, hm, before, hbefore, hload, order_of_load hload environment key⟩

end Parameters

/-- A client is asked for where nothing is set, and then the variables of another mode are. -/
def belatedProduction : List (ClientEvent Workshop) :=
  [.client "ec2" none, .setVariables [("FLEET_DEPLOYMENT_MODE", "aws-prod"), ("AWS_PROFILE", "me")]]

/-- The manager stays in its local mode, and its next client goes to the mock as well. -/
theorem orders_isolated_belatedProduction :
    let start : Clients (Workshop × List ClientOrder) Nat :=
      .fresh ⟨[("_env_file", .null)], [], .empty⟩ (.fresh, [])
    let now := start.run Workshop.factory belatedProduction
    let next := now.perform Workshop.factory (.client "s3" none)
    ∃ order, next.outside.2 = now.outside.2 ++ [order] ∧
      (∀ name, order.credentials ≠ .profile name) ∧
      order.endpointUrl = some "http://localhost:5000" := by
  intro start now next
  obtain ⟨orders, hrecord, horders⟩ := orders_isolated Workshop.factory
    ⟨[("_env_file", .null)], [], .empty⟩ .fresh belatedProduction (.client "s3" none)
  obtain ⟨order, rfl⟩ : ∃ order, orders = [order] := by
    have hlength : next.outside.2.length = now.outside.2.length + 1 := by decide +kernel
    rw [show next.outside.2 = now.outside.2 ++ orders from hrecord, List.length_append] at hlength
    exact List.length_eq_one_iff.mp (Nat.add_left_cancel hlength)
  obtain ⟨m, hm, before, hbefore, -, hlocal⟩ := horders order (List.mem_singleton.mpr rfl)
  have hmode : m.settings.mode.isLocal = true := by
    have hkept : next.manager.map (·.settings.mode) = some .localDev := by decide +kernel
    rw [show next.manager = some m from hm] at hkept
    have hlocalDev : m.settings.mode = .localDev := Option.some.inj hkept
    rw [hlocalDev]
    rfl
  -- At no point of the history is there an address.
  have haddress : ∀ before ∈ (belatedProduction ++ [ClientEvent.client "s3" none]).inits,
      (start.run Workshop.factory before).sources.address? = none := by decide +kernel
  rw [if_pos hmode, haddress before ((List.mem_inits _ _).mpr hbefore)] at hlocal
  exact ⟨order, hrecord, hlocal⟩

/-- A process in which the address of the service is set to an empty text. -/
def emptyAddress : Clients (Workshop × List ClientOrder) Nat :=
  .fresh ⟨[], [("AWS_ENDPOINT_URL", "")], .empty⟩ (.fresh, [])

theorem splitOnAux_of_ne {s sep : String} {b i j : String.Pos.Raw} {parts : List String}
    (hend : i.atEnd s = false) (hne : (i.get s == j.get sep) = false) :
    String.splitOnAux s sep b i j parts =
      String.splitOnAux s sep b ((i.unoffsetBy j).next s) 0 parts := by
  rw [String.splitOnAux, if_neg (by simp [hend]), if_neg (by simp [hne])]

theorem splitOnAux_of_atEnd {s sep : String} {b i j : String.Pos.Raw} {parts : List String}
    (hend : i.atEnd s = true) :
    String.splitOnAux s sep b i j parts = (b.extract s i :: parts).reverse := by
  rw [String.splitOnAux, if_pos hend]

/-- The usual file of variables is one step away. -/
theorem stepsOf_variablesFile : Place.stepsOf Settings.variablesFile = [".env"] := by
  rw [Settings.variablesFile, Place.stepsOf, String.splitOn, if_neg (by decide)]
  -- None of its four characters is a slash.
  iterate 4 rw [splitOnAux_of_ne (by decide +kernel) (by decide +kernel)]
  rw [splitOnAux_of_atEnd (by decide +kernel)]
  decide +kernel

theorem readText_variablesFile :
    Directory.empty.readText Settings.variablesFile = .error .absent := by
  have hplain : Settings.variablesFile.contains '\x00' = false := by simp [Settings.variablesFile]
  have hshort : ¬Directory.pathLimit < Settings.variablesFile.utf8ByteSize := by decide +kernel
  have hstart : Place.start Settings.variablesFile = ⟨.working 0, []⟩ := by decide +kernel
  have hwalk : Directory.empty.walk ⟨.working 0, []⟩ ".env" = .error .absent := rfl
  have hfind : Directory.empty.find Settings.variablesFile = .error .absent := by
    simp only [Directory.find, hplain, if_neg hshort, stepsOf_variablesFile, hstart,
      List.foldlM_cons, hwalk]
    rfl
  rw [Directory.readText, hfind]
  rfl

/-- An empty directory has no file of variables. -/
theorem fileVariables_of_empty (environment : List (String × String)) :
    Settings.fileVariables ⟨[], environment, .empty⟩ = .ok [] := by
  have hname : (⟨[], environment, .empty⟩ : Settings.Sources).variablesFile? =
      some Settings.variablesFile := rfl
  rw [Settings.fileVariables, hname]
  dsimp only
  rw [readText_variablesFile]

theorem load_emptyAddress : ∃ s, Settings.load emptyAddress.sources = .ok s ∧
    s.mode = .localDev ∧ s.endpointUrl = some "" := by
  have hfile : Settings.fileVariables emptyAddress.sources = .ok [] := fileVariables_of_empty _
  have hload : Settings.load emptyAddress.sources =
      (Settings.ofRaw (Settings.named (Settings.lookup emptyAddress.sources []))).toExcept := by
    simp only [Settings.load, hfile, bind, Except.bind]
  have hread : (Settings.load emptyAddress.sources).toOption.map
      (fun s => (s.mode, s.endpointUrl)) = some (.localDev, some "") := by
    rw [hload]
    decide +kernel
  cases h : Settings.load emptyAddress.sources with
  | error e =>
    rw [h] at hread
    cases hread
  | ok s =>
    rw [h] at hread
    obtain ⟨hmode, hurl⟩ := Prod.mk.inj (Option.some.inj hread)
    exact ⟨s, rfl, hmode, hurl⟩

/-- With an empty address, a client of a local mode is made without one. -/
theorem local_client_without_address :
    ∃ m order, (emptyAddress.run Workshop.factory [.client "ec2" none]).manager = some m ∧
      (emptyAddress.run Workshop.factory [.client "ec2" none]).outside.2 = [order] ∧
      m.settings.mode = .localDev ∧ order.endpointUrl = none := by
  obtain ⟨s, hload, hmode, hurl⟩ := load_emptyAddress
  obtain ⟨log, hmanager⟩ : ∃ log, Clients.currentManager emptyAddress = (.ok ⟨s, []⟩,
      { emptyAddress with settings := some s, manager := some ⟨s, []⟩, log }) := by
    have hsettings : emptyAddress.settings = none := rfl
    have hnone : emptyAddress.manager = none := rfl
    exact ⟨_, by
      simp [Clients.currentManager, Clients.currentSettings, Clients.note, hsettings, hnone, hload]
      rfl⟩
  have hmade := Clients.made Workshop.factory.recording ⟨s, []⟩ ("ec2", s.region)
    { emptyAddress with settings := some s, manager := some ⟨s, []⟩, log }
  have hclient : Clients.client Workshop.factory.recording "ec2" none emptyAddress =
      Clients.make Workshop.factory.recording ⟨s, []⟩ ("ec2", s.region)
        { emptyAddress with settings := some s, manager := some ⟨s, []⟩, log } := by
    rw [Clients.client, Action.bind_of_ok hmanager]
    rfl
  have hrun : emptyAddress.run Workshop.factory [.client "ec2" none] =
      (Clients.client Workshop.factory.recording "ec2" none emptyAddress).2 := rfl
  rw [hrun, hclient]
  generalize Clients.make Workshop.factory.recording ⟨s, []⟩ ("ec2", s.region)
    { emptyAddress with settings := some s, manager := some ⟨s, []⟩, log } = outcome at hmade
  cases hmade with
  | kept hcreate =>
    cases hcreate
    refine ⟨_, _, rfl, rfl, hmode, ?_⟩
    show Manager.endpoint? _ = none
    rw [Manager.endpoint?, hmode, hurl]
    rfl
  | lost hcreate => cases hcreate

end BuildFleet.Ec2
