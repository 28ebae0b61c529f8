/-
What accepted settings hold.

Settings that pass every check hold, in each field, what its own check made of the value that was
found for it, or the default of the field; in a local mode the mock then stands in for what is still
not set.

* **`Settings.Drawn`** — every field comes from its raw value;
* **`load_drawn`** — the settings that are read from sources;
* **`endpointUrl_of_load`** — the address of the service in them.
-/
import BuildFleet.Settings.Source

namespace BuildFleet

open Json (Value)
open Schema (Checked Conversions LawfulConversions textOf?)
open Settings (Gathering Raw field lookup named fileVariables mockEndpoint)

/-- The field holds what the check made of the raw value, or the default without one. -/
def FieldDrawn {α : Type} (raw : Raw) (name : String) (default : α) (read : Value → Checked α)
    (a : α) : Prop :=
  match raw name with
  | none => a = default
  | some (_, v) => (read v).verdict = .accepted a

theorem field_accepted {α : Type} {raw : Raw} {name : String} {default : α}
    {read : Value → Checked α} {a : α} :
    (field raw name default read).verdict = .accepted a ↔ FieldDrawn raw name default read a := by
  rw [field, FieldDrawn]
  cases raw name with
  | none =>
    show Schema.Verdict.accepted default = .accepted a ↔ a = default
    rw [Schema.Verdict.accepted.injEq, eq_comm]
  | some found => exact Checked.under_accepted

variable [Conversions]

/-- Every field of the settings comes from its raw value. -/
structure Settings.Drawn (raw : Raw) (s : Settings) : Prop where
  appName : FieldDrawn raw "app_name" "fleet-controller" Schema.asText s.appName
  mode : FieldDrawn raw "deployment_mode" .localDev Mode.ofValue s.mode
  region : FieldDrawn raw "aws_region" "us-east-1" Schema.asText s.region
  accessKeyId : FieldDrawn raw "aws_access_key_id" none (Schema.asOptional Schema.asText)
    s.accessKeyId
  secretAccessKey : FieldDrawn raw "aws_secret_access_key" none (Schema.asOptional Schema.asText)
    s.secretAccessKey
  endpointUrl : FieldDrawn raw "aws_endpoint_url" none (Schema.asOptional Schema.asText)
    s.endpointUrl
  instanceCapText : FieldDrawn raw "instance_cap_str" "" Settings.capTextOfValue s.instanceCapText
  templatesFile : FieldDrawn raw "templates_file" "templates.json" Schema.asText s.templatesFile
  launchWorkers : FieldDrawn raw "launch_workers" ⟨8, by decide⟩ Schema.asPositive s.launchWorkers
  launchTimeout : FieldDrawn raw "launch_timeout_seconds" ⟨600, by decide⟩ Schema.asPositive
    s.launchTimeout
  initialDelay : FieldDrawn raw "initial_delay_seconds" 100.0 Schema.asNonnegativeDouble
    s.initialDelay
  recurrencePeriod : FieldDrawn raw "recurrence_period_seconds" 10.0 Schema.asPositiveDouble
    s.recurrencePeriod
  retentionDisabled : FieldDrawn raw "retention_disabled" false Schema.asBool s.retentionDisabled
  logLevel : FieldDrawn raw "log_level" "INFO" Schema.asText s.logLevel

/-- What is accepted are the values of the fields, completed for the local modes. -/
theorem ofRaw_drawn {raw : Raw} {s : Settings} :
    (Settings.ofRaw raw).verdict = .accepted s ↔
      ∃ given, Settings.Drawn raw given ∧ given.withLocalDefaults = s := by
  rw [Settings.ofRaw, Checked.map_accepted]
  simp only [Checked.seq_accepted, Checked.map_accepted, field_accepted]
  constructor
  · rintro ⟨given, hgiven, rfl⟩
    refine ⟨given, ?_, rfl⟩
    -- One check after the other is taken off the end of the row.
    obtain ⟨_, logLevel, ⟨_, retentionDisabled, ⟨_, recurrencePeriod, ⟨_, initialDelay, ⟨_,
      launchTimeout, ⟨_, launchWorkers, ⟨_, templatesFile, ⟨_, instanceCapText, ⟨_, endpointUrl, ⟨_,
      secretAccessKey, ⟨_, accessKeyId, ⟨_, region, ⟨_, mode, ⟨appName, h₁, rfl⟩, h₂, rfl⟩, h₃,
      rfl⟩, h₄, rfl⟩, h₅, rfl⟩, h₆, rfl⟩, h₇, rfl⟩, h₈, rfl⟩, h₉, rfl⟩, h₁₀, rfl⟩, h₁₁, rfl⟩, h₁₂,
      rfl⟩, h₁₃, rfl⟩, h₁₄, rfl⟩ := hgiven
    exact ⟨h₁, h₂, h₃, h₄, h₅, h₆, h₇, h₈, h₉, h₁₀, h₁₁, h₁₂, h₁₃, h₁₄⟩
  · rintro ⟨given, h, rfl⟩
    exact ⟨given, ⟨_, _, ⟨_, _, ⟨_, _, ⟨_, _, ⟨_, _, ⟨_, _, ⟨_, _, ⟨_, _, ⟨_, _, ⟨_, _, ⟨_, _, ⟨_,
      _, ⟨_, _, ⟨_, h.appName, rfl⟩, h.mode, rfl⟩, h.region, rfl⟩, h.accessKeyId, rfl⟩,
      h.secretAccessKey, rfl⟩, h.endpointUrl, rfl⟩, h.instanceCapText, rfl⟩, h.templatesFile, rfl⟩,
      h.launchWorkers, rfl⟩, h.launchTimeout, rfl⟩, h.initialDelay, rfl⟩, h.recurrencePeriod,
      rfl⟩, h.retentionDisabled, rfl⟩, h.logLevel, rfl⟩, rfl⟩

/-- Settings are read once the file of variables is, and come from its variables and from the other
sources. -/
theorem load_drawn [Gathering] {sources : Settings.Sources} {s : Settings} :
    Settings.load sources = .ok s ↔
      ∃ fromFile, fileVariables sources = .ok fromFile ∧
        ∃ given, Settings.Drawn (named (lookup sources fromFile)) given ∧
          given.withLocalDefaults = s := by
  rw [Settings.load]
  cases fileVariables sources with
  | error e => simp [bind, Except.bind]
  | ok fromFile => simp [bind, Except.bind, Checked.toExcept_eq_ok, ofRaw_drawn]

/-! ### The address of the service -/

/-- The address of the service that sources give; there is none without a value and for null. -/
def Settings.Sources.address? [Gathering] (s : Sources) : Option String :=
  match fileVariables s with
  | .ok fromFile => (lookup s fromFile "aws_endpoint_url").bind fun found => textOf? found.2
  | .error _ => none

theorem textOf?_of_accepted [LawfulConversions] {v : Value} {text : Option String}
    (h : (Schema.asOptional Schema.asText v).verdict = .accepted text) : text = textOf? v := by
  have hsome : ∀ {v : Value}, (some <$> Schema.asText v).verdict = .accepted text →
      text = textOf? v := by
    intro v h
    obtain ⟨s, hs, rfl⟩ := Checked.map_accepted.mp h
    exact (LawfulConversions.asText_accepted.mp hs).symm
  cases v with
  | null =>
    cases h
    rfl
  | _ => exact hsome h

/-- The address in settings that are read is the one that is given; where there is none, a local
mode has that of the mock. -/
theorem endpointUrl_of_load [LawfulConversions] [Gathering] {sources : Settings.Sources}
    {s : Settings} (h : Settings.load sources = .ok s) :
    s.endpointUrl =
      if s.mode.isLocal then some (sources.address?.getD mockEndpoint) else sources.address? := by
  obtain ⟨fromFile, hfile, given, hdrawn, rfl⟩ := load_drawn.mp h
  have haddress : given.endpointUrl = sources.address? := by
    have hurl := hdrawn.endpointUrl
    rw [FieldDrawn, named] at hurl
    rw [Settings.Sources.address?, hfile]
    dsimp only
    cases hfound : lookup sources fromFile "aws_endpoint_url" with
    | none =>
      rw [hfound] at hurl
      exact hurl
    | some found =>
      rw [hfound] at hurl
      exact textOf?_of_accepted hurl
  rw [← haddress, Settings.withLocalDefaults]
  by_cases hlocal : given.mode.isLocal
  · rw [if_pos hlocal, if_pos hlocal]
  · rw [if_neg hlocal, if_neg hlocal]

end BuildFleet
