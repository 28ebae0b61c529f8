/-
Settings that are handed on.

Settings are written as the variables of another process, which reads its own settings from them.
It finds each setting that was written under its own variable and takes it as it is, so that what it
hands on in turn is the same again; the settings that were not written have their defaults.

* **`Settings.Exported`** — the settings that are written, with their variables and their texts;
* **`Settings.Exported.find?`** — where the other process finds a setting;
* **`load_environment`** — the settings of the other process;
* **`environment_settles`** — they are the same as far as they were written.
-/
import BuildFleet.Proofs.CapText

namespace BuildFleet

open Json (Value)
open Schema (Conversions LawfulConversions)
open Schema.LawfulConversions
open Settings (Gathering LawfulGathering Raw field findVariable lookup named ownVariable
  sharedName? capTextOfValue)

namespace Settings

/-- The settings that are written for another process. -/
inductive Exported where
  | mode
  | region
  | endpointUrl
  | instanceCapText
  | templatesFile
  | retentionDisabled
  | logLevel
deriving DecidableEq

namespace Exported

/-- The settings that are written, in order. -/
def all : List Exported :=
  [mode, region, endpointUrl, instanceCapText, templatesFile, retentionDisabled, logLevel]

/-- The variable of a setting. -/
def variableName : Exported → String
  | mode => "FLEET_DEPLOYMENT_MODE"
  | region => "AWS_DEFAULT_REGION"
  | endpointUrl => "AWS_ENDPOINT_URL"
  | instanceCapText => "FLEET_INSTANCE_CAP_STR"
  | templatesFile => "FLEET_TEMPLATES_FILE"
  | retentionDisabled => "FLEET_RETENTION_DISABLED"
  | logLevel => "FLEET_LOG_LEVEL"

/-- What is written for a setting. -/
def text (s : Settings) : Exported → String
  | mode => s.mode.name
  | region => s.region
  | endpointUrl => s.endpointUrl.getD ""
  | instanceCapText => s.instanceCapText
  | templatesFile => s.templatesFile
  | retentionDisabled => if s.retentionDisabled then "true" else "false"
  | logLevel => s.logLevel

/-- The setting that is found under a name. -/
def find? (name : String) : Option Exported :=
  let under := findVariable (all.map fun e => (e.variableName, e))
  match sharedName? name with
  | some shared => under shared <|> under (ownVariable name)
  | none => under (ownVariable name)

end Exported

theorem environment_eq (s : Settings) :
    s.environment = Exported.all.map fun e => (e.variableName, e.text s) := rfl

theorem findVariable_map {α β : Type} (f : α → β) (known : List (String × α)) (name : String) :
    findVariable (known.map fun v => (v.1, f v.2)) name = (findVariable known name).map f := by
  rw [findVariable, findVariable, ← List.map_reverse, List.find?_map, Option.map_map,
    Option.map_map]
  rfl

/-- The raw values are what was written, and there are no others. -/
def Exported.Given (s : Settings) (raw : Raw) : Prop :=
  ∀ name, (raw name).map (·.2) = (find? name).map fun e => .text (e.text s)

theorem map_snd_named (raw : Raw) (name : String) :
    (named raw name).map (·.2) = (raw name).map (·.2) := by
  rw [named, Option.map_map]
  rfl

theorem given_environment [Gathering] [LawfulGathering] (s : Settings) (directory : Directory) :
    Exported.Given s (named (lookup ⟨[], s.environment, directory⟩ [])) := by
  intro name
  have hwritten : ∀ n, findVariable s.environment n =
      (findVariable (Exported.all.map fun e => (e.variableName, e)) n).map (·.text s) := by
    intro n
    rw [environment_eq, ← findVariable_map, List.map_map]
    rfl
  rw [map_snd_named, LawfulGathering.lookup_environment, Exported.find?, hwritten]
  cases sharedName? name with
  | none => simp [Function.comp_def]
  | some shared =>
    rw [Option.bind_some, hwritten]
    cases hshared : findVariable (Exported.all.map fun e => (e.variableName, e)) shared with
    | none => simp [hshared, Function.comp_def]
    | some e => simp [hshared]

section Drawn

variable {α : Type} {s : Settings} {raw : Raw} {name : String} {default : α}
  {read : Value → Schema.Checked α} (h : Exported.Given s raw)
include h

theorem fieldDrawn_of_written {a : α} (e : Exported) (hfound : Exported.find? name = some e)
    (hread : (read (.text (e.text s))).verdict = .accepted a) :
    FieldDrawn raw name default read a := by
  have hname := h name
  rw [hfound] at hname
  obtain ⟨⟨given, v⟩, hraw, rfl⟩ := Option.map_eq_some_iff.mp hname
  rw [FieldDrawn, hraw]
  exact hread

theorem fieldDrawn_of_unwritten (hnone : Exported.find? name = none) :
    FieldDrawn raw name default read default := by
  have hname := h name
  rw [hnone] at hname
  rw [FieldDrawn, Option.map_eq_none_iff.mp hname]

end Drawn

/-! ### Defaults of the local modes -/

theorem instanceCapText_of_local (s : Settings) :
    s.withLocalDefaults.instanceCapText = s.instanceCapText := by
  rw [withLocalDefaults]
  split <;> rfl

/-- Where there is an address, the mock stands in for credentials only. -/
theorem withLocalDefaults_of_address {s : Settings} {url : String}
    (h : s.endpointUrl = some url) : ∃ id secret,
      s.withLocalDefaults = { s with accessKeyId := id, secretAccessKey := secret } := by
  rw [withLocalDefaults]
  by_cases hlocal : s.mode.isLocal = true
  · rw [if_pos hlocal]
    refine ⟨some (s.accessKeyId.getD mockCredential),
      some (s.secretAccessKey.getD mockCredential), ?_⟩
    rw [h]
    cases s
    cases h
    rfl
  · rw [if_neg hlocal]
    exact ⟨s.accessKeyId, s.secretAccessKey, rfl⟩

/-! ### What is written can be read -/

section Written

variable [Conversions] [LawfulConversions]

theorem ofValue_name (mode : Mode) : Mode.ofValue (.text mode.name) = .accept mode := by
  have hname : Mode.ofName? (Mode.currentName mode.name) = some mode := by
    cases mode <;> decide +kernel
  show (Schema.asText (.text mode.name)).andThen Mode.ofText = _
  rw [asText_text, Schema.Checked.accept_andThen, Mode.ofText, hname]

/-- A cap that was accepted is accepted again as it is. -/
theorem capTextOfValue_settled {v : Value} {cap : String}
    (h : (capTextOfValue v).verdict = .accepted cap) :
    (capTextOfValue (.text cap)).verdict = .accepted cap := by
  obtain ⟨text, htext, -⟩ := Schema.Checked.andThen_accepted.mp h
  obtain ⟨-, hlike⟩ := (capTextOfValue_accepted (asText_accepted.mp htext)).mp h
  exact (capTextOfValue_accepted rfl).mpr ⟨trim_of_digitLike hlike, hlike⟩

theorem capTextOfValue_of_drawn {raw : Raw} {s : Settings} (h : Drawn raw s) :
    (capTextOfValue (.text s.instanceCapText)).verdict = .accepted s.instanceCapText := by
  have hcap := h.instanceCapText
  rw [FieldDrawn] at hcap
  cases hraw : raw "instance_cap_str" with
  | none =>
    rw [hraw] at hcap
    rw [hcap]
    exact (capTextOfValue_accepted rfl).mpr ⟨by decide +kernel, by simp⟩
  | some found =>
    rw [hraw] at hcap
    exact capTextOfValue_settled hcap

/-! ### The settings of the other process -/

/-- What another process reads from the settings that are written, and the defaults for the rest. -/
def handedOn (s : Settings) : Settings where
  appName := "fleet-controller"
  mode := s.mode
  region := s.region
  accessKeyId := none
  secretAccessKey := none
  endpointUrl := some (s.endpointUrl.getD "")
  instanceCapText := s.instanceCapText
  templatesFile := s.templatesFile
  launchWorkers := ⟨8, Nat.succ_pos 7⟩
  launchTimeout := ⟨600, Nat.succ_pos 599⟩
  initialDelay := 100.0
  recurrencePeriod := 10.0
  retentionDisabled := s.retentionDisabled
  logLevel := s.logLevel

theorem drawn_handedOn {s : Settings} {raw : Raw} (h : Exported.Given s raw)
    (hcap : (capTextOfValue (.text s.instanceCapText)).verdict = .accepted s.instanceCapText) :
    Drawn raw s.handedOn := by
  have hmode : (Mode.ofValue (.text s.mode.name)).verdict = .accepted s.mode := by
    rw [ofValue_name]
    rfl
  have hdisabled : (Schema.asBool (.text (Exported.text s .retentionDisabled))).verdict =
      .accepted s.retentionDisabled := by
    rw [Exported.text, asBool_word]
    rfl
  have htext : ∀ t, (Schema.asText (.text t)).verdict = .accepted t := fun t =>
    asText_accepted.mpr rfl
  have hurl : (Schema.asOptional Schema.asText (.text (s.endpointUrl.getD ""))).verdict =
      .accepted (some (s.endpointUrl.getD "")) :=
    Schema.Checked.map_accepted.mpr ⟨_, htext _, rfl⟩
  constructor
  · exact fieldDrawn_of_unwritten h (by decide +kernel)
  · exact fieldDrawn_of_written h .mode (by decide +kernel) hmode
  · exact fieldDrawn_of_written h .region (by decide +kernel) (htext s.region)
  · exact fieldDrawn_of_unwritten h (by decide +kernel)
  · exact fieldDrawn_of_unwritten h (by decide +kernel)
  · exact fieldDrawn_of_written h .endpointUrl (by decide +kernel) hurl
  · exact fieldDrawn_of_written h .instanceCapText (by decide +kernel) hcap
  · exact fieldDrawn_of_written h .templatesFile (by decide +kernel) (htext s.templatesFile)
  · exact fieldDrawn_of_unwritten h (by decide +kernel)
  · exact fieldDrawn_of_unwritten h (by decide +kernel)
  · exact fieldDrawn_of_unwritten h (by decide +kernel)
  · exact fieldDrawn_of_unwritten h (by decide +kernel)
  · exact fieldDrawn_of_written h .retentionDisabled (by decide +kernel) hdisabled
  · exact fieldDrawn_of_written h .logLevel (by decide +kernel) (htext s.logLevel)

theorem load_environment [Gathering] [LawfulGathering] {sources : Sources} {s : Settings}
    (h : load sources = .ok s) {directory : Directory}
    (hnone : directory.readText variablesFile = .error .absent) :
    load ⟨[], s.environment, directory⟩ = .ok s.handedOn.withLocalDefaults := by
  obtain ⟨_, _, drawn, hdrawn, rfl⟩ := load_drawn.mp h
  have hcap := capTextOfValue_of_drawn hdrawn
  rw [← instanceCapText_of_local drawn] at hcap
  refine load_drawn.mpr ⟨[], ?_, _, drawn_handedOn (given_environment _ directory) hcap, rfl⟩
  have hname : (⟨[], drawn.withLocalDefaults.environment, directory⟩ : Sources).variablesFile? =
      some variablesFile := rfl
  rw [fileVariables, hname]
  dsimp only
  rw [hnone]

end Written

end Settings

/-- **Settings that were accepted, from whatever sources, can be handed on.**  A process that finds
only their variables accepts them too and would write the same variables again; it works in the same
mode and region, with the same cap, templates, retention and log level, and at the same address,
where no address has become an empty one. -/
theorem environment_settles [Conversions] [LawfulConversions] [Gathering] [LawfulGathering]
    {sources : Settings.Sources} {s : Settings} (h : Settings.load sources = .ok s)
    {directory : Directory} (hnone : directory.readText Settings.variablesFile = .error .absent) :
    ∃ s', Settings.load ⟨[], s.environment, directory⟩ = .ok s' ∧
      s'.environment = s.environment ∧ s'.mode = s.mode ∧ s'.region = s.region ∧
      s'.instanceCapText = s.instanceCapText ∧ s'.instanceCap = s.instanceCap ∧
      s'.templatesFile = s.templatesFile ∧ s'.retentionDisabled = s.retentionDisabled ∧
      s'.logLevel = s.logLevel ∧ s'.endpointUrl = some (s.endpointUrl.getD "") := by
  have hload := Settings.load_environment h hnone
  obtain ⟨id, secret, hsettings⟩ := Settings.withLocalDefaults_of_address (s := s.handedOn) rfl
  rw [hsettings] at hload
  exact ⟨_, hload, rfl, rfl, rfl, rfl, rfl, rfl, rfl, rfl, rfl⟩

/-- Settings from values given outright and from variables, with a mode by its old name and without
a file of variables. -/
def legacySources : Settings.Sources :=
  ⟨[("_env_file", .null), ("Retention_Disabled", .int 1)],
    [("fleet_deployment_mode", "cloud"), ("FLEET_INSTANCE_CAP_STR", " 007\t")], .empty⟩

theorem environment_settles_legacy : ∃ s s', Settings.load legacySources = .ok s ∧
    s.endpointUrl = none ∧ Settings.load ⟨[], s.environment, .empty⟩ = .ok s' ∧
    s'.environment = [("FLEET_DEPLOYMENT_MODE", "aws-prod"), ("AWS_DEFAULT_REGION", "us-east-1"),
      ("AWS_ENDPOINT_URL", ""), ("FLEET_INSTANCE_CAP_STR", "007"),
      ("FLEET_TEMPLATES_FILE", "templates.json"), ("FLEET_RETENTION_DISABLED", "true"),
      ("FLEET_LOG_LEVEL", "INFO")] ∧
    s'.mode = .awsProd ∧ s'.instanceCap = .ok 7 ∧ s'.endpointUrl = some "" := by
  have hread : (Settings.load legacySources).toOption.map
      (fun s => (s.mode, s.endpointUrl, s.instanceCapText, s.environment)) =
      some (.awsProd, none, "007", [("FLEET_DEPLOYMENT_MODE", "aws-prod"),
        ("AWS_DEFAULT_REGION", "us-east-1"), ("AWS_ENDPOINT_URL", ""),
        ("FLEET_INSTANCE_CAP_STR", "007"), ("FLEET_TEMPLATES_FILE", "templates.json"),
        ("FLEET_RETENTION_DISABLED", "true"), ("FLEET_LOG_LEVEL", "INFO")]) := by
    decide +kernel
  cases h : Settings.load legacySources with
  | error failure =>
    rw [h] at hread
    cases hread
  | ok s =>
    rw [h] at hread
    simp only [Except.toOption, Option.map_some, Option.some.injEq, Prod.mk.injEq] at hread
    obtain ⟨hmode, hurl, hcap, henvironment⟩ := hread
    obtain ⟨s', hload, hsame, hmode', -, -, hcap', -, -, -, hurl'⟩ :=
      environment_settles h Ec2.readText_variablesFile
    have hseven : Cap.ofText? "007" = .ok 7 := by decide +kernel
    refine ⟨s, s', rfl, hurl, hload, hsame.trans henvironment, hmode'.trans hmode, ?_, ?_⟩
    · rw [hcap', Settings.instanceCap, hcap, hseven]
    · rw [hurl', hurl]
      rfl

end BuildFleet
