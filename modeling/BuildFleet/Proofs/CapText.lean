/-
Caps that are accepted and caps that can be used.

The settings accept the text of a cap if it is blank or if all of its characters look like digits;
it is read as a number when the controllers are made.  There are characters that look like digits
and have no decimal value, and a number may be too long to be read.

* **`Cap.Spells`**, **`Cap.Readable`** — the texts that spell a number, and those that can be read;
* **`readInteger_of_decimal`**, **`readInteger_of_stray`** — texts of digits as numbers;
* **`instanceCapText_of_load`**, **`load_of_digitLike`** — the cap in settings that are accepted;
* **`accepted_cap_usable`** — an accepted cap can be used exactly if it can be read.
-/
import BuildFleet.Proofs.Isolation
import BuildFleet.Proofs.NormalForm
import BuildFleet.Proofs.Reading
import BuildFleet.Wiring
import Mathlib.Data.List.Basic
import Mathlib.Data.List.TakeWhile
import Mathlib.Tactic.Set

namespace BuildFleet

open Json (Value)
open Schema (Conversions LawfulConversions textOf?)
open Settings (Gathering Raw field lookup named fileVariables)
open Text (isBlank isWhiteSpace isDigitLike decimalValue? digitLimit digitRun ofDigits readInteger
  splitSign trim trimChars)

/-! ### Characters that look like digits -/

/-- Characters that look like digits lie apart from the blanks, the signs and the underscore. -/
theorem code_of_digitLike {c : Char} (h : isDigitLike c = true) :
    (0x30 ≤ c.toNat ∧ c.toNat ≤ 0x39) ∨ (0xB2 ≤ c.toNat ∧ c.toNat ≤ 0xB9) ∨
      (0x660 ≤ c.toNat ∧ c.toNat ≤ 0x1371) ∨ (0x17E0 ≤ c.toNat ∧ c.toNat ≤ 0x1C59) ∨
      (0x2070 ≤ c.toNat ∧ c.toNat ≤ 0x2792) ∨ 0xA620 ≤ c.toNat := by
  have hzeros : ∀ z ∈ Text.decimalZeros, z = 0x30 ∨ (0x660 ≤ z ∧ z ≤ 0x1090) ∨
      (0x17E0 ≤ z ∧ z ≤ 0x1C50) ∨ 0xA620 ≤ z := by decide
  have hothers : ∀ r ∈ Text.otherDigits, (0xB2 ≤ r.1 ∧ r.2 ≤ 0xB9) ∨
      (0x1369 ≤ r.1 ∧ r.2 ≤ 0x1371) ∨ (0x19DA ≤ r.1 ∧ r.2 ≤ 0x19DA) ∨
      (0x2070 ≤ r.1 ∧ r.2 ≤ 0x2792) ∨ 0x10A40 ≤ r.1 := by decide
  rw [isDigitLike, Bool.or_eq_true] at h
  rcases h with hdecimal | hother
  · rw [decimalValue?, Option.isSome_map, List.find?_isSome] at hdecimal
    obtain ⟨z, hz, hrange⟩ := hdecimal
    rw [Bool.and_eq_true, decide_eq_true_eq, decide_eq_true_eq] at hrange
    have := hzeros z hz
    omega
  · obtain ⟨r, hr, hrange⟩ := List.any_eq_true.mp hother
    rw [Bool.and_eq_true, decide_eq_true_eq, decide_eq_true_eq] at hrange
    have := hothers r hr
    omega

theorem isBlank_of_digitLike {c : Char} (h : isDigitLike c = true) : isBlank c = false := by
  have hcode := code_of_digitLike h
  simp only [isBlank, isWhiteSpace, Bool.or_eq_false_iff, Bool.and_eq_false_iff,
    decide_eq_false_iff_not, beq_eq_false_iff_ne]
  omega

theorem isWhiteSpace_of_digitLike {c : Char} (h : isDigitLike c = true) :
    isWhiteSpace c = false := by
  have hblank := isBlank_of_digitLike h
  rw [isBlank, Bool.or_eq_false_iff] at hblank
  exact hblank.1

theorem ne_of_digitLike {c d : Char} (h : isDigitLike c = true)
    (hd : d.toNat < 0x30 ∨ d.toNat = 0x5F) : c ≠ d := by
  rintro rfl
  have := code_of_digitLike h
  omega

theorem digitLike_of_decimal {c : Char} (h : (decimalValue? c).isSome) : isDigitLike c = true := by
  rw [isDigitLike, h, Bool.true_or]

theorem decimalValue?_of_isDigit {c : Char} (h : c.isDigit = true) :
    decimalValue? c = some (c.toNat - '0'.toNat) := by
  have hrange : 0x30 ≤ c.toNat ∧ c.toNat ≤ 0x39 := Char.isDigit_iff_toNat.mp h
  have hfirst : Text.decimalZeros.find? (fun z => z ≤ c.toNat && c.toNat < z + 10) =
      some 0x30 := by
    rw [Text.decimalZeros, List.find?_cons_of_pos]
    simp only [Bool.and_eq_true, decide_eq_true_eq]
    omega
  rw [decimalValue?, hfirst]
  rfl

theorem decimal_of_isDigit {c : Char} (h : c.isDigit = true) : (decimalValue? c).isSome := by
  rw [decimalValue?_of_isDigit h, Option.isSome_some]

theorem ofDigits_of_isDigit {digits : List Char} (h : ∀ c ∈ digits, c.isDigit = true) :
    ofDigits (digits.filterMap decimalValue?) = Nat.ofDigitChars 10 digits 0 := by
  have hvalues : digits.filterMap decimalValue? = digits.map fun c => c.toNat - '0'.toNat := by
    rw [← List.filterMap_eq_map]
    exact List.filterMap_congr fun c hc => decimalValue?_of_isDigit (h c hc)
  rw [hvalues, ofDigits, List.foldl_map, Nat.ofDigitChars]

/-! ### Blanks around a text -/

theorem trimChars_of_notBlank {cs : List Char} (h : ∀ c ∈ cs, isBlank c = false) :
    trimChars cs = cs := by
  have hend : cs.reverse.dropWhile isBlank = cs.reverse :=
    Text.dropWhile_eq_self fun c hc => h c (List.mem_reverse.mp (List.mem_of_head? hc))
  rw [trimChars, Text.stripWhile,
    Text.dropWhile_eq_self fun c hc => h c (List.mem_of_head? hc), hend, List.reverse_reverse]

theorem trimChars_between {before cs behind : List Char} (hbefore : ∀ c ∈ before, isBlank c = true)
    (h : ∀ c ∈ cs, isBlank c = false) (hbehind : ∀ c ∈ behind, isBlank c = true) :
    trimChars (before ++ cs ++ behind) = cs := by
  rw [trimChars, Text.stripWhile_between hbefore hbehind]
  exact trimChars_of_notBlank h

/-! ### Reading -/

/-- The characters are decimal digits, of any scripts, that spell the number. -/
def Cap.Spells (cs : List Char) (n : ℕ) : Prop :=
  cs ≠ [] ∧ (∀ c ∈ cs, (decimalValue? c).isSome) ∧ ofDigits (cs.filterMap decimalValue?) = n

/-- The characters are decimal digits, and not too many to be read. -/
def Cap.Readable (cs : List Char) : Prop :=
  cs.length ≤ digitLimit ∧ ∀ c ∈ cs, (decimalValue? c).isSome

theorem length_filterMap_decimalValue? {cs : List Char}
    (h : ∀ c ∈ cs, (decimalValue? c).isSome) :
    (cs.filterMap decimalValue?).length = cs.length := by
  induction cs with
  | nil => rfl
  | cons c cs ih =>
    obtain ⟨d, hd⟩ := Option.isSome_iff_exists.mp (h c List.mem_cons_self)
    rw [List.filterMap_cons_some hd, List.length_cons, List.length_cons,
      ih fun c hc => h c (List.mem_cons_of_mem _ hc)]

/-- Nothing stands before the digits. -/
theorem splitSign_of_digitLike {cs : List Char} (h : ∀ c ∈ cs, isDigitLike c = true) :
    splitSign (cs.dropWhile isWhiteSpace) = (false, cs) := by
  rw [Text.dropWhile_eq_self fun c hc => isWhiteSpace_of_digitLike (h c (List.mem_of_head? hc))]
  cases cs with
  | nil => rfl
  | cons c cs =>
    have hc := h c List.mem_cons_self
    have hminus : c ≠ '-' := ne_of_digitLike hc (by decide)
    have hplus : c ≠ '+' := ne_of_digitLike hc (by decide)
    rw [splitSign]
    · rintro _ ⟨⟩
      exact hminus rfl
    · rintro _ ⟨⟩
      exact hplus rfl

theorem digitRun_of_decimal {cs : List Char} (hne : cs ≠ [])
    (h : ∀ c ∈ cs, (decimalValue? c).isSome) :
    digitRun cs = some (cs.filterMap decimalValue?) := by
  have hunderscore : '_' ∉ cs := fun hmem =>
    ne_of_digitLike (digitLike_of_decimal (h _ hmem)) (.inr rfl) rfl
  rw [digitRun, Text.splitChars_of_notMem hunderscore]
  simp [hne]

theorem readInteger_of_decimal {cs : List Char} (hne : cs ≠ [])
    (h : ∀ c ∈ cs, (decimalValue? c).isSome) :
    readInteger (String.ofList cs) =
      if digitLimit < cs.length then .error (.tooLong cs.length)
      else .ok (ofDigits (cs.filterMap decimalValue?)) := by
  have hrun : ∀ c ∈ cs, (c == '_' || (decimalValue? c).isSome) = true := by
    intro c hc
    rw [h c hc, Bool.or_true]
  rw [readInteger, String.toList_ofList,
    splitSign_of_digitLike fun c hc => digitLike_of_decimal (h c hc)]
  dsimp only
  rw [List.takeWhile_eq_self_iff.mpr hrun, List.dropWhile_eq_nil_iff.mpr hrun,
    digitRun_of_decimal hne h]
  dsimp only
  rw [length_filterMap_decimalValue? h]
  rfl

/-- A character without a decimal value is left over behind the digits. -/
theorem readInteger_of_stray {cs : List Char} (h : ∀ c ∈ cs, isDigitLike c = true) {c : Char}
    (hc : c ∈ cs) (hstray : decimalValue? c = none) :
    ∃ fault, readInteger (String.ofList cs) = .error fault := by
  set inRun : Char → Bool := fun c => c == '_' || (decimalValue? c).isSome with hinRun
  have hleft : (cs.dropWhile inRun).all isWhiteSpace = false := by
    have hne : cs.dropWhile inRun ≠ [] := by
      intro hnil
      have hin := List.dropWhile_eq_nil_iff.mp hnil c hc
      rw [hinRun] at hin
      dsimp only at hin
      rw [hstray, Option.isSome_none, Bool.or_false, beq_iff_eq] at hin
      exact ne_of_digitLike (h c hc) (.inr rfl) hin
    obtain ⟨d, rest, hrest⟩ := List.exists_cons_of_ne_nil hne
    have hd : d ∈ cs := (List.dropWhile_sublist inRun).subset (hrest ▸ List.mem_cons_self)
    rw [hrest, List.all_cons, isWhiteSpace_of_digitLike (h d hd), Bool.false_and]
  rw [readInteger, String.toList_ofList, splitSign_of_digitLike h]
  dsimp only
  rw [← hinRun]
  cases digitRun (cs.takeWhile inRun) with
  | none => exact ⟨_, rfl⟩
  | some digits =>
    by_cases hlong : digitLimit < digits.length
    · exact ⟨_, if_pos hlong⟩
    · dsimp only
      rw [if_neg hlong, hleft]
      exact ⟨_, rfl⟩

/-! ### Accepted caps -/

/-- What is accepted as the text of a cap is the trimmed text. -/
theorem capTextOfValue_accepted [Conversions] [LawfulConversions] {v : Value} {text a : String}
    (htext : textOf? v = some text) :
    (Settings.capTextOfValue v).verdict = .accepted a ↔
      trim text = a ∧ ∀ c ∈ a.toList, isDigitLike c = true := by
  have hread := LawfulConversions.asText_accepted.mpr htext
  rw [Settings.capTextOfValue, Schema.Checked.andThen, hread]
  dsimp only
  by_cases hlike : ∀ c ∈ (trim text).toList, isDigitLike c = true
  · rw [if_pos (by rw [List.all_eq_true.mpr hlike, Bool.or_true])]
    show Schema.Verdict.accepted (trim text) = .accepted a ↔ _
    rw [Schema.Verdict.accepted.injEq]
    exact ⟨fun h => ⟨h, h ▸ hlike⟩, And.left⟩
  · have hsome : trim text ≠ "" := fun hempty => hlike (by simp [hempty])
    rw [if_neg (by simpa [hsome] using hlike)]
    constructor
    · intro h
      cases h
    · rintro ⟨rfl, h⟩
      exact absurd h hlike

theorem trim_of_digitLike {s : String} (h : ∀ c ∈ s.toList, isDigitLike c = true) :
    trim s = s := by
  rw [trim, trimChars_of_notBlank fun c hc => isBlank_of_digitLike (h c hc), String.ofList_toList]

/-- A text that can be read is a cap. -/
theorem ofText?_of_readable {s : String} (h : Cap.Readable s.toList) :
    ∃ n : ℕ, Cap.ofText? s = .ok n ∧
      (s = "" ∧ n = Cap.unlimited ∨ Cap.Spells s.toList n) := by
  have htrim := trim_of_digitLike fun c hc => digitLike_of_decimal (h.2 c hc)
  by_cases hempty : s = ""
  · exact ⟨Cap.unlimited, by rw [hempty]; rfl, .inl ⟨hempty, rfl⟩⟩
  · have hne : s.toList ≠ [] := fun hnil => hempty (String.toList_eq_nil_iff.mp hnil)
    have hread := readInteger_of_decimal hne h.2
    rw [String.ofList_toList, if_neg (Nat.not_lt.mpr h.1)] at hread
    refine ⟨_, ?_, .inr ⟨hne, h.2, rfl⟩⟩
    rw [Cap.ofText?, Cap.ofText, htrim, hread]
    simp [hempty]
    rfl

/-- A text of digits that cannot be read is no cap. -/
theorem ofText?_of_unreadable {s : String} (hlike : ∀ c ∈ s.toList, isDigitLike c = true)
    (h : ¬Cap.Readable s.toList) : ∃ failure, Cap.ofText? s = .error failure := by
  have hempty : s ≠ "" := by
    rintro rfl
    exact h ⟨Nat.zero_le _, by simp⟩
  have hne : s.toList ≠ [] := fun hnil => hempty (String.toList_eq_nil_iff.mp hnil)
  obtain ⟨fault, hfault⟩ : ∃ fault, readInteger s = .error fault := by
    by_cases hdecimal : ∀ c ∈ s.toList, (decimalValue? c).isSome
    · have hlong : digitLimit < s.toList.length :=
        Nat.lt_of_not_le fun hshort => h ⟨hshort, hdecimal⟩
      have hread := readInteger_of_decimal hne hdecimal
      rw [String.ofList_toList, if_pos hlong] at hread
      exact ⟨_, hread⟩
    · simp only [not_forall] at hdecimal
      obtain ⟨c, hc, hstray⟩ := hdecimal
      have hread := readInteger_of_stray hlike hc (by simpa using hstray)
      rwa [String.ofList_toList] at hread
  refine ⟨.badValue fault.message, ?_⟩
  rw [Cap.ofText?, Cap.ofText, trim_of_digitLike hlike, hfault]
  simp [hempty]
  rfl

theorem Cap.Spells.unique {cs : List Char} {n m : ℕ} (hn : Cap.Spells cs n)
    (hm : Cap.Spells cs m) : n = m :=
  hn.2.2.symm.trans hm.2.2

/-- There is no bound for a blank text, and for one that spells the number of no bound. -/
theorem unlimited_iff {s : String} {n : ℕ}
    (h : s = "" ∧ n = Cap.unlimited ∨ Cap.Spells s.toList n) :
    n = Cap.unlimited ↔ s = "" ∨ Cap.Spells s.toList Cap.unlimited := by
  constructor
  · rintro rfl
    exact h.imp_left And.left
  · intro hunlimited
    rcases h with ⟨-, hn⟩ | hn
    · exact hn
    · rcases hunlimited with rfl | hspells
      · exact absurd rfl hn.1
      · exact hn.unique hspells

/-- Digits `0`–`9` are the number that they spell in the common way. -/
theorem ofText?_of_isDigit {digits : List Char} (hne : digits ≠ []) (hlimit : digits.length ≤ 4300)
    (h : ∀ c ∈ digits, c.isDigit = true) :
    Cap.ofText? (String.ofList digits) = .ok (Nat.ofDigitChars 10 digits 0) := by
  have hread : Cap.Readable (String.ofList digits).toList := by
    rw [String.toList_ofList]
    exact ⟨hlimit, fun c hc => decimal_of_isDigit (h c hc)⟩
  obtain ⟨n, hn, hspells⟩ := ofText?_of_readable hread
  rw [String.toList_ofList] at hspells
  rw [hn]
  rcases hspells with ⟨hempty, -⟩ | ⟨-, -, rfl⟩
  · exact absurd (String.ofList_eq_empty_iff.mp hempty) hne
  · rw [ofDigits_of_isDigit h]

/-! ### Settings with a cap -/

theorem instanceCapText_withLocalDefaults (s : Settings) (text : String) :
    ({ s with instanceCapText := text } : Settings).withLocalDefaults =
      { s.withLocalDefaults with instanceCapText := text } := by
  rw [Settings.withLocalDefaults, Settings.withLocalDefaults]
  by_cases hlocal : s.mode.isLocal
  · rw [if_pos hlocal, if_pos hlocal]
  · rw [if_neg hlocal, if_neg hlocal]

/-- The raw values but for those of one setting. -/
def Settings.unset (raw : Raw) (name : String) : Raw := fun other =>
  if other = name then none else raw other

theorem fieldDrawn_of_unset {α : Type} {raw : Raw} {name other : String} {default : α}
    {read : Value → Schema.Checked α} {a : α}
    (h : FieldDrawn (Settings.unset raw name) other default read a) (hne : other ≠ name) :
    FieldDrawn raw other default read a := by
  rwa [FieldDrawn, Settings.unset, if_neg hne] at h

/-- The cap is a field of its own. -/
theorem drawn_of_unset [Conversions] {raw : Raw} {s : Settings} {text : String}
    (h : Settings.Drawn (Settings.unset raw "instance_cap_str") s)
    (hcap : FieldDrawn raw "instance_cap_str" "" Settings.capTextOfValue text) :
    Settings.Drawn raw { s with instanceCapText := text } where
  appName := fieldDrawn_of_unset h.appName (by decide)
  mode := fieldDrawn_of_unset h.mode (by decide)
  region := fieldDrawn_of_unset h.region (by decide)
  accessKeyId := fieldDrawn_of_unset h.accessKeyId (by decide)
  secretAccessKey := fieldDrawn_of_unset h.secretAccessKey (by decide)
  endpointUrl := fieldDrawn_of_unset h.endpointUrl (by decide)
  instanceCapText := hcap
  templatesFile := fieldDrawn_of_unset h.templatesFile (by decide)
  launchWorkers := fieldDrawn_of_unset h.launchWorkers (by decide)
  launchTimeout := fieldDrawn_of_unset h.launchTimeout (by decide)
  initialDelay := fieldDrawn_of_unset h.initialDelay (by decide)
  recurrencePeriod := fieldDrawn_of_unset h.recurrencePeriod (by decide)
  retentionDisabled := fieldDrawn_of_unset h.retentionDisabled (by decide)
  logLevel := fieldDrawn_of_unset h.logLevel (by decide)

section Load

variable [Conversions] [LawfulConversions] [Gathering] {sources : Settings.Sources}
  {fromFile : List Settings.Assignment} {given text : String} {v : Value}
  (hfile : fileVariables sources = .ok fromFile)
  (hfound : lookup sources fromFile "instance_cap_str" = some (given, v))
  (htext : textOf? v = some text)
include hfound htext

theorem fieldDrawn_cap {a : String} :
    FieldDrawn (named (lookup sources fromFile)) "instance_cap_str" "" Settings.capTextOfValue a ↔
      trim text = a ∧ ∀ c ∈ a.toList, isDigitLike c = true := by
  rw [FieldDrawn, named, hfound]
  exact capTextOfValue_accepted htext

include hfile

theorem instanceCapText_of_load {s : Settings} (h : Settings.load sources = .ok s) :
    s.instanceCapText = trim text ∧ ∀ c ∈ (trim text).toList, isDigitLike c = true := by
  obtain ⟨fromFile', hfile', drawn, hdrawn, rfl⟩ := load_drawn.mp h
  obtain rfl : fromFile = fromFile' := Except.ok.inj (hfile.symm.trans hfile')
  obtain ⟨htrim, hlike⟩ := (fieldDrawn_cap hfound htext).mp hdrawn.instanceCapText
  rw [show drawn.withLocalDefaults = _ from instanceCapText_withLocalDefaults drawn
    drawn.instanceCapText]
  exact ⟨htrim.symm, htrim ▸ hlike⟩

/-- A cap of digits is accepted in whatever settings are accepted without it. -/
theorem load_of_digitLike (hlike : ∀ c ∈ (trim text).toList, isDigitLike c = true) {s : Settings}
    (hrest : (Settings.ofRaw (Settings.unset (named (lookup sources fromFile))
      "instance_cap_str")).verdict = .accepted s) :
    Settings.load sources = .ok { s with instanceCapText := trim text } := by
  obtain ⟨drawn, hdrawn, rfl⟩ := ofRaw_drawn.mp hrest
  have hcap := (fieldDrawn_cap hfound htext).mpr ⟨rfl, hlike⟩
  exact load_drawn.mpr ⟨fromFile, hfile, _, drawn_of_unset hdrawn hcap,
    instanceCapText_withLocalDefaults drawn _⟩

end Load

theorem ofSettings_of_ok {s : Settings} {n : ℤ} (h : s.instanceCap = .ok n) {σ : Type}
    (catalog : Catalog) (provider : Provider σ) :
    ∃ c, Controller.ofSettings s catalog provider = .ok c ∧ c.instanceCap = n := by
  rw [Controller.ofSettings, h]
  exact ⟨_, rfl, rfl⟩

theorem ofSettings_of_error {s : Settings} {failure : Failure} (h : s.instanceCap = .error failure)
    {σ : Type} (catalog : Catalog) (provider : Provider σ) :
    Controller.ofSettings s catalog provider = .error failure := by
  rw [Controller.ofSettings, h]
  rfl

/-- **An accepted cap can be used exactly if it can be read.**  A text of decimal digits, of any
scripts and not too many, is the number that it spells, and a blank one is no bound; then controllers
can be made.  From any other text that is accepted none can be made.  Digits `0`–`9` between blanks,
not too many, are accepted whatever the other settings are, and are the number that they spell. -/
theorem accepted_cap_usable [Conversions] [LawfulConversions] [Gathering]
    {sources : Settings.Sources} {fromFile : List Settings.Assignment} {given text : String}
    {v : Value}
    (hfile : fileVariables sources = .ok fromFile)
    (hfound : lookup sources fromFile "instance_cap_str" = some (given, v))
    (htext : textOf? v = some text) :
    (∀ s, Settings.load sources = .ok s →
      (Cap.Readable (trim text).toList → ∃ n : ℕ, s.instanceCap = .ok n ∧
        (n = Cap.unlimited ↔ trim text = "" ∨ Cap.Spells (trim text).toList Cap.unlimited) ∧
        (trim text = "" ∨ Cap.Spells (trim text).toList n) ∧
        ∀ (σ : Type) (catalog : Catalog) (provider : Provider σ),
          ∃ c, Controller.ofSettings s catalog provider = .ok c ∧ c.instanceCap = n) ∧
      (¬Cap.Readable (trim text).toList → ∃ failure, s.instanceCap = .error failure ∧
        ∀ (σ : Type) (catalog : Catalog) (provider : Provider σ),
          Controller.ofSettings s catalog provider = .error failure)) ∧
    ∀ before digits behind s, text = String.ofList (before ++ digits ++ behind) →
      (∀ c ∈ before, isBlank c = true) → (∀ c ∈ behind, isBlank c = true) →
      digits ≠ [] → digits.length ≤ 4300 → (∀ c ∈ digits, c.isDigit = true) →
      (Settings.ofRaw (Settings.unset (named (lookup sources fromFile))
        "instance_cap_str")).verdict = .accepted s →
      ∃ s', Settings.load sources = .ok s' ∧
        s' = { s with instanceCapText := String.ofList digits } ∧
        s'.instanceCap = .ok (Nat.ofDigitChars 10 digits 0) := by
  constructor
  · intro s hload
    obtain ⟨hcap, hlike⟩ := instanceCapText_of_load hfile hfound htext hload
    constructor
    · intro hread
      obtain ⟨n, hn, hspells⟩ := ofText?_of_readable hread
      have hin : s.instanceCap = .ok n := by rw [Settings.instanceCap, hcap, hn]
      refine ⟨n, hin, ?_, hspells.imp_left And.left, fun σ => ofSettings_of_ok hin⟩
      rw [unlimited_iff hspells]
    · intro hread
      obtain ⟨failure, hfailure⟩ := ofText?_of_unreadable hlike hread
      have hin : s.instanceCap = .error failure := by rw [Settings.instanceCap, hcap, hfailure]
      exact ⟨failure, hin, fun σ => ofSettings_of_error hin⟩
  · rintro before digits behind s rfl hbefore hbehind hne hlimit hdigits hrest
    have hlike : ∀ c ∈ digits, isDigitLike c = true := fun c hc =>
      digitLike_of_decimal (decimal_of_isDigit (hdigits c hc))
    have htrim : trim (String.ofList (before ++ digits ++ behind)) = String.ofList digits := by
      rw [trim, String.toList_ofList, trimChars_between hbefore
        (fun c hc => isBlank_of_digitLike (hlike c hc)) hbehind]
    have hload := load_of_digitLike hfile hfound htext
      (by rwa [htrim, String.toList_ofList]) hrest
    rw [htrim] at hload
    refine ⟨_, hload, rfl, ?_⟩
    rw [Settings.instanceCap]
    exact ofText?_of_isDigit hne hlimit hdigits

/-- Nothing but a cap is set. -/
def capOnly (text : String) : Settings.Sources :=
  ⟨[], [("FLEET_INSTANCE_CAP_STR", text)], .empty⟩

theorem lookup_capOnly (text : String) :
    lookup (capOnly text) [] "instance_cap_str" = some ("fleet_instance_cap_str", .text text) := by
  have hname : Text.lower "FLEET_INSTANCE_CAP_STR" = Text.lower "fleet_instance_cap_str" := by
    decide +kernel
  have hvariable : Settings.findVariable [("FLEET_INSTANCE_CAP_STR", text)]
      "fleet_instance_cap_str" = some text := by
    simp [Settings.findVariable, hname]
  have hown : Settings.ownVariable "instance_cap_str" = "fleet_instance_cap_str" := by
    decide +kernel
  have hshared : Settings.sharedName? "instance_cap_str" = none := by decide +kernel
  have hgiven : Settings.findGiven [] "instance_cap_str" = none := rfl
  show Settings.firstValue (capOnly text) [] "instance_cap_str" = _
  rw [Settings.firstValue, hshared, hown]
  simp only [capOnly, hgiven, hvariable]
  rfl

theorem exists_accepted {α : Type} {x : Schema.Checked α}
    (h : x.toExcept.toOption.isSome = true) : ∃ a, x.verdict = .accepted a := by
  cases hx : x.toExcept with
  | ok a => exact ⟨a, Schema.Checked.toExcept_eq_ok.mp hx⟩
  | error failure =>
    rw [hx] at h
    cases h

/-- Three digits between blanks are the number seven. -/
theorem accepted_cap_usable_seven : ∃ s, Settings.load (capOnly " 007\t") = .ok s ∧
    s.instanceCapText = "007" ∧ s.instanceCap = .ok 7 ∧
    ∀ (σ : Type) (catalog : Catalog) (provider : Provider σ),
      ∃ c, Controller.ofSettings s catalog provider = .ok c ∧ c.instanceCap = 7 := by
  obtain ⟨husable, haccepts⟩ :=
    accepted_cap_usable (Ec2.fileVariables_of_empty _) (lookup_capOnly " 007\t") rfl
  obtain ⟨s, hs⟩ := exists_accepted (x := Settings.ofRaw (Settings.unset
    (named (lookup (capOnly " 007\t") [])) "instance_cap_str")) (by decide +kernel)
  have hbefore : ∀ c ∈ [' '], isBlank c = true := List.all_eq_true.mp (by decide)
  have hbehind : ∀ c ∈ ['\t'], isBlank c = true := List.all_eq_true.mp (by decide)
  have hdigits : ∀ c ∈ ['0', '0', '7'], c.isDigit = true := List.all_eq_true.mp (by decide)
  have hlimit : ['0', '0', '7'].length ≤ 4300 := Nat.le_add_left 3 4297
  obtain ⟨s', hload, hcap, hseven⟩ :=
    haccepts _ _ _ s rfl hbefore hbehind (List.cons_ne_nil _ _) hlimit hdigits hs
  have hread : Cap.Readable (trim " 007\t").toList :=
    ⟨by decide +kernel, List.all_eq_true.mp (by decide +kernel)⟩
  obtain ⟨n, hn, -, -, hmade⟩ := (husable s' hload).1 hread
  have hvalue : (n : ℤ) = 7 := Except.ok.inj (hn.symm.trans hseven)
  rw [hvalue] at hmade
  exact ⟨s', hload, by rw [hcap], hseven, hmade⟩

/-- A superscript looks like a digit and is accepted, but no controllers can be made with it. -/
theorem superscript_cap_unusable : ∃ s, Settings.load (capOnly "²") = .ok s ∧
    s.instanceCap = .error (.badValue "invalid literal for int() with base 10: '²'") ∧
    ∀ (σ : Type) (catalog : Catalog) (provider : Provider σ),
      Controller.ofSettings s catalog provider =
        .error (.badValue "invalid literal for int() with base 10: '²'") := by
  obtain ⟨s, hs⟩ := exists_accepted (x := Settings.ofRaw (Settings.unset
    (named (lookup (capOnly "²") [])) "instance_cap_str")) (by decide +kernel)
  have hlike : ∀ c ∈ (trim "²").toList, isDigitLike c = true :=
    List.all_eq_true.mp (by decide +kernel)
  have hload :=
    load_of_digitLike (Ec2.fileVariables_of_empty _) (lookup_capOnly "²") rfl hlike hs
  have hread : Cap.ofText? (trim "²") =
      .error (.badValue "invalid literal for int() with base 10: '²'") := by
    decide +kernel
  have hcap : ({ s with instanceCapText := trim "²" } : Settings).instanceCap =
      .error (.badValue "invalid literal for int() with base 10: '²'") := by
    rw [Settings.instanceCap, hread]
  exact ⟨_, hload, hcap, fun σ => ofSettings_of_error hcap⟩

end BuildFleet
