import LiveLog.Config.Settings

/-!
# Settings in layers

A setting comes from the command line, or else from the settings file, or else it is the default. The
settings are not put together in this way, though: a file is read as settings that are already filled up with
the defaults, these are checked, then they are overridden and checked again. So what is compared here is
that procedure with the three layers, setting by setting (`SettingsWord.under`), where what a file says about a
setting is an `Option` that knows nothing of defaults.

Two things could go wrong in between. The timing of reconnects is a structure of its own, which a file may
give in part, so each of its four numbers has its own layers. And what is checked first are the settings of
the file as if nothing overrode them: an override does not excuse a file that makes no sense.
-/

namespace LiveLog

/-! ## 1. Settings that make sense -/

/-- **Whether settings make sense.** A multiplier that is a number is at least one if it is not below it. -/
structure Settings.MakesSense (s : Settings) : Prop where
  displayCap : s.displayCap ≠ 0
  pollIntervalMs : s.pollIntervalMs ≠ 0
  requestTimeoutMs : s.requestTimeoutMs ≠ 0
  finite : s.reconnect.multiplier.isFinite = true
  atLeastOne : ¬ s.reconnect.multiplier < 1.0
  baseDelayMs : s.reconnect.baseDelayMs ≤ s.reconnect.maxDelayMs

theorem BackoffConfig.fault?_eq_none_iff (c : BackoffConfig) :
    c.fault? = none ↔ c.multiplier.isFinite = true ∧ ¬ c.multiplier < 1.0 ∧ c.baseDelayMs ≤ c.maxDelayMs := by
  unfold fault?
  by_cases hfinite : c.multiplier.isFinite = true
  · by_cases hone : c.multiplier < 1.0
    · simp [hfinite, hone]
    · by_cases hmax : c.maxDelayMs < c.baseDelayMs
      · simp [hfinite, hone, hmax]
      · simp [hfinite, hone, hmax, Nat.le_of_not_lt hmax]
  · simp [hfinite]

namespace Settings

theorem fault?_eq_none_iff (s : Settings) : s.fault? = none ↔ s.MakesSense := by
  unfold fault?
  constructor
  · intro h
    split at h
    case isTrue => exact absurd h (by simp)
    case isFalse hcap =>
    split at h
    case isTrue => exact absurd h (by simp)
    case isFalse hpoll =>
    split at h
    case isTrue => exact absurd h (by simp)
    case isFalse htimeout =>
    obtain ⟨hfinite, hone, hbase⟩ := s.reconnect.fault?_eq_none_iff.mp (Option.map_eq_none_iff.mp h)
    exact ⟨hcap, hpoll, htimeout, hfinite, hone, hbase⟩
  · intro h
    rw [if_neg h.displayCap, if_neg h.pollIntervalMs, if_neg h.requestTimeoutMs,
      s.reconnect.fault?_eq_none_iff.mpr ⟨h.finite, h.atLeastOne, h.baseDelayMs⟩]
    rfl

theorem checked_eq_ok_iff {ε : Type} {s t : Settings} {wrap : SettingsFault → ε} :
    s.checked wrap = .ok t ↔ s.MakesSense ∧ t = s := by
  rw [← fault?_eq_none_iff]
  unfold checked
  cases s.fault? with
  | none => simp [eq_comm]
  | some fault => simp

end Settings

/-! ## 2. What a file says -/

/-- What is said by a value that may be there: nothing if it is not, else what it is read as. -/
def Toml.Says {α : Type} (found : Option Toml) (read : Toml → Option α) : Option α → Prop
  | none => found = none
  | some a => ∃ x, found = some x ∧ read x = some a

/-- A value as the parts of a structure: by their names in a table, by their places in an array. A date has
    no part. -/
def Toml.part? (x : Toml) (name : String) (i : Nat) : Option Toml :=
  match x with
  | .table _ ms => ms.lookup name
  | .array xs => xs[i]?
  | _ => none

/-- Whether a value can be read as a structure. -/
def Toml.isStructure : Toml → Bool
  | .table .. => true
  | .array _ => true
  | .moment => true
  | _ => false

/-- What a file says about the timing of reconnects, each number apart. -/
structure BackoffWord where
  maxAttempts : Option Nat := none
  baseDelayMs : Option Nat := none
  multiplier : Option Float := none
  maxDelayMs : Option Nat := none

/-- **What a file says**, each setting apart; it says nothing about settings that are absent here. -/
structure SettingsWord where
  server : Option String := none
  reconnect : BackoffWord := {}
  requestTimeoutMs : Option Nat := none
  pollIntervalMs : Option Nat := none
  displayCap : Option Nat := none
  notificationMs : Option Nat := none
  snapshotLimit : Option Nat := none
  downloadDir : Option String := none

/-- Whether this is what the parts of a structure say about the timing of reconnects. -/
structure BackoffWord.IsInParts (w : BackoffWord) (part? : String → Nat → Option Toml) : Prop where
  maxAttempts : Toml.Says (part? "max_attempts" 0) (Toml.natural? 0xFFFFFFFF) w.maxAttempts
  baseDelayMs : Toml.Says (part? "base_delay_ms" 1) (Toml.natural? maxWord) w.baseDelayMs
  multiplier : Toml.Says (part? "multiplier" 2) Toml.double? w.multiplier
  maxDelayMs : Toml.Says (part? "max_delay_ms" 3) (Toml.natural? maxWord) w.maxDelayMs

/-- Whether this is what a value says about the timing of reconnects, if the value is there. -/
structure BackoffWord.IsOf (w : BackoffWord) (found : Option Toml) : Prop where
  structured : ∀ x, found = some x → x.isStructure = true
  parts : w.IsInParts fun name i => found.bind (·.part? name i)

/-- **Whether this is what a file says**: it has no members of other names, and each that it has can be read. -/
structure SettingsWord.IsOf (w : SettingsWord) (ms : Toml.Members) : Prop where
  named : ∀ m ∈ ms, m.1 ∈ Settings.names
  server : Toml.Says (ms.lookup "server") Toml.text? w.server
  reconnect : w.reconnect.IsOf (ms.lookup "reconnect")
  requestTimeoutMs : Toml.Says (ms.lookup "request_timeout_ms") (Toml.natural? maxWord) w.requestTimeoutMs
  pollIntervalMs : Toml.Says (ms.lookup "poll_interval_ms") (Toml.natural? maxWord) w.pollIntervalMs
  displayCap : Toml.Says (ms.lookup "display_cap") (Toml.natural? maxWord) w.displayCap
  notificationMs : Toml.Says (ms.lookup "notification_ms") (Toml.natural? maxWord) w.notificationMs
  snapshotLimit : Toml.Says (ms.lookup "snapshot_limit") (Toml.natural? maxWord) w.snapshotLimit
  downloadDir : Toml.Says (ms.lookup "download_dir") Toml.text? w.downloadDir

/-- The timing of reconnects, filled up with the defaults. -/
def BackoffWord.filled (w : BackoffWord) : BackoffConfig :=
  let d : BackoffConfig := {}
  { maxAttempts := w.maxAttempts.getD d.maxAttempts
    baseDelayMs := w.baseDelayMs.getD d.baseDelayMs
    multiplier := w.multiplier.getD d.multiplier
    maxDelayMs := w.maxDelayMs.getD d.maxDelayMs }

/-- **The settings of three layers**: what overrides them, else what the file says, else the defaults. -/
def SettingsWord.under (w : SettingsWord) (o : Overrides) : Settings :=
  let d : Settings := {}
  { server := (o.server.or w.server).getD d.server
    reconnect := w.reconnect.filled
    requestTimeoutMs := (o.requestTimeoutMs.or w.requestTimeoutMs).getD d.requestTimeoutMs
    pollIntervalMs := (o.pollIntervalMs.or w.pollIntervalMs).getD d.pollIntervalMs
    displayCap := (o.displayCap.or w.displayCap).getD d.displayCap
    notificationMs := w.notificationMs.getD d.notificationMs
    snapshotLimit := w.snapshotLimit.getD d.snapshotLimit
    downloadDir := (o.downloadDir.or w.downloadDir).getD d.downloadDir }

/-- Whether this is what the file says, if one is given. Nothing is said by no file, and a file that cannot
    be read says nothing that could be known. -/
def SettingsWord.IsSaidBy (w : SettingsWord) : Option (String × Except String String) → Prop
  | none => w = {}
  | some (_, .error _) => False
  | some (_, .ok text) => ∃ ms, Toml.parse text = some ms ∧ w.IsOf ms

/-! ## 3. Reading a file -/

/-- A value that is read if it is there, with a default for it. -/
def Toml.readOr {α : Type} (found : Option Toml) (default : α) (read : Toml → Option α) : Option α :=
  match found with
  | none => some default
  | some x => read x

section Says

variable {α : Type} {found : Option Toml} {read : Toml → Option α} {default a : α}

theorem Toml.memberOr_eq_readOr (ms : Members) (key : String) :
    memberOr ms key default read = readOr (ms.lookup key) default read := rfl

theorem Toml.readOr_eq_some_iff : readOr found default read = some a ↔
    ∃ said, Says found read said ∧ a = said.getD default := by
  constructor
  · intro h
    cases found with
    | none => exact ⟨none, rfl, (Option.some.inj h).symm⟩
    | some x => exact ⟨some a, ⟨x, rfl, h⟩, rfl⟩
  · rintro ⟨said, hsaid, rfl⟩
    cases said with
    | none =>
      obtain rfl : found = none := hsaid
      rfl
    | some a =>
      obtain ⟨x, rfl, hread⟩ := hsaid
      exact hread

end Says

/-- The timing in the parts of a structure, filled up with the defaults. -/
def BackoffConfig.ofParts? (part? : String → Nat → Option Toml) : Option BackoffConfig := do
  let d : BackoffConfig := {}
  let maxAttempts ← Toml.readOr (part? "max_attempts" 0) d.maxAttempts (Toml.natural? 0xFFFFFFFF)
  let baseDelayMs ← Toml.readOr (part? "base_delay_ms" 1) d.baseDelayMs (Toml.natural? maxWord)
  let multiplier ← Toml.readOr (part? "multiplier" 2) d.multiplier Toml.double?
  let maxDelayMs ← Toml.readOr (part? "max_delay_ms" 3) d.maxDelayMs (Toml.natural? maxWord)
  some { maxAttempts, baseDelayMs, multiplier, maxDelayMs }

namespace BackoffConfig

theorem ofParts?_eq_some_iff {part? : String → Nat → Option Toml} {c : BackoffConfig} :
    ofParts? part? = some c ↔ ∃ w : BackoffWord, w.IsInParts part? ∧ c = w.filled := by
  simp only [ofParts?, Option.bind_eq_bind, Option.bind_eq_some_iff, Toml.readOr_eq_some_iff]
  constructor
  · rintro ⟨_, ⟨attempts, hattempts, rfl⟩, _, ⟨base, hbase, rfl⟩, _, ⟨multiplier, hmultiplier, rfl⟩, _,
      ⟨max, hmax, rfl⟩, h⟩
    exact ⟨⟨attempts, base, multiplier, max⟩, ⟨hattempts, hbase, hmultiplier, hmax⟩, (Option.some.inj h).symm⟩
  · rintro ⟨w, hw, rfl⟩
    exact ⟨_, ⟨_, hw.maxAttempts, rfl⟩, _, ⟨_, hw.baseDelayMs, rfl⟩, _, ⟨_, hw.multiplier, rfl⟩, _,
      ⟨_, hw.maxDelayMs, rfl⟩, rfl⟩

theorem ofToml?_eq (x : Toml) :
    ofToml? x = if x.isStructure then ofParts? x.part? else none := by
  cases x <;> rfl

/-- **The timing of reconnects in a file**, if the file has it. -/
theorem readOr_ofToml?_eq_some_iff {found : Option Toml} {c : BackoffConfig} :
    Toml.readOr found {} ofToml? = some c ↔ ∃ w : BackoffWord, w.IsOf found ∧ c = w.filled := by
  cases found with
  | none =>
    have hsilent : Toml.readOr none {} ofToml? = ofParts? fun _ _ => none := rfl
    rw [hsilent, ofParts?_eq_some_iff]
    constructor
    · rintro ⟨w, hw, hc⟩
      exact ⟨w, ⟨by simp, hw⟩, hc⟩
    · rintro ⟨w, hw, hc⟩
      exact ⟨w, hw.parts, hc⟩
  | some x =>
    have hread : Toml.readOr (some x) {} ofToml? = ofToml? x := rfl
    rw [hread, ofToml?_eq]
    constructor
    · intro h
      obtain ⟨hstructure, h⟩ := Option.ite_none_right_eq_some.mp h
      obtain ⟨w, hw, hc⟩ := ofParts?_eq_some_iff.mp h
      exact ⟨w, ⟨by rintro _ ⟨⟩; exact hstructure, hw⟩, hc⟩
    · rintro ⟨w, hw, hc⟩
      rw [if_pos (hw.structured x rfl)]
      exact ofParts?_eq_some_iff.mpr ⟨w, hw.parts, hc⟩

end BackoffConfig

namespace Settings

theorem ofMembers?_eq_some_iff {ms : Toml.Members} {s : Settings} :
    ofMembers? ms = some s ↔ ∃ w : SettingsWord, w.IsOf ms ∧ s = w.under {} := by
  have hnames : (ms.all fun m => names.contains m.1) = true ↔ ∀ m ∈ ms, m.1 ∈ names := by simp
  simp only [ofMembers?, Option.ite_none_right_eq_some, hnames, Option.bind_eq_bind, Option.bind_eq_some_iff,
    Toml.memberOr_eq_readOr, BackoffConfig.readOr_ofToml?_eq_some_iff]
  simp only [Toml.readOr_eq_some_iff]
  constructor
  · rintro ⟨hnamed, _, ⟨server, hserver, rfl⟩, _, ⟨reconnect, hreconnect, rfl⟩, _, ⟨timeout, htimeout, rfl⟩, _,
      ⟨poll, hpoll, rfl⟩, _, ⟨cap, hcap, rfl⟩, _, ⟨shown, hshown, rfl⟩, _, ⟨limit, hlimit, rfl⟩, _,
      ⟨dir, hdir, rfl⟩, h⟩
    exact ⟨⟨server, reconnect, timeout, poll, cap, shown, limit, dir⟩,
      ⟨hnamed, hserver, hreconnect, htimeout, hpoll, hcap, hshown, hlimit, hdir⟩, (Option.some.inj h).symm⟩
  · rintro ⟨w, hw, rfl⟩
    exact ⟨hw.named, _, ⟨_, hw.server, rfl⟩, _, ⟨_, hw.reconnect, rfl⟩, _, ⟨_, hw.requestTimeoutMs, rfl⟩, _,
      ⟨_, hw.pollIntervalMs, rfl⟩, _, ⟨_, hw.displayCap, rfl⟩, _, ⟨_, hw.notificationMs, rfl⟩, _,
      ⟨_, hw.snapshotLimit, rfl⟩, _, ⟨_, hw.downloadDir, rfl⟩, rfl⟩

/-- The text of a file is read as settings if it says something about settings, and they make sense by
    themselves. -/
theorem ofText_eq_ok_iff {text : String} {s : Settings} : ofText text = .ok s ↔
    ∃ w : SettingsWord, (∃ ms, Toml.parse text = some ms ∧ w.IsOf ms) ∧ (w.under {}).MakesSense ∧
      s = w.under {} := by
  unfold ofText
  constructor
  · intro h
    cases hread : (Toml.parse text).bind ofMembers? with
    | none =>
      rw [hread] at h
      exact absurd h (by simp)
    | some t =>
      rw [hread] at h
      obtain ⟨hsense, rfl⟩ := checked_eq_ok_iff.mp h
      obtain ⟨ms, hparse, hmembers⟩ := Option.bind_eq_some_iff.mp hread
      obtain ⟨w, hw, rfl⟩ := ofMembers?_eq_some_iff.mp hmembers
      exact ⟨w, ⟨ms, hparse, hw⟩, hsense, rfl⟩
  · rintro ⟨w, ⟨ms, hparse, hw⟩, hsense, rfl⟩
    rw [hparse, Option.bind_some, ofMembers?_eq_some_iff.mpr ⟨w, hw, rfl⟩]
    exact checked_eq_ok_iff.mpr ⟨hsense, rfl⟩

/-! ## 4. The layers -/

theorem override_under (w : SettingsWord) (o : Overrides) : (w.under {}).override o = w.under o := by
  simp only [override, SettingsWord.under, Option.getD_or, Option.getD_none]

theorem load_eq_ok_iff {file : Option (String × Except String String)} {o : Overrides} {s : Settings} :
    load file o = .ok s ↔ ∃ w : SettingsWord, w.IsSaidBy file ∧ (file.isSome → (w.under {}).MakesSense) ∧
      (w.under o).MakesSense ∧ s = w.under o := by
  match file with
  | none =>
    have hload : load none o = (((({} : SettingsWord).under {}).override o).checked .invalid) := rfl
    rw [hload, override_under, checked_eq_ok_iff]
    constructor
    · rintro ⟨hsense, rfl⟩
      exact ⟨{}, rfl, by simp, hsense, rfl⟩
    · rintro ⟨_, rfl, -, hsense, rfl⟩
      exact ⟨hsense, rfl⟩
  | some (path, .error reason) =>
    constructor
    · intro h
      exact absurd h (by simp [load, bind, Except.bind])
    · rintro ⟨_, hnothing, -⟩
      exact hnothing.elim
  | some (path, .ok text) =>
    constructor
    · intro h
      cases hread : ofText text with
      | error fault =>
        cases fault <;> exact absurd h (by simp [load, hread, bind, Except.bind])
      | ok base =>
        have hload : load (some (path, .ok text)) o = (base.override o).checked .invalid := by
          simp [load, hread, bind, Except.bind, pure, Except.pure]
        obtain ⟨w, hw, hfile, rfl⟩ := ofText_eq_ok_iff.mp hread
        rw [hload, override_under] at h
        obtain ⟨hsense, rfl⟩ := checked_eq_ok_iff.mp h
        exact ⟨w, hw, fun _ => hfile, hsense, rfl⟩
    · rintro ⟨w, hw, hfile, hsense, rfl⟩
      have hread : ofText text = .ok (w.under {}) := ofText_eq_ok_iff.mpr ⟨w, hw, hfile rfl, rfl⟩
      have hload : load (some (path, .ok text)) o = ((w.under {}).override o).checked .invalid := by
        simp [load, hread, bind, Except.bind, pure, Except.pure]
      rw [hload, override_under]
      exact checked_eq_ok_iff.mpr ⟨hsense, rfl⟩

/-- **Settings are the three layers, setting by setting.**

    There are settings exactly if the file, if one is given, says something about settings that make sense by
    themselves, and the settings of all layers make sense. Each setting is then what overrides it, else what
    the file says, else the default. In all other cases there is an error and no settings. -/
theorem load_by_layers (file : Option (String × Except String String)) (o : Overrides) :
    (∀ s, load file o = .ok s ↔ ∃ w : SettingsWord, w.IsSaidBy file ∧
      (file.isSome → (w.under {}).MakesSense) ∧ (w.under o).MakesSense ∧ s = w.under o) ∧
    ((∃ e, load file o = .error e) ↔ ¬ ∃ w : SettingsWord, w.IsSaidBy file ∧
      (file.isSome → (w.under {}).MakesSense) ∧ (w.under o).MakesSense) := by
  refine ⟨fun s => load_eq_ok_iff, ?_⟩
  constructor
  · rintro ⟨e, he⟩ ⟨w, hw, hfile, hsense⟩
    rw [load_eq_ok_iff.mpr ⟨w, hw, hfile, hsense, rfl⟩] at he
    exact absurd he (by simp)
  · intro hnone
    cases hload : load file o with
    | error e => exact ⟨e, rfl⟩
    | ok s =>
      obtain ⟨w, hw, hfile, hsense, -⟩ := load_eq_ok_iff.mp hload
      exact absurd ⟨w, hw, hfile, hsense⟩ hnone

/-- What overrides is checked too, also if there is no file. -/
example : load none { displayCap := some 0 } = .error (.invalid .displayCap) := rfl

end Settings
end LiveLog
