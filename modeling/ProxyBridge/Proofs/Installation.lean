import ProxyBridge.Embedding.Basic
import ProxyBridge.Proofs.Prewarming

/-!
# Attempts to install a bridge

A program has at most one bridge. An attempt to install it fails if its configuration has no room
for the shapes to prewarm; the first attempt that does not fail decides which bridge it is, and the
attempts after it only show that bridge.

The log is decided earlier. It is installed before the bridge is opened, and an attempt that fails
does not take it back. So the log in force is that of the first attempt, whether or not it was the
first attempt's bridge that the program got.

## Results

* `Config.opens` — which configurations have room for their shapes.
* `openStandard_spec` — a bridge is opened if its configuration has room, and only then.
* `install_spec` — one attempt on a program without a bridge.
* `performAll_start` — the bridge and the log of a program after any attempts.
* `failed_attempt_keeps_log` — the log of an attempt that failed.
-/

namespace ProxyBridge

variable {Code Client : Type}

/-! ## Room for shapes -/

/-- There is room for the plain shape and for those of the masks to prewarm. -/
def Config.opens (c : Config) : Bool :=
  c.registry.maxShapes.all fun max => (0#32 :: c.registry.prewarm).toFinset.card ≤ max

theorem Config.opens_iff {c : Config} :
    c.opens = true ↔ ∀ max, c.registry.maxShapes = some max → c.masks.toFinset.card ≤ max := by
  rw [Config.opens, Config.masks]
  cases c.registry.maxShapes with
  | none => simp
  | some max => simp

namespace Embedding

/-- A bridge is opened if its configuration has room for its shapes; otherwise it is refused. -/
theorem openStandard_spec (config : Config) {s : Session Code Unit} (hNone : s.bridges = []) :
    ∃ s', s'.table = s.table ∧
      (config.opens = true ∧ openStandard config s = .ok () s' ∧
          s'.bridges.map (·.config) = [config] ∨
        config.opens = false ∧ openStandard config s = .error .registryFull s') := by
  obtain ⟨bridges, log, -, hEnd⟩ := Act.openBridge_spec Catalog.standard config s
  rw [← Config.opens_iff, Bool.not_eq_true] at hEnd
  rcases hEnd with ⟨hOpens, hOk, registry, -, -, hBridges⟩ | ⟨hShut, hError⟩
  · refine ⟨({ s with bridges, log } : Session Code Unit).emit
      (.bridgeReady config.registry.prewarm.length), rfl, Or.inl ⟨hOpens, Act.bind_ok hOk, ?_⟩⟩
    show bridges.map (·.config) = [config]
    rw [hBridges, hNone]
    rfl
  · exact ⟨{ s with bridges, log }, rfl, Or.inr ⟨hShut, Act.bind_error hError⟩⟩

/-! ## One call -/

/-- What a program can be asked for, again and again. -/
inductive Call (Code : Type) where
  /-- An attempt to install a bridge over a table. -/
  | install (table : Table Code) (config : Config)
  /-- Asks for the bridge. -/
  | bridge

namespace Call

/-- The answer to a call, and the program after it. -/
def perform : Call Code → Embedding Code → Except ProxyError (Installed Code) × Embedding Code
  | install table config, p => p.install table config
  | bridge, p => (p.installed, p)

/-- The call opens a bridge if there is none. -/
def opens : Call Code → Bool
  | install _ config => config.opens
  | bridge => false

/-- The answer to a call that finds no bridge and opens none. -/
def refusal : Call Code → ProxyError
  | install .. => .registryFull
  | bridge => .notInitialized

/-- The log that a call asks for. -/
def settings? : Call Code → Option LogSettings
  | install _ config => some config.logging.settings
  | bridge => none

end Call

/-- The bridge works on a table, and has a configuration. -/
structure Serves (b : Installed Code) (table : Table Code) (config : Config) : Prop where
  table : b.session.table = table
  configs : b.session.bridges.map (·.config) = [config]

variable {p : Embedding Code} {b : Installed Code}

/-- With a bridge, a call shows it and does nothing else. -/
theorem perform_of_bridge (hBridge : p.bridge = some b) (c : Call Code) :
    c.perform p = (.ok b, p) := by
  cases c with
  | install table config =>
    show p.install table config = _
    rw [install, hBridge]
  | bridge =>
    show (p.installed, p) = _
    rw [installed, hBridge]

theorem report_eq (p : Embedding Code) (events : List Event) :
    ∃ console, p.report events = { p with console } := by
  unfold report
  split
  · exact ⟨p.console, rfl⟩
  · exact ⟨_, rfl⟩

theorem installLog_bridge (p : Embedding Code) (settings : LogSettings) :
    (p.installLog settings).bridge = p.bridge := by
  unfold installLog openLogFile
  split
  · rfl
  · cases (Sink.fileOf settings).bind logPlace? <;> rfl

theorem installLog_environment (p : Embedding Code) (settings : LogSettings) :
    (p.installLog settings).environment = p.environment := by
  unfold installLog openLogFile
  split
  · rfl
  · cases (Sink.fileOf settings).bind logPlace? <;> rfl

theorem installLog_of_hasLog (hLog : p.hasLog = true) (settings : LogSettings) :
    p.installLog settings = p := if_pos hLog

/-- Without a bridge, an attempt decides the bridge by its configuration, and the log if there is
none. -/
theorem install_spec (hNone : p.bridge = none) (table : Table Code) (config : Config) :
    ∃ answer p', p.install table config = (answer, p') ∧
      p'.environment = p.environment ∧
      p'.sink = (p.installLog config.logging.settings).sink ∧
      p'.timing = (p.installLog config.logging.settings).timing ∧
      (config.opens = false ∧ answer = .error .registryFull ∧ p'.bridge = none ∨
        config.opens = true ∧
          ∃ b, answer = .ok b ∧ p'.bridge = some b ∧ Serves b table config) := by
  have hBridge := (installLog_bridge p config.logging.settings).trans hNone
  have hEnvironment := installLog_environment p config.logging.settings
  rw [install, hNone]
  dsimp only
  -- the log is installed first, whether the bridge can be opened or not
  generalize p.installLog config.logging.settings = q at hBridge hEnvironment
  obtain ⟨s', hTable, hEnd⟩ := openStandard_spec config
    (s := { Session.new table q.timing () with log := [], timing := q.timing }) rfl
  obtain ⟨console, hReport⟩ := q.report_eq s'.log.reverse
  rcases hEnd with ⟨hOpens, hOk, hConfigs⟩ | ⟨hShut, hError⟩
  · rw [run, hOk]
    dsimp only
    rw [hReport]
    exact ⟨_, _, rfl, hEnvironment, rfl, rfl, Or.inr ⟨hOpens, _, rfl, rfl, hTable, hConfigs⟩⟩
  · rw [run, hError]
    dsimp only
    rw [hReport]
    exact ⟨_, _, rfl, hEnvironment, rfl, rfl, Or.inl ⟨hShut, rfl, hBridge⟩⟩

/-! ## Calls one after another -/

/-- The answers to calls, and the program after them. -/
def performAll : List (Call Code) → Embedding Code →
    List (Except ProxyError (Installed Code)) × Embedding Code
  | [], p => ([], p)
  | c :: rest, p =>
    let (answer, p) := c.perform p
    let (answers, p) := performAll rest p
    (answer :: answers, p)

theorem performAll_cons {c : Call Code} {answer : Except ProxyError (Installed Code)}
    {p' : Embedding Code} (h : c.perform p = (answer, p')) (rest : List (Call Code)) :
    performAll (c :: rest) p = (answer :: (performAll rest p').1, (performAll rest p').2) := by
  rw [performAll, h]

/-- With a bridge, calls show it and do nothing else. -/
theorem performAll_of_bridge (hBridge : p.bridge = some b) (calls : List (Call Code)) :
    performAll calls p = (calls.map fun _ => .ok b, p) := by
  induction calls with
  | nil => rfl
  | cons c rest ih => rw [performAll_cons (perform_of_bridge hBridge c) rest, ih, List.map_cons]

/-- A call that finds no bridge either is refused and leaves none, or opens one. -/
theorem perform_spec (hNone : p.bridge = none) (c : Call Code) :
    ∃ answer p', c.perform p = (answer, p') ∧
      (c.opens = false ∧ answer = .error c.refusal ∧ p'.bridge = none ∨
        ∃ table config b, c = .install table config ∧ config.opens = true ∧
          Serves b table config ∧ answer = .ok b ∧ p'.bridge = some b) := by
  cases c with
  | install table config =>
    obtain ⟨answer, p', hInstall, -, -, -, hEnd⟩ := install_spec hNone table config
    refine ⟨answer, p', hInstall, ?_⟩
    rcases hEnd with hRefused | ⟨hOpens, b, hAnswer, hBridge, hServes⟩
    · exact Or.inl hRefused
    · exact Or.inr ⟨table, config, b, rfl, hOpens, hServes, hAnswer, hBridge⟩
  | bridge =>
    have hInstalled : p.installed = .error .notInitialized := by rw [installed, hNone]
    exact ⟨p.installed, p, rfl, Or.inl ⟨rfl, hInstalled, hNone⟩⟩

/-- Calls before the first one that opens a bridge are refused and leave the program without one;
that one opens the bridge for itself and for all calls after it. -/
theorem performAll_bridge (hNone : p.bridge = none) (calls : List (Call Code)) :
    ∃ refused rest answers p', performAll calls p = (answers, p') ∧
      calls = refused ++ rest ∧ (∀ c ∈ refused, c.opens = false) ∧
      (rest = [] ∧ p'.bridge = none ∧ answers = refused.map (.error ·.refusal) ∨
        ∃ table config later b, rest = .install table config :: later ∧ config.opens = true ∧
          Serves b table config ∧ p'.bridge = some b ∧
          answers = refused.map (.error ·.refusal) ++ rest.map fun _ => .ok b) := by
  induction calls generalizing p with
  | nil => exact ⟨[], [], [], p, rfl, rfl, nofun, Or.inl ⟨rfl, hNone, rfl⟩⟩
  | cons c rest ih =>
    obtain ⟨answer, p', hFirst, hRefused | hOpened⟩ := perform_spec hNone c
    · -- a refusal leaves the rest of the calls where this one was
      obtain ⟨hShut, hAnswer, hNone'⟩ := hRefused
      obtain ⟨refused, later, answers, q, hLater, rfl, hAll, hEnd⟩ := ih hNone'
      refine ⟨c :: refused, later, answer :: answers, q, ?_, rfl, ?_, ?_⟩
      · rw [performAll_cons hFirst, hLater]
      · intro other hOther
        rcases List.mem_cons.mp hOther with rfl | hMem
        · exact hShut
        · exact hAll other hMem
      · rw [hAnswer]
        rcases hEnd with ⟨hDone, hBridge, rfl⟩ | ⟨table, config, more, b, hNext, hOpens, hServes,
          hBridge, rfl⟩
        · exact Or.inl ⟨hDone, hBridge, rfl⟩
        · exact Or.inr ⟨table, config, more, b, hNext, hOpens, hServes, hBridge, rfl⟩
    · obtain ⟨table, config, b, rfl, hOpens, hServes, hAnswer, hBridge⟩ := hOpened
      refine ⟨[], .install table config :: rest, _, _, performAll_cons hFirst rest, rfl, nofun,
        Or.inr ⟨table, config, rest, b, rfl, hOpens, hServes, ?_, ?_⟩⟩
      · rw [performAll_of_bridge hBridge]
        exact hBridge
      · rw [performAll_of_bridge hBridge, hAnswer]
        rfl

/-- A log that is installed stays. -/
theorem performAll_of_hasLog (hLog : p.hasLog = true) (calls : List (Call Code)) :
    (performAll calls p).2.sink = p.sink ∧ (performAll calls p).2.timing = p.timing := by
  induction calls generalizing p with
  | nil => exact ⟨rfl, rfl⟩
  | cons c rest ih =>
    obtain ⟨answer, p', hFirst⟩ : ∃ answer p', c.perform p = (answer, p') := ⟨_, _, rfl⟩
    -- only an attempt could change the log, and it finds one already
    have hSame : p'.sink = p.sink ∧ p'.timing = p.timing := by
      cases hBridge : p.bridge with
      | some b =>
        rw [perform_of_bridge hBridge] at hFirst
        cases hFirst
        exact ⟨rfl, rfl⟩
      | none =>
        cases c with
        | bridge =>
          cases hFirst
          exact ⟨rfl, rfl⟩
        | install table config =>
          obtain ⟨_, _, hInstall, -, hSink, hTiming, -⟩ := install_spec hBridge table config
          cases hFirst.symm.trans hInstall
          rw [installLog_of_hasLog hLog] at hSink hTiming
          exact ⟨hSink, hTiming⟩
    have hLog' : p'.hasLog = true := by
      rw [hasLog, hSame.1]
      exact hLog
    rw [performAll_cons hFirst, ← hSame.1, ← hSame.2]
    exact ih hLog'

/-- Without a bridge and a log, the first attempt to install a bridge decides the log. -/
theorem performAll_log (hNone : p.bridge = none) (hLog : p.sink = none) (calls : List (Call Code)) :
    (performAll calls p).2.sink =
        (calls.findSome? Call.settings?).map (.ofSettings p.readFilter p.environment) ∧
      (performAll calls p).2.timing =
        ((calls.findSome? Call.settings?).map (·.timing)).getD p.timing := by
  induction calls with
  | nil => exact ⟨hLog, rfl⟩
  | cons c rest ih =>
    cases c with
    | bridge =>
      have hFirst : Call.perform .bridge p = (p.installed, p) := rfl
      rw [performAll_cons hFirst]
      exact ih
    | install table config =>
      obtain ⟨answer, p', hInstall, -, hSink, hTiming, -⟩ := install_spec hNone table config
      have hNew : p.installLog config.logging.settings =
          { p.openLogFile config.logging.settings with
            sink := some (.ofSettings p.readFilter p.environment config.logging.settings)
            timing := config.logging.settings.timing } := by
        rw [installLog, hasLog, hLog]
        rfl
      rw [hNew] at hSink hTiming
      -- whether the attempt failed or not, its log stays
      have hStays := performAll_of_hasLog (p := p') (by rw [hasLog, hSink]; rfl) rest
      rw [performAll_cons (c := .install table config) hInstall]
      exact ⟨hStays.1.trans hSink, hStays.2.trans hTiming⟩

/--
**The first attempt decides the log, the first success the bridge.** Let a program be asked for its
bridge, and let attempts be made to install one, in any order and over any tables. As long as no
attempt has room for its shapes, there is no bridge: every attempt is refused, and so is everybody
who asks. The first attempt with room opens a bridge over its own table with its own configuration,
and everybody gets that bridge from then on. The log is that of the first attempt at all, however
filters are read.
-/
theorem performAll_start (readFilter : String → Option Filter)
    (environment : List (String × String)) (calls : List (Call Code)) :
    ∃ refused rest answers p, performAll calls (start readFilter environment) = (answers, p) ∧
      calls = refused ++ rest ∧ (∀ c ∈ refused, c.opens = false) ∧
      (rest = [] ∧ p.bridge = none ∧ answers = refused.map (.error ·.refusal) ∨
        ∃ table config later b, rest = .install table config :: later ∧ config.opens = true ∧
          Serves b table config ∧ p.bridge = some b ∧
          answers = refused.map (.error ·.refusal) ++ rest.map fun _ => .ok b) ∧
      p.sink = (calls.findSome? Call.settings?).map (.ofSettings readFilter environment) ∧
      p.timing = ((calls.findSome? Call.settings?).map (·.timing)).getD false := by
  obtain ⟨refused, rest, answers, p, hCalls, hSplit, hRefused, hEnd⟩ :=
    performAll_bridge (p := start readFilter environment) rfl calls
  have hLog := performAll_log (p := start readFilter environment) rfl rfl calls
  rw [hCalls] at hLog
  exact ⟨refused, rest, answers, p, hCalls, hSplit, hRefused, hEnd, hLog⟩

/--
**An attempt that fails keeps its log.** The attempt here has no room for any shape. It leaves no
bridge, but it does leave a log, and timings are on. The next attempt opens a bridge, and the log is
still the first one and not that of the configuration of the bridge.
-/
theorem failed_attempt_keeps_log :
    let cramped : Config :=
      { registry := { maxShapes := some 0 }, logging := { level := "error", json := true } }
    let before : Embedding Empty := start (fun _ => none) []
    let failed := (before.install (.empty none) cramped).2
    let retried := (failed.install (.empty none) {}).2
    before.hasLog = false ∧ before.timing = false ∧
      failed.bridge.isNone = true ∧ failed.hasLog = true ∧ failed.timing = true ∧
      retried.bridge.isSome = true ∧
      retried.sink = some (.ofSettings (fun _ => none) [] cramped.logging.settings) ∧
      retried.sink ≠ some (.ofSettings (fun _ => none) [] ({} : Config).logging.settings) := by
  refine ⟨rfl, rfl, rfl, rfl, rfl, rfl, rfl, fun hSame => ?_⟩
  -- the one log has structured records, the other has not
  have hJson : some true = some false := congrArg (Option.map Sink.json) hSame
  cases hJson

end Embedding

end ProxyBridge
