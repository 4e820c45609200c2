import Interop.Lock.Supervisor
import Interop.Session
import Mathlib.Data.List.Induction
import Mathlib.Tactic.Common

/-!
# The life of a process

A process goes through events in any order: installations of a logger, changes of its environment,
records, conversions, and steps with mutexes. The first logger that is there stays for good, with the
ceiling that came with it, so nothing that happens later changes what becomes of a record.
-/

namespace Interop

open Log (Filter Level Record Settings Warning)

def Outcome.map {α β : Type} (f : α → β) (o : Outcome α) : Outcome β :=
  ⟨o.session, o.effect, f o.value⟩

namespace Session

variable (p : Session) (now : String) (s : Settings)

/-- The warnings about the filters of settings, as they are written. -/
def warningsEffect (s : Settings) : Effect :=
  { written := String.join ((Filter.filtersOf s).warnings.map Warning.line) }

/-- The session in which the logger of settings was installed. -/
def withLogger (p : Session) (s : Settings) : Session :=
  { p with
    logger := some (.writing (Filter.ofSettings s) s.timestamps)
    ceiling := (Filter.ofSettings s).maxThreshold }

lemma install_of_none (h : p.logger = none) :
    p.install now s =
      ⟨p.withLogger s,
        warningsEffect s ++ (p.withLogger s).emit now (installedRecord s), .ok ()⟩ := by
  unfold install
  rw [h]
  rfl

lemma install_of_some {logger : Logger} (h : p.logger = some logger) :
    p.install now s = ⟨p, warningsEffect s, .error .loggerAlreadySet⟩ := by
  unfold install
  rw [h]
  rfl

lemma installJson_of_ok {json : String} {s : Settings} (h : Settings.ofJson json = .ok s) :
    p.installJson now json = p.install now s := by
  unfold installJson
  rw [h]

lemma installJson_of_error {json : String} {failure : Failure}
    (h : Settings.ofJson json = .error failure) :
    p.installJson now json = ⟨p, {}, .error failure⟩ := by
  unfold installJson
  rw [h]

/-- The first attempt of a default installation, with no logger in place. -/
lemma installDefault_of_none (htried : p.defaultTried = false) (h : p.logger = none) :
    let installed := p.install now (Settings.ofVariable p.environment)
    p.installDefault now =
      ⟨{ installed.session with defaultTried := true }, installed.effect, ()⟩ := by
  intro installed
  have htry := install_of_none { p with defaultTried := true } now
    (Settings.ofVariable p.environment) h
  unfold installDefault
  simp only [htried, Bool.false_eq_true, if_false]
  rw [htry]
  simp only [installed, p.install_of_none now _ h]
  rfl

/-- The first attempt of a default installation, with a logger in place. -/
lemma installDefault_of_some (htried : p.defaultTried = false) {logger : Logger}
    (h : p.logger = some logger) :
    p.installDefault now =
      ⟨{ p with defaultTried := true },
        warningsEffect (Settings.ofVariable p.environment) ++
          p.emit now (notInstalledRecord .loggerAlreadySet), ()⟩ := by
  have htry := install_of_some { p with defaultTried := true } now
    (Settings.ofVariable p.environment) h
  unfold installDefault
  simp only [htried, Bool.false_eq_true, if_false]
  rw [htry]
  rfl

lemma installDefault_of_tried (htried : p.defaultTried = true) :
    p.installDefault now = ⟨p, {}, ()⟩ := by
  unfold installDefault
  rw [if_pos htried]

end Session

/-! ### Events -/

structure Process where
  session : Session
  mutexes : Lock.Supervisor

namespace Process

/-- One thing that a process does. `useMutex` is any step with any of its mutexes, in which native
calls may fail. -/
inductive Action
  | install (settings : Settings)
  | installJson (json : String)
  | installDefault
  | setEnvironment (value : Option (List UInt8))
  | emit (record : Record)
  | convert (bytes : List UInt8)
  | exerciseMutex (times : Nat)
  | useMutex (step : Lock.Step) (conditions : Lock.Conditions)

structure Event where
  now : String
  action : Action

/-- The answer to an action, if it has one. -/
inductive Answer
  | none
  | installation (result : Except Failure Unit)
  | units (value : List UInt16)
  | step (outcome : Except Lock.Refusal Lock.Reply)

def outcome (p : Process) (e : Event) : Outcome Answer :=
  match e.action with
  | .install s => (p.session.install e.now s).map .installation
  | .installJson json => (p.session.installJson e.now json).map .installation
  | .installDefault => (p.session.installDefault e.now).map fun _ => .none
  | .setEnvironment value => ⟨p.session.setEnvironment value, {}, .none⟩
  | .emit r => ⟨p.session, p.session.emit e.now r, .none⟩
  | .convert bytes => (p.session.convert e.now bytes).map .units
  | .exerciseMutex times => (p.session.exerciseMutex e.now times).map fun _ => .none
  | .useMutex step c =>
    let report := p.mutexes.runUnder c step
    ⟨p.session, p.session.emitAll e.now report.records, .step report.outcome⟩

def after (p : Process) (e : Event) : Process where
  session := (p.outcome e).session
  mutexes :=
    match e.action with
    | .useMutex step c => (p.mutexes.runUnder c step).after
    | _ => p.mutexes

/-- The process after a run of events, most recent first. -/
def through (start : Process) : List Event → Process
  | [] => start
  | e :: earlier => (start.through earlier).after e

namespace Event

def isDefault (e : Event) : Bool :=
  match e.action with
  | .installDefault => true
  | _ => false

def environment (e : Event) (before : Option (List UInt8)) : Option (List UInt8) :=
  match e.action with
  | .setEnvironment value => value
  | _ => before

end Event

/-- What an event can do to a session: it puts a logger in place where there was none, or it leaves
logger and ceiling alone. The environment and the mark of the default installation follow the kind of
the event in either case. -/
inductive Alters (before : Session) (e : Event) : Session → Prop
  | installs (s : Settings) (none : before.logger = none) :
    Alters before e { before.withLogger s with
      defaultTried := before.defaultTried || e.isDefault
      environment := e.environment before.environment }
  | keeps :
    Alters before e { before with
      defaultTried := before.defaultTried || e.isDefault
      environment := e.environment before.environment }

section

variable (p : Session) (now : String)

lemma alters_self {e : Event} (hdefault : e.isDefault = false)
    (henvironment : e.environment p.environment = p.environment) : Alters p e p := by
  have h : Alters p e _ := .keeps
  rwa [hdefault, henvironment, Bool.or_false] at h

lemma alters_install {e : Event} (hdefault : e.isDefault = false)
    (henvironment : e.environment p.environment = p.environment) (s : Settings) :
    Alters p e (p.install now s).session := by
  cases hlogger : p.logger with
  | none =>
    have h : Alters p e _ := .installs s hlogger
    rw [hdefault, henvironment, Bool.or_false] at h
    rwa [p.install_of_none now s hlogger]
  | some logger =>
    rw [p.install_of_some now s hlogger]
    exact alters_self p hdefault henvironment

lemma alters_installDefault : Alters p ⟨now, .installDefault⟩ (p.installDefault now).session := by
  have hdefault (tried : Bool) : (tried || Event.isDefault ⟨now, .installDefault⟩) = true :=
    Bool.or_true tried
  cases htried : p.defaultTried with
  | true =>
    have h : Alters p ⟨now, .installDefault⟩ _ := .keeps
    rw [hdefault, ← htried] at h
    rwa [p.installDefault_of_tried now htried]
  | false =>
    cases hlogger : p.logger with
    | none =>
      have h : Alters p ⟨now, .installDefault⟩ _ :=
        .installs (Settings.ofVariable p.environment) hlogger
      rw [hdefault] at h
      rw [p.installDefault_of_none now htried hlogger]
      dsimp only
      rwa [p.install_of_none now _ hlogger]
    | some logger =>
      have h : Alters p ⟨now, .installDefault⟩ _ := .keeps
      rw [hdefault] at h
      rwa [p.installDefault_of_some now htried hlogger]

end

/-- Every event does one of the two. -/
theorem alters (p : Process) (e : Event) : Alters p.session e (p.after e).session := by
  obtain ⟨now, action⟩ := e
  cases action with
  | install s => exact alters_install p.session now rfl rfl s
  | installJson json =>
    change Alters p.session _ (p.session.installJson now json).session
    cases h : Settings.ofJson json with
    | ok s =>
      rw [p.session.installJson_of_ok now h]
      exact alters_install p.session now rfl rfl s
    | error failure =>
      rw [p.session.installJson_of_error now h]
      exact alters_self p.session rfl rfl
  | installDefault => exact alters_installDefault p.session now
  | setEnvironment value =>
    have h : Alters p.session ⟨now, .setEnvironment value⟩ _ := .keeps
    rwa [show Event.isDefault ⟨now, .setEnvironment value⟩ = false from rfl, Bool.or_false] at h
  | emit _ | convert _ | exerciseMutex _ | useMutex _ _ => exact alters_self p.session rfl rfl

lemma Alters.of_some {before after : Session} {e : Event} (h : Alters before e after)
    (hsome : before.logger ≠ none) :
    after.logger = before.logger ∧ after.ceiling = before.ceiling := by
  cases h with
  | installs s hnone => exact absurd hnone hsome
  | keeps => exact ⟨rfl, rfl⟩

lemma Alters.environment {before after : Session} {e : Event} (h : Alters before e after) :
    after.environment = e.environment before.environment := by
  cases h <;> rfl

lemma Alters.defaultTried {before after : Session} {e : Event} (h : Alters before e after) :
    after.defaultTried = (before.defaultTried || e.isDefault) := by
  cases h <;> rfl

/-! ### What a run does to the session -/

/-- A logger that is in place stays there, with its ceiling. -/
theorem logger_through (start : Process) (h : start.session.logger ≠ none) (run : List Event) :
    (start.through run).session.logger = start.session.logger ∧
      (start.through run).session.ceiling = start.session.ceiling := by
  induction run with
  | nil => exact ⟨rfl, rfl⟩
  | cons e earlier ih =>
    obtain ⟨hlogger, hceiling⟩ := ih
    obtain ⟨hlogger', hceiling'⟩ := ((start.through earlier).alters e).of_some (hlogger ▸ h)
    exact ⟨hlogger'.trans hlogger, hceiling'.trans hceiling⟩

/-- The session after an installation where there was no logger, whatever happens later. -/
lemma session_of_installed {p : Process} (hnone : p.session.logger = none) (now : String)
    (s : Settings) (later : List Event) :
    let q := ((p.after ⟨now, .install s⟩).through later).session
    q.logger = some (.writing (Filter.ofSettings s) s.timestamps) ∧
      q.ceiling = (Filter.ofSettings s).maxThreshold := by
  have hinstalled : (p.after ⟨now, .install s⟩).session = p.session.withLogger s :=
    congrArg Outcome.session (p.session.install_of_none now s hnone)
  have hstays := logger_through (p.after ⟨now, .install s⟩)
    (by simp [hinstalled, Session.withLogger]) later
  rwa [hinstalled] at hstays

def installs (p : Process) (e : Event) : Bool :=
  p.session.logger.isNone && (p.after e).session.logger.isSome

section

variable (p : Session) (now : String) (r : Record)

variable {p now r}

end

section

variable (p : Process) (now : String)

end

end Process

end Interop
