import Mathlib.Data.List.ReduceOption
import MatrixServer.ShutdownMonitor.CheckIdle

/-!
# The race in `monitor`

`monitor` races `ctrl_c()`, `terminate()` and `check_idle` in one `tokio::select!`: the first
branch to complete ends the race and drops the others. A signal branch completes when its
signal arrives, and then calls `grace_shutdown`. The idle branch never completes: `check_idle`
keeps looping after it calls `handle.shutdown()`. So a signal ends the race and nothing is
issued after it, while an idle shutdown does not end it: later idle passes call
`handle.shutdown()` again, and a later signal still calls `grace_shutdown`. Every run issues
some calls of `handle.shutdown()` and at most one `grace_shutdown`, last.
-/

set_option autoImplicit false

namespace MatrixServer.ShutdownMonitor

/-- `grace_shutdown`: `handle.graceful_shutdown(Some(Duration::from_secs(GRACE_DURATION)))`. Its
`signal` argument only names the signal in the `warn!` line. -/
def graceShutdown : Command := .gracefulShutdown (some (fromSecs graceDuration))

/-- What happens next to the monitor: a signal arrives, or `check_idle` runs a pass. -/
inductive Event
  | ctrlC
  | terminate
  | pass (sample : Sample)
  deriving DecidableEq, Repr

/-- The samples of the passes `check_idle` runs before the first signal arrives. -/
def passesBeforeSignal : List Event → List Sample
  | [] => []
  | .pass sample :: rest => sample :: passesBeforeSignal rest
  | .ctrlC :: _ => []
  | .terminate :: _ => []

/-- Whether a signal arrives during a run. -/
def signalArrives : List Event → Bool
  | [] => false
  | .pass _ :: rest => signalArrives rest
  | .ctrlC :: _ => true
  | .terminate :: _ => true

/-- The `select!` of `monitor`: racing, with `check_idle`'s `last_activity`, or over once a
branch has completed and the others were dropped. -/
inductive Monitor
  | racing (lastActivity : Nat)
  | over
  deriving DecidableEq, Repr

namespace Monitor

/-- A signal completes its branch, which ends the race with `grace_shutdown`; a pass runs the
body of `check_idle`'s loop. Once the race is over, nothing runs. -/
def step : Monitor → Event → Monitor × Option Command
  | over, _ => (over, none)
  | racing _, .ctrlC => (over, some graceShutdown)
  | racing _, .terminate => (over, some graceShutdown)
  | racing lastActivity, .pass sample =>
      (racing (checkIdlePass lastActivity sample).1, (checkIdlePass lastActivity sample).2)

/-- The calls a run of events makes on the handle, in order. -/
def run : Monitor → List Event → List Command
  | _, [] => []
  | monitor, event :: rest => (monitor.step event).2.toList ++ (monitor.step event).1.run rest

/-- Where a run of events leaves the race. -/
def after (monitor : Monitor) (events : List Event) : Monitor :=
  events.foldl (fun current event => (current.step event).1) monitor

@[simp] theorem run_nil (monitor : Monitor) : monitor.run [] = [] := rfl

@[simp] theorem run_cons (monitor : Monitor) (event : Event) (rest : List Event) :
    monitor.run (event :: rest) = (monitor.step event).2.toList ++ (monitor.step event).1.run rest := rfl

@[simp] theorem after_cons (monitor : Monitor) (event : Event) (rest : List Event) :
    monitor.after (event :: rest) = (monitor.step event).1.after rest := rfl

@[simp] theorem step_over (event : Event) : over.step event = (over, none) := rfl

@[simp] theorem run_over (events : List Event) : over.run events = [] := by
  induction events with
  | nil => rfl
  | cons event rest ih => simpa using ih

theorem run_append (monitor : Monitor) (first second : List Event) :
    monitor.run (first ++ second) = monitor.run first ++ (monitor.after first).run second := by
  induction first generalizing monitor with
  | nil => rfl
  | cons event rest ih => simp [ih]

theorem checkIdlePass_snd_toList (lastActivity : Nat) (sample : Sample) :
    (checkIdlePass lastActivity sample).2.toList = [] ∨
      (checkIdlePass lastActivity sample).2.toList = [.shutdown] := by
  rw [checkIdlePass_snd]
  split_ifs
  · exact .inr rfl
  · exact .inl rfl

/-- What a run has issued so far: `handle.shutdown()` some number of times, then, once the race
is over, one `grace_shutdown`. -/
def Issued : Monitor → List Command → Prop
  | racing _, commands => ∃ n, commands = List.replicate n .shutdown
  | over, commands => ∃ n, commands = List.replicate n .shutdown ++ [graceShutdown]

theorem Issued.step {monitor : Monitor} {commands : List Command} (issued : monitor.Issued commands)
    (event : Event) : (monitor.step event).1.Issued (commands ++ (monitor.step event).2.toList) := by
  cases monitor with
  | over => simpa using issued
  | racing lastActivity =>
      obtain ⟨n, rfl⟩ := issued
      cases event with
      | ctrlC => exact ⟨n, rfl⟩
      | terminate => exact ⟨n, rfl⟩
      | pass sample =>
          rcases checkIdlePass_snd_toList lastActivity sample with none | shutdown
          · exact ⟨n, by simp only [Monitor.step, none, List.append_nil]⟩
          · exact ⟨n + 1, by simp only [Monitor.step, shutdown, List.replicate_succ']⟩

theorem Issued.run {monitor : Monitor} {commands : List Command} (issued : monitor.Issued commands)
    (events : List Event) : (monitor.after events).Issued (commands ++ monitor.run events) := by
  induction events generalizing monitor commands with
  | nil => simpa [after] using issued
  | cons event rest ih => simpa using ih (issued.step event)

/-- While racing, the monitor makes exactly the calls of `check_idle` over the passes before the
first signal, then `grace_shutdown` if a signal arrives. -/
theorem racing_run (lastActivity : Nat) (events : List Event) :
    (racing lastActivity).run events =
      (checkIdle lastActivity (passesBeforeSignal events)).reduceOption ++
        if signalArrives events then [graceShutdown] else [] := by
  induction events generalizing lastActivity with
  | nil => rfl
  | cons event rest ih =>
      cases event with
      | ctrlC => simp [Monitor.step, passesBeforeSignal, signalArrives, checkIdle]
      | terminate => simp [Monitor.step, passesBeforeSignal, signalArrives, checkIdle]
      | pass sample =>
          simp only [run_cons, Monitor.step, passesBeforeSignal, signalArrives, checkIdle, ih]
          cases (checkIdlePass lastActivity sample).2 <;> simp [List.reduceOption_cons_of_some]

end Monitor

/-- `monitor`, from the `Instant::now()` that starts `check_idle`. -/
def monitor (start : Nat) (events : List Event) : List Command := (Monitor.racing start).run events

/-- `monitor` calls `handle.shutdown()` exactly where `check_idle` does over the passes that
run before the first signal, and then, if a signal arrives, `grace_shutdown` once; nothing else,
whatever the interleaving. -/
theorem monitor_eq_checkIdle_then_grace (start : Nat) (events : List Event) :
    monitor start events =
      (checkIdle start (passesBeforeSignal events)).reduceOption ++
        if signalArrives events then [graceShutdown] else [] :=
  Monitor.racing_run start events

/-! ## The polls of the race

The events above are what the `select!` sees complete. Each poll of it tries its branches in
turn, from one tokio picks at random, until one completes: `ctrl_c()` when a Ctrl+C has
arrived, `terminate()` as its body for the platform says, and never `check_idle`, which runs a
pass when its sleep is over, or at its first poll. -/

/-- The platforms `terminate()` has a body for. -/
inductive Platform
  | unix
  | other
  deriving DecidableEq, Repr

/-- `terminate()` as a poll finds it: whether it has completed. On unix it awaits the SIGTERM
stream, so it completes once a SIGTERM has arrived; elsewhere it creates
`std::future::pending()` and drops it without awaiting it, so it completes at once. -/
def terminate : Platform → (sigterm : Bool) → Bool
  | .unix, sigterm => sigterm
  | .other, _ => true

/-- The branches of the `select!` of `monitor`, in the order it declares them. -/
inductive Branch
  | ctrlC
  | terminate
  | checkIdle
  deriving DecidableEq, Repr

/-- The branches in the order a poll tries them when it starts at one: the `select!` adds the
start that tokio picks at random to each index, modulo the number of branches. -/
def Branch.order : Branch → List Branch
  | .ctrlC => [.ctrlC, .terminate, .checkIdle]
  | .terminate => [.terminate, .checkIdle, .ctrlC]
  | .checkIdle => [.checkIdle, .ctrlC, .terminate]

/-- One poll of the `select!`: the branch it starts at, whether a Ctrl+C and a SIGTERM have
arrived, and the sample of the pass `check_idle` runs, if it runs one. -/
structure Poll where
  first : Branch
  ctrlC : Bool
  sigterm : Bool
  pass : Option Sample
  deriving DecidableEq, Repr

/-- Polling one branch: the events it causes, and whether it completed, which ends the poll and
the race. -/
def Branch.poll (platform : Platform) (poll : Poll) : Branch → List Event × Bool
  | .ctrlC => if poll.ctrlC then ([.ctrlC], true) else ([], false)
  | .terminate => if ShutdownMonitor.terminate platform poll.sigterm then ([.terminate], true) else ([], false)
  | .checkIdle => (poll.pass.toList.map .pass, false)

/-- The events of polling branches in turn until one completes. -/
def pollBranches (platform : Platform) (poll : Poll) : List Branch → List Event
  | [] => []
  | branch :: rest =>
      (branch.poll platform poll).1 ++ if (branch.poll platform poll).2 then [] else pollBranches platform poll rest

/-- The events of one poll of the `select!`: its branches in turn, from the one tokio picks. -/
def pollEvents (platform : Platform) (poll : Poll) : List Event :=
  pollBranches platform poll poll.first.order

/-- `monitor` over the polls of its `select!`. -/
def monitorPolls (platform : Platform) (start : Nat) (polls : List Poll) : List Command :=
  monitor start (polls.flatMap (pollEvents platform))

theorem passesBeforeSignal_map_pass (samples : List Sample) (rest : List Event) :
    passesBeforeSignal (samples.map .pass ++ rest) = samples ++ passesBeforeSignal rest := by
  induction samples with
  | nil => rfl
  | cons sample samples ih => simp [passesBeforeSignal, ih]

theorem signalArrives_map_pass (samples : List Sample) (rest : List Event) :
    signalArrives (samples.map .pass ++ rest) = signalArrives rest := by
  induction samples with
  | nil => rfl
  | cons sample samples ih => simp [signalArrives, ih]

theorem pollEvents_other (poll : Poll) :
    pollEvents .other poll = (if poll.first = .checkIdle then poll.pass.toList else []).map .pass ++
      [if poll.ctrlC && poll.first != .terminate then .ctrlC else .terminate] := by
  rcases poll with ⟨first, ctrlC, sigterm, pass⟩
  cases first <;> cases ctrlC <;> simp [pollEvents, pollBranches, Branch.poll, terminate, Branch.order]

theorem pollEvents_unix_quiet (poll : Poll) (noCtrlC : poll.ctrlC = false) (noSigterm : poll.sigterm = false) :
    pollEvents .unix poll = poll.pass.toList.map .pass := by
  rcases poll with ⟨first, ctrlC, sigterm, pass⟩
  subst noCtrlC noSigterm
  cases first <;> simp [pollEvents, pollBranches, Branch.poll, terminate, Branch.order]

/-- On a build that is not unix, every run of `monitor` calls `grace_shutdown` at its first poll
and makes no other call: the server drains and stops as soon as it has started, whatever its
connections and signals. Only the first pass of `check_idle` can run before, at the start. -/
theorem monitor_nonUnix_grace_at_first_poll (start : Nat) (poll : Poll) (polls : List Poll)
    (firstPass : ∀ sample ∈ poll.pass, sample.now ≤ start + idleDuration) :
    monitorPolls .other start (poll :: polls) = [graceShutdown] := by
  have quiet : (checkIdle start (if poll.first = .checkIdle then poll.pass.toList else [])).reduceOption = [] := by
    split_ifs
    · cases found : poll.pass with
      | none => rfl
      | some sample =>
          have early := firstPass sample found
          have calm : ¬(sample.count = 0 ∧ idleDuration < sample.now - start) := fun ⟨_, late⟩ => by omega
          simp [checkIdle, calm]
    · rfl
  unfold monitorPolls monitor
  rw [Monitor.racing_run, List.flatMap_cons, pollEvents_other, List.append_assoc, passesBeforeSignal_map_pass,
    signalArrives_map_pass, List.singleton_append]
  cases signal : (poll.ctrlC && poll.first != .terminate) <;>
    simp only [signal, passesBeforeSignal, signalArrives, List.append_nil, quiet, if_true, List.nil_append,
      Bool.false_eq_true, if_false]

/-- The first pass sees no connection at the start, and Ctrl+C has arrived: `terminate()` still
completes at the first poll. -/
theorem monitor_nonUnix_quiet_start :
    (∀ sample ∈ (⟨.checkIdle, true, false, some ⟨0, 0⟩⟩ : Poll).pass, sample.now ≤ 0 + idleDuration) ∧
      monitorPolls .other 0 [⟨.checkIdle, true, false, some ⟨0, 0⟩⟩, ⟨.ctrlC, false, true, some ⟨fromSecs 400, 0⟩⟩] =
        [graceShutdown] :=
  ⟨by decide, monitor_nonUnix_grace_at_first_poll 0 _ _ (by decide)⟩

/-- On unix, `terminate()` completes only once a SIGTERM has arrived: a run whose polls find
neither a Ctrl+C nor a SIGTERM makes exactly the `handle.shutdown()` calls of `check_idle` over
the passes it runs, and never calls `grace_shutdown`. -/
theorem monitor_unix_without_signal (start : Nat) (polls : List Poll)
    (quiet : ∀ poll ∈ polls, poll.ctrlC = false ∧ poll.sigterm = false) :
    monitorPolls .unix start polls = (checkIdle start (polls.flatMap fun poll => poll.pass.toList)).reduceOption := by
  have events : polls.flatMap (pollEvents .unix) = (polls.flatMap fun poll => poll.pass.toList).map .pass := by
    rw [List.map_flatMap]
    exact List.flatMap_congr fun poll member => pollEvents_unix_quiet poll (quiet poll member).1 (quiet poll member).2
  unfold monitorPolls monitor
  rw [Monitor.racing_run, events, ← List.append_nil (List.map _ _), passesBeforeSignal_map_pass,
    signalArrives_map_pass]
  simp [passesBeforeSignal, signalArrives]

/-- Twelve polls on unix, with no signal and one pass each every `CHECK_INTERVAL` from the start,
that never see a connection: the one call is the idle shutdown at 330 s. -/
theorem monitor_unix_idle_shutdown :
    (∀ poll ∈ (List.range 12).map (fun i => (⟨.ctrlC, false, false, some ⟨fromSecs (checkInterval * i), 0⟩⟩ : Poll)),
        poll.ctrlC = false ∧ poll.sigterm = false) ∧
      monitorPolls .unix 0 ((List.range 12).map fun i => ⟨.ctrlC, false, false, some ⟨fromSecs (checkInterval * i), 0⟩⟩) =
        [.shutdown] :=
  ⟨by decide, (monitor_unix_without_signal 0 _ (by decide)).trans (by decide)⟩

end MatrixServer.ShutdownMonitor
