import Mathlib.Data.List.Chain

/-!
# The idle loop of the shutdown monitor

`check_idle` (`src/utils/shutdown_monitor.rs`) reads the server's connection count once per
`CHECK_INTERVAL` and calls `handle.shutdown()` when it sees no connection and the time since
its `last_activity` is over `IDLE_DURATION`. A run of the loop is the list of its passes, each
with the clock reading and the count it read. The loop keeps `last_activity` at the latest
pass that saw a connection, and shuts down exactly at the idle passes more than
`IDLE_DURATION` after it.
-/

set_option autoImplicit false

namespace MatrixServer.ShutdownMonitor

/-! Readings of tokio's monotonic `Instant` and `std::time::Duration`s are counted in
nanoseconds. -/

/-- `Duration::from_secs`. -/
def fromSecs (secs : Nat) : Nat := secs * 1000000000

/-- `GRACE_DURATION`, in seconds. -/
def graceDuration : Nat := 3

/-- `CHECK_INTERVAL`, in seconds. -/
def checkInterval : Nat := 30

/-- `IDLE_DURATION`. -/
def idleDuration : Nat := fromSecs 300

/-- `Instant::elapsed` read at `now`; `Instant - Instant` saturates at zero. -/
def elapsed (start now : Nat) : Nat := now - start

/-- The calls the monitor makes on the server's `axum_server::Handle`. -/
inductive Command
  | shutdown
  | gracefulShutdown (timeout : Option Nat)
  deriving DecidableEq, Repr

/-- One pass of the loop: the clock when it runs, and what `handle.connection_count()` read.
The body does not suspend, so its `Instant::now()` and `elapsed()` read the same instant. -/
structure Sample where
  now : Nat
  count : Nat
  deriving DecidableEq, Repr

/-- The body of `check_idle`'s loop up to its `sleep`: the new `last_activity`, and the call
made on the handle, if any. -/
def checkIdlePass (lastActivity : Nat) (sample : Sample) : Nat × Option Command :=
  if sample.count > 0 then (sample.now, none)
  else if elapsed lastActivity sample.now > idleDuration then (lastActivity, some .shutdown)
  else (lastActivity, none)

/-- `check_idle` over the passes of a run, from `last_activity = lastActivity` (it starts as
`Instant::now()`): the call each pass makes on the handle. The loop has no exit. -/
def checkIdle (lastActivity : Nat) : List Sample → List (Option Command)
  | [] => []
  | sample :: rest =>
      (checkIdlePass lastActivity sample).2 :: checkIdle (checkIdlePass lastActivity sample).1 rest

/-- `last_activity` once the passes of `samples` have run. -/
def lastActivityAfter (lastActivity : Nat) (samples : List Sample) : Nat :=
  samples.foldl (fun last sample => (checkIdlePass last sample).1) lastActivity

@[simp] theorem checkIdlePass_fst (lastActivity : Nat) (sample : Sample) :
    (checkIdlePass lastActivity sample).1 = if 0 < sample.count then sample.now else lastActivity := by
  unfold checkIdlePass
  split_ifs <;> rfl

@[simp] theorem checkIdlePass_snd (lastActivity : Nat) (sample : Sample) :
    (checkIdlePass lastActivity sample).2 =
      if sample.count = 0 ∧ idleDuration < sample.now - lastActivity then some .shutdown else none := by
  unfold checkIdlePass elapsed
  by_cases idle : sample.count = 0
  · simp only [idle, gt_iff_lt, lt_irrefl, if_false, true_and]
    split_ifs <;> rfl
  · simp [idle, Nat.pos_of_ne_zero idle]

@[simp] theorem lastActivityAfter_nil (lastActivity : Nat) :
    lastActivityAfter lastActivity [] = lastActivity := rfl

@[simp] theorem lastActivityAfter_cons (lastActivity : Nat) (sample : Sample) (rest : List Sample) :
    lastActivityAfter lastActivity (sample :: rest) =
      lastActivityAfter (checkIdlePass lastActivity sample).1 rest := rfl

theorem lastActivityAfter_concat (lastActivity : Nat) (samples : List Sample) (sample : Sample) :
    lastActivityAfter lastActivity (samples ++ [sample]) =
      (checkIdlePass (lastActivityAfter lastActivity samples) sample).1 := by
  simp only [lastActivityAfter, List.foldl_append, List.foldl_cons, List.foldl_nil]

theorem checkIdle_getElem? (lastActivity : Nat) (samples : List Sample) (k : Nat) :
    (checkIdle lastActivity samples)[k]? =
      samples[k]?.map fun sample => (checkIdlePass (lastActivityAfter lastActivity (samples.take k)) sample).2 := by
  induction samples generalizing lastActivity k with
  | nil => rfl
  | cons sample rest ih =>
      cases k with
      | zero => simp [checkIdle]
      | succ k => simpa only [checkIdle, List.getElem?_cons_succ, List.take_succ_cons, lastActivityAfter_cons] using ih _ k

/-! ## `last_activity` is the latest pass that saw a connection -/

/-- The time of the latest pass that saw a connection, or `start` when none did. -/
def latestActive (start : Nat) (samples : List Sample) : Nat :=
  ((samples.filter fun sample => sample.count > 0).getLast?.map Sample.now).getD start

/-- The passes of a run read a clock that never goes back, from the loop's start on. -/
def Ordered (start : Nat) (samples : List Sample) : Prop :=
  (samples.map Sample.now).Chain (· ≤ ·) start

instance chainDecide {R : Nat → Nat → Prop} [DecidableRel R] :
    (first : Nat) → (rest : List Nat) → Decidable (List.Chain R first rest)
  | _, [] => isTrue List.Chain.nil
  | first, next :: rest =>
      match (inferInstance : Decidable (R first next)), chainDecide next rest with
      | isTrue head, isTrue tail => isTrue (List.Chain.cons head tail)
      | isFalse head, _ => isFalse fun chain => head (List.chain_cons.mp chain).1
      | _, isFalse tail => isFalse fun chain => tail (List.chain_cons.mp chain).2

instance (start : Nat) (samples : List Sample) : Decidable (Ordered start samples) :=
  chainDecide start (samples.map Sample.now)

theorem latestActive_concat (start : Nat) (samples : List Sample) (sample : Sample) :
    latestActive start (samples ++ [sample]) =
      if 0 < sample.count then sample.now else latestActive start samples := by
  by_cases active : 0 < sample.count <;> simp [latestActive, List.filter_append, active]

theorem lastActivityAfter_eq_latestActive (start : Nat) (samples : List Sample) :
    lastActivityAfter start samples = latestActive start samples := by
  induction samples using List.reverseRecOn with
  | nil => rfl
  | append_singleton samples sample ih =>
      rw [lastActivityAfter_concat, latestActive_concat, checkIdlePass_fst, ih]

theorem start_le_latestActive {start : Nat} {samples : List Sample}
    (after : ∀ sample ∈ samples, start ≤ sample.now) : start ≤ latestActive start samples := by
  unfold latestActive
  cases found : (samples.filter fun sample => sample.count > 0).getLast? with
  | none => exact Nat.le_refl start
  | some latest => exact after latest (List.mem_of_mem_filter (List.mem_of_getLast?_eq_some found))

theorem latestActive_append_quiet (start : Nat) (samples more : List Sample)
    (quiet : ∀ sample ∈ more, sample.count = 0) :
    latestActive start (samples ++ more) = latestActive start samples := by
  have unseen : more.filter (fun sample => sample.count > 0) = [] :=
    List.filter_eq_nil_iff.mpr fun sample member => by simp [quiet sample member]
  simp only [latestActive, List.filter_append, unseen, List.append_nil]

theorem latestActive_le {start bound : Nat} {samples : List Sample} (started : start ≤ bound)
    (active : ∀ sample ∈ samples, 0 < sample.count → sample.now ≤ bound) :
    latestActive start samples ≤ bound := by
  unfold latestActive
  cases found : (samples.filter fun sample => sample.count > 0).getLast? with
  | none => exact started
  | some latest =>
      have member := List.mem_filter.mp (List.mem_of_getLast?_eq_some found)
      exact active latest member.1 (by simpa using member.2)

theorem Ordered.pairwise {start : Nat} {samples : List Sample} (ordered : Ordered start samples) :
    (samples.map Sample.now).Pairwise (· ≤ ·) :=
  (List.chain_iff_pairwise.mp ordered).of_cons

theorem Ordered.start_le {start : Nat} {samples : List Sample} (ordered : Ordered start samples) :
    ∀ sample ∈ samples, start ≤ sample.now := fun _ member =>
  List.rel_of_pairwise_cons (List.chain_iff_pairwise.mp ordered) (List.mem_map_of_mem _ member)

/-- Pass `k` calls `handle.shutdown()` exactly at an idle pass more than `IDLE_DURATION` after
the latest earlier pass that saw a connection. No ordering of the clock is needed. -/
theorem checkIdle_shutdown_at_iff (start : Nat) (samples : List Sample) (k : Nat) :
    (checkIdle start samples)[k]? = some (some .shutdown) ↔
      ∃ sample, samples[k]? = some sample ∧ sample.count = 0 ∧
        idleDuration < sample.now - latestActive start (samples.take k) := by
  rw [checkIdle_getElem?, lastActivityAfter_eq_latestActive]
  cases samples[k]? with
  | none => simp
  | some sample => simp [Nat.lt_sub_iff_add_lt]

theorem checkIdle_shutdown_late {start : Nat} {samples : List Sample} (ordered : Ordered start samples)
    {k : Nat} {sample : Sample} (atK : samples[k]? = some sample)
    (shut : (checkIdle start samples)[k]? = some (some .shutdown)) : start + idleDuration < sample.now := by
  obtain ⟨found, foundAt, -, idle⟩ := (checkIdle_shutdown_at_iff start samples k).mp shut
  rw [atK, Option.some.injEq] at foundAt
  subst foundAt
  have started : start ≤ latestActive start (samples.take k) :=
    start_le_latestActive fun earlier member => ordered.start_le earlier (List.mem_of_mem_take member)
  omega

/-- Pass `k` of every run calls `handle.shutdown()` exactly when it reads no connection and
its clock is more than `IDLE_DURATION` past the latest earlier pass that saw one, or past the
start; so never at a pass that sees a connection, and never by `IDLE_DURATION` after the start. -/
theorem checkIdle_shutdown_iff_idle (start : Nat) (samples : List Sample)
    (ordered : Ordered start samples) :
    (∀ k : Nat, (checkIdle start samples)[k]? = some (some .shutdown) ↔
        ∃ sample, samples[k]? = some sample ∧ sample.count = 0 ∧
          idleDuration < sample.now - latestActive start (samples.take k)) ∧
      ∀ (k : Nat) (sample : Sample), samples[k]? = some sample →
        (checkIdle start samples)[k]? = some (some .shutdown) → start + idleDuration < sample.now :=
  ⟨checkIdle_shutdown_at_iff start samples, fun _ _ atK shut => checkIdle_shutdown_late ordered atK shut⟩

/-- A run that sees a connection at its start and none 400 s later shuts down at its second pass. -/
theorem checkIdle_shutdown_after_last_connection :
    Ordered 0 [⟨0, 1⟩, ⟨fromSecs 400, 0⟩] ∧
      (checkIdle 0 [⟨0, 1⟩, ⟨fromSecs 400, 0⟩])[1]? = some (some .shutdown) :=
  ⟨by decide, ((checkIdle_shutdown_iff_idle 0 _ (by decide)).1 1).mpr ⟨_, rfl, rfl, by decide⟩⟩

end MatrixServer.ShutdownMonitor
