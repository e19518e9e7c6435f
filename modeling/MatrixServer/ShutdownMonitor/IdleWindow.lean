import MatrixServer.ShutdownMonitor.CheckIdle

/-!
# What an idle shutdown says about the connections

Between two passes `check_idle` sleeps for `CHECK_INTERVAL`. When a pass shuts the server
down, the loop has run for longer than `IDLE_DURATION`, and every pass in the `IDLE_DURATION`
before it read no connection. The loop reads the count only at its passes, so a connection
that opens and closes between two of them is not seen, however recent. Conversely, eleven quiet
passes in a row always shut the server down, and the loop goes on after a shutdown: every later
quiet pass calls `handle.shutdown()` again.
-/

set_option autoImplicit false

namespace MatrixServer.ShutdownMonitor

/-- The clock readings of a run: the first pass at or after the start, and each later one at
least `CHECK_INTERVAL` after the one before, by the `sleep` that ends a pass. -/
def Sleeps (start : Nat) : List Sample → Prop
  | [] => True
  | first :: rest => start ≤ first.now ∧
      (rest.map Sample.now).Chain (fun earlier later => earlier + fromSecs checkInterval ≤ later) first.now

instance (start : Nat) : (samples : List Sample) → Decidable (Sleeps start samples)
  | [] => isTrue trivial
  | first :: rest => inferInstanceAs (Decidable (start ≤ first.now ∧ List.Chain _ first.now (rest.map Sample.now)))

/-- Each pass reads the connection count the server has at its clock reading. -/
def Observes (connections : Nat → Nat) (samples : List Sample) : Prop :=
  ∀ sample ∈ samples, sample.count = connections sample.now

instance (connections : Nat → Nat) (samples : List Sample) : Decidable (Observes connections samples) :=
  inferInstanceAs (Decidable (∀ sample ∈ samples, sample.count = connections sample.now))

theorem Sleeps.ordered {start : Nat} {samples : List Sample} (sleeps : Sleeps start samples) :
    Ordered start samples := by
  cases samples with
  | nil => exact List.Chain.nil
  | cons first rest =>
      exact List.Chain.cons sleeps.1 (sleeps.2.imp fun earlier later apart => by omega)

theorem Sleeps.pairwise {start : Nat} {samples : List Sample} (sleeps : Sleeps start samples) :
    (samples.map Sample.now).Pairwise (· < ·) := by
  cases samples with
  | nil => exact List.Pairwise.nil
  | cons first rest =>
      have spaced : (rest.map Sample.now).Chain (· < ·) first.now :=
        sleeps.2.imp fun earlier later apart => by simp only [fromSecs, checkInterval] at apart; omega
      exact List.chain_iff_pairwise.mp spaced

theorem Sleeps.tail {start : Nat} {first : Sample} {rest : List Sample} (sleeps : Sleeps start (first :: rest)) :
    Sleeps (first.now + fromSecs checkInterval) rest := by
  cases rest with
  | nil => trivial
  | cons second more => exact List.chain_cons.mp sleeps.2

theorem Sleeps.start_add_le {start : Nat} {samples : List Sample} (sleeps : Sleeps start samples)
    {n : Nat} {sample : Sample} (atN : samples[n]? = some sample) :
    start + n * fromSecs checkInterval ≤ sample.now := by
  induction samples generalizing start n with
  | nil => cases atN
  | cons first rest ih =>
      cases n with
      | zero =>
          rw [List.getElem?_cons_zero, Option.some.injEq] at atN
          simpa [← atN] using sleeps.1
      | succ n =>
          have fromFirst := ih sleeps.tail (by rwa [List.getElem?_cons_succ] at atN)
          have started := sleeps.1
          rw [Nat.succ_mul]
          omega

theorem Sleeps.spaced {start : Nat} {samples : List Sample} (sleeps : Sleeps start samples)
    {i n : Nat} {earlier later : Sample} (atI : samples[i]? = some earlier)
    (atLater : samples[i + n]? = some later) : earlier.now + n * fromSecs checkInterval ≤ later.now := by
  induction samples generalizing start i with
  | nil => cases atI
  | cons first rest ih =>
      cases i with
      | zero =>
          rw [List.getElem?_cons_zero, Option.some.injEq] at atI
          subst atI
          have restarted : Sleeps first.now (first :: rest) := ⟨Nat.le_refl _, sleeps.2⟩
          exact restarted.start_add_le (by rwa [Nat.zero_add] at atLater)
      | succ i =>
          rw [Nat.add_right_comm, List.getElem?_cons_succ] at atLater
          exact ih sleeps.tail (by rwa [List.getElem?_cons_succ] at atI) atLater

theorem pairwise_now_getElem? {R : Nat → Nat → Prop} {samples : List Sample}
    (sorted : (samples.map Sample.now).Pairwise R) {j k : Nat} (before : j < k)
    {earlier later : Sample} (atJ : samples[j]? = some earlier) (atK : samples[k]? = some later) :
    R earlier.now later.now := by
  obtain ⟨inJ, rfl⟩ := List.getElem?_eq_some_iff.mp atJ
  obtain ⟨inK, rfl⟩ := List.getElem?_eq_some_iff.mp atK
  have related := List.pairwise_iff_getElem.mp sorted j k (by simpa) (by simpa) before
  rwa [List.getElem_map, List.getElem_map] at related

theorem le_latestActive {start : Nat} {samples : List Sample}
    (sorted : (samples.map Sample.now).Pairwise (· ≤ ·)) {sample : Sample}
    (member : sample ∈ samples) (active : 0 < sample.count) :
    sample.now ≤ latestActive start samples := by
  induction samples using List.reverseRecOn with
  | nil => cases member
  | append_singleton samples last ih =>
      rw [List.map_append, List.pairwise_append] at sorted
      rw [latestActive_concat]
      rcases List.mem_append.mp member with earlier | isLast
      · split_ifs
        · exact sorted.2.2 _ (List.mem_map_of_mem _ earlier) _ (List.mem_singleton_self _)
        · exact ih sorted.1 earlier
      · obtain rfl := List.mem_singleton.mp isLast
        simp [active]

/-- The window before an idle shutdown can hold a connection the loop never saw: passes every
`CHECK_INTERVAL` from time 0 read no connection, the pass at 330 s shuts down, and a connection
was open at 100 s, between the passes at 90 s and 120 s. -/
theorem checkIdle_shutdown_misses_connection_between_passes :
    ¬ ∀ (connections : Nat → Nat) (start : Nat) (samples : List Sample),
        Sleeps start samples → Observes connections samples →
        ∀ (k : Nat) (sample : Sample), samples[k]? = some sample →
          (checkIdle start samples)[k]? = some (some .shutdown) →
          ∀ t, sample.now - idleDuration ≤ t → t ≤ sample.now → connections t = 0 := by
  intro everyWindowQuiet
  have seen := everyWindowQuiet (fun t => if t = fromSecs 100 then 1 else 0) 0
    ((List.range 12).map fun i => ⟨fromSecs (checkInterval * i), 0⟩) (by decide) (by decide)
    11 ⟨fromSecs 330, 0⟩ (by decide) (by decide) (fromSecs 100) (by decide) (by decide)
  simp at seen

/-- When pass `k` shuts the server down, the loop has run for longer than `IDLE_DURATION`, and
the count is zero at every instant of the `IDLE_DURATION` up to pass `k` at which a pass read it. -/
theorem checkIdle_shutdown_after_quiet_window (connections : Nat → Nat) (start : Nat)
    (samples : List Sample) (sleeps : Sleeps start samples) (observes : Observes connections samples)
    (k : Nat) (sample : Sample) (atK : samples[k]? = some sample)
    (shut : (checkIdle start samples)[k]? = some (some .shutdown)) :
    start + idleDuration < sample.now ∧
      ∀ (j : Nat) (earlier : Sample), samples[j]? = some earlier →
        sample.now - idleDuration ≤ earlier.now → earlier.now ≤ sample.now → connections earlier.now = 0 := by
  refine ⟨checkIdle_shutdown_late sleeps.ordered atK shut, fun j earlier atJ recent notLater => ?_⟩
  rw [← observes earlier (List.getElem?_mem atJ)]
  obtain ⟨found, foundAt, quiet, idle⟩ := (checkIdle_shutdown_at_iff start samples k).mp shut
  rw [atK, Option.some.injEq] at foundAt
  subst foundAt
  rcases Nat.lt_trichotomy j k with before | rfl | after
  · by_contra active
    have sorted : ((samples.take k).map Sample.now).Pairwise (· ≤ ·) :=
      sleeps.ordered.pairwise.sublist ((List.take_sublist k samples).map _)
    have inPrefix : earlier ∈ samples.take k :=
      List.getElem?_mem (by rw [List.getElem?_take, if_pos before]; exact atJ)
    have seen : earlier.now ≤ latestActive start (samples.take k) :=
      le_latestActive sorted inPrefix (Nat.pos_of_ne_zero active)
    omega
  · rw [atK, Option.some.injEq] at atJ
    rwa [← atJ]
  · have := pairwise_now_getElem? sleeps.pairwise after atK atJ
    omega

/-- A connection seen by the first pass, at time 0, then eleven quiet passes every
`CHECK_INTERVAL`: the pass at 330 s shuts down, more than `IDLE_DURATION` after the start, and
the pass at 30 s, the earliest of its window, read no connection. -/
theorem checkIdle_shutdown_after_connection_before_window :
    Sleeps 0 (⟨0, 1⟩ :: (List.range 11).map fun i => ⟨fromSecs (checkInterval * (i + 1)), 0⟩) ∧
      Observes (fun t => if t = 0 then 1 else 0)
        (⟨0, 1⟩ :: (List.range 11).map fun i => ⟨fromSecs (checkInterval * (i + 1)), 0⟩) ∧
      (checkIdle 0 (⟨0, 1⟩ :: (List.range 11).map fun i => ⟨fromSecs (checkInterval * (i + 1)), 0⟩))[11]? =
        some (some .shutdown) ∧
      0 + idleDuration < fromSecs 330 ∧ (fun t => if t = 0 then 1 else 0) (fromSecs 30) = 0 :=
  have window := checkIdle_shutdown_after_quiet_window (fun t => if t = 0 then 1 else 0) 0
    (⟨0, 1⟩ :: (List.range 11).map fun i => ⟨fromSecs (checkInterval * (i + 1)), 0⟩) (by decide) (by decide)
    11 ⟨fromSecs 330, 0⟩ rfl (by decide)
  ⟨by decide, by decide, by decide, window.1, window.2 1 _ rfl (by decide) (by decide)⟩

/-- Eleven quiet passes in a row, after at least one earlier pass, make the last of them shut the
server down: its sleeps put it more than `IDLE_DURATION` after the start and after every earlier
pass that saw a connection. -/
theorem checkIdle_shutdown_after_eleven_quiet_passes (start : Nat) (samples : List Sample)
    (sleeps : Sleeps start samples) (k : Nat) (late : 10 < k) (sample : Sample) (atK : samples[k]? = some sample)
    (quiet : ∀ j, k - 10 ≤ j → j ≤ k → ∀ passed, samples[j]? = some passed → passed.count = 0) :
    (checkIdle start samples)[k]? = some (some .shutdown) := by
  have inBounds : k - 11 < samples.length := by
    obtain ⟨bound, -⟩ := List.getElem?_eq_some_iff.mp atK
    omega
  have atBefore := List.getElem?_eq_getElem inBounds
  have spaced : samples[k - 11].now + 11 * fromSecs checkInterval ≤ sample.now :=
    sleeps.spaced atBefore (by rwa [Nat.sub_add_cancel (by omega : 11 ≤ k)])
  have settled : latestActive start (samples.take k) ≤ samples[k - 11].now := by
    refine latestActive_le (by have := sleeps.start_add_le atBefore; omega) fun passed member active => ?_
    obtain ⟨j, atJ⟩ := List.mem_iff_getElem?.mp member
    rw [List.getElem?_take] at atJ
    split_ifs at atJ with early
    by_cases recent : k - 10 ≤ j
    · exact absurd (quiet j recent early.le passed atJ) active.ne'
    · have apart := sleeps.spaced atJ
        (show samples[j + (k - 11 - j)]? = some samples[k - 11] by rwa [Nat.add_sub_cancel' (by omega)])
      omega
  refine (checkIdle_shutdown_at_iff start samples k).mpr ⟨sample, atK, quiet k (by omega) le_rfl sample atK, ?_⟩
  simp only [idleDuration, fromSecs, checkInterval] at spaced ⊢
  omega

/-- A connection seen at time 0, then eleven quiet passes every `CHECK_INTERVAL`: the eleventh,
at 330 s, shuts the server down. -/
theorem checkIdle_eleven_quiet_passes_after_connection :
    Sleeps 0 (⟨0, 1⟩ :: (List.range 11).map fun i => ⟨fromSecs (checkInterval * (i + 1)), 0⟩) ∧
      (checkIdle 0 (⟨0, 1⟩ :: (List.range 11).map fun i => ⟨fromSecs (checkInterval * (i + 1)), 0⟩))[11]? =
        some (some .shutdown) :=
  ⟨by decide, checkIdle_shutdown_after_eleven_quiet_passes 0 _ (by decide) 11 (by decide) _ rfl
    fun j recent _ passed atJ => by
      obtain ⟨j, rfl⟩ : ∃ i, j = i + 1 := ⟨j - 1, by omega⟩
      obtain ⟨_, -, rfl⟩ := List.mem_map.mp (List.getElem?_mem (by rwa [List.getElem?_cons_succ] at atJ))
      rfl⟩

/-- Once a pass shuts the server down, every later pass shuts it down again until one sees a
connection: the loop goes on after calling `handle.shutdown()`. -/
theorem checkIdle_shutdown_repeats (start : Nat) (samples : List Sample) (ordered : Ordered start samples)
    (k : Nat) (shut : (checkIdle start samples)[k]? = some (some .shutdown)) (m : Nat) (later : Sample)
    (atM : samples[m]? = some later) (after : k ≤ m)
    (quiet : ∀ j, k ≤ j → j ≤ m → ∀ passed, samples[j]? = some passed → passed.count = 0) :
    (checkIdle start samples)[m]? = some (some .shutdown) := by
  obtain ⟨sample, atK, -, idle⟩ := (checkIdle_shutdown_at_iff start samples k).mp shut
  have unseen : latestActive start (samples.take m) = latestActive start (samples.take k) := by
    rw [← Nat.add_sub_cancel' after, List.take_add]
    refine latestActive_append_quiet start _ _ fun passed member => ?_
    obtain ⟨j, atJ⟩ := List.mem_iff_getElem?.mp member
    rw [List.getElem?_take, List.getElem?_drop] at atJ
    split_ifs at atJ with early
    exact quiet (k + j) (Nat.le_add_right k j) (by omega) passed atJ
  have notEarlier : sample.now ≤ later.now := by
    rcases Nat.lt_or_eq_of_le after with before | rfl
    · exact pairwise_now_getElem? ordered.pairwise before atK atM
    · rw [atK, Option.some.injEq] at atM
      rw [atM]
  refine (checkIdle_shutdown_at_iff start samples m).mpr ⟨later, atM, quiet m after le_rfl later atM, ?_⟩
  omega

/-- The quiet run of thirteen passes every `CHECK_INTERVAL` shuts down at 330 s, and again at
360 s. -/
theorem checkIdle_quiet_run_shuts_down_again :
    Ordered 0 ((List.range 13).map fun i => ⟨fromSecs (checkInterval * i), 0⟩) ∧
      (checkIdle 0 ((List.range 13).map fun i => ⟨fromSecs (checkInterval * i), 0⟩))[12]? =
        some (some .shutdown) :=
  ⟨by decide, checkIdle_shutdown_repeats 0 _ (by decide) 11 (by decide) 12 _ rfl (by decide)
    fun _ _ _ passed atJ => by
      obtain ⟨_, -, rfl⟩ := List.mem_map.mp (List.getElem?_mem atJ)
      rfl⟩

end MatrixServer.ShutdownMonitor
