import IndyCheqd.Basic

/-!
**The instrumented worker pool: what `spawn_ok_instrumented` reports.**

Every libindy call runs as a task on a worker pool.  The task reads the wall clock
(`get_cur_time`, milliseconds since the epoch as a `u128`) when it is requested, when it starts,
when the action has run and when the callback has run, and reports three differences to the
metrics service: the time in the queue, the time executing, and the time in the callback.  The
callback runs *before* the reports.

The clock is `SystemTime`, which can be set back, and the differences are plain `u128`
subtractions.  With overflow checks (a debug build) a reading smaller than the one before makes
the subtraction panic in the worker task, after the callback and after the reports that came
before it; without them (a release build) the subtraction wraps and the metrics service receives
`2 ^ 128 - d` for a step back of `d` milliseconds.  The older copy of the pool in
`commands/mod.rs` makes the first two reports only.

Main definitions:

* `IndyCheqd.getCurTime`, `IndyCheqd.Profile`, `IndyCheqd.subU128`;
* `IndyCheqd.InstrumentedThreadPool.spawnOkInstrumented` and
  `IndyCheqd.Commands.InstrumentedThreadPool.spawnOkInstrumented` — the worker task's events.

Main results:

* `IndyCheqd.InstrumentedThreadPool.spawnOkInstrumented_of_monotone` — on readings that do not
  go back, both builds report the exact durations;
* `IndyCheqd.InstrumentedThreadPool.spawnOkInstrumented_debug` — **a debug build runs the
  callback and the reports before the first step back, then panics**, and
  `IndyCheqd.InstrumentedThreadPool.spawnOkInstrumented_debug_panics` — it panics exactly when
  some reading goes back;
* `IndyCheqd.InstrumentedThreadPool.spawnOkInstrumented_release` — a release build reports the
  wrapped differences;
* `IndyCheqd.InstrumentedThreadPool.spawnOkInstrumented_callback_once` — the callback runs
  exactly once, first, whatever the clock does;
* `IndyCheqd.InstrumentedThreadPool.spawnOkInstrumented_of_clock` — a wall clock that does not
  go back never makes the task panic.
-/

set_option autoImplicit false

namespace IndyCheqd

/-- Function `get_cur_time`, from the wall clock in nanoseconds since the epoch (negative before
it): `duration_since(UNIX_EPOCH).expect(..)`, then `as_millis`. -/
def getCurTime (now : Int) : Outcome (BitVec 128) :=
  if now < 0 then .panic "Time has gone backwards"
  else .done (BitVec.ofNat 128 (now.toNat / 1000000))

theorem getCurTime_of_nonneg {now : Int} (h : 0 ≤ now) :
    getCurTime now = .done (BitVec.ofNat 128 (now.toNat / 1000000)) := by
  simp [getCurTime, not_lt.2 h]

/-- A later wall clock gives a later reading, as long as the milliseconds fit in a `u128`. -/
theorem getCurTime_le {a b : Int} (hab : a ≤ b) (hb : b < 2 ^ 128) :
    BitVec.ofNat 128 (a.toNat / 1000000) ≤ BitVec.ofNat 128 (b.toNat / 1000000) := by
  have hlt : ∀ c : Int, c < 2 ^ 128 → c.toNat / 1000000 < 2 ^ 128 := by omega
  rw [BitVec.le_def, BitVec.toNat_ofNat, BitVec.toNat_ofNat,
    Nat.mod_eq_of_lt (hlt a (by omega)), Nat.mod_eq_of_lt (hlt b hb)]
  exact Nat.div_le_div_right (by omega)

/-- How the crate is built: with overflow checks arithmetic overflow panics, without them it
wraps. -/
inductive Profile where
  | debug
  | release
  deriving DecidableEq, Repr

/-- The `u128` subtraction `a - b`. -/
def subU128 (profile : Profile) (a b : BitVec 128) : Outcome (BitVec 128) :=
  match profile with
  | .debug => if b ≤ a then .done (a - b) else .panic "attempt to subtract with overflow"
  | .release => .done (a - b)

theorem subU128_of_le (profile : Profile) {a b : BitVec 128} (h : b ≤ a) :
    subU128 profile a b = .done (a - b) := by
  cases profile <;> simp [subU128, h]

theorem subU128_debug_of_lt {a b : BitVec 128} (h : a < b) :
    subU128 .debug a b = .panic "attempt to subtract with overflow" := by
  simp [subU128, BitVec.not_le.2 h]

@[simp] theorem subU128_release (a b : BitVec 128) : subU128 .release a b = .done (a - b) := rfl

/-- A reading that does not go back gives the exact difference. -/
theorem toNat_sub_of_le {a b : BitVec 128} (h : b ≤ a) : (a - b).toNat = a.toNat - b.toNat :=
  BitVec.toNat_sub_of_le h

/-- A reading that goes back by `d` wraps to `2 ^ 128 - d`. -/
theorem toNat_sub_of_lt {a b : BitVec 128} (h : a < b) :
    (a - b).toNat = 2 ^ 128 - (b.toNat - a.toNat) :=
  BitVec.toNat_sub_of_lt h

/-! ### The worker task -/

/-- What a worker task does that can be observed: the callback runs, and the metrics service
receives a report. -/
inductive Event (Metric : Type) where
  | callback
  | cmdLeftQueue (idx : Metric) (duration : BitVec 128)
  | cmdExecuted (idx : Metric) (duration : BitVec 128)
  | cmdCallback (idx : Metric) (duration : BitVec 128)
  deriving DecidableEq, Repr

/-- The events of a task in order, and how it ended. -/
abbrev Trace (Metric : Type) := List (Event Metric) × Outcome Unit

/-- The clock readings of one task. -/
structure Readings where
  requestedTime : BitVec 128
  startTime : BitVec 128
  executedTime : BitVec 128
  cbFinishedTime : BitVec 128
  deriving DecidableEq, Repr

/-- Readings that never go back. -/
def Readings.Monotone (t : Readings) : Prop :=
  t.requestedTime ≤ t.startTime ∧ t.startTime ≤ t.executedTime ∧
    t.executedTime ≤ t.cbFinishedTime

instance (t : Readings) : Decidable t.Monotone := inferInstanceAs (Decidable (_ ∧ _))

/-- The position of the first of a task's three differences whose later reading is smaller than
the earlier one: 0 for the time in the queue, 1 for the time executing, 2 for the time in the
callback, and 3 when no reading goes back. -/
def Readings.firstStepBack (t : Readings) : Nat :=
  if t.startTime < t.requestedTime then 0
  else if t.executedTime < t.startTime then 1
  else if t.cbFinishedTime < t.executedTime then 2
  else 3

section Report

variable {Metric : Type}

/-- The event `e`, then the rest of the task. -/
def emit (e : Event Metric) (rest : Trace Metric) : Trace Metric := (e :: rest.1, rest.2)

/-- Report `later - earlier` with `event`, then go on with `rest`: the subtraction is evaluated
before the report, and a panic in it ends the task. -/
def report (profile : Profile) (later earlier : BitVec 128) (event : BitVec 128 → Event Metric)
    (rest : Trace Metric) : Trace Metric :=
  match subU128 profile later earlier with
  | .done d => emit (event d) rest
  | .panic m => ([], .panic m)

@[simp] theorem emit_fst (e : Event Metric) (rest : Trace Metric) :
    (emit e rest).1 = e :: rest.1 := rfl

@[simp] theorem emit_snd (e : Event Metric) (rest : Trace Metric) : (emit e rest).2 = rest.2 := rfl

theorem report_of_le (profile : Profile) {later earlier : BitVec 128} (h : earlier ≤ later)
    (event : BitVec 128 → Event Metric) (rest : Trace Metric) :
    report profile later earlier event rest = emit (event (later - earlier)) rest := by
  simp [report, subU128_of_le profile h]

theorem report_debug_of_lt {later earlier : BitVec 128} (h : later < earlier)
    (event : BitVec 128 → Event Metric) (rest : Trace Metric) :
    report .debug later earlier event rest = ([], .panic "attempt to subtract with overflow") := by
  simp [report, subU128_debug_of_lt h]

@[simp] theorem report_release (later earlier : BitVec 128) (event : BitVec 128 → Event Metric)
    (rest : Trace Metric) :
    report .release later earlier event rest = emit (event (later - earlier)) rest := rfl

/-- A report adds its own event and nothing else. -/
theorem mem_report {profile : Profile} {later earlier : BitVec 128}
    {event : BitVec 128 → Event Metric} {rest : Trace Metric} {e : Event Metric}
    (h : e ∈ (report profile later earlier event rest).1) : (∃ d, e = event d) ∨ e ∈ rest.1 := by
  unfold report at h
  split at h
  · exact (List.mem_cons.1 h).imp_left fun he => ⟨_, he⟩
  · simp at h

/-- A report ends in a panic exactly when its subtraction or what follows does. -/
theorem report_panics (profile : Profile) (later earlier : BitVec 128)
    (event : BitVec 128 → Event Metric) (rest : Trace Metric) :
    (report profile later earlier event rest).2.Panics ↔
      (profile = .debug ∧ later < earlier) ∨ rest.2.Panics := by
  rcases Decidable.em (earlier ≤ later) with h | h
  · rw [report_of_le profile h]
    simp [BitVec.not_lt.2 h]
  · have hlt : later < earlier := BitVec.not_le.1 h
    cases profile
    · simp [report_debug_of_lt hlt, hlt]
    · simp

end Report

namespace InstrumentedThreadPool

variable {Metric : Type}

/-- Method `spawn_ok_instrumented` (`lib.rs`): the task it spawns runs the callback, then reports
the time in the queue, the time executing and the time in the callback. -/
def spawnOkInstrumented (profile : Profile) (idx : Metric) (t : Readings) : Trace Metric :=
  emit .callback <|
    report profile t.startTime t.requestedTime (.cmdLeftQueue idx) <|
    report profile t.executedTime t.startTime (.cmdExecuted idx) <|
    report profile t.cbFinishedTime t.executedTime (.cmdCallback idx) ([], .done ())

/-- The events of a task whose three reports all go through. -/
def reports (idx : Metric) (t : Readings) : List (Event Metric) :=
  [.callback, .cmdLeftQueue idx (t.startTime - t.requestedTime),
    .cmdExecuted idx (t.executedTime - t.startTime),
    .cmdCallback idx (t.cbFinishedTime - t.executedTime)]

/-- On readings that never go back, both builds run the task to its end and report the exact
differences. -/
theorem spawnOkInstrumented_of_monotone (profile : Profile) (idx : Metric) {t : Readings}
    (h : t.Monotone) : spawnOkInstrumented profile idx t = (reports idx t, .done ()) := by
  obtain ⟨h₁, h₂, h₃⟩ := h
  simp [spawnOkInstrumented, report_of_le profile h₁, report_of_le profile h₂,
    report_of_le profile h₃, reports, emit]

/-- **What a debug build does**: the callback, then the reports whose differences come before the
first step back, then a panic when some reading goes back and the end of the task otherwise. -/
theorem spawnOkInstrumented_debug (idx : Metric) (t : Readings) :
    spawnOkInstrumented .debug idx t =
      ((reports idx t).take (t.firstStepBack + 1),
        if t.Monotone then .done () else .panic "attempt to subtract with overflow") := by
  unfold Readings.firstStepBack
  by_cases h₁ : t.startTime < t.requestedTime
  · simp [spawnOkInstrumented, report_debug_of_lt h₁, reports, h₁, Readings.Monotone, emit,
      BitVec.not_le.2 h₁]
  have h₁' := BitVec.not_lt.1 h₁
  by_cases h₂ : t.executedTime < t.startTime
  · simp [spawnOkInstrumented, report_of_le .debug h₁', report_debug_of_lt h₂, reports, h₁, h₂,
      Readings.Monotone, emit, BitVec.not_le.2 h₂]
  have h₂' := BitVec.not_lt.1 h₂
  by_cases h₃ : t.cbFinishedTime < t.executedTime
  · simp [spawnOkInstrumented, report_of_le .debug h₁', report_of_le .debug h₂',
      report_debug_of_lt h₃, reports, h₁, h₂, h₃, Readings.Monotone, emit, BitVec.not_le.2 h₃]
  have h₃' := BitVec.not_lt.1 h₃
  rw [spawnOkInstrumented_of_monotone .debug idx ⟨h₁', h₂', h₃'⟩]
  simp [h₁, h₂, h₃, reports, Readings.Monotone, h₁', h₂', h₃']

/-- **A debug build panics exactly when some reading goes back.** -/
theorem spawnOkInstrumented_debug_panics (idx : Metric) (t : Readings) :
    (spawnOkInstrumented .debug idx t).2.Panics ↔ ¬ t.Monotone := by
  simp only [spawnOkInstrumented, emit_snd, report_panics, Readings.Monotone, not_and_or,
    BitVec.not_le, eq_self_iff_true, true_and, Outcome.panics_done, or_false]

/-- **The callback runs exactly once, first**, in both builds and whatever the clock does: the
instrumentation around it adds reports only, and a panic in one of them comes after it. -/
theorem spawnOkInstrumented_callback_once (profile : Profile) (idx : Metric) (t : Readings) :
    ∃ reports, (spawnOkInstrumented profile idx t).1 = .callback :: reports ∧
      .callback ∉ reports := by
  refine ⟨_, rfl, fun h => ?_⟩
  rcases mem_report h with ⟨_, ⟨⟩⟩ | h
  rcases mem_report h with ⟨_, ⟨⟩⟩ | h
  rcases mem_report h with ⟨_, ⟨⟩⟩ | h
  exact List.not_mem_nil _ h

/-- A release build never panics, and reports the differences as `u128` subtraction wraps them. -/
theorem spawnOkInstrumented_release (idx : Metric) (t : Readings) :
    spawnOkInstrumented .release idx t = (reports idx t, .done ()) := rfl

end InstrumentedThreadPool

namespace InstrumentedThreadPool

variable {Metric : Type}

/-- **A wall clock that does not go back never makes the task panic.**  When the four clock
values a task reads (nanoseconds since the epoch) do not decrease, `get_cur_time` reads them
without panicking, the readings do not go back either, and both builds report the exact
durations. -/
theorem spawnOkInstrumented_of_clock (profile : Profile) (idx : Metric)
    {requested start executed cbFinished : Int} (h₀ : 0 ≤ requested) (h₁ : requested ≤ start)
    (h₂ : start ≤ executed) (h₃ : executed ≤ cbFinished) (h₄ : cbFinished < 2 ^ 128) :
    ∃ t : Readings, getCurTime requested = .done t.requestedTime ∧
      getCurTime start = .done t.startTime ∧ getCurTime executed = .done t.executedTime ∧
      getCurTime cbFinished = .done t.cbFinishedTime ∧
      spawnOkInstrumented profile idx t = (reports idx t, .done ()) :=
  ⟨⟨_, _, _, _⟩, getCurTime_of_nonneg h₀, getCurTime_of_nonneg (by omega),
    getCurTime_of_nonneg (by omega), getCurTime_of_nonneg (by omega),
    spawnOkInstrumented_of_monotone profile idx
      ⟨getCurTime_le h₁ (by omega), getCurTime_le h₂ (by omega), getCurTime_le h₃ h₄⟩⟩

/-- A task whose clock reads 1, 2, 3 and 4 ms after the epoch reports 1 ms three times. -/
theorem spawnOkInstrumented_of_clock_sample :
    (0 : Int) ≤ 1000000 ∧ (1000000 : Int) ≤ 2000000 ∧ (2000000 : Int) ≤ 3000000 ∧
    (3000000 : Int) ≤ 4000000 ∧ (4000000 : Int) < 2 ^ 128 ∧
    ∃ t : Readings, getCurTime 1000000 = .done t.requestedTime ∧
      getCurTime 2000000 = .done t.startTime ∧ getCurTime 3000000 = .done t.executedTime ∧
      getCurTime 4000000 = .done t.cbFinishedTime ∧
      spawnOkInstrumented .debug () t = (reports () t, .done ()) :=
  ⟨by norm_num, by norm_num, by norm_num, by norm_num, by norm_num,
    spawnOkInstrumented_of_clock .debug () (by norm_num) (by norm_num) (by norm_num)
      (by norm_num) (by norm_num)⟩

end InstrumentedThreadPool

namespace Commands.InstrumentedThreadPool

variable {Metric : Type}

/-- Method `spawn_ok_instrumented` of the older copy (`commands/mod.rs`): it reads no time after
the callback and makes the first two reports only. -/
def spawnOkInstrumented (profile : Profile) (idx : Metric) (t : Readings) : Trace Metric :=
  emit .callback <|
    report profile t.startTime t.requestedTime (.cmdLeftQueue idx) <|
    report profile t.executedTime t.startTime (.cmdExecuted idx) ([], .done ())

/-- In a debug build the older copy makes the callback and the reports before the first step back
among its two differences, and panics when one of them goes back. -/
theorem spawnOkInstrumented_debug (idx : Metric) (t : Readings) :
    spawnOkInstrumented .debug idx t =
      ((InstrumentedThreadPool.reports idx t).take (min t.firstStepBack 2 + 1),
        if t.startTime < t.requestedTime ∨ t.executedTime < t.startTime then
          .panic "attempt to subtract with overflow" else .done ()) := by
  unfold Readings.firstStepBack
  by_cases h₁ : t.startTime < t.requestedTime
  · simp [spawnOkInstrumented, report_debug_of_lt h₁, InstrumentedThreadPool.reports, h₁, emit]
  have h₁' := BitVec.not_lt.1 h₁
  by_cases h₂ : t.executedTime < t.startTime
  · simp [spawnOkInstrumented, report_of_le .debug h₁', report_debug_of_lt h₂,
      InstrumentedThreadPool.reports, h₁, h₂, emit]
  by_cases h₃ : t.cbFinishedTime < t.executedTime <;>
    simp [spawnOkInstrumented, report_of_le .debug h₁', report_of_le .debug (BitVec.not_lt.1 h₂),
      InstrumentedThreadPool.reports, h₁, h₂, h₃, emit]

/-- The older copy is the newer one without its last report, so it is exposed to the first two
steps back only. -/
theorem spawnOkInstrumented_debug_panics (idx : Metric) (t : Readings) :
    (spawnOkInstrumented .debug idx t).2.Panics ↔
      t.startTime < t.requestedTime ∨ t.executedTime < t.startTime := by
  simp only [spawnOkInstrumented, emit_snd, report_panics, eq_self_iff_true, true_and,
    Outcome.panics_done, or_false]

theorem spawnOkInstrumented_release (idx : Metric) (t : Readings) :
    spawnOkInstrumented .release idx t =
      ([.callback, .cmdLeftQueue idx (t.startTime - t.requestedTime),
        .cmdExecuted idx (t.executedTime - t.startTime)], .done ()) := rfl

end Commands.InstrumentedThreadPool

/-! ### The timing contract -/

/-- What the two instrumented pools report, for every clock readings, the callback running first
and once: exact durations when no reading goes back; in a debug build, the reports before the
first step back and then a panic, exactly when one goes back; in a release build, the `u128`
differences, which wrap to `2 ^ 128 - d` for a step back of `d`. -/
structure TimingContract (Metric : Type) : Prop where
  /-- Readings that never go back give the exact durations, in both builds. -/
  exact : ∀ profile (idx : Metric) (t : Readings), t.Monotone →
    InstrumentedThreadPool.spawnOkInstrumented profile idx t =
      (InstrumentedThreadPool.reports idx t, .done ())
  /-- A debug build panics exactly when some reading goes back. -/
  debug_panics : ∀ (idx : Metric) (t : Readings),
    (InstrumentedThreadPool.spawnOkInstrumented .debug idx t).2.Panics ↔ ¬ t.Monotone
  /-- In a debug build the task runs the callback and makes the reports that precede the first
  failing subtraction, and then panics if one fails. -/
  debug_trace : ∀ (idx : Metric) (t : Readings),
    InstrumentedThreadPool.spawnOkInstrumented .debug idx t =
      ((InstrumentedThreadPool.reports idx t).take (t.firstStepBack + 1),
        if t.Monotone then .done () else .panic "attempt to subtract with overflow")
  /-- In both builds the callback runs first, and only once. -/
  callback_once : ∀ profile (idx : Metric) (t : Readings), ∃ reports,
    (InstrumentedThreadPool.spawnOkInstrumented profile idx t).1 = .callback :: reports ∧
      .callback ∉ reports
  /-- A release build always reports the three `u128` differences. -/
  release : ∀ (idx : Metric) (t : Readings),
    InstrumentedThreadPool.spawnOkInstrumented .release idx t =
      (InstrumentedThreadPool.reports idx t, .done ())
  /-- A `u128` difference is exact when the later reading is not smaller, and wraps otherwise. -/
  wraps : ∀ later earlier : BitVec 128,
    (earlier ≤ later ∧ (later - earlier).toNat = later.toNat - earlier.toNat) ∨
    (later < earlier ∧ (later - earlier).toNat = 2 ^ 128 - (earlier.toNat - later.toNat))
  /-- The older copy panics in a debug build exactly when one of its two differences goes back. -/
  older_debug_panics : ∀ (idx : Metric) (t : Readings),
    (Commands.InstrumentedThreadPool.spawnOkInstrumented .debug idx t).2.Panics ↔
      t.startTime < t.requestedTime ∨ t.executedTime < t.startTime
  /-- The same for the older copy, over its two differences. -/
  older_debug_trace : ∀ (idx : Metric) (t : Readings),
    Commands.InstrumentedThreadPool.spawnOkInstrumented .debug idx t =
      ((InstrumentedThreadPool.reports idx t).take (min t.firstStepBack 2 + 1),
        if t.startTime < t.requestedTime ∨ t.executedTime < t.startTime then
          .panic "attempt to subtract with overflow" else .done ())
  /-- The older copy reports two differences in a release build. -/
  older_release : ∀ (idx : Metric) (t : Readings),
    Commands.InstrumentedThreadPool.spawnOkInstrumented .release idx t =
      ([.callback, .cmdLeftQueue idx (t.startTime - t.requestedTime),
        .cmdExecuted idx (t.executedTime - t.startTime)], .done ())

/-- **The timing contract holds.** -/
theorem timing_contract (Metric : Type) : TimingContract Metric where
  exact profile idx _ h := InstrumentedThreadPool.spawnOkInstrumented_of_monotone profile idx h
  debug_panics := InstrumentedThreadPool.spawnOkInstrumented_debug_panics
  debug_trace := InstrumentedThreadPool.spawnOkInstrumented_debug
  callback_once := InstrumentedThreadPool.spawnOkInstrumented_callback_once
  release := InstrumentedThreadPool.spawnOkInstrumented_release
  wraps later earlier := by
    rcases Decidable.em (earlier ≤ later) with h | h
    · exact .inl ⟨h, toNat_sub_of_le h⟩
    · have hlt : later < earlier := BitVec.not_le.1 h
      exact .inr ⟨hlt, toNat_sub_of_lt hlt⟩
  older_debug_panics := Commands.InstrumentedThreadPool.spawnOkInstrumented_debug_panics
  older_debug_trace := Commands.InstrumentedThreadPool.spawnOkInstrumented_debug
  older_release := Commands.InstrumentedThreadPool.spawnOkInstrumented_release

/-- A clock set back by 2 ms between the request and the start: a debug build panics after the
callback, and a release build reports a queueing delay of `2 ^ 128 - 2` ms. -/
theorem spawnOkInstrumented_clock_set_back :
    (InstrumentedThreadPool.spawnOkInstrumented .debug () ⟨5, 3, 3, 3⟩).2 =
      .panic "attempt to subtract with overflow" ∧
    (InstrumentedThreadPool.spawnOkInstrumented .release () ⟨5, 3, 3, 3⟩).1 =
      [.callback, .cmdLeftQueue () (3 - 5), .cmdExecuted () 0, .cmdCallback () 0] ∧
    ((3 : BitVec 128) - 5).toNat = 2 ^ 128 - 2 :=
  ⟨rfl, rfl, rfl⟩

end IndyCheqd
