import Mathlib

/-!
**Errors and panics: what a libindy operation can end in.**

Every fallible function of the ledger subsystem returns `IndyResult<T>`, an `IndyError` being an
error kind (what callers across the FFI boundary see, as an error code) and a message.  The
adapter `to_indy` of `indy_api_types::errors`, used by the keys controller on every wallet access,
*replaces* the kind and the message of whatever error it is given; that is the one fact about it
the controller's behaviour turns on.

Rust code can also end in a panic, which is not an `IndyResult` at all: `Option::unwrap` on
`None`, `expect`, and arithmetic underflow in a build with overflow checks.  `Outcome` records
that possibility for the command-line traversal and the scheduler's timing code.

Main definitions:

* `IndyCheqd.IndyErrorKind`, `IndyCheqd.IndyError`, `IndyCheqd.IndyResult`;
* `IndyCheqd.toIndy` — the kind-replacing adapter;
* `IndyCheqd.Outcome`, `IndyCheqd.unwrap`, `IndyCheqd.expect` — a Rust body that may panic.
-/

set_option autoImplicit false

namespace IndyCheqd

/-- Raw bytes: protobuf payloads, store keys, signatures. -/
abbrev Bytes := List UInt8

/-! ### Indy errors -/

/-- The kinds of `IndyErrorKind` that the modelled code names; a kind produced only inside a
collaborator that is not modelled is carried by `other` with its error code. -/
inductive IndyErrorKind where
  | invalidStructure
  | invalidState
  | ioError
  | walletItemNotFound
  | walletItemAlreadyExists
  | other (code : Nat)
  deriving DecidableEq, Repr

/-- An `IndyError`: the kind callers see and the message it carries.  The chain of causes that
`failure::Context` keeps is only ever logged and is left out. -/
structure IndyError where
  kind : IndyErrorKind
  msg : String
  deriving DecidableEq, Repr

/-- The result type `IndyResult<T>`. -/
abbrev IndyResult (α : Type) := Except IndyError α

/-- The adapter `IndyResultExt::to_indy`: an error, whatever its kind, becomes one of kind
`kind` with message `msg`; a success passes through. -/
def toIndy {α : Type} (r : IndyResult α) (kind : IndyErrorKind) (msg : String) : IndyResult α :=
  match r with
  | .ok a => .ok a
  | .error _ => .error ⟨kind, msg⟩

@[simp] theorem toIndy_ok {α : Type} (a : α) (kind : IndyErrorKind) (msg : String) :
    toIndy (.ok a) kind msg = .ok a := rfl

@[simp] theorem toIndy_error {α : Type} (e : IndyError) (kind : IndyErrorKind) (msg : String) :
    toIndy (.error e : IndyResult α) kind msg = .error ⟨kind, msg⟩ := rfl

/-- The kind of a failed `to_indy` is the given one, whatever the original error was. -/
theorem toIndy_eq_error {α : Type} {r : IndyResult α} {kind : IndyErrorKind} {msg : String}
    {e : IndyError} (h : toIndy r kind msg = .error e) : e = ⟨kind, msg⟩ := by
  cases r <;> simp_all

@[simp] theorem ok_bind {ε α β : Type} (a : α) (f : α → Except ε β) :
    (Except.ok a >>= f) = f a := rfl

@[simp] theorem error_bind {ε α β : Type} (e : ε) (f : α → Except ε β) :
    (Except.error e >>= f) = .error e := rfl

theorem bind_eq_ok {ε α β : Type} {x : Except ε α} {f : α → Except ε β} {b : β} :
    x >>= f = .ok b ↔ ∃ a, x = .ok a ∧ f a = .ok b := by
  cases x <;> simp

theorem map_eq_ok {ε α β : Type} {x : Except ε α} {f : α → β} {b : β} :
    f <$> x = .ok b ↔ ∃ a, x = .ok a ∧ f a = b := by
  cases x <;> simp [Functor.map, Except.map]

/-! ### Panics -/

/-- How a Rust body ends: with a value, or in a panic with its message. -/
inductive Outcome (α : Type) where
  | done : α → Outcome α
  | panic : String → Outcome α
  deriving DecidableEq, Repr

namespace Outcome

/-- Sequencing: a panic unwinds past everything after it. -/
def bind {α β : Type} : Outcome α → (α → Outcome β) → Outcome β
  | done a, f => f a
  | panic m, _ => panic m

instance : Monad Outcome where
  pure := done
  bind := bind

@[simp] theorem pure_eq {α : Type} (a : α) : (pure a : Outcome α) = done a := rfl

@[simp] theorem done_bind {α β : Type} (a : α) (f : α → Outcome β) :
    (done a >>= f) = f a := rfl

@[simp] theorem panic_bind {α β : Type} (m : String) (f : α → Outcome β) :
    (panic m >>= f) = panic m := rfl

/-- Whether a body ended in a panic. -/
def Panics {α : Type} : Outcome α → Prop
  | done _ => False
  | panic _ => True

instance {α : Type} : (x : Outcome α) → Decidable x.Panics
  | done _ => isFalse id
  | panic _ => isTrue trivial

@[simp] theorem panics_done {α : Type} (a : α) : ¬ (done a).Panics := id

@[simp] theorem panics_panic {α : Type} (m : String) : (panic m : Outcome α).Panics := trivial

@[simp] theorem panics_map {α β : Type} (f : α → β) (x : Outcome α) :
    (f <$> x).Panics ↔ x.Panics := by
  cases x <;> rfl

end Outcome

/-- Rust's `Option::unwrap`. -/
def unwrap {α : Type} : Option α → Outcome α
  | some a => .done a
  | none => .panic "called Option::unwrap() on a None value"

/-- Rust's `Option::expect`. -/
def expect {α : Type} (o : Option α) (msg : String) : Outcome α :=
  match o with
  | some a => .done a
  | none => .panic msg

@[simp] theorem unwrap_some {α : Type} (a : α) : unwrap (some a) = .done a := rfl

@[simp] theorem unwrap_none {α : Type} : unwrap (none : Option α) = .panic
    "called Option::unwrap() on a None value" := rfl

@[simp] theorem unwrap_eq_done {α : Type} {o : Option α} {a : α} :
    unwrap o = .done a ↔ o = some a := by
  cases o <;> simp

@[simp] theorem unwrap_panics {α : Type} (o : Option α) : (unwrap o).Panics ↔ o = none := by
  cases o <;> simp

@[simp] theorem expect_some {α : Type} (a : α) (msg : String) : expect (some a) msg = .done a :=
  rfl

@[simp] theorem expect_none {α : Type} (msg : String) : expect (none : Option α) msg = .panic msg :=
  rfl

end IndyCheqd
