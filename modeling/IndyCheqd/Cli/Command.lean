import IndyCheqd.Cli.Json

/-!
**Command-line commands: the libindy calls they make, and how they end.**

A cheqd command of the command line reads its parameters, calls libindy one function after the
other, and stops at the first failure: a library error is handed to `handle_indy_error`, a
problem the command notices itself is printed, and either way the command returns `Err(())`.
It can also panic, in an `unwrap`.

A command is modelled as a `Cmd`: the list of library calls it made, in order, with their
arguments, and how it ended.  The library is a `CheqdLib`, one function per call, so that a run
of a command is a function of its parameters and of the library's answers.

Main definitions:

* `IndyCheqd.Cli.Call`, `IndyCheqd.Cli.CheqdLib`, `IndyCheqd.Cli.CliError`;
* `IndyCheqd.Cli.Cmd` with `call`, `fail`, `lift` — the command monad, and `Cmd.Reads`, a
  command none of whose calls writes to the wallet;
* `IndyCheqd.Cli.parseU64` — Rust's `str::parse::<u64>`, and `parseParam`, a number parameter;
* `IndyCheqd.Cli.getStrParam`, `IndyCheqd.Cli.getOptStrParam`, and the context lookups.
-/

set_option autoImplicit false

namespace IndyCheqd

namespace Cli

open Json

/-! ### Library calls -/

/-- A libindy call a cheqd command makes, with its arguments. -/
inductive Call where
  | getInfo (walletHandle : Nat) (keyAlias : String)
  | addRandom (walletHandle : Nat) («alias» : String)
  | addFromMnemonic (walletHandle : Nat) («alias» mnemonic : String)
  | buildMsgCreateNym (did creator verkey poolAlias role : String)
  | buildQueryAccount (address : String)
  | buildQueryGetNym (id : UInt64)
  | abciQuery (poolAlias query : String)
  | parseQueryAccountResp (response : String)
  | parseQueryGetNymResp (response : String)
  | buildTx (poolAlias pubkey : String) (msg : Bytes)
      (accountNumber accountSequence maxGas maxCoin : UInt64) (denom : String)
      (timeoutHeight : UInt64) (memo : String)
  | sign (walletHandle : Nat) (keyAlias : String) (tx : Bytes)
  | broadcastTxCommit (poolAlias : String) (signedTx : Bytes)
  | parseMsgCreateNymResp (response : String)
  deriving DecidableEq, Repr

/-- The calls that write to the wallet: the two adds of a key. -/
def Call.writes : Call → Bool
  | .addRandom .. => true
  | .addFromMnemonic .. => true
  | _ => false

/-- The answers of libindy to the calls, as the command line receives them. -/
structure CheqdLib where
  getInfo : Nat → String → IndyResult String
  addRandom : Nat → String → IndyResult String
  addFromMnemonic : Nat → String → String → IndyResult String
  buildMsgCreateNym : String → String → String → String → String → IndyResult Bytes
  buildQueryAccount : String → IndyResult String
  buildQueryGetNym : UInt64 → IndyResult String
  abciQuery : String → String → IndyResult String
  parseQueryAccountResp : String → IndyResult String
  parseQueryGetNymResp : String → IndyResult String
  buildTx : String → String → Bytes → UInt64 → UInt64 → UInt64 → UInt64 → String → UInt64 →
    String → IndyResult Bytes
  sign : Nat → String → Bytes → IndyResult Bytes
  broadcastTxCommit : String → Bytes → IndyResult String
  parseMsgCreateNymResp : String → IndyResult String

/-- Why a command returned `Err(())`. -/
inductive CliError where
  /-- A library error, handed to `handle_indy_error`. -/
  | indy (e : IndyError)
  /-- A message the command printed itself. -/
  | printed (msg : String)
  /-- A required parameter was not given. -/
  | missingParam (name : String)
  /-- No cheqd pool is connected. -/
  | noPool
  /-- No wallet is open. -/
  | noWallet
  deriving DecidableEq, Repr

/-! ### The command monad -/

/-- What a command did: the library calls it made, in order, and how it ended. -/
structure Cmd (α : Type) where
  calls : List Call
  result : Outcome (Except CliError α)

namespace Cmd

/-- Sequencing: the calls of both parts, unless the first one failed or panicked. -/
def bind {α β : Type} (x : Cmd α) (f : α → Cmd β) : Cmd β :=
  match x.result with
  | .done (.ok a) => ⟨x.calls ++ (f a).calls, (f a).result⟩
  | .done (.error e) => ⟨x.calls, .done (.error e)⟩
  | .panic m => ⟨x.calls, .panic m⟩

instance : Monad Cmd where
  pure a := ⟨[], .done (.ok a)⟩
  bind := bind

@[simp] theorem pure_calls {α : Type} (a : α) : (pure a : Cmd α).calls = [] := rfl

@[simp] theorem pure_result {α : Type} (a : α) : (pure a : Cmd α).result = .done (.ok a) := rfl

theorem bind_ok {α β : Type} {x : Cmd α} {a : α} (h : x.result = .done (.ok a))
    (f : α → Cmd β) : x >>= f = ⟨x.calls ++ (f a).calls, (f a).result⟩ := by
  show bind x f = _
  simp [bind, h]

theorem bind_error {α β : Type} {x : Cmd α} {e : CliError} (h : x.result = .done (.error e))
    (f : α → Cmd β) : x >>= f = ⟨x.calls, .done (.error e)⟩ := by
  show bind x f = _
  simp [bind, h]

theorem bind_panic {α β : Type} {x : Cmd α} {m : String} (h : x.result = .panic m)
    (f : α → Cmd β) : x >>= f = ⟨x.calls, .panic m⟩ := by
  show bind x f = _
  simp [bind, h]

@[simp] theorem pure_bind {α β : Type} (a : α) (f : α → Cmd β) : (pure a >>= f) = f a := rfl

/-- The calls of a sequence depend on its second part only through the calls that part makes. -/
theorem calls_bind_congr {α β γ : Type} {x : Cmd α} {f : α → Cmd β} {g : α → Cmd γ}
    (h : ∀ a, (f a).calls = (g a).calls) : (x >>= f).calls = (x >>= g).calls := by
  show (bind x f).calls = (bind x g).calls
  rcases x with ⟨cs, (_ | _) | _⟩ <;> simp [bind, h]

/-- A second part that makes no call adds none. -/
theorem calls_bind_silent {α β : Type} {x : Cmd α} {f : α → Cmd β} (h : ∀ a, (f a).calls = []) :
    (x >>= f).calls = x.calls := by
  show (bind x f).calls = x.calls
  rcases x with ⟨cs, (_ | _) | _⟩ <;> simp [bind, h]

/-- A sequence succeeds exactly when both parts do. -/
theorem result_bind_ok {α β : Type} {x : Cmd α} {f : α → Cmd β} {b : β} :
    (x >>= f).result = .done (.ok b) ↔
      ∃ a, x.result = .done (.ok a) ∧ (f a).result = .done (.ok b) := by
  show (bind x f).result = _ ↔ _
  rcases x with ⟨cs, (_ | _) | _⟩ <;> simp [bind]

/-- A call of a sequence is a call of its first part, or of its second after the first
succeeded. -/
theorem mem_calls_bind {α β : Type} {x : Cmd α} {f : α → Cmd β} {c : Call} :
    c ∈ (x >>= f).calls ↔ c ∈ x.calls ∨ ∃ a, x.result = .done (.ok a) ∧ c ∈ (f a).calls := by
  show c ∈ (bind x f).calls ↔ _
  rcases x with ⟨cs, (_ | _) | _⟩ <;> simp [bind]

/-- A sequence of two parts that make no call makes no call. -/
theorem calls_bind_nil {α β : Type} {x : Cmd α} {f : α → Cmd β} (hx : x.calls = [])
    (hf : ∀ a, (f a).calls = []) : (x >>= f).calls = [] := by
  show (bind x f).calls = []
  rcases x with ⟨cs, (_ | _) | _⟩ <;> simp_all [bind]

/-- A sequence panics when its first part does, or its second after the first succeeded. -/
theorem panics_bind {α β : Type} {x : Cmd α} {f : α → Cmd β} :
    (x >>= f).result.Panics ↔
      x.result.Panics ∨ ∃ a, x.result = .done (.ok a) ∧ (f a).result.Panics := by
  show (bind x f).result.Panics ↔ _
  rcases x with ⟨cs, (_ | _) | _⟩ <;> simp [bind]

/-- A command that only reads the wallet: none of its calls writes. -/
def Reads {α : Type} (x : Cmd α) : Prop := ∀ c ∈ x.calls, c.writes = false

/-- A sequence only reads when its first part does, and so does its second after the first
succeeded. -/
theorem reads_bind_iff {α β : Type} {x : Cmd α} {f : α → Cmd β} :
    (x >>= f).Reads ↔ x.Reads ∧ ∀ a, x.result = .done (.ok a) → (f a).Reads := by
  simp only [Reads, mem_calls_bind, or_imp, forall_and, forall_exists_index, and_imp]
  exact and_congr_right fun _ => forall_comm.trans (forall_congr' fun _ => forall_comm)

@[simp] theorem reads_of_calls_nil {α : Type} {x : Cmd α} (h : x.calls = []) : x.Reads := by
  simp [Reads, h]

end Cmd

/-- A library call and its answer; an error is handed to `handle_indy_error`. -/
def call {α : Type} (c : Call) (r : IndyResult α) : Cmd α :=
  ⟨[c], .done (r.mapError .indy)⟩

/-- Giving up with `Err(())`. -/
def fail {α : Type} (e : CliError) : Cmd α := ⟨[], .done (.error e)⟩

/-- A step that makes no call but may panic. -/
def lift {α : Type} (o : Outcome α) : Cmd α := ⟨[], (fun a => .ok a) <$> o⟩

/-- A step that makes no call and may fail. -/
def ofExcept {α : Type} (r : Except CliError α) : Cmd α := ⟨[], .done r⟩

@[simp] theorem call_calls {α : Type} (c : Call) (r : IndyResult α) : (call c r).calls = [c] := rfl

@[simp] theorem call_ok {α : Type} (c : Call) (a : α) :
    (call c (.ok a)).result = .done (.ok a) := rfl

@[simp] theorem call_error {α : Type} (c : Call) (e : IndyError) :
    (call c (.error e : IndyResult α)).result = .done (.error (.indy e)) := rfl

@[simp] theorem call_error_bind {α β : Type} (c : Call) (e : IndyError) (f : α → Cmd β) :
    (call c (.error e : IndyResult α) >>= f) = ⟨[c], .done (.error (.indy e))⟩ := rfl

@[simp] theorem call_result_eq_ok {α : Type} {c : Call} {r : IndyResult α} {a : α} :
    (call c r).result = .done (.ok a) ↔ r = .ok a := by
  cases r <;> simp [call, Except.mapError]

@[simp] theorem reads_call {α : Type} (c : Call) (r : IndyResult α) :
    (call c r).Reads ↔ c.writes = false := by
  simp [Cmd.Reads]

@[simp] theorem call_not_panics {α : Type} (c : Call) (r : IndyResult α) :
    ¬ (call c r).result.Panics := by
  simp [call]

@[simp] theorem fail_calls {α : Type} (e : CliError) : (fail e : Cmd α).calls = [] := rfl

@[simp] theorem fail_result {α : Type} (e : CliError) :
    (fail e : Cmd α).result = .done (.error e) := rfl

@[simp] theorem fail_bind {α β : Type} (e : CliError) (f : α → Cmd β) :
    (fail e >>= f) = fail e := rfl

@[simp] theorem lift_calls {α : Type} (o : Outcome α) : (lift o).calls = [] := rfl

@[simp] theorem lift_result_eq_ok {α : Type} {o : Outcome α} {a : α} :
    (lift o).result = .done (.ok a) ↔ o = .done a := by
  cases o <;> simp [lift, Functor.map, Outcome.bind]

@[simp] theorem lift_panics {α : Type} (o : Outcome α) : (lift o).result.Panics ↔ o.Panics := by
  simp [lift]

@[simp] theorem ofExcept_calls {α : Type} (r : Except CliError α) : (ofExcept r).calls = [] := rfl

@[simp] theorem ofExcept_result {α : Type} (r : Except CliError α) :
    (ofExcept r).result = .done r := rfl

/-! ### Parameters and context -/

/-- The value of a list of decimal digits. -/
def decimalValue (digits : List Char) : Nat :=
  digits.foldl (fun n c => 10 * n + (c.toNat - '0'.toNat)) 0

/-- Rust's `str::parse::<u64>`: an optional `+`, then at least one decimal digit, of a value
below `2 ^ 64`. -/
def parseU64 (s : String) : Option UInt64 :=
  let digits := match s.toList with
    | '+' :: rest => rest
    | cs => cs
  if digits ≠ [] ∧ digits.all Char.isDigit = true ∧ decimalValue digits < 2 ^ 64 then
    some (decimalValue digits).toUInt64
  else none

/-- An empty string is not a number. -/
theorem parseU64_empty : parseU64 "" = none := rfl

example : parseU64 "20000" = some 20000 := rfl

example : parseU64 "-1" = none := rfl

/-- A number parameter, with the commands' message for one that is not a `u64`. -/
def parseParam (name value : String) : Cmd UInt64 :=
  match parseU64 value with
  | some n => pure n
  | none => fail (.printed ("Invalid format of input data: " ++ name ++ " must be integer"))

@[simp] theorem parseParam_calls (name value : String) : (parseParam name value).calls = [] := by
  unfold parseParam; split <;> rfl

@[simp] theorem parseParam_result_eq_ok {name value : String} {n : UInt64} :
    (parseParam name value).result = .done (.ok n) ↔ parseU64 value = some n := by
  unfold parseParam; cases parseU64 value <;> simp

@[simp] theorem parseParam_not_panics (name value : String) :
    ¬ (parseParam name value).result.Panics := by
  unfold parseParam; split <;> simp

/-- The parameters given to a command, by name. -/
abbrev CommandParams := List (String × String)

/-- Modelled from the spec: `get_str_param` of the command line's helpers, a required
parameter. -/
def getStrParam (name : String) (params : CommandParams) : Cmd String :=
  match params.lookup name with
  | some v => pure v
  | none => fail (.missingParam name)

theorem getStrParam_of_some {name v : String} {params : CommandParams}
    (h : params.lookup name = some v) : getStrParam name params = pure v := by
  simp [getStrParam, h]

@[simp] theorem getStrParam_calls (name : String) (params : CommandParams) :
    (getStrParam name params).calls = [] := by
  unfold getStrParam; split <;> rfl

@[simp] theorem getStrParam_result_eq_ok {name v : String} {params : CommandParams} :
    (getStrParam name params).result = .done (.ok v) ↔ params.lookup name = some v := by
  unfold getStrParam; cases params.lookup name <;> simp

@[simp] theorem getStrParam_not_panics (name : String) (params : CommandParams) :
    ¬ (getStrParam name params).result.Panics := by
  unfold getStrParam; split <;> simp

/-- Modelled from the spec: `get_opt_str_param`, an optional parameter; it never fails. -/
def getOptStrParam (name : String) (params : CommandParams) : Option String :=
  params.lookup name

/-- What the command line's context holds: the connected cheqd pool and the open wallet. -/
structure CommandContext where
  cheqdPool : Option String
  walletHandle : Option Nat

/-- Modelled from the spec: `ensure_cheqd_connected_pool`. -/
def ensureCheqdConnectedPool (ctx : CommandContext) : Cmd String :=
  match ctx.cheqdPool with
  | some poolAlias => pure poolAlias
  | none => fail .noPool

/-- Modelled from the spec: `ensure_opened_wallet_handle`. -/
def ensureOpenedWalletHandle (ctx : CommandContext) : Cmd Nat :=
  match ctx.walletHandle with
  | some walletHandle => pure walletHandle
  | none => fail .noWallet

theorem ensureCheqdConnectedPool_of_some {ctx : CommandContext} {poolAlias : String}
    (h : ctx.cheqdPool = some poolAlias) : ensureCheqdConnectedPool ctx = pure poolAlias := by
  simp [ensureCheqdConnectedPool, h]

@[simp] theorem ensureCheqdConnectedPool_calls (ctx : CommandContext) :
    (ensureCheqdConnectedPool ctx).calls = [] := by
  unfold ensureCheqdConnectedPool; split <;> rfl

@[simp] theorem ensureCheqdConnectedPool_result_eq_ok {ctx : CommandContext} {a : String} :
    (ensureCheqdConnectedPool ctx).result = .done (.ok a) ↔ ctx.cheqdPool = some a := by
  unfold ensureCheqdConnectedPool; cases ctx.cheqdPool <;> simp

@[simp] theorem ensureOpenedWalletHandle_calls (ctx : CommandContext) :
    (ensureOpenedWalletHandle ctx).calls = [] := by
  unfold ensureOpenedWalletHandle; split <;> rfl

@[simp] theorem ensureCheqdConnectedPool_not_panics (ctx : CommandContext) :
    ¬ (ensureCheqdConnectedPool ctx).result.Panics := by
  unfold ensureCheqdConnectedPool; split <;> simp

@[simp] theorem ensureOpenedWalletHandle_not_panics (ctx : CommandContext) :
    ¬ (ensureOpenedWalletHandle ctx).result.Panics := by
  unfold ensureOpenedWalletHandle; split <;> simp

@[simp] theorem ensureOpenedWalletHandle_result_eq_ok {ctx : CommandContext} {h : Nat} :
    (ensureOpenedWalletHandle ctx).result = .done (.ok h) ↔ ctx.walletHandle = some h := by
  unfold ensureOpenedWalletHandle; cases ctx.walletHandle <;> simp

end Cli

end IndyCheqd
