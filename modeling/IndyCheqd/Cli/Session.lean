import IndyCheqd.Cli.CreateNym
import IndyCheqd.Cli.Keys

/-!
**A command-line session: commands typed one after the other, against one wallet.**

The command line keeps a context, the connected pool and the open wallet, and runs the commands
typed into it one after the other.  The keys calls of its commands go through libindy to the keys
controller, and so to the wallet; the other calls go to the ledger.

A session is modelled as that sequence of commands, all run in one context `ctx`: the pool and
the wallet stay open throughout, since the commands that open, close or switch them are not under
src.  Each command runs with libindy answering
its keys calls by the keys controller on the wallet as the command found it (`libOn`), and the
wallet after the command is the one the controller's run of the command's keys calls, one after
the other, leaves (`sessionStep`).  The two agree because no command reads the wallet after it
writes it: an add's key call is the only call it makes, and the other commands never write.

Main definitions:

* `IndyCheqd.Cli.CliCommand`, `IndyCheqd.Cli.execute` — the commands, and running one;
* `IndyCheqd.Cli.libOn` — libindy with the keys controller on a wallet;
* `IndyCheqd.Cli.sessionStep`, `IndyCheqd.Cli.session` — one command, and a session.

Main results:

* `IndyCheqd.Cli.execute_writes` — a command writes nothing, or it is an add whose only call is
  the add its parameters ask for;
* `IndyCheqd.Cli.sessionStep_answers` — **the controller's run of a command's keys calls gives
  every call the answer the command received**;
* `IndyCheqd.Cli.session_records_of_some` — a stored key stays for the rest of the session;
* `IndyCheqd.Cli.session_key_provenance` — **every key of the wallet at the end was there at the
  start, or was built by an add of the session under its alias**;
* `IndyCheqd.Cli.session_getInfo_after_add` — after an add printed a key's info, every later
  `get-info` of the alias prints the same info;
* `IndyCheqd.Cli.session_add_twice` — after an add succeeded, every later add of the alias fails
  and leaves the wallet as it was;
* `IndyCheqd.Cli.session_broadcast_signed_by_stored_key` — every transaction a `create-nym`
  broadcasts is signed by the key the wallet holds under its `key_alias` at the end of the
  session, and was built with that key's public key and the account's fresh sequence
  (`IndyCheqd.Pipeline` adds the document that libindy's `build_tx` built).
-/

set_option autoImplicit false

namespace IndyCheqd

namespace Cli

open Json CheqdKeysController

/-! ### Commands -/

/-- The cheqd commands of the command line. -/
inductive CliCommand where
  | keysAdd
  | keysGetInfo
  | ledgerGetAccount
  | ledgerCreateNym
  | ledgerGetNym
  deriving DecidableEq, Repr

/-- Not under src: the command executor runs the `execute` of the command typed. -/
def execute (lib : CheqdLib) (fromStr : String → Option Value) (ctx : CommandContext) :
    CliCommand → CommandParams → Cmd String
  | .keysAdd, params => addCommand lib ctx params
  | .keysGetInfo, params => getInfoCommand lib ctx params
  | .ledgerGetAccount, params => getAccount lib ctx params
  | .ledgerCreateNym, params => createNym lib fromStr ctx params
  | .ledgerGetNym, params => getNym lib ctx params

/-- **Only an add writes, and only once.**  A command makes no call that writes, or it is an add
and its only call is the add its parameters ask for. -/
theorem execute_writes (lib : CheqdLib) (fromStr : String → Option Value) (ctx : CommandContext)
    (command : CliCommand) (params : CommandParams) :
    (execute lib fromStr ctx command params).Reads ∨ command = .keysAdd ∧
      ∃ c, (execute lib fromStr ctx command params).calls = [c] ∧ AddCall params c := by
  cases command with
  | keysAdd => exact (addCommand_writes lib ctx params).imp_right fun h => ⟨rfl, h⟩
  | keysGetInfo => exact .inl (getInfoCommand_reads lib ctx params)
  | ledgerGetAccount => exact .inl (getAccount_reads lib ctx params)
  | ledgerCreateNym => exact .inl (createNym_reads lib fromStr ctx)
  | ledgerGetNym => exact .inl (getNym_reads lib ctx params)

/-! ### Keys calls -/

/-- The keys controller's call that a library call is, with the randomness drawn for it. -/
def Call.keysOp (seed : Bytes) : Call → Option Op
  | .getInfo _ «alias» => some (.getInfo «alias»)
  | .addRandom _ «alias» => some (.addRandom «alias» seed)
  | .addFromMnemonic _ «alias» mnemonic => some (.addFromMnemonic «alias» mnemonic)
  | .sign _ «alias» tx => some (.sign «alias» tx)
  | _ => none

/-- The keys controller's calls among a command's calls, in order. -/
def keysOps {α : Type} (seed : Bytes) (x : Cmd α) : List Op :=
  x.calls.filterMap (Call.keysOp seed)

theorem keysOp_writes {seed : Bytes} {c : Call} {op : Op} (h : c.keysOp seed = some op) :
    op.writes = c.writes := by
  cases c <;> simp only [Call.keysOp, reduceCtorEq, Option.some.injEq] at h <;> subst h <;> rfl

theorem keysOps_of_reads {α : Type} {seed : Bytes} {x : Cmd α} (h : x.Reads) :
    ∀ op ∈ keysOps seed x, op.writes = false := by
  intro op hop
  obtain ⟨c, hc, hop⟩ := List.mem_filterMap.1 hop
  rw [keysOp_writes hop, h c hc]

variable {KeyInfo SignDoc Raw : Type} (svc : CheqdKeysService KeyInfo SignDoc Raw)

/-- libindy as a command sees it: the keys calls are answered by the keys controller on the
wallet `w` the command found (one wallet is open, whatever its handle), a random key is drawn
from `seed`, and the other calls are answered by `ledger`. -/
def libOn (ledger : CheqdLib) (seed : Bytes) (w : Wallet) : CheqdLib :=
  { ledger with
    getInfo := fun _ «alias» => getInfo svc «alias» w
    addRandom := fun _ «alias» => (addRandom svc «alias» seed w).1
    addFromMnemonic := fun _ «alias» mnemonic => (addFromMnemonic svc «alias» mnemonic w).1
    sign := fun _ «alias» tx => sign svc «alias» tx w }

/-! ### Sessions -/

/-- A command as typed, with the randomness libindy draws while running it (only a random add
uses it). -/
structure Typed where
  command : CliCommand
  params : CommandParams
  seed : Bytes

/-- `t` is a `cheqd-keys add` under `alias` for which the key service built `key`: from the
mnemonic given, or from the randomness drawn when none is. -/
def Typed.Adds («alias» : String) (key : Key) (t : Typed) : Prop :=
  t.command = .keysAdd ∧ t.params.lookup "alias" = some «alias» ∧
    match t.params.lookup "mnemonic" with
    | some mnemonic => svc.newFromMnemonic «alias» mnemonic = .ok key
    | none => svc.newRandom «alias» t.seed = .ok key

variable (ledger : CheqdLib) (fromStr : String → Option Value) (ctx : CommandContext)

/-- One command of a session, on the wallet `w`: what it did, and the wallet after the keys
controller has run its keys calls one after the other. -/
def sessionStep (t : Typed) (w : Wallet) : Cmd String × Wallet :=
  let log := execute (libOn svc ledger t.seed w) fromStr ctx t.command t.params
  (log, (run svc (keysOps t.seed log) w).2)

/-- A session in the context `ctx`, whose open wallet stays the same: what each command did, and
the wallet at the end. -/
def session : List Typed → Wallet → List (Cmd String) × Wallet
  | [], w => ([], w)
  | t :: ts, w =>
      let r := sessionStep svc ledger fromStr ctx t w
      let rs := session ts r.2
      (r.1 :: rs.1, rs.2)

@[simp] theorem session_nil (w : Wallet) : session svc ledger fromStr ctx [] w = ([], w) := rfl

@[simp] theorem session_cons (t : Typed) (ts : List Typed) (w : Wallet) :
    session svc ledger fromStr ctx (t :: ts) w =
      ((sessionStep svc ledger fromStr ctx t w).1 ::
          (session svc ledger fromStr ctx ts (sessionStep svc ledger fromStr ctx t w).2).1,
        (session svc ledger fromStr ctx ts (sessionStep svc ledger fromStr ctx t w).2).2) :=
  rfl

/-- The commands after `pre` run on the wallet `pre` left. -/
theorem session_append (pre post : List Typed) (w : Wallet) :
    session svc ledger fromStr ctx (pre ++ post) w =
      ((session svc ledger fromStr ctx pre w).1 ++
          (session svc ledger fromStr ctx post (session svc ledger fromStr ctx pre w).2).1,
        (session svc ledger fromStr ctx post (session svc ledger fromStr ctx pre w).2).2) := by
  induction pre generalizing w with
  | nil => rfl
  | cons t pre ih => simp [ih]

/-! ### One command -/

section Step

variable {t : Typed} {w : Wallet}

/-- **What one command does to the wallet**: nothing, or — for an add — what the controller's
add its parameters ask for does. -/
theorem sessionStep_wallet :
    (sessionStep svc ledger fromStr ctx t w).2 = w ∨ t.command = .keysAdd ∧
      ∃ c op, AddCall t.params c ∧ c.keysOp t.seed = some op ∧
        (sessionStep svc ledger fromStr ctx t w).1.calls = [c] ∧
        (sessionStep svc ledger fromStr ctx t w).2 = (step svc op w).2 := by
  rcases execute_writes (libOn svc ledger t.seed w) fromStr ctx t.command t.params with
    hr | ⟨hadd, c, hc, hcall⟩
  · exact .inl (by rw [sessionStep, run_of_not_writes svc (keysOps_of_reads hr)])
  · obtain ⟨op, hop⟩ : ∃ op, c.keysOp t.seed = some op := by
      cases c <;> simp only [AddCall] at hcall <;> exact ⟨_, rfl⟩
    refine .inr ⟨hadd, c, op, hcall, hop, hc, ?_⟩
    simp [sessionStep, keysOps, hc, hop]

/-- **The controller's run of a command's keys calls, one after the other, gives every call the
answer it has on the wallet the command started from**, which is the answer `libOn` gave it:
no command reads the wallet after writing it. -/
theorem sessionStep_answers (t : Typed) (w : Wallet) :
    (run svc (keysOps t.seed (sessionStep svc ledger fromStr ctx t w).1) w).1 =
      (keysOps t.seed (sessionStep svc ledger fromStr ctx t w).1).map
        fun op => (step svc op w).1 := by
  simp only [sessionStep]
  rcases execute_writes (libOn svc ledger t.seed w) fromStr ctx t.command t.params with
    hr | ⟨-, c, hc, -⟩
  · rw [run_of_not_writes svc (keysOps_of_reads hr)]
  · simp only [keysOps, hc, List.filterMap_cons, List.filterMap_nil]
    cases c.keysOp t.seed <;> rfl

theorem sessionStep_records_of_some {«alias» : String} {key : Key}
    (h : w.records «alias» = some key) :
    (sessionStep svc ledger fromStr ctx t w).2.records «alias» = some key :=
  run_records_of_some svc h _

/-- A key under an alias after a command was there before, or the command is an add under that
alias for which the key service built it. -/
theorem sessionStep_provenance {«alias» : String} {key : Key}
    (h : (sessionStep svc ledger fromStr ctx t w).2.records «alias» = some key) :
    w.records «alias» = some key ∨ t.Adds svc «alias» key := by
  rcases sessionStep_wallet svc ledger fromStr ctx with hw | ⟨hadd, c, op, hcall, hop, -, hw⟩
  · exact .inl (by rwa [hw] at h)
  · rw [hw] at h
    refine (step_provenance svc h).imp_right fun hb => ⟨hadd, ?_⟩
    cases c <;> simp only [AddCall] at hcall <;>
      simp only [Call.keysOp, Option.some.injEq] at hop <;> subst hop <;>
      obtain ⟨rfl, hb⟩ := hb <;> simp [hcall.1, hcall.2, hb]

/-- An add under a taken alias fails, and leaves the wallet as it was. -/
theorem sessionStep_add_taken (ht : t.command = .keysAdd) {«alias» : String} {key : Key}
    (hta : t.params.lookup "alias" = some «alias») (hkey : w.records «alias» = some key) :
    (∃ e, (sessionStep svc ledger fromStr ctx t w).1.result = .done (.error e)) ∧
      (sessionStep svc ledger fromStr ctx t w).2 = w := by
  simp only [sessionStep, ht, execute]
  rcases hw : ctx.walletHandle with _ | walletHandle
  · simp [addCommand, ensureOpenedWalletHandle, hw, keysOps]
  rw [addCommand_of_some _ _ _ hw hta]
  rcases hm : t.params.lookup "mnemonic" with _ | mnemonic
  · obtain ⟨⟨e, he⟩, hw'⟩ := addKey_taken svc (svc.newRandomAlias «alias» t.seed) hkey
    simp [libOn, addRandom, he, hw', keysOps, Call.keysOp, step]
  · obtain ⟨⟨e, he⟩, hw'⟩ :=
      addKey_taken svc (svc.newFromMnemonicAlias «alias» mnemonic) hkey
    simp [libOn, addFromMnemonic, he, hw', keysOps, Call.keysOp, step]

/-- A successful add has stored, under its alias, the key whose info it printed. -/
theorem sessionStep_add_ok (ht : t.command = .keysAdd) {msg : String}
    (h : (sessionStep svc ledger fromStr ctx t w).1.result = .done (.ok msg)) :
    ∃ «alias» resp key, ctx.walletHandle.isSome ∧ t.params.lookup "alias" = some «alias» ∧
      (msg = "Key has been added from mnemonic \"" ++ resp ++ "\" ." ∨
        msg = "Random key has been added \"" ++ resp ++ "\".") ∧
      keyInfoJson svc key = .ok resp ∧
      (sessionStep svc ledger fromStr ctx t w).2.records «alias» = some key := by
  simp only [sessionStep, ht, execute] at h ⊢
  obtain ⟨_, «alias», resp, hw, ha, ⟨mnemonic, -, hc, hresp, rfl⟩ | ⟨-, hc, hresp, rfl⟩⟩ :=
    addCommand_eq_ok _ _ _ h
  · obtain ⟨key, -, hkey, hrec⟩ := addKey_ok svc (svc.newFromMnemonicAlias _ _) hresp
    exact ⟨«alias», resp, key, by simp [hw], ha, .inl rfl, hkey, by
      simpa [keysOps, hc, Call.keysOp, step, addFromMnemonic] using hrec⟩
  · obtain ⟨key, -, hkey, hrec⟩ := addKey_ok svc (svc.newRandomAlias _ _) hresp
    exact ⟨«alias», resp, key, by simp [hw], ha, .inr rfl, hkey, by
      simpa [keysOps, hc, Call.keysOp, step, addRandom] using hrec⟩

end Step

/-! ### A session to run -/

/-- The wallet with no key. -/
def noKeys : Wallet := ⟨fun _ => none⟩

/-- The ledger of the session to run. -/
def sampleLedger : CheqdLib := ledgerStub (fun _ _ => .ok "") (fun _ _ _ => .ok [])

/-- `cheqd-keys add alias=my_key mnemonic=my_mnemonic`, from the example of the command. -/
def addMyKey : Typed := ⟨.keysAdd, [("alias", "my_key"), ("mnemonic", "my_mnemonic")], []⟩

/-- `cheqd-keys get-info alias=my_key`, the example of the command. -/
def getInfoMyKey : Typed := ⟨.keysGetInfo, [("alias", "my_key")], []⟩

/-- `cheqd-ledger create-nym` with the example of the command, which signs with `my_key`. -/
def createNymMyKey : Typed := ⟨.ledgerCreateNym, createNymExample, []⟩

/-! ### Whole sessions -/

section Runs

variable {w : Wallet}

/-- **A stored key stays for the rest of the session**, whatever commands follow. -/
theorem session_records_of_some {ts : List Typed} {«alias» : String} {key : Key}
    (h : w.records «alias» = some key) :
    (session svc ledger fromStr ctx ts w).2.records «alias» = some key := by
  induction ts generalizing w with
  | nil => exact h
  | cons t ts ih => exact ih (sessionStep_records_of_some svc ledger fromStr ctx h)

/-- **Where the keys of a session come from.**  Every key in the wallet at the end of a session
was there at the start, or was built by the key service for an add of the session under the
alias it is stored under. -/
theorem session_key_provenance {ts : List Typed} {«alias» : String} {key : Key}
    (h : (session svc ledger fromStr ctx ts w).2.records «alias» = some key) :
    w.records «alias» = some key ∨ ∃ t ∈ ts, t.Adds svc «alias» key := by
  induction ts generalizing w with
  | nil => exact .inl h
  | cons t ts ih =>
    rcases ih h with h | ⟨u, hu, hadds⟩
    · exact (sessionStep_provenance svc ledger fromStr ctx h).imp_right
        fun hadds => ⟨t, List.mem_cons_self _ _, hadds⟩
    · exact .inr ⟨u, List.mem_cons_of_mem _ hu, hadds⟩

/-- After adding `my_key` from a mnemonic and signing a `create-nym` with it, the key under
`my_key` is the one the add built. -/
theorem session_key_provenance_sample :
    (session seededService sampleLedger jsonStub stubContext [addMyKey, createNymMyKey]
      noKeys).2.records "my_key" = some ⟨"my_key", [], []⟩ ∧
    (noKeys.records "my_key" = some ⟨"my_key", [], []⟩ ∨
      ∃ t ∈ [addMyKey, createNymMyKey], t.Adds seededService "my_key" ⟨"my_key", [], []⟩) :=
  ⟨rfl, session_key_provenance seededService sampleLedger jsonStub stubContext rfl⟩

/-- After a successful add, the key it stored stays under its alias for the rest of the session,
whatever commands follow. -/
theorem session_add_ok_later (mid : List Typed) {pre : List Typed} {t : Typed}
    {«alias» msg : String} (ht : t.command = .keysAdd)
    (hta : t.params.lookup "alias" = some «alias»)
    (hadd : (sessionStep svc ledger fromStr ctx t
      (session svc ledger fromStr ctx pre w).2).1.result = .done (.ok msg)) :
    ∃ resp key, ctx.walletHandle.isSome ∧
      (msg = "Key has been added from mnemonic \"" ++ resp ++ "\" ." ∨
        msg = "Random key has been added \"" ++ resp ++ "\".") ∧
      keyInfoJson svc key = .ok resp ∧
      (session svc ledger fromStr ctx (pre ++ t :: mid) w).2.records «alias» = some key := by
  obtain ⟨a, resp, key, hw, ha, hmsg, hkey, hrec⟩ :=
    sessionStep_add_ok svc ledger fromStr ctx ht hadd
  obtain rfl : «alias» = a := Option.some.inj (hta.symm.trans ha)
  refine ⟨resp, key, hw, hmsg, hkey, ?_⟩
  rw [session_append, session_cons]
  exact session_records_of_some svc ledger fromStr ctx hrec

/-- **After an add, `get-info` prints what the add printed.**  Once `cheqd-keys add alias=a` has
succeeded and printed a key's info, every later `cheqd-keys get-info alias=a` of the session, on
the same open wallet and whatever cheqd commands came between, prints that same info. -/
theorem session_getInfo_after_add {pre mid : List Typed} {t u : Typed} {«alias» msg : String}
    (ht : t.command = .keysAdd) (hu : u.command = .keysGetInfo)
    (hta : t.params.lookup "alias" = some «alias») (hua : u.params.lookup "alias" = some «alias»)
    (hadd : (sessionStep svc ledger fromStr ctx t
      (session svc ledger fromStr ctx pre w).2).1.result = .done (.ok msg)) :
    ∃ resp, (msg = "Key has been added from mnemonic \"" ++ resp ++ "\" ." ∨
        msg = "Random key has been added \"" ++ resp ++ "\".") ∧
      (sessionStep svc ledger fromStr ctx u
        (session svc ledger fromStr ctx (pre ++ t :: mid) w).2).1.result =
        .done (.ok ("Get follow info \"" ++ resp ++ "\" ")) := by
  obtain ⟨resp, key, hw, hmsg, hkey, hlater⟩ :=
    session_add_ok_later svc ledger fromStr ctx mid ht hta hadd
  obtain ⟨walletHandle, hw⟩ := Option.isSome_iff_exists.1 hw
  refine ⟨resp, hmsg, ?_⟩
  simp only [sessionStep, hu, execute]
  exact getInfoCommand_of_getInfo _ _ _ hw hua ((getInfo_of_some svc hlater).trans hkey)

/-- `get-info alias=my_key` after adding `my_key` and a `create-nym` prints the info the add
printed. -/
theorem session_getInfo_after_add_sample :
    addMyKey.command = .keysAdd ∧ getInfoMyKey.command = .keysGetInfo ∧
    addMyKey.params.lookup "alias" = some "my_key" ∧
    getInfoMyKey.params.lookup "alias" = some "my_key" ∧
    (sessionStep seededService sampleLedger jsonStub stubContext addMyKey
      (session seededService sampleLedger jsonStub stubContext [] noKeys).2).1.result =
      .done (.ok "Key has been added from mnemonic \"my_key\" .") ∧
    ∃ resp, ("Key has been added from mnemonic \"my_key\" ." =
          "Key has been added from mnemonic \"" ++ resp ++ "\" ." ∨
        "Key has been added from mnemonic \"my_key\" ." =
          "Random key has been added \"" ++ resp ++ "\".") ∧
      (sessionStep seededService sampleLedger jsonStub stubContext getInfoMyKey
        (session seededService sampleLedger jsonStub stubContext
          ([] ++ addMyKey :: [createNymMyKey]) noKeys).2).1.result =
        .done (.ok ("Get follow info \"" ++ resp ++ "\" ")) :=
  ⟨rfl, rfl, rfl, rfl, rfl,
    session_getInfo_after_add seededService sampleLedger jsonStub stubContext rfl rfl rfl rfl
      rfl⟩

/-- **An alias, once added, cannot be added again.**  After `cheqd-keys add alias=a` has
succeeded in a session, every later `cheqd-keys add alias=a` on the same open wallet, whatever
cheqd commands came between, fails and leaves the wallet as it was: the stored key is never
overwritten. -/
theorem session_add_twice {pre mid : List Typed} {t u : Typed} {«alias» msg : String}
    (ht : t.command = .keysAdd) (hu : u.command = .keysAdd)
    (hta : t.params.lookup "alias" = some «alias») (hua : u.params.lookup "alias" = some «alias»)
    (hadd : (sessionStep svc ledger fromStr ctx t
      (session svc ledger fromStr ctx pre w).2).1.result = .done (.ok msg)) :
    (∃ e, (sessionStep svc ledger fromStr ctx u
        (session svc ledger fromStr ctx (pre ++ t :: mid) w).2).1.result = .done (.error e)) ∧
      (sessionStep svc ledger fromStr ctx u
        (session svc ledger fromStr ctx (pre ++ t :: mid) w).2).2 =
        (session svc ledger fromStr ctx (pre ++ t :: mid) w).2 := by
  obtain ⟨_, _, -, -, -, hlater⟩ := session_add_ok_later svc ledger fromStr ctx mid ht hta hadd
  exact sessionStep_add_taken svc ledger fromStr ctx hu hua hlater

/-- Adding `my_key` a second time, after a `create-nym`, fails and keeps the wallet. -/
theorem session_add_twice_sample :
    addMyKey.command = .keysAdd ∧ addMyKey.params.lookup "alias" = some "my_key" ∧
    (sessionStep seededService sampleLedger jsonStub stubContext addMyKey
      (session seededService sampleLedger jsonStub stubContext [] noKeys).2).1.result =
      .done (.ok "Key has been added from mnemonic \"my_key\" .") ∧
    (∃ e, (sessionStep seededService sampleLedger jsonStub stubContext addMyKey
        (session seededService sampleLedger jsonStub stubContext
          ([] ++ addMyKey :: [createNymMyKey]) noKeys).2).1.result = .done (.error e)) ∧
      (sessionStep seededService sampleLedger jsonStub stubContext addMyKey
        (session seededService sampleLedger jsonStub stubContext
          ([] ++ addMyKey :: [createNymMyKey]) noKeys).2).2 =
        (session seededService sampleLedger jsonStub stubContext
          ([] ++ addMyKey :: [createNymMyKey]) noKeys).2 :=
  ⟨rfl, rfl, rfl,
    session_add_twice seededService sampleLedger jsonStub stubContext rfl rfl rfl rfl rfl⟩

/-- **A session signs under an alias with one key.**  Every transaction a `create-nym` of a
session broadcasts was signed by the key the wallet holds under its `key_alias` at the end of the
session; it was built with the public key read from that key's info, and with the account number
and sequence the ledger reported, just before, for that info's account id. -/
theorem session_broadcast_signed_by_stored_key (post : List Typed) {pre : List Typed} {t : Typed}
    (ht : t.command = .ledgerCreateNym) {poolAlias : String} {signedTx : Bytes}
    (h : .broadcastTxCommit poolAlias signedTx ∈ (sessionStep svc ledger fromStr ctx t
      (session svc ledger fromStr ctx pre w).2).1.calls) :
    ∃ p key keyInfo j accountId pubkey request accountNumber accountSequence tx doc,
      (readNymParams t.params).result = .done (.ok p) ∧
      (session svc ledger fromStr ctx (pre ++ t :: post) w).2.records p.keyAlias = some key ∧
      keyInfoJson svc key = .ok keyInfo ∧ fromStr keyInfo = some j ∧
      (j.index "account_id").asStr = some accountId ∧ (j.index "pub_key").asStr = some pubkey ∧
      ledger.buildMsgCreateNym p.did accountId p.verkey poolAlias p.role = .ok request ∧
      (getBaseAccountNumberAndSequence ledger fromStr accountId poolAlias).result =
        .done (.ok (accountNumber, accountSequence)) ∧
      ledger.buildTx poolAlias pubkey request accountNumber accountSequence p.maxGas
        p.maxCoin p.denom p.timeoutHeight p.memo = .ok tx ∧
      svc.signDocFromBytes tx = .ok doc ∧ signWith svc key doc = .ok signedTx := by
  simp only [sessionStep, ht, execute] at h
  obtain ⟨p, key, keyInfo, j, accountId, pubkey, request, n, q, tx, doc, hp, hkey, hinfo, hj,
    haccount, hpub, hrequest, hnq, htx, hdoc, hsigned⟩ :=
    createNym_signs_with_stored_key _ fromStr ctx svc _ (fun _ _ => rfl) (fun _ _ _ => rfl) h
  refine ⟨p, key, keyInfo, j, accountId, pubkey, request, n, q, tx, doc, hp, ?_, hinfo, hj,
    haccount, hpub, hrequest, hnq, htx, hdoc, hsigned⟩
  rw [session_append, session_cons]
  exact session_records_of_some svc ledger fromStr ctx
    (sessionStep_records_of_some svc ledger fromStr ctx hkey)

end Runs

end Cli

end IndyCheqd
