import IndyCheqd.Cli.Ledger
import IndyCheqd.Keys.Runs

/-!
**The `create-nym` command: from parameters to a broadcast transaction.**

`create_nym_command::execute` is the one command that writes to the ledger, and it strings the
whole client together: it reads its parameters, asks the keys controller for the info of the
key under `key_alias`, reads the account id and public key out of that info, builds the message,
queries the account of that id for its number and sequence, builds the transaction with them,
has the key sign it, broadcasts it and parses the answer.

Three facts about the whole run are proved here.  The only transaction it broadcasts is the one
it built from the account number and sequence it has just read, signed under `key_alias`: the
sequence is fetched fresh, never cached.  When the library's keys calls are the keys controller's,
the key that signs is the key whose public key the transaction carries.  And `timeout_height`,
which the command declares an optional parameter, is in fact required: without it
`"".parse::<u64>()` fails, and the command gives up before any library call.

Main definitions:

* `IndyCheqd.Cli.NymParams`, `IndyCheqd.Cli.readNymParams` — the parameters of the command;
* `IndyCheqd.Cli.createNym` — the command.

Main results:

* `IndyCheqd.Cli.createNym_broadcast` — **what is broadcast was built from the fresh account
  number and sequence and signed under `key_alias`**;
* `IndyCheqd.Cli.createNym_signs_with_stored_key` — on the keys controller, the stored key under
  `key_alias` signs, and its own public key is in the transaction;
* `IndyCheqd.Cli.createNym_without_timeoutHeight` — without `timeout_height` the command fails
  before any library call;
* `IndyCheqd.Cli.createNym_panics` — **it panics exactly in its `unwrap`s**: on key info without
  a string `account_id` or `pub_key`, or when the account's reading panics;
* `IndyCheqd.Cli.createNym_reads` — it adds no key to the wallet.
-/

set_option autoImplicit false

namespace IndyCheqd

namespace Cli

open Json

/-- The parameters of `create-nym`, once read. -/
structure NymParams where
  did : String
  verkey : String
  keyAlias : String
  maxCoin : UInt64
  maxGas : UInt64
  denom : String
  timeoutHeight : UInt64
  role : String
  memo : String
  deriving DecidableEq, Repr

/-- The first block of `create_nym_command::execute`: reading the parameters.  `timeout_height`,
`role` and `memo` are optional, read with `unwrap_or("")`. -/
def readNymParams (params : CommandParams) : Cmd NymParams := do
  let did ← getStrParam "did" params
  let verkey ← getStrParam "verkey" params
  let keyAlias ← getStrParam "key_alias" params
  let maxCoin ← parseParam "max_coin" (← getStrParam "max_coin" params)
  let maxGas ← parseParam "max_gas" (← getStrParam "max_gas" params)
  let denom ← getStrParam "denom" params
  let timeoutHeight ←
    parseParam "timeout_height" ((getOptStrParam "timeout_height" params).getD "")
  let role := (getOptStrParam "role" params).getD ""
  let memo := (getOptStrParam "memo" params).getD ""
  pure ⟨did, verkey, keyAlias, maxCoin, maxGas, denom, timeoutHeight, role, memo⟩

/-- Function `create_nym_command::execute`; its result is the parsed response it prints. -/
def createNym (lib : CheqdLib) (fromStr : String → Option Value) (ctx : CommandContext)
    (params : CommandParams) : Cmd String := do
  let p ← readNymParams params
  let poolAlias ← ensureCheqdConnectedPool ctx
  let walletHandle ← ensureOpenedWalletHandle ctx
  let keyInfo ←
    call (.getInfo walletHandle p.keyAlias) (lib.getInfo walletHandle p.keyAlias)
  let keyInfoJson ← ofExcept ((fromStr keyInfo).elim
    (.error (.printed "Invalid data has been received")) .ok)
  let accountId ← lift (unwrap (keyInfoJson.index "account_id").asStr)
  let pubkey ← lift (unwrap (keyInfoJson.index "pub_key").asStr)
  let request ← call (.buildMsgCreateNym p.did accountId p.verkey poolAlias p.role)
    (lib.buildMsgCreateNym p.did accountId p.verkey poolAlias p.role)
  let (accountNumber, accountSequence) ←
    getBaseAccountNumberAndSequence lib fromStr accountId poolAlias
  let tx ← call (.buildTx poolAlias pubkey request accountNumber accountSequence p.maxGas
      p.maxCoin p.denom p.timeoutHeight p.memo)
    (lib.buildTx poolAlias pubkey request accountNumber accountSequence p.maxGas p.maxCoin
      p.denom p.timeoutHeight p.memo)
  let signedTx ← call (.sign walletHandle p.keyAlias tx) (lib.sign walletHandle p.keyAlias tx)
  let response ← call (.broadcastTxCommit poolAlias signedTx)
    (lib.broadcastTxCommit poolAlias signedTx)
  call (.parseMsgCreateNymResp response) (lib.parseMsgCreateNymResp response)

/-- The example of the command's metadata: `cheqd-ledger create-nym did=my_did verkey=my_verkey
key_alias=my_key max_coin=500 max_gas=10000000 denom=cheq timeout_height=20000 role=role
memo=memo`. -/
def createNymExample : CommandParams :=
  [("did", "my_did"), ("verkey", "my_verkey"), ("key_alias", "my_key"), ("max_coin", "500"),
    ("max_gas", "10000000"), ("denom", "cheq"), ("timeout_height", "20000"), ("role", "role"),
    ("memo", "memo")]

/-! ### Reading the parameters -/

section Params

variable {params : CommandParams}

/-- Reading the parameters makes no library call. -/
theorem readNymParams_calls : (readNymParams params).calls = [] :=
  List.eq_nil_iff_forall_not_mem.2 fun _ => by simp [readNymParams, Cmd.mem_calls_bind]

theorem readNymParams_not_panics : ¬ (readNymParams params).result.Panics := by
  simp [readNymParams, Cmd.panics_bind]

/-- **What the parameters are read as.**  The six required ones must be given, the two numbers
must parse, `timeout_height` parses from its value or from `""`, and `role` and `memo` default
to `""`. -/
theorem readNymParams_eq_ok {p : NymParams} :
    (readNymParams params).result = .done (.ok p) ↔
      params.lookup "did" = some p.did ∧ params.lookup "verkey" = some p.verkey ∧
      params.lookup "key_alias" = some p.keyAlias ∧
      (params.lookup "max_coin").bind parseU64 = some p.maxCoin ∧
      (params.lookup "max_gas").bind parseU64 = some p.maxGas ∧
      params.lookup "denom" = some p.denom ∧
      parseU64 ((params.lookup "timeout_height").getD "") = some p.timeoutHeight ∧
      p.role = (params.lookup "role").getD "" ∧ p.memo = (params.lookup "memo").getD "" := by
  simp only [readNymParams, Cmd.result_bind_ok, getStrParam_result_eq_ok,
    parseParam_result_eq_ok, Cmd.pure_result, Outcome.done.injEq, Except.ok.injEq,
    getOptStrParam, Option.bind_eq_some]
  constructor
  · rintro ⟨_, h₁, _, h₂, _, h₃, _, h₄, _, h₅, _, h₆, _, h₇, _, h₈, _, h₉, rfl⟩
    exact ⟨h₁, h₂, h₃, ⟨_, h₄, h₅⟩, ⟨_, h₆, h₇⟩, h₈, h₉, rfl, rfl⟩
  · cases p
    rintro ⟨h₁, h₂, h₃, ⟨_, h₄, h₅⟩, ⟨_, h₆, h₇⟩, h₈, h₉, rfl, rfl⟩
    exact ⟨_, h₁, _, h₂, _, h₃, _, h₄, _, h₅, _, h₆, _, h₇, _, h₈, _, h₉, rfl⟩

/-- Without `timeout_height` the parameters are not read: `"".parse::<u64>()` fails. -/
theorem readNymParams_without_timeoutHeight (h : params.lookup "timeout_height" = none) :
    ∃ e, (readNymParams params).result = .done (.error e) := by
  rcases hr : (readNymParams params).result with (e | p) | m
  · exact ⟨e, rfl⟩
  · obtain ⟨-, -, -, -, -, -, htimeout, -⟩ := readNymParams_eq_ok.1 hr
    simp [h, parseU64_empty] at htimeout
  · simpa [hr] using @readNymParams_not_panics params

example : (readNymParams (createNymExample.filter fun kv => kv.1 != "timeout_height")).result =
    .done (.error (.printed "Invalid format of input data: timeout_height must be integer")) := rfl

end Params

/-! ### The whole command -/

section Command

variable (lib : CheqdLib) (fromStr : String → Option Value) (ctx : CommandContext)
  {params : CommandParams}

/-- A command whose parameters cannot be read stops there, before any library call. -/
theorem createNym_of_read_error {e : CliError}
    (h : (readNymParams params).result = .done (.error e)) :
    createNym lib fromStr ctx params = ⟨[], .done (.error e)⟩ := by
  rw [createNym, Cmd.bind_error h, readNymParams_calls]

/-- **`timeout_height` is required.**  The command declares it optional, but without it the
command fails before any library call. -/
theorem createNym_without_timeoutHeight (h : params.lookup "timeout_height" = none) :
    ∃ e, createNym lib fromStr ctx params = ⟨[], .done (.error e)⟩ :=
  (readNymParams_without_timeoutHeight h).imp fun _ => createNym_of_read_error lib fromStr ctx

/-- `create-nym` only reads the wallet: it reads the key's info and has it sign, and adds no
key. -/
theorem createNym_reads : (createNym lib fromStr ctx params).Reads := by
  simp [createNym, Cmd.reads_bind_iff, Call.writes, readNymParams_calls,
    getBaseAccountNumberAndSequence_reads]

theorem elim_eq_ok {α : Type} {o : Option α} {e : CliError} {a : α} :
    o.elim (Except.error e) Except.ok = (Except.ok a : Except CliError α) ↔ o = some a := by
  cases o <;> simp

/-- **Where `create-nym` can panic: in its `unwrap`s only.**  Once the parameters are read, the
pool and the wallet found and the key's info parsed, it panics exactly when that info has no
string `account_id`, or no string `pub_key`, or when the reading of the account, after the
message is built, panics. -/
theorem createNym_panics :
    (createNym lib fromStr ctx params).result.Panics ↔
      ∃ p, (readNymParams params).result = .done (.ok p) ∧
      ∃ poolAlias, ctx.cheqdPool = some poolAlias ∧
      ∃ walletHandle, ctx.walletHandle = some walletHandle ∧
      ∃ keyInfo, lib.getInfo walletHandle p.keyAlias = .ok keyInfo ∧
      ∃ j, fromStr keyInfo = some j ∧
        ((j.index "account_id").asStr = none ∨
          ∃ accountId, (j.index "account_id").asStr = some accountId ∧
            ((j.index "pub_key").asStr = none ∨
              ∃ pubkey, (j.index "pub_key").asStr = some pubkey ∧
              ∃ request,
                lib.buildMsgCreateNym p.did accountId p.verkey poolAlias p.role = .ok request ∧
                (getBaseAccountNumberAndSequence lib fromStr accountId poolAlias).result.Panics))
    := by
  simp only [createNym, Cmd.panics_bind, readNymParams_not_panics, call_not_panics,
    ensureCheqdConnectedPool_not_panics, ensureOpenedWalletHandle_not_panics,
    ofExcept_result, Outcome.panics_done, lift_panics, unwrap_panics, call_result_eq_ok,
    lift_result_eq_ok, unwrap_eq_done, Outcome.done.injEq, elim_eq_ok,
    ensureCheqdConnectedPool_result_eq_ok, ensureOpenedWalletHandle_result_eq_ok, false_or,
    Prod.exists, and_false, exists_false, or_false]

/-- A library for runs of the command whose keys calls are the keys controller's on a wallet,
with `seededService`. -/
def keysStub (w : Wallet) : CheqdLib :=
  ledgerStub
    (fun _ «alias» => CheqdKeysController.getInfo CheqdKeysController.seededService «alias» w)
    (fun _ «alias» tx => CheqdKeysController.sign CheqdKeysController.seededService «alias» tx w)

/-- The wallet holding `my_key`. -/
def myKeyWallet : Wallet :=
  ⟨fun id => if id = "my_key" then some ⟨"my_key", [1], [2]⟩ else none⟩

/-- The command's own example, without `timeout_height`, fails before any library call. -/
theorem createNymExample_without_timeoutHeight :
    (createNymExample.filter fun kv => kv.1 != "timeout_height").lookup "timeout_height" =
      none ∧
    ∃ e, createNym (keysStub myKeyWallet) jsonStub stubContext
      (createNymExample.filter fun kv => kv.1 != "timeout_height") = ⟨[], .done (.error e)⟩ :=
  ⟨rfl, createNym_without_timeoutHeight _ _ _ rfl⟩

/-- **What `create-nym` broadcasts.**  A transaction is broadcast only once the parameters are
read, the pool and the wallet found, and the info of the key under `key_alias` read; and it is
the transaction built from that info's account id and public key and from the account number
and sequence just read for that account id, signed under `key_alias`. -/
theorem createNym_broadcast {poolAlias : String} {signedTx : Bytes}
    (h : .broadcastTxCommit poolAlias signedTx ∈ (createNym lib fromStr ctx params).calls) :
    ∃ p walletHandle keyInfo j accountId pubkey request accountNumber accountSequence tx,
      (readNymParams params).result = .done (.ok p) ∧
      ctx.cheqdPool = some poolAlias ∧ ctx.walletHandle = some walletHandle ∧
      lib.getInfo walletHandle p.keyAlias = .ok keyInfo ∧
      fromStr keyInfo = some j ∧ (j.index "account_id").asStr = some accountId ∧
      (j.index "pub_key").asStr = some pubkey ∧
      lib.buildMsgCreateNym p.did accountId p.verkey poolAlias p.role = .ok request ∧
      (getBaseAccountNumberAndSequence lib fromStr accountId poolAlias).result =
        .done (.ok (accountNumber, accountSequence)) ∧
      lib.buildTx poolAlias pubkey request accountNumber accountSequence p.maxGas
        p.maxCoin p.denom p.timeoutHeight p.memo = .ok tx ∧
      lib.sign walletHandle p.keyAlias tx = .ok signedTx := by
  simp only [createNym, Cmd.mem_calls_bind, call_calls, List.mem_singleton, List.not_mem_nil,
    readNymParams_calls, ensureCheqdConnectedPool_calls, ensureOpenedWalletHandle_calls,
    lift_calls, ofExcept_calls, call_result_eq_ok, lift_result_eq_ok, unwrap_eq_done,
    ofExcept_result, Outcome.done.injEq, elim_eq_ok,
    ensureCheqdConnectedPool_result_eq_ok, ensureOpenedWalletHandle_result_eq_ok,
    Prod.exists, false_or, reduceCtorEq, Call.broadcastTxCommit.injEq, and_false,
    exists_false, or_false] at h
  obtain ⟨p, hp, _, hpool, walletHandle, hwallet, keyInfo, hinfo, j, hj, accountId, haccount,
    pubkey, hpubkey, request, hrequest, hbase | ⟨n, q, hnq, tx, htx, _, hsign, rfl, rfl⟩⟩ := h
  · have := getBaseAccountNumberAndSequence_calls hbase
    simp at this
  · exact ⟨p, walletHandle, keyInfo, j, accountId, pubkey, request, n, q, tx, hp, hpool,
      hwallet, hinfo, hj, haccount, hpubkey, hrequest, hnq, htx, hsign⟩

/-- **`create-nym` signs with the key whose public key it puts in the transaction.**  When the
library's `get_info` and `sign` are the keys controller's on a wallet `w`, a broadcast
transaction was signed by the key stored in `w` under `key_alias`; it was built with the public
key read from the info of that same key, and with the account number and sequence just read for
the account id of that info. -/
theorem createNym_signs_with_stored_key {KeyInfo SignDoc Raw : Type}
    (svc : CheqdKeysService KeyInfo SignDoc Raw) (w : Wallet)
    (hinfo : ∀ walletHandle «alias»,
      lib.getInfo walletHandle «alias» = CheqdKeysController.getInfo svc «alias» w)
    (hsign : ∀ walletHandle «alias» tx,
      lib.sign walletHandle «alias» tx = CheqdKeysController.sign svc «alias» tx w)
    {poolAlias : String} {signedTx : Bytes}
    (h : .broadcastTxCommit poolAlias signedTx ∈ (createNym lib fromStr ctx params).calls) :
    ∃ p key keyInfo j accountId pubkey request accountNumber accountSequence tx doc,
      (readNymParams params).result = .done (.ok p) ∧ w.records p.keyAlias = some key ∧
      CheqdKeysController.keyInfoJson svc key = .ok keyInfo ∧ fromStr keyInfo = some j ∧
      (j.index "account_id").asStr = some accountId ∧ (j.index "pub_key").asStr = some pubkey ∧
      lib.buildMsgCreateNym p.did accountId p.verkey poolAlias p.role = .ok request ∧
      (getBaseAccountNumberAndSequence lib fromStr accountId poolAlias).result =
        .done (.ok (accountNumber, accountSequence)) ∧
      lib.buildTx poolAlias pubkey request accountNumber accountSequence p.maxGas
        p.maxCoin p.denom p.timeoutHeight p.memo = .ok tx ∧
      svc.signDocFromBytes tx = .ok doc ∧
      CheqdKeysController.signWith svc key doc = .ok signedTx := by
  obtain ⟨p, _, keyInfo, j, accountId, pubkey, request, n, q, tx, hp, -, -, hki, hj, haccount,
    hpubkey, hrequest, hnq, htx, hsigned⟩ := createNym_broadcast lib fromStr ctx h
  rw [hinfo, CheqdKeysController.getInfo_eq_ok] at hki
  rw [hsign, CheqdKeysController.sign_eq_ok] at hsigned
  obtain ⟨key, hkey, hkeyInfo⟩ := hki
  obtain ⟨doc, key', hdoc, hkey', hsignWith⟩ := hsigned
  obtain rfl : key = key' := Option.some.inj (hkey.symm.trans hkey')
  exact ⟨p, key, keyInfo, j, accountId, pubkey, request, n, q, tx, doc, hp, hkey, hkeyInfo, hj,
    haccount, hpubkey, hrequest, hnq, htx, hdoc, hsignWith⟩

end Command

end Cli

end IndyCheqd
