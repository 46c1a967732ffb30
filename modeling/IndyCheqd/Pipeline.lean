import IndyCheqd.Cli.Session
import IndyCheqd.Ledger.Tx

/-!
**From a typed `create-nym` to the document its key signs.**

The command line's `build_tx` goes through libindy to the cheqd ledger controller, which finds
the chain id of the pool, decodes the message and builds the document to sign with
`CheqdLedgerService::auth_build_tx`; the command line receives the document's bytes, and the keys
controller decodes them again before signing.  The ledger controller is not under src: it enters
as a `LedgerController`, whose `build_tx` is that composition.

Both ends use cosmrs's `SignDoc`, and its bytes are protobuf's, which the keys service reads back
as the document the ledger controller wrote: that round trip is the one assumption on the two
codecs.  With the ledger calls answered so and the keys calls by the keys controller, every
`create-nym` of a session signs the very document `auth_build_tx` builds from what the command
has just read: the public key in the info of the key under `key_alias`, and the account number
and sequence the chain reported for that info's account id, under the pool's chain id.  The key
that signs is the one the wallet holds under `key_alias` at the end of the session.  A run of it
uses a codec of documents (`encodeSignDoc`, `decodeSignDoc`) whose round trip is proved.

Main definitions:

* `IndyCheqd.LedgerController`, `IndyCheqd.LedgerController.buildTx` — libindy's `build_tx`;
* `IndyCheqd.Cli.ledgerOn` — the ledger calls with `build_tx` answered by the controller;
* `IndyCheqd.Cli.encodeSignDoc`, `IndyCheqd.Cli.decodeSignDoc` — a codec of documents for runs.

Main results:

* `IndyCheqd.Cli.session_signs_built_doc` — **every transaction a session broadcasts is the
  stored key's signature of the document built from that key's own public key and the account's
  fresh number and sequence**;
* `IndyCheqd.Cli.decodeSignDoc_encodeSignDoc` — the codec of runs reads back what it wrote.
-/

set_option autoImplicit false

namespace IndyCheqd

/-- Modelled from the spec: what the cheqd ledger controller (not under src) needs to build a
transaction for the command line: the chain id of a pool, the decoding of a message, the codec of
`auth_build_tx`, and the encoding of the document to sign. -/
structure LedgerController (Msg PublicKey : Type) where
  codec : CosmosCodec Msg PublicKey
  chainId : String → IndyResult String
  msgFromBytes : Bytes → IndyResult Msg
  signDocToBytes : SignDoc → Bytes

namespace LedgerController

variable {Msg PublicKey : Type} (lc : LedgerController Msg PublicKey)

/-- Modelled from the spec: libindy's `build_tx`, which builds the document with
`auth_build_tx` under the pool's chain id and hands back its bytes. -/
def buildTx (poolAlias senderPublicKey : String) (msg : Bytes)
    (accountNumber sequenceNumber maxGas maxCoinAmount : UInt64) (maxCoinDenom : String)
    (timeoutHeight : UInt64) (memo : String) : IndyResult Bytes := do
  let chainId ← lc.chainId poolAlias
  let msg ← lc.msgFromBytes msg
  let doc ← CheqdLedgerService.authBuildTx lc.codec chainId senderPublicKey msg
    accountNumber sequenceNumber maxGas maxCoinAmount maxCoinDenom timeoutHeight memo
  pure (lc.signDocToBytes doc)

theorem buildTx_eq_ok {poolAlias senderPublicKey : String} {msg : Bytes}
    {accountNumber sequenceNumber maxGas maxCoinAmount : UInt64} {maxCoinDenom : String}
    {timeoutHeight : UInt64} {memo : String} {tx : Bytes} :
    lc.buildTx poolAlias senderPublicKey msg accountNumber sequenceNumber maxGas
      maxCoinAmount maxCoinDenom timeoutHeight memo = .ok tx ↔
      ∃ chainId m doc, lc.chainId poolAlias = .ok chainId ∧ lc.msgFromBytes msg = .ok m ∧
        CheqdLedgerService.authBuildTx lc.codec chainId senderPublicKey m accountNumber
          sequenceNumber maxGas maxCoinAmount maxCoinDenom timeoutHeight memo = .ok doc ∧
        lc.signDocToBytes doc = tx := by
  simp [buildTx, bind_eq_ok, map_eq_ok]

end LedgerController

namespace Cli

open Json CheqdKeysController

/-- The ledger calls of libindy, with `build_tx` answered by the ledger controller `lc`. -/
def ledgerOn {Msg PublicKey : Type} (lc : LedgerController Msg PublicKey) (ledger : CheqdLib) :
    CheqdLib :=
  { ledger with buildTx := lc.buildTx }

/-- **A session signs what it has just built.**  With libindy's keys calls answered by the keys
controller and its `build_tx` by the ledger controller, and the keys service reading back the
document whose bytes the ledger controller wrote (protobuf's round trip on cosmrs's `SignDoc`,
which both use), every transaction a `create-nym` of a session broadcasts is the signature, by the
key the wallet holds under `key_alias` at the end of the session, of the very document
`auth_build_tx` built under the pool's chain id from the message of the command, the public key
in that key's own info, and the account number and sequence the ledger reported, just before,
for that info's account id. -/
theorem session_signs_built_doc {KeyInfo Raw : Type} (svc : CheqdKeysService KeyInfo SignDoc Raw)
    {Msg PublicKey : Type} (lc : LedgerController Msg PublicKey)
    (hbytes : ∀ doc, svc.signDocFromBytes (lc.signDocToBytes doc) = .ok doc) (ledger : CheqdLib)
    (fromStr : String → Option Value) (ctx : CommandContext) {w : Wallet}
    {pre post : List Typed} {t : Typed} (ht : t.command = .ledgerCreateNym)
    {poolAlias : String} {signedTx : Bytes}
    (h : .broadcastTxCommit poolAlias signedTx ∈
      (sessionStep svc (ledgerOn lc ledger) fromStr ctx t
        (session svc (ledgerOn lc ledger) fromStr ctx pre w).2).1.calls) :
    ∃ p key keyInfo j accountId pubkey request accountNumber accountSequence chainId msg doc,
      (readNymParams t.params).result = .done (.ok p) ∧
      (session svc (ledgerOn lc ledger) fromStr ctx (pre ++ t :: post) w).2.records
        p.keyAlias = some key ∧
      keyInfoJson svc key = .ok keyInfo ∧ fromStr keyInfo = some j ∧
      (j.index "account_id").asStr = some accountId ∧ (j.index "pub_key").asStr = some pubkey ∧
      (getBaseAccountNumberAndSequence ledger fromStr accountId poolAlias).result =
        .done (.ok (accountNumber, accountSequence)) ∧
      ledger.buildMsgCreateNym p.did accountId p.verkey poolAlias p.role = .ok request ∧
      lc.msgFromBytes request = .ok msg ∧ lc.chainId poolAlias = .ok chainId ∧
      CheqdLedgerService.authBuildTx lc.codec chainId pubkey msg accountNumber accountSequence
        p.maxGas p.maxCoin p.denom p.timeoutHeight p.memo = .ok doc ∧
      signWith svc key doc = .ok signedTx := by
  obtain ⟨p, key, keyInfo, j, accountId, pubkey, request, n, q, tx, signedDoc, hp, hkey, hinfo,
    hj, haccount, hpub, hrequest, hnq, htx, hdoc, hsigned⟩ :=
    session_broadcast_signed_by_stored_key svc (ledgerOn lc ledger) fromStr ctx post ht h
  obtain ⟨chainId, msg, doc, hchain, hmsg, hbuild, rfl⟩ := lc.buildTx_eq_ok.1 htx
  obtain rfl : doc = signedDoc := Except.ok.inj ((hbytes doc).symm.trans hdoc)
  exact ⟨p, key, keyInfo, j, accountId, pubkey, request, n, q, chainId, msg, doc, hp, hkey, hinfo,
    hj, haccount, hpub, hnq, hrequest, hmsg, hchain, hbuild, hsigned⟩

/-! ### A session to run -/

/-- Bytes, each behind a marker `1`, then a closing `0`. -/
def escBytes : Bytes → Bytes
  | [] => [0]
  | x :: b => 1 :: x :: escBytes b

/-- The bytes `escBytes` wrote, and what follows them. -/
def readBytes : Bytes → Option (Bytes × Bytes)
  | 0 :: rest => some ([], rest)
  | 1 :: x :: rest => (readBytes rest).map fun r => (x :: r.1, r.2)
  | _ => none

theorem readBytes_escBytes (b rest : Bytes) : readBytes (escBytes b ++ rest) = some (b, rest) := by
  induction b with
  | nil => rfl
  | cons x b ih => simp [escBytes, readBytes, ih]

theorem toNat_toUInt8 (n : Nat) : n.toUInt8.toNat = n % 256 := rfl

/-- Characters, each behind a marker `1` as the four bytes of its code point, then a closing
`0`. -/
def escChars : List Char → Bytes
  | [] => [0]
  | c :: cs => 1 :: c.toNat.toUInt8 :: (c.toNat / 256).toUInt8 :: (c.toNat / 65536).toUInt8 ::
      (c.toNat / 16777216).toUInt8 :: escChars cs

/-- The characters `escChars` wrote, and what follows them. -/
def readChars : Bytes → Option (List Char × Bytes)
  | 0 :: rest => some ([], rest)
  | 1 :: b₀ :: b₁ :: b₂ :: b₃ :: rest => (readChars rest).map fun r =>
      (Char.ofNat (b₀.toNat + 256 * b₁.toNat + 65536 * b₂.toNat + 16777216 * b₃.toNat) :: r.1, r.2)
  | _ => none

theorem readChars_escChars (cs : List Char) (rest : Bytes) :
    readChars (escChars cs ++ rest) = some (cs, rest) := by
  induction cs with
  | nil => rfl
  | cons c cs ih =>
    have hc : c.toNat < 2 ^ 32 := UInt32.toNat_lt c.val
    have hbytes : c.toNat % 256 + 256 * (c.toNat / 256 % 256) + 65536 * (c.toNat / 65536 % 256) +
        16777216 * (c.toNat / 16777216 % 256) = c.toNat := by omega
    simp [escChars, readChars, ih, toNat_toUInt8, hbytes]

/-- A number in unary, closed by `0`. -/
def unary (n : Nat) : Bytes := List.replicate n 1 ++ [0]

/-- The number `unary` wrote, counted on from `n`. -/
def readUnary (n : Nat) : Bytes → Option Nat
  | 0 :: _ => some n
  | 1 :: rest => readUnary (n + 1) rest
  | _ => none

theorem readUnary_unary (n : Nat) : readUnary 0 (unary n) = some n := by
  suffices h : ∀ k m, readUnary k (List.replicate m 1 ++ [0]) = some (k + m) by
    simpa using h 0 n
  intro k m
  induction m generalizing k with
  | zero => rfl
  | succ m ih => simp [List.replicate_succ, readUnary, ih, Nat.add_right_comm, Nat.add_assoc]

/-- A document's bytes for runs: its two encodings, its chain id and its account number. -/
def encodeSignDoc (doc : SignDoc) : Bytes :=
  escBytes doc.bodyBytes ++ escBytes doc.authInfoBytes ++ escChars doc.chainId.data ++
    unary doc.accountNumber.toNat

/-- Reading back what `encodeSignDoc` wrote. -/
def decodeSignDoc (bytes : Bytes) : Option SignDoc := do
  let (body, rest) ← readBytes bytes
  let (authInfo, rest) ← readBytes rest
  let (chainId, rest) ← readChars rest
  let accountNumber ← readUnary 0 rest
  pure ⟨body, authInfo, ⟨chainId⟩, UInt64.ofNat accountNumber⟩

theorem decodeSignDoc_encodeSignDoc (doc : SignDoc) :
    decodeSignDoc (encodeSignDoc doc) = some doc := by
  obtain ⟨body, authInfo, ⟨chainId⟩, accountNumber⟩ := doc
  simp [decodeSignDoc, encodeSignDoc, readBytes_escBytes, readChars_escChars, readUnary_unary,
    UInt64.ext_iff, UInt64.toNat_ofNat_of_lt accountNumber.toNat_lt]

/-- A ledger controller for runs: the pool's chain id is `cheqd`, every message decodes to the
one of the sample transaction, and a document's bytes are `encodeSignDoc`'s. -/
def sampleController : LedgerController Bytes Bytes where
  codec := CheqdLedgerService.sampleCodec
  chainId _ := .ok "cheqd"
  msgFromBytes _ := .ok [7]
  signDocToBytes := encodeSignDoc

/-- `seededService` on documents: it reads a document's bytes back with `decodeSignDoc`, and
signs with the private key followed by the document's encodings and account number. -/
def docService : CheqdKeysService String SignDoc Bytes where
  newRandom «alias» seed := .ok ⟨«alias», seed, seed⟩
  newFromMnemonic «alias» _ := .ok ⟨«alias», [], []⟩
  getInfo key := .ok key.alias
  toString info := .ok info
  signDocFromBytes bytes := match decodeSignDoc bytes with
    | some doc => .ok doc
    | none => .error ⟨.invalidStructure, "Invalid sign doc"⟩
  sign key doc :=
    .ok (key.privKey ++ doc.bodyBytes ++ doc.authInfoBytes ++ [doc.accountNumber.toUInt8])
  toBytes raw := .ok raw
  newRandomAlias _ _ _ h := by cases h; rfl
  newFromMnemonicAlias _ _ _ h := by cases h; rfl

/-- The keys service reads back every document the ledger controller wrote. -/
theorem docService_reads_sampleController (doc : SignDoc) :
    docService.signDocFromBytes (sampleController.signDocToBytes doc) = .ok doc := by
  simp [docService, sampleController, decodeSignDoc_encodeSignDoc]

/-- The `create-nym` of the session that added `my_key` signs the sample document, built from
`my_key`'s public key and account 5 at sequence 7. -/
theorem session_signs_built_doc_sample :
    (∀ doc, docService.signDocFromBytes (sampleController.signDocToBytes doc) = .ok doc) ∧
    createNymMyKey.command = .ledgerCreateNym ∧
    .broadcastTxCommit "cheqd_pool" [1, 3, 5] ∈
      (sessionStep docService (ledgerOn sampleController sampleLedger) jsonStub
        stubContext createNymMyKey (session docService
          (ledgerOn sampleController sampleLedger) jsonStub stubContext [addMyKey]
          noKeys).2).1.calls ∧
    ∃ p key keyInfo j accountId pubkey request accountNumber accountSequence chainId msg doc,
      (readNymParams createNymMyKey.params).result = .done (.ok p) ∧
      (session docService (ledgerOn sampleController sampleLedger) jsonStub stubContext
        ([addMyKey] ++ createNymMyKey :: [getInfoMyKey]) noKeys).2.records
        p.keyAlias = some key ∧
      keyInfoJson docService key = .ok keyInfo ∧ jsonStub keyInfo = some j ∧
      (j.index "account_id").asStr = some accountId ∧ (j.index "pub_key").asStr = some pubkey ∧
      (getBaseAccountNumberAndSequence sampleLedger jsonStub accountId
        "cheqd_pool").result = .done (.ok (accountNumber, accountSequence)) ∧
      sampleLedger.buildMsgCreateNym p.did accountId p.verkey "cheqd_pool" p.role =
        .ok request ∧
      sampleController.msgFromBytes request = .ok msg ∧
      sampleController.chainId "cheqd_pool" = .ok chainId ∧
      CheqdLedgerService.authBuildTx sampleController.codec chainId pubkey msg accountNumber
        accountSequence p.maxGas p.maxCoin p.denom p.timeoutHeight p.memo = .ok doc ∧
      signWith docService key doc = .ok [1, 3, 5] :=
  ⟨docService_reads_sampleController, rfl, by decide,
    session_signs_built_doc docService sampleController docService_reads_sampleController
      sampleLedger jsonStub stubContext rfl (by decide)⟩

end Cli

end IndyCheqd
