import IndyCheqd.Basic

/-!
**The cheqd keys controller: keys under aliases in a wallet.**

`CheqdKeysController` creates keys (random, or derived from a mnemonic), stores them in the
wallet under their alias, and later loads them to describe them or to sign a transaction.  Every
wallet access goes through `to_indy`, which replaces the wallet's own error by an `IOError`:
`store_key` reports a duplicate alias as `IOError "Can't write cheqd key"`, and `load_key` reports a
missing alias as `IOError "Can't read cheqd key"`.

The wallet is external state.  A call is therefore modelled as a function from the wallet to its
result *and* the wallet after it: a call that fails after its write keeps the write.  The key
service and the wallet are not under src; the service is a parameter, whose only promise is that
a key is built under the alias it was asked for, and the wallet is the add-if-absent store the
controller is written against.

Main definitions:

* `IndyCheqd.Wallet`, `IndyCheqd.Wallet.addIndyObject`, `IndyCheqd.Wallet.getIndyObject`;
* `IndyCheqd.CheqdKeysService` — the key service's operations;
* `IndyCheqd.CheqdKeysController.storeKey`, `…load_key`, `…add_random`, `…add_from_mnemonic`,
  `…get_info`, `…sign`, with `…add_key` the body the two adds share.

Main results:

* `IndyCheqd.CheqdKeysController.addKey_cases` — everything an add can do to the wallet;
* `IndyCheqd.CheqdKeysController.addKey_of_present` — an add under a taken alias fails with the
  key service's error or `IOError`, and writes nothing;
* `IndyCheqd.CheqdKeysController.loadKey_error` — every failed read is the same `IOError`.
-/

set_option autoImplicit false

namespace IndyCheqd

/-- Modelled from the spec: a cheqd `Key` (its domain type is not under src), with the fields
the spec's data model gives it. -/
structure Key where
  «alias» : String
  pubKey : Bytes
  privKey : Bytes
  deriving DecidableEq, Repr

/-! ### The wallet -/

/-- The `Key` records of an open wallet, by record id. -/
structure Wallet where
  records : String → Option Key

namespace Wallet

/-- The wallet with one more record. -/
def insert (w : Wallet) (id : String) (key : Key) : Wallet :=
  ⟨Function.update w.records id (some key)⟩

@[simp] theorem insert_records_self (w : Wallet) (id : String) (key : Key) :
    (w.insert id key).records id = some key := by simp [insert]

@[simp] theorem insert_records_ne (w : Wallet) {id id' : String} (key : Key) (h : id' ≠ id) :
    (w.insert id key).records id' = w.records id' := by simp [insert, h]

/-- Modelled from the spec: `WalletService::add_indy_object` (indy-wallet is not under src), an
add-if-absent. -/
def addIndyObject (w : Wallet) (id : String) (key : Key) : IndyResult Wallet :=
  match w.records id with
  | some _ => .error ⟨.walletItemAlreadyExists, "Wallet item already exists"⟩
  | none => .ok (w.insert id key)

/-- Modelled from the spec: `WalletService::get_indy_object`. -/
def getIndyObject (w : Wallet) (id : String) : IndyResult Key :=
  match w.records id with
  | some key => .ok key
  | none => .error ⟨.walletItemNotFound, "Wallet item not found"⟩

theorem addIndyObject_of_some {w : Wallet} {id : String} {key k : Key}
    (h : w.records id = some k) :
    w.addIndyObject id key = .error ⟨.walletItemAlreadyExists, "Wallet item already exists"⟩ := by
  simp [addIndyObject, h]

theorem addIndyObject_of_none {w : Wallet} {id : String} (key : Key) (h : w.records id = none) :
    w.addIndyObject id key = .ok (w.insert id key) := by
  simp [addIndyObject, h]

theorem getIndyObject_of_some {w : Wallet} {id : String} {key : Key}
    (h : w.records id = some key) : w.getIndyObject id = .ok key := by
  simp [getIndyObject, h]

theorem getIndyObject_of_none {w : Wallet} {id : String} (h : w.records id = none) :
    w.getIndyObject id = .error ⟨.walletItemNotFound, "Wallet item not found"⟩ := by
  simp [getIndyObject, h]

end Wallet

/-! ### The key service -/

/-- Modelled from the spec: the operations of `CheqdKeysService` the controller calls, with
`serde_json::to_string` of a key info, `SignDoc::from_bytes` and `to_bytes` of a signed
transaction.  The randomness `new_random` draws is its `seed` argument.  Both constructors build
the key under the alias they are given. -/
structure CheqdKeysService (KeyInfo SignDoc Raw : Type) where
  newRandom : String → Bytes → IndyResult Key
  newFromMnemonic : String → String → IndyResult Key
  getInfo : Key → IndyResult KeyInfo
  toString : KeyInfo → IndyResult String
  signDocFromBytes : Bytes → IndyResult SignDoc
  sign : Key → SignDoc → IndyResult Raw
  toBytes : Raw → IndyResult Bytes
  newRandomAlias : ∀ «alias» seed key, newRandom «alias» seed = .ok key → key.alias = «alias»
  newFromMnemonicAlias :
    ∀ «alias» mnemonic key, newFromMnemonic «alias» mnemonic = .ok key → key.alias = «alias»

namespace CheqdKeysController

variable {KeyInfo SignDoc Raw : Type} (svc : CheqdKeysService KeyInfo SignDoc Raw)

/-! ### The controller -/

/-- Method `store_key`: add the key under its alias; any wallet error becomes an `IOError`. -/
def storeKey (key : Key) (w : Wallet) : IndyResult Unit × Wallet :=
  match w.addIndyObject key.alias key with
  | .ok w' => (.ok (), w')
  | .error e => (toIndy (.error e) .ioError "Can't write cheqd key", w)

/-- Method `load_key`: read the key under an alias; any wallet error becomes an `IOError`. -/
def loadKey («alias» : String) (w : Wallet) : IndyResult Key :=
  toIndy (w.getIndyObject «alias») .ioError "Can't read cheqd key"

/-- The key info of a key, as the JSON text the controller returns. -/
def keyInfoJson (key : Key) : IndyResult String := do
  let keyInfo ← svc.getInfo key
  svc.toString keyInfo

/-- The body `add_random` and `add_from_mnemonic` share, from the key the service built: store
it, then describe it. -/
def addKey (built : IndyResult Key) (w : Wallet) : IndyResult String × Wallet :=
  match built with
  | .error e => (.error e, w)
  | .ok key =>
      match storeKey key w with
      | (.error e, w') => (.error e, w')
      | (.ok (), w') => (keyInfoJson svc key, w')

/-- Method `add_random`. -/
def addRandom («alias» : String) (seed : Bytes) (w : Wallet) : IndyResult String × Wallet :=
  addKey svc (svc.newRandom «alias» seed) w

/-- Method `add_from_mnemonic`. -/
def addFromMnemonic («alias» mnemonic : String) (w : Wallet) : IndyResult String × Wallet :=
  addKey svc (svc.newFromMnemonic «alias» mnemonic) w

/-- Method `get_info`; it does not write. -/
def getInfo («alias» : String) (w : Wallet) : IndyResult String := do
  let key ← loadKey «alias» w
  keyInfoJson svc key

/-- Signing a transaction's bytes with a loaded key. -/
def signWith (key : Key) (doc : SignDoc) : IndyResult Bytes := do
  let signed ← svc.sign key doc
  svc.toBytes signed

/-- Method `sign`: the transaction is decoded before the key is loaded; it does not write. -/
def sign («alias» : String) (tx : Bytes) (w : Wallet) : IndyResult Bytes := do
  let signDoc ← svc.signDocFromBytes tx
  let key ← loadKey «alias» w
  signWith svc key signDoc

/-! ### Spec lemmas -/

theorem storeKey_of_none {key : Key} {w : Wallet} (h : w.records key.alias = none) :
    storeKey key w = (.ok (), w.insert key.alias key) := by
  simp [storeKey, Wallet.addIndyObject_of_none key h]

theorem storeKey_of_some {key k : Key} {w : Wallet} (h : w.records key.alias = some k) :
    storeKey key w = (.error ⟨.ioError, "Can't write cheqd key"⟩, w) := by
  simp [storeKey, Wallet.addIndyObject_of_some h]

theorem loadKey_of_some {«alias» : String} {key : Key} {w : Wallet}
    (h : w.records «alias» = some key) : loadKey «alias» w = .ok key := by
  simp [loadKey, Wallet.getIndyObject_of_some h]

/-- Every failed read of the wallet, whatever the wallet reported, is the same `IOError`; in
particular a missing alias is not reported as `WalletItemNotFound`. -/
theorem loadKey_error {«alias» : String} {w : Wallet} {e : IndyError}
    (h : loadKey «alias» w = .error e) : e = ⟨.ioError, "Can't read cheqd key"⟩ :=
  toIndy_eq_error h

theorem loadKey_of_none {«alias» : String} {w : Wallet} (h : w.records «alias» = none) :
    loadKey «alias» w = .error ⟨.ioError, "Can't read cheqd key"⟩ := by
  simp [loadKey, Wallet.getIndyObject_of_none h]

theorem loadKey_eq_ok {«alias» : String} {w : Wallet} {key : Key} :
    loadKey «alias» w = .ok key ↔ w.records «alias» = some key := by
  cases h : w.records «alias» with
  | none => simp [loadKey_of_none h]
  | some k => simp [loadKey_of_some h]

/-- `get_info` succeeds exactly on a stored key whose info can be written out. -/
theorem getInfo_eq_ok {«alias» s : String} {w : Wallet} :
    getInfo svc «alias» w = .ok s ↔
      ∃ key, w.records «alias» = some key ∧ keyInfoJson svc key = .ok s := by
  simp [getInfo, bind_eq_ok, loadKey_eq_ok]

/-- `sign` succeeds exactly when the transaction decodes and the stored key signs it. -/
theorem sign_eq_ok {«alias» : String} {tx s : Bytes} {w : Wallet} :
    sign svc «alias» tx w = .ok s ↔
      ∃ doc key, svc.signDocFromBytes tx = .ok doc ∧ w.records «alias» = some key ∧
        signWith svc key doc = .ok s := by
  simp [sign, bind_eq_ok, loadKey_eq_ok]

/-- **Everything an add can do to the wallet.**  It fails without writing when the service
cannot build the key, fails with `IOError` without writing when the alias is taken, and
otherwise stores the key under its alias and returns the key's info, whether or not computing
that info succeeds. -/
theorem addKey_cases (built : IndyResult Key) (w : Wallet) :
    (∃ e, built = .error e ∧ addKey svc built w = (.error e, w)) ∨
    (∃ key k, built = .ok key ∧ w.records key.alias = some k ∧
      addKey svc built w = (.error ⟨.ioError, "Can't write cheqd key"⟩, w)) ∨
    (∃ key, built = .ok key ∧ w.records key.alias = none ∧
      addKey svc built w = (keyInfoJson svc key, w.insert key.alias key)) := by
  rcases built with e | key
  · exact .inl ⟨e, rfl, rfl⟩
  · cases hk : w.records key.alias with
    | some k => exact .inr (.inl ⟨key, k, rfl, hk, by simp [addKey, storeKey_of_some hk]⟩)
    | none => exact .inr (.inr ⟨key, rfl, hk, by simp [addKey, storeKey_of_none hk]⟩)

/-- An add changes the wallet only by a new record under a free id. -/
theorem addKey_wallet (built : IndyResult Key) (w : Wallet) :
    (addKey svc built w).2 = w ∨
      ∃ key, w.records key.alias = none ∧ (addKey svc built w).2 = w.insert key.alias key := by
  rcases addKey_cases svc built w with ⟨_, _, h⟩ | ⟨_, _, _, _, h⟩ | ⟨key, _, hk, h⟩
  · exact .inl (by rw [h])
  · exact .inl (by rw [h])
  · exact .inr ⟨key, hk, by rw [h]⟩

/-- **An add under a taken alias fails and writes nothing.**  Its error is the key service's
own when the key cannot be built, and `IOError "Can't write cheqd key"` otherwise. -/
theorem addKey_of_present («alias» : String) (built : IndyResult Key) (w : Wallet) (k : Key)
    (halias : ∀ key, built = .ok key → key.alias = «alias») (h : w.records «alias» = some k) :
    addKey svc built w =
      (built.bind fun _ => .error ⟨.ioError, "Can't write cheqd key"⟩, w) := by
  rcases built with e | key
  · rfl
  · have hk : w.records key.alias = some k := by rw [halias key rfl]; exact h
    simp [addKey, storeKey_of_some hk, Except.bind]

end CheqdKeysController

end IndyCheqd
