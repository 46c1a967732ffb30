import IndyCheqd.Keys.Controller

/-!
**Runs of the keys controller: what holds over every sequence of calls.**

A run is a sequence of controller calls against one wallet, each call seeing the wallet the
previous ones left.  The only call that writes is an add, and an add writes only under a free
alias; so a key, once stored, stays, and every later read of its alias sees it.  The errors a run
can report are the controller's own: a taken alias and a missing one both surface as `IOError`.

Main definitions:

* `IndyCheqd.CheqdKeysController.Op`, `…step`, `…run` — calls, one call, a run;
* `IndyCheqd.CheqdKeysController.KeysContract` — what the controller guarantees, call by call
  and over runs.

Main results:

* `IndyCheqd.CheqdKeysController.step_records_of_some`, `…run_records_of_some` — a stored key is
  never replaced or removed;
* `IndyCheqd.CheqdKeysController.step_provenance` — a key after a call was there before, or the
  call is an add of its alias that built it;
* `IndyCheqd.CheqdKeysController.run_of_not_writes` — calls that do not write all see the wallet
  they started from;
* `IndyCheqd.CheqdKeysController.keys_contract` — **the contract holds for every key service**;
* `IndyCheqd.CheqdKeysController.keys_controller_error_kinds` — a taken alias is not reported as
  `WalletItemAlreadyExists`, nor a missing one as `WalletItemNotFound`.
-/

set_option autoImplicit false

namespace IndyCheqd

namespace CheqdKeysController

/-- The controller's calls on one wallet. -/
inductive Op where
  | addRandom («alias» : String) (seed : Bytes)
  | addFromMnemonic («alias» mnemonic : String)
  | getInfo («alias» : String)
  | sign («alias» : String) (tx : Bytes)
  deriving DecidableEq, Repr

/-- What a successful call returns: a key info's JSON text, or a signed transaction. -/
inductive Reply where
  | keyInfo (json : String)
  | signed (tx : Bytes)
  deriving DecidableEq, Repr

variable {KeyInfo SignDoc Raw : Type} (svc : CheqdKeysService KeyInfo SignDoc Raw)

/-- One call: its result, and the wallet after it. -/
def step : Op → Wallet → IndyResult Reply × Wallet
  | .addRandom «alias» seed, w =>
      let r := addRandom svc «alias» seed w
      (Reply.keyInfo <$> r.1, r.2)
  | .addFromMnemonic «alias» mnemonic, w =>
      let r := addFromMnemonic svc «alias» mnemonic w
      (Reply.keyInfo <$> r.1, r.2)
  | .getInfo «alias», w => (Reply.keyInfo <$> getInfo svc «alias» w, w)
  | .sign «alias» tx, w => (Reply.signed <$> sign svc «alias» tx w, w)

/-- A run: the results of the calls in order, and the wallet at the end. -/
def run : List Op → Wallet → List (IndyResult Reply) × Wallet
  | [], w => ([], w)
  | op :: ops, w =>
      let r := step svc op w
      let rs := run ops r.2
      (r.1 :: rs.1, rs.2)

@[simp] theorem run_nil (w : Wallet) : run svc [] w = ([], w) := rfl

@[simp] theorem run_cons (op : Op) (ops : List Op) (w : Wallet) :
    run svc (op :: ops) w =
      ((step svc op w).1 :: (run svc ops (step svc op w).2).1, (run svc ops (step svc op w).2).2) :=
  rfl

/-! ### Stored keys stay -/

/-- Only an add writes, and only under a free alias. -/
theorem step_wallet (op : Op) (w : Wallet) :
    (step svc op w).2 = w ∨ ∃ key, w.records key.alias = none ∧
      (step svc op w).2 = w.insert key.alias key := by
  cases op with
  | addRandom «alias» seed => exact addKey_wallet svc _ w
  | addFromMnemonic «alias» mnemonic => exact addKey_wallet svc _ w
  | getInfo «alias» => exact .inl rfl
  | sign «alias» tx => exact .inl rfl

theorem step_records_of_some {w : Wallet} {«alias» : String} {key : Key}
    (h : w.records «alias» = some key) (op : Op) :
    (step svc op w).2.records «alias» = some key := by
  rcases step_wallet svc op w with hw | ⟨k, hk, hw⟩
  · rw [hw, h]
  · have hne : «alias» ≠ k.alias := fun he => by rw [he, hk] at h; cases h
    rw [hw, Wallet.insert_records_ne _ _ hne, h]

/-- **A stored key is never replaced or removed**, whatever calls follow. -/
theorem run_records_of_some {w : Wallet} {«alias» : String} {key : Key}
    (h : w.records «alias» = some key) (ops : List Op) :
    (run svc ops w).2.records «alias» = some key := by
  induction ops generalizing w with
  | nil => exact h
  | cons op ops ih => exact ih (step_records_of_some svc h op)

/-! ### What one call writes -/

/-- The calls that write: the two adds. -/
def Op.writes : Op → Bool
  | .addRandom .. => true
  | .addFromMnemonic .. => true
  | _ => false

theorem step_of_not_writes {op : Op} (h : op.writes = false) (w : Wallet) :
    (step svc op w).2 = w := by
  cases op <;> first | rfl | cases h

/-- A run of calls none of which writes answers each one on the wallet it started from. -/
theorem run_of_not_writes {ops : List Op} (h : ∀ op ∈ ops, op.writes = false) (w : Wallet) :
    run svc ops w = (ops.map fun op => (step svc op w).1, w) := by
  induction ops with
  | nil => rfl
  | cons op ops ih =>
    rw [List.forall_mem_cons] at h
    simp [step_of_not_writes svc h.1, ih h.2]

/-- `op` is an add under `alias` for which the key service built `key`. -/
def Op.Builds («alias» : String) (key : Key) : Op → Prop
  | .addRandom a seed => a = «alias» ∧ svc.newRandom a seed = .ok key
  | .addFromMnemonic a mnemonic => a = «alias» ∧ svc.newFromMnemonic a mnemonic = .ok key
  | _ => False

theorem addKey_provenance {a b : String} {built : IndyResult Key} {w : Wallet} {key : Key}
    (halias : ∀ key, built = .ok key → key.alias = a)
    (h : (addKey svc built w).2.records b = some key) :
    w.records b = some key ∨ a = b ∧ built = .ok key := by
  rcases addKey_cases svc built w with ⟨_, _, hw⟩ | ⟨_, _, _, _, hw⟩ | ⟨k, hb, _, hw⟩
  · rw [hw] at h; exact .inl h
  · rw [hw] at h; exact .inl h
  · rw [hw] at h
    by_cases hk : b = k.alias
    · subst hk
      obtain rfl : k = key := Option.some.inj ((Wallet.insert_records_self _ _ _).symm.trans h)
      exact .inr ⟨(halias k hb).symm, hb⟩
    · exact .inl (by rwa [Wallet.insert_records_ne _ _ hk] at h)

/-- **Where a key comes from.**  A key under an alias after a call was there before, or the call
is an add under that alias, for which the key service built it. -/
theorem step_provenance {op : Op} {w : Wallet} {«alias» : String} {key : Key}
    (h : (step svc op w).2.records «alias» = some key) :
    w.records «alias» = some key ∨ op.Builds svc «alias» key := by
  cases op with
  | addRandom a seed => exact addKey_provenance svc (svc.newRandomAlias a seed) h
  | addFromMnemonic a mnemonic =>
    exact addKey_provenance svc (svc.newFromMnemonicAlias a mnemonic) h
  | getInfo _ => exact .inl h
  | sign _ _ => exact .inl h

/-- Reads of a stored alias see its key. -/
theorem getInfo_of_some {w : Wallet} {«alias» : String} {key : Key}
    (h : w.records «alias» = some key) : getInfo svc «alias» w = keyInfoJson svc key := by
  simp [getInfo, loadKey_of_some h]

theorem sign_of_some {w : Wallet} {«alias» : String} {key : Key}
    (h : w.records «alias» = some key) (tx : Bytes) :
    sign svc «alias» tx w = (svc.signDocFromBytes tx >>= signWith svc key) := by
  simp only [sign, loadKey_of_some h, ok_bind]

/-- A successful add has stored the key the service built, under the alias asked for. -/
theorem addKey_ok {«alias» : String} {built : IndyResult Key} {w : Wallet} {i : String}
    (halias : ∀ key, built = .ok key → key.alias = «alias») (h : (addKey svc built w).1 = .ok i) :
    ∃ key, built = .ok key ∧ keyInfoJson svc key = .ok i ∧
      (addKey svc built w).2.records «alias» = some key := by
  rcases addKey_cases svc built w with ⟨_, _, hw⟩ | ⟨_, _, _, _, hw⟩ | ⟨key, hb, _, hw⟩
  · rw [hw] at h; cases h
  · rw [hw] at h; cases h
  · rw [hw] at h ⊢
    exact ⟨key, hb, h, by rw [← halias key hb]; exact Wallet.insert_records_self _ _ _⟩

/-- An add under a taken alias fails and writes nothing. -/
theorem addKey_taken {«alias» : String} {built : IndyResult Key} {w : Wallet} {k : Key}
    (halias : ∀ key, built = .ok key → key.alias = «alias») (h : w.records «alias» = some k) :
    (∃ e, (addKey svc built w).1 = .error e) ∧ (addKey svc built w).2 = w := by
  rw [addKey_of_present svc «alias» built w k halias h]
  cases built <;> simp [Except.bind]

/-- After a successful add, every later `get_info` of the alias returns the same info and every
later `sign` signs with the stored key. -/
theorem addKey_persists {«alias» : String} {built : IndyResult Key} {w : Wallet} {i : String}
    (halias : ∀ key, built = .ok key → key.alias = «alias») (h : (addKey svc built w).1 = .ok i) :
    ∃ key, built = .ok key ∧ ∀ pre : List Op,
      (run svc pre (addKey svc built w).2).2.records «alias» = some key ∧
      getInfo svc «alias» (run svc pre (addKey svc built w).2).2 = .ok i ∧
      ∀ tx, sign svc «alias» tx (run svc pre (addKey svc built w).2).2 =
        (svc.signDocFromBytes tx >>= signWith svc key) := by
  obtain ⟨key, hb, hi, hs⟩ := addKey_ok svc halias h
  refine ⟨key, hb, fun pre => ?_⟩
  have hr := run_records_of_some svc hs pre
  exact ⟨hr, (getInfo_of_some svc hr).trans hi, sign_of_some svc hr⟩

/-! ### The contract -/

/-- What the keys controller guarantees for the key service `svc`, on every wallet: the
behaviour of an add under a taken alias, everything an add may write, what a successful add
guarantees for the rest of any run, and how a missing alias is reported. -/
structure KeysContract : Prop where
  /-- A random add under a taken alias fails, with the service's error or `IOError`, and writes
  nothing. -/
  addRandom_taken : ∀ (w : Wallet) «alias» seed k, w.records «alias» = some k →
    addRandom svc «alias» seed w =
      ((svc.newRandom «alias» seed).bind fun _ => .error ⟨.ioError, "Can't write cheqd key"⟩, w)
  /-- The same for an add from a mnemonic. -/
  addFromMnemonic_taken : ∀ (w : Wallet) «alias» mnemonic k, w.records «alias» = some k →
    addFromMnemonic svc «alias» mnemonic w =
      ((svc.newFromMnemonic «alias» mnemonic).bind
        fun _ => .error ⟨.ioError, "Can't write cheqd key"⟩, w)
  /-- A random add leaves the wallet as it was, or stores the new key under its free alias and
  returns the key's info, whether computing that info succeeds or not. -/
  addRandom_writes : ∀ (w : Wallet) «alias» seed, (addRandom svc «alias» seed w).2 = w ∨
    ∃ key, svc.newRandom «alias» seed = .ok key ∧ w.records «alias» = none ∧
      addRandom svc «alias» seed w = (keyInfoJson svc key, w.insert «alias» key)
  /-- The same for an add from a mnemonic. -/
  addFromMnemonic_writes : ∀ (w : Wallet) «alias» mnemonic,
    (addFromMnemonic svc «alias» mnemonic w).2 = w ∨
    ∃ key, svc.newFromMnemonic «alias» mnemonic = .ok key ∧ w.records «alias» = none ∧
      addFromMnemonic svc «alias» mnemonic w = (keyInfoJson svc key, w.insert «alias» key)
  /-- Once a random add has returned `i`, its key stays, every later `get_info` returns `i`
  and every later `sign` signs with that key, after any calls in between. -/
  addRandom_persists : ∀ (w : Wallet) «alias» seed i, (addRandom svc «alias» seed w).1 = .ok i →
    ∃ key, svc.newRandom «alias» seed = .ok key ∧ ∀ pre : List Op,
      (run svc pre (addRandom svc «alias» seed w).2).2.records «alias» = some key ∧
      getInfo svc «alias» (run svc pre (addRandom svc «alias» seed w).2).2 = .ok i ∧
      ∀ tx, sign svc «alias» tx (run svc pre (addRandom svc «alias» seed w).2).2 =
        (svc.signDocFromBytes tx >>= signWith svc key)
  /-- The same for an add from a mnemonic. -/
  addFromMnemonic_persists : ∀ (w : Wallet) «alias» mnemonic i,
    (addFromMnemonic svc «alias» mnemonic w).1 = .ok i →
    ∃ key, svc.newFromMnemonic «alias» mnemonic = .ok key ∧ ∀ pre : List Op,
      (run svc pre (addFromMnemonic svc «alias» mnemonic w).2).2.records «alias» = some key ∧
      getInfo svc «alias» (run svc pre (addFromMnemonic svc «alias» mnemonic w).2).2 = .ok i ∧
      ∀ tx, sign svc «alias» tx (run svc pre (addFromMnemonic svc «alias» mnemonic w).2).2 =
        (svc.signDocFromBytes tx >>= signWith svc key)
  /-- Describing a missing alias fails with `IOError "Can't read cheqd key"`. -/
  getInfo_missing : ∀ (w : Wallet) «alias», w.records «alias» = none →
    getInfo svc «alias» w = .error ⟨.ioError, "Can't read cheqd key"⟩
  /-- Signing under a missing alias fails with the transaction's decoding error, or else with
  `IOError "Can't read cheqd key"`. -/
  sign_missing : ∀ (w : Wallet) «alias» tx, w.records «alias» = none →
    sign svc «alias» tx w =
      (svc.signDocFromBytes tx).bind fun _ => .error ⟨.ioError, "Can't read cheqd key"⟩

theorem addKey_writes («alias» : String) (built : IndyResult Key) (w : Wallet)
    (halias : ∀ key, built = .ok key → key.alias = «alias») :
    (addKey svc built w).2 = w ∨ ∃ key, built = .ok key ∧ w.records «alias» = none ∧
      addKey svc built w = (keyInfoJson svc key, w.insert «alias» key) := by
  rcases addKey_cases svc built w with ⟨_, _, h⟩ | ⟨_, _, _, _, h⟩ | ⟨key, hb, hk, h⟩
  · exact .inl (by rw [h])
  · exact .inl (by rw [h])
  · rw [halias key hb] at hk h
    exact .inr ⟨key, hb, hk, h⟩

/-- **The contract holds for every key service.** -/
theorem keys_contract : KeysContract svc where
  addRandom_taken w _ _ k h := addKey_of_present svc _ _ w k (svc.newRandomAlias _ _) h
  addFromMnemonic_taken w _ _ k h :=
    addKey_of_present svc _ _ w k (svc.newFromMnemonicAlias _ _) h
  addRandom_writes w _ _ := addKey_writes svc _ _ w (svc.newRandomAlias _ _)
  addFromMnemonic_writes w _ _ := addKey_writes svc _ _ w (svc.newFromMnemonicAlias _ _)
  addRandom_persists _ _ _ _ h := addKey_persists svc (svc.newRandomAlias _ _) h
  addFromMnemonic_persists _ _ _ _ h := addKey_persists svc (svc.newFromMnemonicAlias _ _) h
  getInfo_missing _ _ h := by simp [getInfo, loadKey_of_none h]
  sign_missing _ _ tx h := by
    cases hd : svc.signDocFromBytes tx <;> simp [sign, loadKey_of_none h, hd, Except.bind]

/-! ### The error kinds the controller reports -/

/-- A key service to run the controller on: a random key is its seed, a mnemonic key is empty,
a key's info is its alias, and a signature is the private key followed by the document. -/
def seededService : CheqdKeysService String Bytes Bytes where
  newRandom «alias» seed := .ok ⟨«alias», seed, seed⟩
  newFromMnemonic «alias» _ := .ok ⟨«alias», [], []⟩
  getInfo key := .ok key.alias
  toString info := .ok info
  signDocFromBytes tx := .ok tx
  sign key doc := .ok (key.privKey ++ doc)
  toBytes raw := .ok raw
  newRandomAlias _ _ _ h := by cases h; rfl
  newFromMnemonicAlias _ _ _ h := by cases h; rfl

/-- The wallet holding one key, under `"alice"`. -/
def aliceWallet : Wallet :=
  ⟨fun id => if id = "alice" then some ⟨"alice", [1], [2]⟩ else none⟩

/-- Adding `"alice"` again does not fail with `WalletItemAlreadyExists`, and describing the
missing `"bob"` does not fail with `WalletItemNotFound`: both are `IOError`s. -/
theorem keys_controller_error_kinds :
    (¬ ∃ msg, (addRandom seededService "alice" [3] aliceWallet).1 =
        .error ⟨.walletItemAlreadyExists, msg⟩) ∧
    ¬ ∃ msg, getInfo seededService "bob" aliceWallet = .error ⟨.walletItemNotFound, msg⟩ := by
  have hadd : (addRandom seededService "alice" [3] aliceWallet).1 =
      .error ⟨.ioError, "Can't write cheqd key"⟩ := rfl
  have hget : getInfo seededService "bob" aliceWallet =
      .error ⟨.ioError, "Can't read cheqd key"⟩ := rfl
  simp [hadd, hget]

end CheqdKeysController

end IndyCheqd
