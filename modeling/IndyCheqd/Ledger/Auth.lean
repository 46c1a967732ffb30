import IndyCheqd.Basic

/-!
**The account query of `CheqdLedgerService`: building it, and accepting its answer.**

`auth_build_query_account` turns an address into an ABCI store query on `/store/acc/key` whose
data is the store key of the account, `0x01 ++ bytes(address)`, with a proof requested.
`auth_parse_query_account_resp` turns the node's answer into a `QueryAccountResponse`: it decodes
the returned value (an empty value meaning "no such account"), runs `check_proofs` on the whole
response, and returns the decoded account.

Three collaborators are not part of the modelled source and enter as parameters:
`AccountId::from_str` with `to_bytes` (bech32 decoding), `Account::from_proto_bytes`, and
`check_proofs`, the proof verifier, which is given the response and nothing else.

To say what the query is *for*, a response is judged against a `CommittedState`, the store that
the block's state root commits to, and a verifier is `SoundFor` a state when everything it
accepts is true of that state (for the key the response itself names).

Main definitions:

* `IndyCheqd.CheqdLedgerService.authBuildQueryAccount`,
  `IndyCheqd.CheqdLedgerService.authParseQueryAccountResp` and their `_without_proof`
  siblings;
* `IndyCheqd.CheqdLedgerService.queryAccount` — the client's query: build, ask a node, parse;
* `IndyCheqd.CheqdLedgerService.SoundFor`, `IndyCheqd.CheqdLedgerService.verifyAgainst` — sound
  verifiers, and the one that accepts exactly the true responses.

Main results:

* `IndyCheqd.CheqdLedgerService.authParseQueryAccountResp_eq_ok` — what the parser accepts:
  a checked response whose value decodes, read as `Decodes`;
* `IndyCheqd.CheqdLedgerService.queryAccount_eq_ok` — **the answer accepted for an address is
  any checked answer**: the response's key is never compared with the requested one;
* `IndyCheqd.CheqdLedgerService.queryAccount_sound` — with a sound verifier the result is the
  committed state under the key *the node chose*, and under the requested key exactly when the
  node answered for it;
* `IndyCheqd.CheqdLedgerService.queryAccount_other_key` — a node that answers with another
  account's proven state has it accepted as the state of the requested one.
-/

set_option autoImplicit false

namespace IndyCheqd

/-! ### Requests and responses -/

/-- One operation of a Merkle proof, as a node returns it. -/
structure ProofOp where
  fieldType : String
  key : Bytes
  data : Bytes
  deriving DecidableEq, Repr

/-- The fields of an `abci_query::Request`. -/
structure Request where
  path : Option String
  data : Bytes
  height : Option Nat
  prove : Bool
  deriving DecidableEq, Repr

/-- The query result inside an `abci_query::Response`: the fields a proof check can read (the
log, info, index and codespace strings are left out). -/
structure ResponseQuery where
  code : UInt32
  key : Bytes
  value : Bytes
  proof : Option (List ProofOp)
  height : Nat
  deriving DecidableEq, Repr

/-- An `abci_query::Response`. -/
structure Response where
  response : ResponseQuery
  deriving DecidableEq, Repr

/-- A `QueryAccountResponse`: the account, if the store holds one. -/
structure QueryAccountResponse (Account : Type) where
  account : Option Account
  deriving DecidableEq, Repr

namespace CheqdLedgerService

section Query

variable {Account : Type} (accountIdFromStr : String → IndyResult Bytes)
  (fromProtoBytes : Bytes → IndyResult Account) (checkProofs : Response → IndyResult Unit)

/-- The store key of an account, `0x01 ++ bytes(address)`. -/
def accountStoreKey (acc : Bytes) : Bytes := 0x01 :: acc

/-- Method `auth_build_query_account`.  `account_id_from_str` is `AccountId::from_str` followed
by `to_bytes`; `Path::from_str` cannot fail. -/
def authBuildQueryAccount (address : String) : IndyResult Request := do
  let acc ← accountIdFromStr address
  pure { path := some "/store/acc/key", data := accountStoreKey acc, height := none,
         prove := true }

/-- Method `auth_build_query_account_without_proof`; `to_proto_bytes` encodes a
`QueryAccountRequest` for the address.  It too asks for a proof. -/
def authBuildQueryAccountWithoutProof (toProtoBytes : String → IndyResult Bytes)
    (address : String) : IndyResult Request := do
  let queryData ← toProtoBytes address
  pure { path := some "/cosmos.auth.v1beta1.Query/Account", data := queryData, height := none,
         prove := true }

/-- Method `auth_parse_query_account_resp`: decode a nonempty value, then check the proofs of
the whole response. -/
def authParseQueryAccountResp (resp : Response) :
    IndyResult (QueryAccountResponse Account) := do
  let result ← (if !resp.response.value.isEmpty then
      some <$> fromProtoBytes resp.response.value
    else pure none)
  checkProofs resp
  pure ⟨result⟩

/-- Method `auth_parse_query_account_resp_without_proof`: decode the value as a whole
`QueryAccountResponse`, with no check at all. -/
def authParseQueryAccountRespWithoutProof
    (responseFromProtoBytes : Bytes → IndyResult (QueryAccountResponse Account))
    (resp : Response) : IndyResult (QueryAccountResponse Account) :=
  responseFromProtoBytes resp.response.value

/-- The account query as the client runs it (`get_account_command`, and the first half of
`get_base_account_number_and_sequence`): build the request, let a node of the pool answer it,
parse the answer.  `pool` is whatever the node does. -/
def queryAccount (pool : Request → IndyResult Response) (address : String) :
    IndyResult (QueryAccountResponse Account) := do
  let req ← authBuildQueryAccount accountIdFromStr address
  let resp ← pool req
  authParseQueryAccountResp fromProtoBytes checkProofs resp

/-- What a response says about the store: its value under its key, an empty value meaning that
the key is absent. -/
def claimed (r : Response) : Option Bytes :=
  if r.response.value = [] then none else some r.response.value

/-- The account `x` is what the stored value `v` decodes to: nothing for an absent key, and the
decoded account for a present one. -/
def Decodes (v : Option Bytes) (x : Option Account) : Prop :=
  match v with
  | none => x = none
  | some b => ∃ acc, fromProtoBytes b = .ok acc ∧ x = some acc

@[simp] theorem decodes_none (x : Option Account) : Decodes fromProtoBytes none x ↔ x = none :=
  Iff.rfl

@[simp] theorem decodes_some (b : Bytes) (x : Option Account) :
    Decodes fromProtoBytes (some b) x ↔ ∃ acc, fromProtoBytes b = .ok acc ∧ x = some acc :=
  Iff.rfl

/-! ### What the parser accepts -/

theorem authBuildQueryAccount_eq_ok (address : String) (req : Request) :
    authBuildQueryAccount accountIdFromStr address = .ok req ↔
      ∃ acc, accountIdFromStr address = .ok acc ∧
        req = { path := some "/store/acc/key", data := accountStoreKey acc, height := none,
                prove := true } := by
  unfold authBuildQueryAccount
  cases accountIdFromStr address <;> simp [pure, Except.pure, eq_comm]

/-- A decoding error of a nonempty value is reported before the proofs are looked at. -/
theorem authParseQueryAccountResp_decode_error (resp : Response) (e : IndyError)
    (hv : resp.response.value ≠ []) (he : fromProtoBytes resp.response.value = .error e) :
    authParseQueryAccountResp fromProtoBytes checkProofs resp = .error e := by
  simp [authParseQueryAccountResp, hv, he, Functor.map, Except.map]

/-- **What the parser accepts.**  A response is accepted exactly when `check_proofs` accepts it
and its value decodes; the result is that decoding. -/
theorem authParseQueryAccountResp_eq_ok (resp : Response) (x : QueryAccountResponse Account) :
    authParseQueryAccountResp fromProtoBytes checkProofs resp = .ok x ↔
      checkProofs resp = .ok () ∧ Decodes fromProtoBytes (claimed resp) x.account := by
  obtain ⟨x⟩ := x
  unfold authParseQueryAccountResp claimed
  by_cases hv : resp.response.value = []
  · cases hc : checkProofs resp <;> simp [hv, hc, pure, Except.pure, @eq_comm _ _ x]
  · cases hd : fromProtoBytes resp.response.value <;> cases hc : checkProofs resp <;>
      simp [hv, hd, hc, pure, Except.pure, Functor.map, Except.map, @eq_comm _ _ x]

/-- The query succeeds exactly when the request builds, the node answers, and the parser
accepts the answer. -/
theorem queryAccount_ok_iff (pool : Request → IndyResult Response) (address : String)
    (x : QueryAccountResponse Account) :
    queryAccount accountIdFromStr fromProtoBytes checkProofs pool address = .ok x ↔
      ∃ req resp, authBuildQueryAccount accountIdFromStr address = .ok req ∧
        pool req = .ok resp ∧
        authParseQueryAccountResp fromProtoBytes checkProofs resp = .ok x := by
  unfold queryAccount
  cases authBuildQueryAccount accountIdFromStr address with
  | error e => simp
  | ok req => cases hp : pool req <;> simp [hp]

/-- **The answer accepted for an address is any checked answer.**  The query for `address`
succeeds exactly when its request builds, the node returns some response, `check_proofs` accepts
that response and its value decodes.  The response's `key` takes no part: nothing compares it
with the requested store key. -/
theorem queryAccount_eq_ok (pool : Request → IndyResult Response) (address : String)
    (x : QueryAccountResponse Account) :
    queryAccount accountIdFromStr fromProtoBytes checkProofs pool address = .ok x ↔
      ∃ req resp, authBuildQueryAccount accountIdFromStr address = .ok req ∧
        pool req = .ok resp ∧ checkProofs resp = .ok () ∧
        Decodes fromProtoBytes (claimed resp) x.account := by
  simp only [queryAccount_ok_iff, authParseQueryAccountResp_eq_ok]

end Query

/-! ### Judged against the committed state -/

/-- The store a block's state root commits to: the value under each store key. -/
abbrev CommittedState := Bytes → Option Bytes

/-- A proof check is sound for the committed state `T` when every response it accepts tells the
truth about `T` at the key that response names. -/
def SoundFor (checkProofs : Response → IndyResult Unit) (T : CommittedState) : Prop :=
  ∀ r, checkProofs r = .ok () → T r.response.key = claimed r

/-- The perfect verifier for `T`: it accepts a response that carries a proof and tells the truth
about `T` at its own key, and nothing else. -/
def verifyAgainst (T : CommittedState) (r : Response) : IndyResult Unit :=
  if r.response.proof.isSome ∧ T r.response.key = claimed r then .ok ()
  else .error ⟨.invalidStructure, "The proof does not match the committed state"⟩

theorem verifyAgainst_sound (T : CommittedState) : SoundFor (verifyAgainst T) T := by
  intro r h
  unfold verifyAgainst at h
  split at h
  · exact ‹_ ∧ _›.2
  · cases h

section Sound

variable {Account : Type} (accountIdFromStr : String → IndyResult Bytes)
  (fromProtoBytes : Bytes → IndyResult Account) (checkProofs : Response → IndyResult Unit)
  (T : CommittedState)

/-- **With a sound verifier, the result is the committed state under the key the node chose.**
It is the state of the requested account exactly when the node answered for that account's
store key. -/
theorem queryAccount_sound (hT : SoundFor checkProofs T) (pool : Request → IndyResult Response)
    (address : String) (x : QueryAccountResponse Account)
    (h : queryAccount accountIdFromStr fromProtoBytes checkProofs pool address = .ok x) :
    ∃ req resp, authBuildQueryAccount accountIdFromStr address = .ok req ∧
      pool req = .ok resp ∧ Decodes fromProtoBytes (T resp.response.key) x.account ∧
      (resp.response.key = req.data → Decodes fromProtoBytes (T req.data) x.account) := by
  obtain ⟨req, resp, hb, hp, hparse⟩ :=
    (queryAccount_ok_iff accountIdFromStr fromProtoBytes checkProofs pool address x).1 h
  obtain ⟨hc, hd⟩ :=
    (authParseQueryAccountResp_eq_ok fromProtoBytes checkProofs resp x).1 hparse
  have hkey : T resp.response.key = claimed resp := hT resp hc
  exact ⟨req, resp, hb, hp, hkey ▸ hd, fun hk => hk ▸ hkey ▸ hd⟩

/-- A committed state holding `[41]` under the store key of the account `[7]`, and `[42]` under
that of the account `[8]`. -/
def sampleState : CommittedState := fun k =>
  if k = [1, 7] then some [41] else if k = [1, 8] then some [42] else none

/-- An honest node, asked for the account `[7]`, answers with its store key and value. -/
theorem queryAccount_sound_sample :
    SoundFor (verifyAgainst sampleState) sampleState ∧
    queryAccount (fun _ => .ok [7]) .ok (verifyAgainst sampleState)
      (fun _ => .ok ⟨⟨0, [1, 7], [41], some [], 0⟩⟩) "alice" = .ok ⟨some [41]⟩ ∧
    ∃ req resp, authBuildQueryAccount (fun _ => .ok [7]) "alice" = .ok req ∧
      (fun _ => .ok ⟨⟨0, [1, 7], [41], some [], 0⟩⟩ : Request → IndyResult Response) req =
        .ok resp ∧
      Decodes .ok (sampleState resp.response.key) (some [41]) ∧
      (resp.response.key = req.data → Decodes .ok (sampleState req.data) (some [41])) :=
  ⟨verifyAgainst_sound _, rfl,
    queryAccount_sound (fun _ => .ok [7]) .ok (verifyAgainst sampleState) sampleState
      (verifyAgainst_sound _) (fun _ => .ok ⟨⟨0, [1, 7], [41], some [], 0⟩⟩) "alice"
      ⟨some [41]⟩ rfl⟩

/-- **A proven answer about another key is accepted.**  Let the committed state hold a nonempty
value `v` under a key `k` other than the requested store key.  A node that answers the request
for `address` with `v` under `k`, with a proof, has the perfect verifier accept it, and the client
returns the decoding of `v` as the account of `address`, whatever the committed state holds for
`address` itself. -/
theorem queryAccount_other_key (address : String) (req : Request)
    (hb : authBuildQueryAccount accountIdFromStr address = .ok req)
    (k v : Bytes) (ops : List ProofOp) (acc : Account) (hk : T k = some v) (hv : v ≠ [])
    (hdec : fromProtoBytes v = .ok acc) :
    queryAccount accountIdFromStr fromProtoBytes (verifyAgainst T)
      (fun _ => .ok ⟨⟨0, k, v, some ops, 0⟩⟩) address = .ok ⟨some acc⟩ := by
  refine (queryAccount_ok_iff accountIdFromStr fromProtoBytes _ _ address _).2
    ⟨req, _, hb, rfl, (authParseQueryAccountResp_eq_ok _ _ _ _).2 ⟨?_, ?_⟩⟩
  · simp [verifyAgainst, claimed, hk, hv]
  · simp [claimed, hv, hdec]

end Sound

/-- Asked for the account `[7]`, a node answers with the value `[42]` of the account `[8]`: the
query returns `[42]` as the account `[7]`. -/
theorem queryAccount_other_key_sample :
    authBuildQueryAccount (fun _ => .ok [7]) "alice" =
      .ok ⟨some "/store/acc/key", [1, 7], none, true⟩ ∧
    sampleState [1, 8] = some [42] ∧ ([42] : Bytes) ≠ [] ∧
    (.ok [42] : IndyResult Bytes) = .ok [42] ∧
    queryAccount (fun _ => .ok [7]) .ok (verifyAgainst sampleState)
      (fun _ => .ok ⟨⟨0, [1, 8], [42], some [], 0⟩⟩) "alice" = .ok ⟨some [42]⟩ :=
  ⟨rfl, rfl, by decide, rfl,
    queryAccount_other_key (fun _ => .ok [7]) .ok sampleState "alice" _ rfl [1, 8] [42] [] [42]
      rfl (by decide) rfl⟩

/-- The parser does not tie the answer to the request.  Requested: the account of `"alice"`,
whose store key `0x01 ++ [7]` the committed state leaves empty.  Answered: the value `[42]` that
the state holds under `0x01 ++ [8]`, with a proof, which the perfect verifier accepts.  The
parser returns `[42]` as the account of `"alice"`, although the response's key is not the
requested one. -/
theorem not_parse_binds_requested_key :
    ¬ ∀ (accountIdFromStr : String → IndyResult Bytes)
      (fromProtoBytes : Bytes → IndyResult Bytes) (checkProofs : Response → IndyResult Unit)
      (address : String) (req : Request) (r : Response) (x : QueryAccountResponse Bytes),
      authBuildQueryAccount accountIdFromStr address = .ok req →
      authParseQueryAccountResp fromProtoBytes checkProofs r = .ok x →
        checkProofs r = .ok () ∧ r.response.key = req.data ∧
        Decodes fromProtoBytes (claimed r) x.account := by
  intro h
  let T : CommittedState := fun k => if k = [1, 8] then some [42] else none
  have hparse : authParseQueryAccountResp .ok (verifyAgainst T)
      ⟨⟨0, [1, 8], [42], some [], 0⟩⟩ = .ok ⟨some [42]⟩ := rfl
  have hkey := (h (fun _ => .ok [7]) .ok (verifyAgainst T) "alice" _ _ _ rfl hparse).2.1
  exact absurd hkey (by decide)

end CheqdLedgerService

end IndyCheqd
