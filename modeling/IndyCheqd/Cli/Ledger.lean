import IndyCheqd.Cli.Command

/-!
**The command line's reading of an account: `get_base_account_number_and_sequence`.**

Before building a transaction the command line queries the account of the signer and reads its
number and sequence out of the JSON text libindy hands back, `account.base_account.account_number`
and `account.base_account.sequence`.  Each step is guarded, and each guard is followed by an
`unwrap`:

* `is_null` on `account`, then `as_object().unwrap()`;
* `contains_key("base_account")`, then `as_object().unwrap()`;
* `contains_key("account_number")` and `contains_key("sequence")`, each followed by
  `as_u64().unwrap()`.

A guard checks that a member is *there*; the `unwrap` after it needs the member to have the
right *shape*.  So the traversal returns `Ok` exactly on the intended shape, prints a message
and returns `Err(())` when a member is missing (or `account` is `null`), and panics when a member
is present with another shape.  The four guarded steps are modelled as four functions, one per
block of the source, each handing over to the next.

Main definitions:

* `IndyCheqd.Cli.readAccount`, `…read_base_account`, `…read_account_number`,
  `…read_sequence` — the four guarded blocks;
* `IndyCheqd.Cli.getBaseAccountNumberAndSequence` — the whole command-line function, with
  the library calls it makes as parameters;
* `IndyCheqd.Cli.getAccount` — the `get-account` command, which prints the text the function
  reads, and `IndyCheqd.Cli.getNym`, the `get-nym` command.

Main results:

* `IndyCheqd.Cli.readAccount_eq_ok` — the traversal succeeds exactly on the intended shape;
* `IndyCheqd.Cli.readAccount_panics` — **it panics exactly on the shapes its guards let
  through**;
* `IndyCheqd.Cli.readAccount_panics_on_string_numbers` — for instance on the number and the
  sequence written as strings;
* `IndyCheqd.Cli.getBaseAccountNumberAndSequence_panics` — the whole function panics exactly
  when the library's calls succeed and hand back a JSON text of a wrong shape;
* `IndyCheqd.Cli.getAccount_agrees` — `get-account` makes the same calls and prints the text
  the function reads;
* `IndyCheqd.Cli.getAccount_reads`, `IndyCheqd.Cli.getNym_reads` — the two queries only read the
  wallet.
-/

set_option autoImplicit false

namespace IndyCheqd

namespace Cli

open Json

/-- What the traversal returns: the two numbers, or `Err(())` with the message it printed. -/
abbrev Read := Outcome (Except String (UInt64 × UInt64))

/-! ### The four guarded blocks -/

/-- The last block: `sequence` is checked, then read as a `u64`. -/
def readSequence (baseAccount : Map) (accountNumber : UInt64) : Read :=
  if !baseAccount.containsKey "sequence" then
    pure (.error "Invalid base account. Can't get sequence from base account.")
  else do
    let accountSequence ← unwrap (← baseAccount.index "sequence").asU64
    pure (.ok (accountNumber, accountSequence))

/-- The third block: `account_number` is checked, then read as a `u64`. -/
def readAccountNumber (baseAccount : Map) : Read :=
  if !baseAccount.containsKey "account_number" then
    pure (.error "Invalid base account. Can't get account number from base account.")
  else do
    let accountNumber ← unwrap (← baseAccount.index "account_number").asU64
    readSequence baseAccount accountNumber

/-- The second block: `base_account` is checked, then read as an object. -/
def readBaseAccount (account : Map) : Read :=
  if !account.containsKey "base_account" then
    pure (.error "Invalid account. Can't get base account from account.")
  else do
    let baseAccount ← unwrap (← account.index "base_account").asObject
    readAccountNumber baseAccount

/-- The first block: `account` is checked not to be `null`, then read as an object. -/
def readAccount (parsedResponse : Value) : Read :=
  if (parsedResponse.index "account").isNull then
    pure (.error "Invalid json response. Can't get account from response.")
  else do
    let account ← unwrap (parsedResponse.index "account").asObject
    readBaseAccount account

/-- The traversal of a JSON text; `from_str` is `serde_json::from_str`. -/
def readResponse (fromStr : String → Option Value) (s : String) : Read :=
  match fromStr s with
  | some parsedResponse => readAccount parsedResponse
  | none => pure (.error "Invalid json response. Can't parse response.")

/-- Function `get_base_account_number_and_sequence`: query the account, then read its number and
sequence from the JSON text libindy hands back. -/
def getBaseAccountNumberAndSequence (lib : CheqdLib) (fromStr : String → Option Value)
    (address poolAlias : String) : Cmd (UInt64 × UInt64) := do
  let query ← call (.buildQueryAccount address) (lib.buildQueryAccount address)
  let response ← call (.abciQuery poolAlias query) (lib.abciQuery poolAlias query)
  let parsedResponse ←
    call (.parseQueryAccountResp response) (lib.parseQueryAccountResp response)
  ⟨[], (fun r => r.mapError .printed) <$> readResponse fromStr parsedResponse⟩

/-- Function `get_account_command::execute`; its result is the parsed response it prints. -/
def getAccount (lib : CheqdLib) (ctx : CommandContext) (params : CommandParams) : Cmd String := do
  let address ← getStrParam "address" params
  let poolAlias ← ensureCheqdConnectedPool ctx
  let query ← call (.buildQueryAccount address) (lib.buildQueryAccount address)
  let response ← call (.abciQuery poolAlias query) (lib.abciQuery poolAlias query)
  call (.parseQueryAccountResp response) (lib.parseQueryAccountResp response)

/-- Function `get_nym_command::execute`; its result is the parsed response it prints. -/
def getNym (lib : CheqdLib) (ctx : CommandContext) (params : CommandParams) : Cmd String := do
  let id ← parseParam "id" (← getStrParam "id" params)
  let poolAlias ← ensureCheqdConnectedPool ctx
  let query ← call (.buildQueryGetNym id) (lib.buildQueryGetNym id)
  let response ← call (.abciQuery poolAlias query) (lib.abciQuery poolAlias query)
  call (.parseQueryGetNymResp response) (lib.parseQueryGetNymResp response)

/-! ### Block by block -/

section Blocks

variable {baseAccount account : Map} {n q : UInt64}

theorem readSequence_eq_ok {n' : UInt64} :
    readSequence baseAccount n = .done (.ok (n', q)) ↔
      n = n' ∧ (baseAccount.lookup "sequence").bind Value.asU64 = some q := by
  unfold readSequence Map.containsKey
  cases h : baseAccount.lookup "sequence" with
  | none => simp
  | some y => cases hy : y.asU64 <;> simp [h, hy, Map.index]

theorem readSequence_panics :
    (readSequence baseAccount n).Panics ↔
      ∃ y, baseAccount.lookup "sequence" = some y ∧ y.asU64 = none := by
  unfold readSequence Map.containsKey
  cases h : baseAccount.lookup "sequence" with
  | none => simp [Outcome.Panics]
  | some y => cases hy : y.asU64 <;> simp [h, hy, Map.index]

theorem readAccountNumber_eq_ok :
    readAccountNumber baseAccount = .done (.ok (n, q)) ↔
      (baseAccount.lookup "account_number").bind Value.asU64 = some n ∧
      (baseAccount.lookup "sequence").bind Value.asU64 = some q := by
  unfold readAccountNumber Map.containsKey
  cases h : baseAccount.lookup "account_number" with
  | none => simp
  | some x => cases hx : x.asU64 <;> simp [h, hx, Map.index, readSequence_eq_ok]

theorem readAccountNumber_panics :
    (readAccountNumber baseAccount).Panics ↔
      (∃ x, baseAccount.lookup "account_number" = some x ∧ x.asU64 = none) ∨
      ((baseAccount.lookup "account_number").bind Value.asU64).isSome ∧
        ∃ y, baseAccount.lookup "sequence" = some y ∧ y.asU64 = none := by
  unfold readAccountNumber Map.containsKey
  cases h : baseAccount.lookup "account_number" with
  | none => simp [Outcome.Panics]
  | some x => cases hx : x.asU64 <;> simp [h, hx, Map.index, readSequence_panics]

theorem readBaseAccount_eq_ok :
    readBaseAccount account = .done (.ok (n, q)) ↔
      ∃ baseAccount, (account.lookup "base_account").bind Value.asObject = some baseAccount ∧
        (baseAccount.lookup "account_number").bind Value.asU64 = some n ∧
        (baseAccount.lookup "sequence").bind Value.asU64 = some q := by
  unfold readBaseAccount Map.containsKey
  cases h : account.lookup "base_account" with
  | none => simp
  | some b => cases hb : b.asObject <;> simp [h, hb, Map.index, readAccountNumber_eq_ok]

theorem readBaseAccount_panics :
    (readBaseAccount account).Panics ↔
      (∃ b, account.lookup "base_account" = some b ∧ b.asObject = none) ∨
      ∃ baseAccount, (account.lookup "base_account").bind Value.asObject = some baseAccount ∧
        (readAccountNumber baseAccount).Panics := by
  unfold readBaseAccount Map.containsKey
  cases h : account.lookup "base_account" with
  | none => simp [Outcome.Panics]
  | some b => cases hb : b.asObject <;> simp [h, hb, Map.index]

end Blocks

/-! ### The whole traversal -/

/-- The intended shape: an object whose `account` member is an object whose `base_account`
member is an object holding the unsigned integers `n` under `account_number` and `q` under
`sequence`. -/
def BaseAccountShape (v : Value) (n q : UInt64) : Prop :=
  ∃ members account baseAccount, v = .object members ∧
    members.lookup "account" = some (.object account) ∧
    account.lookup "base_account" = some (.object baseAccount) ∧
    baseAccount.lookup "account_number" = some (.number (.posInt n)) ∧
    baseAccount.lookup "sequence" = some (.number (.posInt q))

/-- The shapes the guards let through and an `unwrap` refuses: `account` present and neither
`null` nor an object; or `base_account` present and not an object; or `account_number` present
and not a `u64`; or, `account_number` being a `u64`, `sequence` present and not a `u64`. -/
def WrongShape (v : Value) : Prop :=
  (¬ (v.index "account").isNull ∧ (v.index "account").asObject = none) ∨
  ∃ account, v.index "account" = .object account ∧
    ((∃ b, account.lookup "base_account" = some b ∧ b.asObject = none) ∨
     ∃ baseAccount, account.lookup "base_account" = some (.object baseAccount) ∧
      ((∃ x, baseAccount.lookup "account_number" = some x ∧ x.asU64 = none) ∨
       (∃ n, baseAccount.lookup "account_number" = some (.number (.posInt n))) ∧
        ∃ y, baseAccount.lookup "sequence" = some y ∧ y.asU64 = none))

/-- The intended shape, read through `index` as the traversal reads it. -/
theorem baseAccountShape_iff {v : Value} {n q : UInt64} :
    BaseAccountShape v n q ↔ ∃ account baseAccount,
      v.index "account" = .object account ∧
      account.lookup "base_account" = some (.object baseAccount) ∧
      baseAccount.lookup "account_number" = some (.number (.posInt n)) ∧
      baseAccount.lookup "sequence" = some (.number (.posInt q)) := by
  constructor
  · rintro ⟨members, account, baseAccount, rfl, h₁, h₂⟩
    exact ⟨account, baseAccount, Value.index_eq_object.2 ⟨members, rfl, h₁⟩, h₂⟩
  · rintro ⟨account, baseAccount, h₀, h₂⟩
    obtain ⟨members, rfl, h₁⟩ := Value.index_eq_object.1 h₀
    exact ⟨members, account, baseAccount, rfl, h₁, h₂⟩

/-- **The traversal succeeds exactly on the intended shape.** -/
theorem readAccount_eq_ok (v : Value) (n q : UInt64) :
    readAccount v = .done (.ok (n, q)) ↔ BaseAccountShape v n q := by
  rw [baseAccountShape_iff]
  unfold readAccount
  cases v.index "account" with
  | object account =>
      simp [readBaseAccount_eq_ok, Option.bind_eq_some, Value.asObject_eq_some,
        Value.asU64_eq_some]
  | null => simp [Value.isNull]
  | _ => simp [Value.isNull, Value.asObject]

/-- **The traversal panics exactly on the shapes its guards let through.** -/
theorem readAccount_panics (v : Value) : (readAccount v).Panics ↔ WrongShape v := by
  unfold readAccount WrongShape
  cases v.index "account" with
  | object account =>
      simp [readBaseAccount_panics, readAccountNumber_panics, Option.bind_eq_some,
        Value.asObject_eq_some, Value.asU64_eq_some, Option.isSome_iff_exists]
  | null => simp [Value.isNull, Outcome.Panics]
  | _ => simp [Value.isNull, Value.asObject]


/-- The account as the Cosmos JSON encoding writes it, with its two 64-bit numbers as strings:
the guards let it through, and the traversal panics in `as_u64().unwrap()`. -/
theorem readAccount_panics_on_string_numbers :
    readAccount (.object [("account", .object [("base_account", .object
      [("account_number", .string "5"), ("sequence", .string "7")])])]) =
      .panic "called Option::unwrap() on a None value" := rfl

/-- A JSON text is read with a panic exactly when it parses to a value of a wrong shape. -/
theorem readResponse_panics {fromStr : String → Option Value} {s : String} :
    (readResponse fromStr s).Panics ↔ ∃ v, fromStr s = some v ∧ WrongShape v := by
  unfold readResponse
  cases fromStr s <;> simp [readAccount_panics]

/-- The whole function panics exactly when the three library calls succeed and the JSON text
they hand back parses to a value of a wrong shape. -/
theorem getBaseAccountNumberAndSequence_panics (lib : CheqdLib)
    (fromStr : String → Option Value) (address poolAlias : String) :
    (getBaseAccountNumberAndSequence lib fromStr address poolAlias).result.Panics ↔
      ∃ query response s v, lib.buildQueryAccount address = .ok query ∧
        lib.abciQuery poolAlias query = .ok response ∧
        lib.parseQueryAccountResp response = .ok s ∧ fromStr s = some v ∧
        WrongShape v := by
  simp [getBaseAccountNumberAndSequence, Cmd.panics_bind, readResponse_panics]

/-- The calls the function makes: the query of the account, and nothing else. -/
theorem getBaseAccountNumberAndSequence_calls {lib : CheqdLib}
    {fromStr : String → Option Value} {address poolAlias : String} {c : Call}
    (h : c ∈ (getBaseAccountNumberAndSequence lib fromStr address poolAlias).calls) :
    c = .buildQueryAccount address ∨ (∃ query, c = .abciQuery poolAlias query) ∨
      ∃ response, c = .parseQueryAccountResp response := by
  simp only [getBaseAccountNumberAndSequence, Cmd.mem_calls_bind, call_calls,
    List.mem_singleton, List.not_mem_nil, call_result_eq_ok] at h
  rcases h with h | ⟨_, _, h | ⟨_, _, h | ⟨_, _, h | h⟩⟩⟩
  · exact .inl h
  · exact .inr (.inl ⟨_, h⟩)
  · exact .inr (.inr ⟨_, h⟩)

/-- The account query only reads the wallet. -/
theorem getBaseAccountNumberAndSequence_reads (lib : CheqdLib)
    (fromStr : String → Option Value) (address poolAlias : String) :
    (getBaseAccountNumberAndSequence lib fromStr address poolAlias).Reads := by
  intro c hc
  rcases getBaseAccountNumberAndSequence_calls hc with rfl | ⟨_, rfl⟩ | ⟨_, rfl⟩ <;> rfl

/-- `get-account` and `get-nym` only read the wallet. -/
theorem getAccount_reads (lib : CheqdLib) (ctx : CommandContext) (params : CommandParams) :
    (getAccount lib ctx params).Reads := by
  simp [getAccount, Cmd.reads_bind_iff, Call.writes]

theorem getNym_reads (lib : CheqdLib) (ctx : CommandContext) (params : CommandParams) :
    (getNym lib ctx params).Reads := by
  simp [getNym, Cmd.reads_bind_iff, Call.writes]

/-- A library for runs of the commands, with the keys calls it is given: the account query hands
back the address it was built from, and a transaction is its account number and sequence. -/
def ledgerStub (getInfo : Nat → String → IndyResult String)
    (sign : Nat → String → Bytes → IndyResult Bytes) : CheqdLib where
  getInfo := getInfo
  addRandom _ _ := .ok ""
  addFromMnemonic _ _ _ := .ok ""
  buildMsgCreateNym _ _ _ _ _ := .ok []
  buildQueryAccount address := .ok address
  buildQueryGetNym _ := .ok ""
  abciQuery _ query := .ok query
  parseQueryAccountResp response := .ok response
  parseQueryGetNymResp response := .ok response
  buildTx _ _ _ accountNumber accountSequence _ _ _ _ _ :=
    .ok [accountNumber.toUInt8, accountSequence.toUInt8]
  sign := sign
  broadcastTxCommit _ _ := .ok "committed"
  parseMsgCreateNymResp response := .ok response

/-- The JSON texts of a run: the info of the key `my_key`, and the account of its address,
number 5 and sequence 7. -/
def jsonStub (s : String) : Option Value :=
  if s = "my_key" then
    some (.object [("account_id", .string "cheqd1mykey"), ("pub_key", .string "my_pub")])
  else if s = "cheqd1mykey" then
    some (.object [("account", .object [("base_account", .object
      [("account_number", .number (.posInt 5)), ("sequence", .number (.posInt 7))])])])
  else none

/-- A connected pool and an open wallet. -/
def stubContext : CommandContext := ⟨some "cheqd_pool", some 1⟩

/-- **`get-account` prints what `create-nym` reads.**  Given an address and a connected pool,
`get-account` makes the same library calls as `get_base_account_number_and_sequence` for that
address, and when it prints a text, the account number and sequence are read from that text. -/
theorem getAccount_agrees (lib : CheqdLib) (fromStr : String → Option Value)
    {ctx : CommandContext} {params : CommandParams} {address poolAlias : String}
    (hpool : ctx.cheqdPool = some poolAlias) (haddress : params.lookup "address" = some address) :
    (getAccount lib ctx params).calls =
      (getBaseAccountNumberAndSequence lib fromStr address poolAlias).calls ∧
    ∀ s, (getAccount lib ctx params).result = .done (.ok s) →
      (getBaseAccountNumberAndSequence lib fromStr address poolAlias).result =
        (fun r => r.mapError .printed) <$> readResponse fromStr s := by
  simp only [getAccount, getBaseAccountNumberAndSequence, getStrParam_of_some haddress,
    ensureCheqdConnectedPool_of_some hpool, Cmd.pure_bind]
  -- the reading of the text adds no call after the three of the query
  refine ⟨Cmd.calls_bind_congr fun _ => Cmd.calls_bind_congr fun _ =>
    (Cmd.calls_bind_silent fun _ => rfl).symm, fun s h => ?_⟩
  simp only [Cmd.result_bind_ok, call_result_eq_ok] at h
  obtain ⟨query, hquery, response, hresponse, hs⟩ := h
  simp only [hquery, hresponse, hs, Cmd.bind_ok (call_ok _ query),
    Cmd.bind_ok (call_ok _ response), Cmd.bind_ok (call_ok _ s)]

/-- `get-account address=cheqd1mykey` prints the account text from which number 5 and sequence 7
are read. -/
theorem getAccount_agrees_sample :
    stubContext.cheqdPool = some "cheqd_pool" ∧
    [("address", "cheqd1mykey")].lookup "address" = some "cheqd1mykey" ∧
    ((getAccount (ledgerStub (fun _ _ => .ok "") (fun _ _ _ => .ok [])) stubContext
        [("address", "cheqd1mykey")]).calls =
      (getBaseAccountNumberAndSequence (ledgerStub (fun _ _ => .ok "") (fun _ _ _ => .ok []))
        jsonStub "cheqd1mykey" "cheqd_pool").calls ∧
    ∀ s, (getAccount (ledgerStub (fun _ _ => .ok "") (fun _ _ _ => .ok [])) stubContext
        [("address", "cheqd1mykey")]).result = .done (.ok s) →
      (getBaseAccountNumberAndSequence (ledgerStub (fun _ _ => .ok "") (fun _ _ _ => .ok []))
        jsonStub "cheqd1mykey" "cheqd_pool").result =
        (fun r => r.mapError .printed) <$> readResponse jsonStub s) :=
  ⟨rfl, rfl, getAccount_agrees _ _ rfl rfl⟩

end Cli

end IndyCheqd
