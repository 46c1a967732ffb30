import IndyCheqd.Cli.Command

/-!
**The `cheqd-keys` commands: adding a key to the open wallet, and describing it.**

`add_command::execute` needs an open wallet and an `alias`; it then asks libindy for a key from
the `mnemonic` when one is given, and for a random key otherwise, and prints the key's info it
receives.  `get_info_command::execute` prints the info of the key under `alias`.  Each makes at
most one library call, and an add's call is the only one of the command line's commands that
writes to the wallet.

Main definitions:

* `IndyCheqd.Cli.addCommand`, `IndyCheqd.Cli.getInfoCommand` — the two commands;
* `IndyCheqd.Cli.AddCall` — the add call an add's parameters ask for.

Main results:

* `IndyCheqd.Cli.addCommand_writes` — an add makes no call that writes, or exactly one call,
  the add its parameters ask for;
* `IndyCheqd.Cli.addCommand_eq_ok` — what a successful add called and printed;
* `IndyCheqd.Cli.getInfoCommand_of_getInfo` — what `get-info` prints.
-/

set_option autoImplicit false

namespace IndyCheqd

namespace Cli

variable (lib : CheqdLib) (ctx : CommandContext) (params : CommandParams)

/-- Function `add_command::execute`: a key from the mnemonic when one is given, a random key
otherwise; its result is the line it prints. -/
def addCommand : Cmd String := do
  let walletHandle ← ensureOpenedWalletHandle ctx
  let «alias» ← getStrParam "alias" params
  match getOptStrParam "mnemonic" params with
  | some mnemonic =>
      let resp ← call (.addFromMnemonic walletHandle «alias» mnemonic)
        (lib.addFromMnemonic walletHandle «alias» mnemonic)
      pure ("Key has been added from mnemonic \"" ++ resp ++ "\" .")
  | none =>
      let resp ← call (.addRandom walletHandle «alias») (lib.addRandom walletHandle «alias»)
      pure ("Random key has been added \"" ++ resp ++ "\".")

/-- Function `get_info_command::execute`; its result is the line it prints. -/
def getInfoCommand : Cmd String := do
  let walletHandle ← ensureOpenedWalletHandle ctx
  let «alias» ← getStrParam "alias" params
  let resp ← call (.getInfo walletHandle «alias») (lib.getInfo walletHandle «alias»)
  pure ("Get follow info \"" ++ resp ++ "\" ")

/-- The add call that the parameters of an add ask for: from the mnemonic given, or random when
none is, under the alias given. -/
def AddCall : Call → Prop
  | .addRandom _ «alias» =>
      params.lookup "alias" = some «alias» ∧ params.lookup "mnemonic" = none
  | .addFromMnemonic _ «alias» mnemonic =>
      params.lookup "alias" = some «alias» ∧ params.lookup "mnemonic" = some mnemonic
  | _ => False

/-- The calls of an add once the wallet and the alias are found. -/
theorem addCommand_of_some {walletHandle : Nat} {«alias» : String}
    (hw : ctx.walletHandle = some walletHandle) (ha : params.lookup "alias" = some «alias») :
    addCommand lib ctx params =
      match params.lookup "mnemonic" with
      | some mnemonic =>
          call (.addFromMnemonic walletHandle «alias» mnemonic)
              (lib.addFromMnemonic walletHandle «alias» mnemonic) >>= fun resp =>
            pure ("Key has been added from mnemonic \"" ++ resp ++ "\" .")
      | none =>
          call (.addRandom walletHandle «alias») (lib.addRandom walletHandle «alias») >>=
            fun resp => pure ("Random key has been added \"" ++ resp ++ "\".") := by
  simp only [addCommand, ensureOpenedWalletHandle, hw, getStrParam_of_some ha,
    Cmd.pure_bind, getOptStrParam]

/-- **An add writes at most once.**  It makes no call that writes, or exactly one call: the add
its parameters ask for. -/
theorem addCommand_writes :
    (addCommand lib ctx params).Reads ∨
      ∃ c, (addCommand lib ctx params).calls = [c] ∧ AddCall params c := by
  rcases hw : ctx.walletHandle with _ | walletHandle
  · exact .inl (Cmd.reads_of_calls_nil (by simp [addCommand, ensureOpenedWalletHandle, hw]))
  rcases ha : params.lookup "alias" with _ | «alias»
  · exact .inl (Cmd.reads_of_calls_nil (by
      simp [addCommand, ensureOpenedWalletHandle, hw, getStrParam, ha]))
  right
  rw [addCommand_of_some lib ctx params hw ha]
  rcases hm : params.lookup "mnemonic" with _ | mnemonic
  · exact ⟨.addRandom walletHandle «alias», Cmd.calls_bind_silent fun _ => rfl, ha, hm⟩
  · exact ⟨.addFromMnemonic walletHandle «alias» mnemonic,
      Cmd.calls_bind_silent fun _ => rfl, ha, hm⟩

/-- **What a successful add called and printed**: the one add its parameters ask for, on the
open wallet, and the key's info that add returned, in the line for its kind of key. -/
theorem addCommand_eq_ok {msg : String}
    (h : (addCommand lib ctx params).result = .done (.ok msg)) :
    ∃ walletHandle «alias» resp, ctx.walletHandle = some walletHandle ∧
      params.lookup "alias" = some «alias» ∧
      ((∃ mnemonic, params.lookup "mnemonic" = some mnemonic ∧
          (addCommand lib ctx params).calls = [.addFromMnemonic walletHandle «alias» mnemonic] ∧
          lib.addFromMnemonic walletHandle «alias» mnemonic = .ok resp ∧
          msg = "Key has been added from mnemonic \"" ++ resp ++ "\" .") ∨
        (params.lookup "mnemonic" = none ∧
          (addCommand lib ctx params).calls = [.addRandom walletHandle «alias»] ∧
          lib.addRandom walletHandle «alias» = .ok resp ∧
          msg = "Random key has been added \"" ++ resp ++ "\".")) := by
  simp only [addCommand, Cmd.result_bind_ok, ensureOpenedWalletHandle_result_eq_ok,
    getStrParam_result_eq_ok] at h
  obtain ⟨walletHandle, hw, «alias», ha, h⟩ := h
  rw [addCommand_of_some lib ctx params hw ha]
  simp only [getOptStrParam] at h
  rcases hm : params.lookup "mnemonic" with _ | mnemonic <;> simp only [hm] at h ⊢ <;>
    obtain ⟨resp, hresp, hmsg⟩ := Cmd.result_bind_ok.1 h <;>
    simp only [call_result_eq_ok] at hresp
  · exact ⟨walletHandle, «alias», resp, hw, ha, .inr ⟨trivial, Cmd.calls_bind_silent fun _ => rfl,
      hresp, by simpa [eq_comm] using hmsg⟩⟩
  · exact ⟨walletHandle, «alias», resp, hw, ha, .inl ⟨mnemonic, rfl,
      Cmd.calls_bind_silent fun _ => rfl, hresp, by simpa [eq_comm] using hmsg⟩⟩

/-- `get-info` only reads the wallet. -/
theorem getInfoCommand_reads : (getInfoCommand lib ctx params).Reads := by
  simp [getInfoCommand, Cmd.reads_bind_iff, Call.writes]

/-- What `get-info` prints: the info libindy returns for the alias, on the open wallet. -/
theorem getInfoCommand_of_getInfo {walletHandle : Nat} {«alias» resp : String}
    (hw : ctx.walletHandle = some walletHandle) (ha : params.lookup "alias" = some «alias»)
    (hresp : lib.getInfo walletHandle «alias» = .ok resp) :
    (getInfoCommand lib ctx params).result =
      .done (.ok ("Get follow info \"" ++ resp ++ "\" ")) := by
  simp [getInfoCommand, ensureOpenedWalletHandle, hw, getStrParam_of_some ha, hresp,
    Cmd.bind_ok]

end Cli

end IndyCheqd
