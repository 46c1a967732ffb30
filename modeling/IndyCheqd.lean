import IndyCheqd.Basic
import IndyCheqd.Ledger.Auth
import IndyCheqd.Ledger.Tx
import IndyCheqd.Keys.Controller
import IndyCheqd.Keys.Runs
import IndyCheqd.Cli.Json
import IndyCheqd.Cli.Command
import IndyCheqd.Cli.Ledger
import IndyCheqd.Cli.CreateNym
import IndyCheqd.Cli.Keys
import IndyCheqd.Cli.Session
import IndyCheqd.Pipeline
import IndyCheqd.Scheduler
import IndyCheqd.Executor
import IndyCheqd.Api
