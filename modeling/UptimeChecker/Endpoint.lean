import UptimeChecker.Checker.ReqwestChecker
import UptimeChecker.Types.CheckConfig.Json

/-!
# The endpoint

Two routes that take a config: `validate_check` compiles its assertion, and `execute_config` checks
it once, there and then. Neither goes through the scheduler or the executor; the second calls
`do_check` itself, with no retries, a queue nobody receives from, and a oneshot channel of its own.

The texts of a rejected body are axum's.
-/

namespace UptimeChecker.Endpoint

open Assertions.Compiled (Externals Json CompilationError compile)

/-- `EndpointState`. -/
structure EndpointState (lib : Externals) where
  checker : ReqwestChecker lib
  region : String
  maxAssertionOps : UInt32

/-- The part of the configuration that the checker and the endpoint are built from. -/
structure Options where
  region : String
  disableAsserts : Bool
  responseCaptureEnabled : Bool
  assertionComplexity : UInt32
  maxAssertionOps : UInt32

/-- `ReqwestChecker::new` and `new_router`, as `Manager::start` calls them. -/
def Options.start {lib : Externals} (options : Options) (cache : Assertions.Compiled.Cache lib) :
    EndpointState lib where
  checker :=
    { assertCache := cache
      disableAssertions := options.disableAsserts
      responseCaptureEnabled := options.responseCaptureEnabled
      assertionComplexity := options.assertionComplexity
      maxAssertionOps := options.maxAssertionOps }
  region := options.region
  maxAssertionOps := options.maxAssertionOps

/-- `AppJson`: the config in a body, or the text of the rejection. -/
def appJson (bodyText : Json → String) (body : Json) : Except String CheckConfig :=
  match CheckConfig.deserialize body with
  | some config => .ok config
  | none => .error (bodyText body)

/-- `ExecuteError` of `validate_check`. -/
inductive ValidateError where
  | serializationError (details : String)
  | compilationError (compileError : CompilationError)
deriving DecidableEq

/-- `ExecuteError` of `execute_config`. -/
inductive ExecuteError where
  | serializationError (details : String)
  | checkerShutdown
deriving DecidableEq

def ValidateError.status : ValidateError → UInt16
  | serializationError _ => 400
  | compilationError _ => 400

def ExecuteError.status : ExecuteError → UInt16
  | serializationError _ => 400
  | checkerShutdown => 500

def ValidateError.serialize : ValidateError → Json
  | serializationError details => .object [("error", .string "serialization_error"),
      ("details", .string details)]
  | compilationError compileError => .object [("error", .string "compilation_error"),
      ("compile_error", compileError.serialize)]

def ExecuteError.serialize : ExecuteError → Json
  | serializationError details => .object [("error", .string "serialization_error"),
      ("details", .string details)]
  | checkerShutdown => .object [("error", .string "checker_shutdown")]

variable {lib : Externals}

/-- `validate_check`. -/
def validateCheck (state : EndpointState lib) (body : Except String CheckConfig) :
    Except ValidateError Unit :=
  match body with
  | .error details => .error (.serializationError details)
  | .ok checkConfig =>
    match checkConfig.assertion with
    | none => .ok ()
    | some assertion =>
      match compile lib assertion state.maxAssertionOps.toNat with
      | .error err => .error (.compilationError err)
      | .ok _ => .ok ()

/-- The check that `execute_config` makes of a config. The response is captured in any case. -/
def executedCheck (now : DateTime) (checkConfig : CheckConfig) : ScheduledCheck :=
  .new .uptime (.fromTime now) checkConfig true 0

/-- What `do_check` runs on: a queue whose receiver is dropped, and one oneshot channel. -/
def executor : CheckExecutor :=
  { CheckExecutor.new with
    queueOpen := false
    opened := 1
    oneshots := fun i => if i = 0 then ⟨.pending, true⟩ else ⟨.dropped, false⟩ }

/-- `execute_config`: no answer where `do_check` panics. The producer is the one that drops what it
is handed. -/
def executeConfig (state : EndpointState lib) (body : Except String CheckConfig) (now : DateTime)
    (readings : CheckReadings) : Option (Except ExecuteError (Option CheckResult)) :=
  match body with
  | .error details => some (.error (.serializationError details))
  | .ok checkConfig =>
    let e := CheckExecutor.doCheck ⟨0, 0, state.region⟩ executor (executedCheck now checkConfig)
      readings
    if e.panicked then none
    else
      match (e.oneshots 0).message with
      | .sent checkResult => some (.ok checkResult)
      | _ => some (.error .checkerShutdown)

end UptimeChecker.Endpoint
