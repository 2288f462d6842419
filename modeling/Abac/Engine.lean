import Abac.Combining.Standard
import Abac.Function.Registered
import Abac.Policy.PolicySet

/-!
# Engines

An engine holds root policies and the sources of attributes, and decides requests. It always comes
to a result: what abandons an evaluation makes the decision indeterminate.
-/

namespace Abac

/-- The settings of an engine. -/
structure EngineConfig where
  /-- Whether events are recorded. -/
  traceEvaluation : Bool
  /-- The identifier of the algorithm that combines several roots. -/
  rootAlgorithm : Identifier
  /-- Whether results list the policies that apply where the request does not say. -/
  returnPolicyIds : Bool
  deriving DecidableEq, Repr

/-- The settings that hold where nothing else is said. -/
def EngineConfig.default : EngineConfig :=
  ⟨false, .policyAlgorithm "3.0" "deny-overrides", false⟩

/-- An engine. -/
structure Engine where
  config : EngineConfig
  functions : Functions
  algorithms : Algorithms
  /-- The algorithm that combines several roots. -/
  rootAlgorithm : Algorithm
  roots : List PolicyNode
  /-- The sources of attributes, in the order in which they are asked. -/
  finders : List Finder

namespace Engine

/-- The engine without policies, if there is a standard algorithm for its roots. -/
def new (config : EngineConfig) : Except RegistryError Engine := do
  let algorithms := Algorithms.standard
  let rootAlgorithm ← algorithms.policy config.rootAlgorithm
  return ⟨config, .standard, algorithms, rootAlgorithm, [], []⟩

/-- The engine with other algorithms, if they have one for the roots. -/
def withAlgorithms (e : Engine) (algorithms : Algorithms) : Except RegistryError Engine := do
  let rootAlgorithm ← algorithms.policy e.config.rootAlgorithm
  return { e with algorithms, rootAlgorithm }

/-- The engine with other functions. -/
def withFunctions (e : Engine) (functions : Functions) : Engine := { e with functions }

/-- The engine with one more root. -/
def withRoot (e : Engine) (root : PolicyNode) : Engine := { e with roots := e.roots ++ [root] }

/-- The engine with one more source of attributes. -/
def withFinder (e : Engine) (finder : Finder) : Engine :=
  { e with finders := e.finders ++ [finder] }

/-- Evaluate the roots: a single one for itself, several by the root algorithm. -/
def evaluateRoots (e : Engine) (ctx : Context) : Run Result :=
  match e.roots with
  | [] => pure .notApplicable
  | [root] => root.evaluate ctx
  | roots => e.rootAlgorithm.combine (PolicyNode.asChildren ctx [] roots) [] ctx

/-- The result of an evaluation that was abandoned. -/
def abandoned (f : Fault) : Result := .indeterminate (.processingError f.message)

/-- Evaluate the roots in a context, with the events recorded on the way. -/
def evaluate (e : Engine) (ctx : Context) : Result × List TraceEvent :=
  let run := e.evaluateRoots ctx
  match run.outcome with
  | .ok r => (r, run.events)
  | .error f => (abandoned f, run.events)

/-- The context of a request. -/
def context (e : Engine) (r : Request) : Context :=
  .ofRequest r e.finders e.config.traceEvaluation e.config.returnPolicyIds

/-- Decide a request, with the events recorded on the way. -/
def decideTraced (e : Engine) (r : Request) : Result × List TraceEvent :=
  e.evaluate (e.context r)

/-- Decide a request. -/
def decide (e : Engine) (r : Request) : Result := (e.decideTraced r).1

end Engine

end Abac
