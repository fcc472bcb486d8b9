import TreeLint.Rules.BroadExceptionCatch
import TreeLint.Rules.Callable
import TreeLint.Rules.DangerousEval
import TreeLint.Rules.DebugOutput
import TreeLint.Rules.HardcodedCredential
import TreeLint.Rules.InsecureDeserialization
import TreeLint.Rules.MagicNumber
import TreeLint.Rules.OverSynchronization
import TreeLint.Rules.QuadraticCandidate
import TreeLint.Rules.ResourceLeak
import TreeLint.Rules.SqlInjection
import TreeLint.Rules.StringConcatInLoop
import TreeLint.Rules.UnboundedCacheGrowth
import TreeLint.Rules.UnusedBinding
import TreeLint.Text.Quoted

/-!
# The registry of detectors

A registry holds the detectors of a run. Registered detectors have to fit together: each needs a
rule id, no id may come twice, and each has to look at some kind of node. Rules that are switched
off are checked like the others and then left out. For a node, the detectors of its kind are
asked in the order of registration; an index has their places for each kind.
-/

namespace TreeLint

/-- For each kind of node, the places of the detectors that look at it. -/
abbrev KindIndex := List (Kind × List Nat)

namespace KindIndex

/-- The places for a kind. -/
def places (ix : KindIndex) (kind : Kind) : List Nat := (ix.lookup kind).getD []

/-- The index with a place noted for a kind, unless it was noted before. -/
def note (ix : KindIndex) (place : Nat) (kind : Kind) : KindIndex :=
  match ix with
  | [] => [(kind, [place])]
  | (k, places) :: rest =>
    if k == kind then (k, if places.contains place then places else places ++ [place]) :: rest
    else (k, places) :: note rest place kind

end KindIndex

/-- The detectors of a run, in the order of registration. -/
structure Registry where
  detectors : List Detector
deriving Inhabited

namespace Registry

/-- Checks detectors in order; `seen` are the ids before them. -/
def check (seen : List String) : List Detector → Except RegistryError Unit
  | [] => .ok ()
  | d :: ds =>
    if d.id == "" then .error .emptyRuleId
    else if seen.contains d.id then .error (.duplicateRuleId d.id)
    else if d.kinds.isEmpty then .error (.noInterestedKinds d.id)
    else check (d.id :: seen) ds

/-- The registry of the registered detectors without the disabled ones. -/
def build (registered : List Detector) (disabled : List String) : Except RegistryError Registry :=
  match check [] registered with
  | .ok _ => .ok ⟨registered.filter fun d => !disabled.contains d.id⟩
  | .error e => .error e

/-- The built-in detectors. -/
def standardDetectors (r : RuleSettings) : Except RegistryError (List Detector) :=
  (Rules.HardcodedCredential.detector r).map fun credential =>
    [Rules.SqlInjection.detector r, Rules.InsecureDeserialization.detector r, credential,
      Rules.DangerousEval.detector, Rules.ResourceLeak.detector r,
      Rules.StringConcatInLoop.detector r, Rules.QuadraticCandidate.detector,
      Rules.OverSynchronization.detector, Rules.UnboundedCacheGrowth.detector,
      Rules.TooManyParameters.detector r, Rules.CyclomaticComplexity.detector r,
      Rules.FunctionTooLong.detector r, Rules.UnusedBinding.detector r,
      Rules.MagicNumber.detector r, Rules.BroadExceptionCatch.detector r,
      Rules.DebugOutput.detector]

/-- The registry of all built-in detectors. -/
def standard (r : RuleSettings) : Except RegistryError Registry :=
  (standardDetectors r).bind fun ds => build ds []

/-- The registry of the built-in detectors that the settings leave on. -/
def ofSettings (s : Settings) : Except RegistryError Registry :=
  (standardDetectors s.rules).bind fun ds => build ds s.analysis.disabledRules

/-- The built-in detector of a rule. -/
def builtin? (r : RuleSettings) (id : String) : Except RegistryError (Option Detector) :=
  (standardDetectors r).map fun ds => ds.find? (·.id == id)

/-- The index of the registry, filled detector by detector. -/
def index (g : Registry) : KindIndex :=
  g.detectors.zipIdx.foldl (fun ix (d, place) => d.kinds.foldl (·.note place ·) ix) []

/-- The detectors for a kind of node, in the order of registration. -/
def detectorsFor (g : Registry) (kind : Kind) : List Detector :=
  (g.index.places kind).filterMap (g.detectors[·]?)

/-- The rules of the registry. -/
def rules (g : Registry) : List Rule := g.detectors.map (·.rule)

/-- The rule of a given id. -/
def rule? (g : Registry) (id : String) : Option Rule := g.rules.find? (·.id == id)

/-- A listing of the rules. -/
def describe (g : Registry) : String :=
  "RuleRegistry \x7b rules: " ++ Text.quotedList (g.rules.map (·.id)) ++ " \x7d"

end Registry

end TreeLint
