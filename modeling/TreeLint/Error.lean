/-!
# Errors

Each stage has its own errors, one constructor for a cause. `message` gives the wording of an
error and `code` its stable code for tools.
-/

namespace TreeLint

/-- A file that could not be turned into a syntax tree. -/
inductive ParseError where
  /-- The document is not well formed at a position. -/
  | badText (path : String) (line column : UInt32) (reason : String)
  /-- No language is known for the path. -/
  | unsupportedLanguage (path : String)
  /-- The document is well formed but describes no tree. -/
  | malformedTree (path reason : String)
deriving DecidableEq, Inhabited, Repr

namespace ParseError

/-- The wording of the error. -/
def message : ParseError → String
  | .badText path line column reason => s!"{path}:{line}:{column}: {reason}"
  | .unsupportedLanguage path => s!"Unsupported language for {path}"
  | .malformedTree path reason => s!"Malformed syntax tree for {path}: {reason}"

def code (_ : ParseError) : String := "PARSE_ERROR"

end ParseError

/-- A detector that failed on a node. -/
inductive DetectionError where
  /-- The detector met input that it cannot reason about. -/
  | fault (ruleId reason : String)
  /-- The detector stopped without an answer. -/
  | crash (ruleId reason : String)
  /-- The detector took too long. -/
  | timeout (milliseconds : Nat)
deriving DecidableEq, Inhabited, Repr

namespace DetectionError

/-- The wording of the error. -/
def message : DetectionError → String
  | .fault ruleId reason => s!"Detector {ruleId} failed: {reason}"
  | .crash ruleId reason => s!"Detector {ruleId} panicked: {reason}"
  | .timeout milliseconds => s!"Detection timeout after {milliseconds}ms"

def code (_ : DetectionError) : String := "DETECTION_ERROR"

end DetectionError

/-- Settings that could not be loaded or are not valid. -/
inductive SettingsError where
  /-- The file is there and cannot be read. -/
  | fileNotFound (path : String)
  /-- The text of the file is not a settings text. -/
  | unparsable (path reason : String)
  /-- A value is not allowed. -/
  | invalid (field reason : String)
deriving DecidableEq, Inhabited, Repr

namespace SettingsError

/-- The wording of the error. -/
def message : SettingsError → String
  | .fileNotFound path => s!"Config file not found: {path}"
  | .unparsable path reason => s!"Failed to parse config {path}: {reason}"
  | .invalid field reason => s!"Invalid value for {field}: {reason}"

def code (_ : SettingsError) : String := "CONFIG_ERROR"

end SettingsError

/-- Detectors that cannot be put together into a registry. -/
inductive RegistryError where
  /-- Two detectors have one rule id. -/
  | duplicateRuleId (id : String)
  /-- A detector declares no kinds of nodes. -/
  | noInterestedKinds (id : String)
  /-- A detector has the empty rule id. -/
  | emptyRuleId
  /-- A rule cannot be set up from the settings. -/
  | invalidRuleConfig (id reason : String)
deriving DecidableEq, Inhabited, Repr

namespace RegistryError

/-- The wording of the error. -/
def message : RegistryError → String
  | .duplicateRuleId id => s!"Duplicate rule id: {id}"
  | .noInterestedKinds id => s!"Detector for rule {id} declares no interested node kinds"
  | .emptyRuleId => "Detector registered with an empty rule id"
  | .invalidRuleConfig id reason => s!"Invalid configuration for rule {id}: {reason}"

def code (_ : RegistryError) : String := "REGISTRY_ERROR"

end RegistryError

/-- Whatever stops a whole run. -/
inductive PipelineError where
  | parse (e : ParseError)
  | detection (e : DetectionError)
  | registry (e : RegistryError)
  | settings (e : SettingsError)
  | threadPool (reason : String)
  | cancelled
deriving DecidableEq, Inhabited, Repr

namespace PipelineError

/-- The wording of the error. -/
def message : PipelineError → String
  | .parse e => s!"Parse error: {e.message}"
  | .detection e => s!"Detection error: {e.message}"
  | .registry e => s!"Registry error: {e.message}"
  | .settings e => s!"Configuration error: {e.message}"
  | .threadPool reason => s!"Failed to build worker pool: {reason}"
  | .cancelled => "Pipeline cancelled"

def code : PipelineError → String
  | .parse e => e.code
  | .detection e => e.code
  | .registry e => e.code
  | .settings e => e.code
  | .threadPool _ => "THREAD_POOL_ERROR"
  | .cancelled => "CANCELLED"

end PipelineError

end TreeLint
