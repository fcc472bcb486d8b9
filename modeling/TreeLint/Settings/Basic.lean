/-!
# Settings

The settings of a run and of its rules. A setting that is not given has a default; the functions
that give the value in force carry the default with them. Counts are natural numbers below
`2^64`, which the readers of settings see to.
-/

namespace TreeLint

/-- A call or constructor and the positions of its arguments that hold credentials. -/
structure CredentialSlot where
  callee : String
  slots : List Nat
deriving DecidableEq, Inhabited, Repr

/-- Thresholds and name lists of the rules. -/
structure RuleSettings where
  maxParameters : Option Nat := none
  maxDecisionPoints : Option Nat := none
  maxStatements : Option Nat := none
  /-- Patterns for names that hold credentials, in any case. -/
  credentialPatterns : Option (List String) := none
  credentialSlots : Option (List CredentialSlot) := none
  querySinks : Option (List String) := none
  deserializationSinks : Option (List String) := none
  resourceAcquirers : Option (List String) := none
  resourceTypes : Option (List String) := none
  releaseMethods : Option (List String) := none
  /-- Numbers that are never reported. -/
  magicNumberAllowed : Option (List Float) := none
  stringTypes : Option (List String) := none
  /-- Further types that count as the most general exception. -/
  broadExceptionTypes : List String := []
  unusedBindingIgnoreSideEffects : Option Bool := none
  loopHighTripCount : Option Nat := none
  loopLowTripCount : Option Nat := none
deriving Inhabited

/-- Settings of a whole run. -/
structure RunSettings where
  threads : Option Nat := none
  fileTimeoutMs : Option Nat := none
  disabledRules : List String := []
  /-- The lowest severity that fails the run. -/
  failOn : Option String := none
  includeSnippets : Option Bool := none
deriving DecidableEq, Inhabited, Repr

/-- All settings. -/
structure Settings where
  analysis : RunSettings := {}
  rules : RuleSettings := {}
deriving Inhabited

/-! ## Values in force -/

namespace RuleSettings

/-- More parameters than this are too many. -/
def parameterLimit (s : RuleSettings) : Nat := s.maxParameters.getD 6

/-- More decisions than this are too many. -/
def decisionLimit (s : RuleSettings) : Nat := s.maxDecisionPoints.getD 5

/-- More statements than this are too many. -/
def statementLimit (s : RuleSettings) : Nat := s.maxStatements.getD 50

/-- The patterns of credential names. -/
def credentialNames (s : RuleSettings) : List String :=
  s.credentialPatterns.getD
    ["password", "passwd", "pwd", "secret", "api_?key", "token", "credential", "private_?key",
      "access_?key"]

/-- The argument positions that hold credentials. -/
def slotsInForce (s : RuleSettings) : List CredentialSlot :=
  s.credentialSlots.getD [⟨"getConnection", [1, 2]⟩]

/-- The calls that run a query. -/
def querySinkNames (s : RuleSettings) : List String :=
  s.querySinks.getD
    ["executeQuery", "executeUpdate", "execute", "executeLargeUpdate", "addBatch",
      "prepareStatement", "prepareCall", "createQuery", "createNativeQuery", "query", "raw", "exec",
      "executescript", "rawQuery", "execSQL"]

/-- The calls that decode objects. -/
def decoderNames (s : RuleSettings) : List String :=
  s.deserializationSinks.getD
    ["readObject", "readUnshared", "loads", "load", "unserialize", "Deserialize", "fromXML",
      "readValue", "unmarshal"]

/-- The calls that acquire a resource. -/
def acquirerNames (s : RuleSettings) : List String :=
  s.resourceAcquirers.getD
    ["getConnection", "createStatement", "prepareStatement", "prepareCall", "openConnection",
      "openStream", "newInputStream", "newOutputStream", "newBufferedReader", "newBufferedWriter"]

/-- The types whose values are resources. -/
def resourceTypeNames (s : RuleSettings) : List String :=
  s.resourceTypes.getD
    ["FileInputStream", "FileOutputStream", "FileReader", "FileWriter", "BufferedReader",
      "BufferedWriter", "ObjectInputStream", "ObjectOutputStream", "RandomAccessFile", "Socket",
      "ServerSocket", "Scanner", "PrintWriter", "ZipFile", "JarFile"]

/-- The calls that release a resource. -/
def releaseNames (s : RuleSettings) : List String :=
  s.releaseMethods.getD ["close", "dispose", "release", "disconnect", "shutdown"]

/-- The numbers that are never reported. -/
def allowedNumbers (s : RuleSettings) : List Float := s.magicNumberAllowed.getD [0, 1, -1]

/-- The types whose values are strings. -/
def stringTypeNames (s : RuleSettings) : List String :=
  s.stringTypes.getD ["String", "string", "str", "java.lang.String", "System.String"]

/-- Whether locals that are bound to a call or a construction may stay unread. -/
def ignoresSideEffects (s : RuleSettings) : Bool := s.unusedBindingIgnoreSideEffects.getD false

/-- A loop with at least so many rounds is hot. -/
def hotLoop (s : RuleSettings) : Nat := s.loopHighTripCount.getD 1000

/-- A loop with fewer rounds is cold. -/
def coldLoop (s : RuleSettings) : Nat := s.loopLowTripCount.getD 10

end RuleSettings

namespace RunSettings

/-- The name of the lowest severity that fails the run. -/
def gateName (s : RunSettings) : String := s.failOn.getD "high"

/-- Whether findings show their source line. -/
def showsSnippets (s : RunSettings) : Bool := s.includeSnippets.getD true

/-- Whether a rule is switched off. -/
def isDisabled (s : RunSettings) (ruleId : String) : Bool := s.disabledRules.contains ruleId

end RunSettings

end TreeLint
