import TreeLint.Detector.Basic
import TreeLint.Tree.Access

/-!
# Output for debugging

A call that writes to the console is reported.
-/

namespace TreeLint.Rules.DebugOutput

def rule : Rule := ⟨"quality/debug-output", .low, .quality, "Debug output"⟩

/-- The receivers that stand for the console, with the methods that write to it. -/
def consoleSinks : List (String × List String) :=
  [("System.out", ["println", "print", "printf"]), ("System.err", ["println", "print", "printf"]),
    ("console", ["log", "debug", "info", "trace", "dir"]), ("Console", ["WriteLine", "Write"]),
    ("fmt", ["Println", "Printf", "Print"])]

def isSink (path method : String) : Bool :=
  consoleSinks.any fun (receiver, methods) => receiver == path && methods.contains method

/-- The call as it is named in the message, if it writes to the console. -/
def output? (s : Site) (n : Node) : Option String :=
  match n.child? .receiver with
  | some receiver =>
    match receiver.dottedPath? with
    | some path => if isSink path n.nameText then some (path ++ "." ++ n.nameText) else none
    | none => none
  | none => if n.nameText == "print" && s.language? == some .python then some "print" else none

def report (s : Site) (n : Node) : List Finding :=
  match output? s n with
  | some call =>
    [(s.finding rule n ("Debug output via '" ++ call ++ "'")).withHint
      "Use the application logger instead of writing to the console"]
  | none => []

def detector : Detector := .reporting rule [.call] report

end TreeLint.Rules.DebugOutput
