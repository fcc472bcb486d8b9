/-!
# Rules, severities and categories

A rule is the identity of one anti-pattern: its id, how severe it is, what it is about, and a
title. Severities are ordered, `critical` being the greatest.
-/

namespace TreeLint

/-- How severe a finding is. -/
inductive Severity where
  | low | medium | high | critical
deriving DecidableEq, Inhabited, Repr

namespace Severity

def all : List Severity := [.low, .medium, .high, .critical]

/-- The place of a severity in the order. -/
def rank : Severity → Nat
  | .low => 0
  | .medium => 1
  | .high => 2
  | .critical => 3

theorem rank_injective {s t : Severity} (h : s.rank = t.rank) : s = t := by
  cases s <;> cases t <;> simp_all [rank]

/-- The name of a severity in reports. -/
def name : Severity → String
  | .low => "LOW"
  | .medium => "MEDIUM"
  | .high => "HIGH"
  | .critical => "CRITICAL"

/-- The name of a severity in settings. -/
def settingsName : Severity → String
  | .low => "low"
  | .medium => "medium"
  | .high => "high"
  | .critical => "critical"

def ofName? (s : String) : Option Severity :=
  let lower := s.map Char.toLower
  all.find? (·.settingsName == lower)

def unknownMessage (s : String) : String := s!"unknown severity: {s}"

/-- The severities that `s` is at or above, lowest first. -/
def upTo (s : Severity) : List Severity := all.filter (·.rank ≤ s.rank)

end Severity

/-- What a finding is about. `internal` is for findings that the engine itself makes. -/
inductive Category where
  | security | performance | quality | internal
deriving DecidableEq, Inhabited, Repr

namespace Category

def all : List Category := [.security, .performance, .quality, .internal]

/-- The name of a category in reports. -/
def name : Category → String
  | .security => "security"
  | .performance => "performance"
  | .quality => "quality"
  | .internal => "internal"

def ofName? (s : String) : Option Category := all.find? (·.name == s)

end Category

/-- The identity of one anti-pattern. -/
structure Rule where
  id : String
  severity : Severity
  category : Category
  title : String
deriving DecidableEq, Inhabited, Repr

end TreeLint
