import TreeLint.Detector.Basic
import TreeLint.Tree.Access
import TreeLint.Tree.TypeName

/-!
# Maps that only grow

A map that lives as long as the process is reported when something is inserted into it and
nothing ever removes entries or looks at its size.
-/

namespace TreeLint.Rules.UnboundedCacheGrowth

def rule : Rule :=
  ⟨"performance/unbounded-cache-growth", .medium, .performance, "Unbounded cache growth"⟩

def mapTypes : List String :=
  ["Map", "HashMap", "LinkedHashMap", "TreeMap", "ConcurrentHashMap", "ConcurrentMap", "Hashtable",
    "Dictionary", "ConcurrentDictionary", "dict", "Dict", "BTreeMap", "FxHashMap"]

/-- The calls that insert. -/
def inserts : List String :=
  ["put", "putIfAbsent", "putAll", "computeIfAbsent", "compute", "merge", "insert", "set",
    "setdefault", "update", "TryAdd", "Add"]

/-- The calls that remove. -/
def evictions : List String :=
  ["remove", "clear", "evict", "invalidate", "invalidateAll", "removeIf", "retainAll", "pop",
    "popitem", "delete", "TryRemove", "Remove", "Clear", "retain", "truncate"]

/-- The calls that look at the size. -/
def sizeChecks : List String := ["size", "len", "length", "Count", "isEmpty"]

/-- The calls and methods that bound a map when it is built. -/
def boundingCalls : List String :=
  ["maximumSize", "maximumWeight", "expireAfterWrite", "expireAfterAccess", "removeEldestEntry"]

/-- Whether the field lives as long as the process. -/
def isProcessLifetime (s : Site) (field : Node) : Bool :=
  field.hasModifier "static" || s.parent?.any (·.kind == .program)

/-- Whether the field is a map, by its declared type or by the type it is built with. -/
def isMap (field : Node) : Bool :=
  let built := (field.child? .value).filter (·.kind == .newExpr)
  let types := field.typeName.toList ++ (built.bind (·.typeName)).toList
  types.any fun t => mapTypes.contains (simpleType t)

def isBuiltBounded (field : Node) : Bool :=
  (field.child? .value).any fun v =>
    (v :: v.descendants).any fun n =>
      boundingCalls.contains n.nameText && (n.kind == .call || n.kind == .method)

/-- What a node does to a map. -/
inductive Use where
  | insert | bound
deriving DecidableEq, Repr

/-- What the node does to the map called `x`. -/
def use? (x : String) (n : Node) : Option Use :=
  match n.kind with
  | .call =>
    let onMap := (n.child? .receiver).bind Node.accessName? == some x
    let callee := n.nameText
    if onMap && inserts.contains callee then some .insert
    else if onMap && (evictions.contains callee || sizeChecks.contains callee) then some .bound
    else if sizeChecks.contains callee && n.arguments.head?.bind Node.accessName? == some x then
      some .bound
    else none
  | .assignment =>
    let indexed := (n.child? .target).filter (·.kind == .indexAccess)
    if (indexed.bind (·.child? .target)).bind Node.accessName? == some x then some .insert
    else none
  | _ => none

/-- The findings at a field. The uses are looked for in its class, else in the whole tree. -/
def report (s : Site) (n : Node) : List Finding :=
  if !isProcessLifetime s n || !isMap n || isBuiltBounded n then []
  else
    match s.class?.or s.root? with
    | some scope =>
      let uses := scope.descendants.filterMap (use? n.nameText)
      let inserted := uses.count .insert
      if inserted == 0 || uses.contains .bound then []
      else
        let message :=
          "Static map '" ++ n.nameText ++ "' receives " ++ toString inserted ++
            " insertion(s) but has no eviction or size check"
        [(s.finding rule n message).withHint
          "Bound the cache (LRU, maximum size or expiry) or evict entries explicitly"]
    | none => []

def detector : Detector := .reporting rule [.field] report

end TreeLint.Rules.UnboundedCacheGrowth
