import LeasePlan.Yaml.Node
import LeasePlan.Yaml.Value

namespace LeasePlan.Yaml

namespace Node

def tag : Node → Tag
  | scalar t _ => t
  | sequence t _ => t
  | mapping t _ => t
  | reference _ => .unknown

end Node

namespace Graph

def resolve (g : Graph) : Node → Node
  | .reference i => g.node i
  | n => n

def isScalarTag : Tag → Bool
  | .null => true
  | .bool => true
  | .int => true
  | .float => true
  | .binary => true
  | .timestamp => true
  | .str => true
  | _ => false

def isMergeKey (g : Graph) (n : Node) : Bool := (g.resolve n).tag = .merge

def isValueKey (g : Graph) (n : Node) : Bool := (g.resolve n).tag = .value

/-- The text of a node that has one: a scalar, or a mapping whose value key has one. -/
def text? (g : Graph) : Nat → Node → Option (List Nat)
  | 0, _ => none
  | fuel + 1, n =>
    match g.resolve n with
    | .scalar _ codes => some codes
    | .mapping _ es => (es.find? fun e => g.isValueKey e.1).bind fun e => g.text? fuel e.2
    | _ => none

def textDepth : Nat := 64

/-- The value of a node at first sight; that of a collection is found later. -/
def opening (g : Graph) (n : Node) : Except Flaw (Option Data) :=
  let m := g.resolve n
  if isScalarTag m.tag then
    match g.text? textDepth m with
    | some codes => (Value.ofScalar m.tag codes).map some
    | none => .error .malformed
  else
    match m.tag with
    | .seq => .ok none
    | .map => .ok none
    | .set => .ok none
    | .omap => .ok none
    | .pairs => .ok none
    | _ => .error .malformed

/-- The anchor of an alias joins those that were followed. -/
def follow (seen : List Nat) : Node → List Nat
  | .reference i => i :: seen
  | _ => seen

def isFollowed (seen : List Nat) : Node → Bool
  | .reference i => seen.contains i
  | _ => false

/-- The entries of a mapping behind those that are merged into it from other mappings, or nothing if
something else is to be merged. A mapping that is merged into itself brings its own entries. Fuel
bounds the depth. -/
def mergedInto (g : Graph) : Nat → List Nat → List (Node × Node) → Option (List (Node × Node))
  | 0, _, _ => some []
  | fuel + 1, seen, es => do
    let entriesOf (n : Node) : Option (List (Node × Node)) :=
      match g.resolve n with
      | .mapping _ inner =>
        if isFollowed seen n then some (inner.filter fun e => !g.isMergeKey e.1)
        else g.mergedInto fuel (follow seen n) inner
      | _ => none
    let sources ← (es.filter fun e => g.isMergeKey e.1).mapM fun e =>
      match g.resolve e.2 with
      | .sequence _ ns => (ns.mapM entriesOf).map fun parts => parts.reverse.flatten
      | _ => entriesOf e.2
    some (sources.flatten ++ es.filter fun e => !g.isMergeKey e.1)

def mergeDepth : Nat := 256

/-- The entries of a mapping behind those that are merged into it. -/
def allEntries (g : Graph) (es : List (Node × Node)) : Except Flaw (List (Node × Node)) :=
  match g.mergedInto mergeDepth [] es with
  | some all => .ok all
  | none => .error .malformed

/-- The nodes among some whose values are to be found later. -/
def openAll (g : Graph) : List Node → Except Flaw (List Node)
  | [] => .ok []
  | n :: ns => do
    let d ← g.opening n
    let rest ← g.openAll ns
    .ok (if d.isNone then n :: rest else rest)

/-- The same for entries, whose keys must be no collections. -/
def openEntries (g : Graph) : List (Node × Node) → Except Flaw (List Node)
  | [] => .ok []
  | (k, v) :: es => do
    let key ← if g.isValueKey k then .ok (some Data.null) else g.opening k
    if key.isNone then .error .malformed
    else
      let value ← g.opening v
      let rest ← g.openEntries es
      .ok (if value.isNone then v :: rest else rest)

/-- The key and the value of each mapping in a list of mappings with one entry each. -/
def openPairs (g : Graph) : List Node → Except Flaw (List Node)
  | [] => .ok []
  | n :: ns =>
    match g.resolve n with
    | .mapping _ [(k, v)] => do
      let parts ← g.openAll [k, v]
      let rest ← g.openPairs ns
      .ok (parts ++ rest)
    | _ => .error .malformed

/-- The parts of a collection whose values are to be found later. -/
def filling (g : Graph) (n : Node) : Except Flaw (List Node) :=
  match g.resolve n with
  | .sequence .seq ns => g.openAll ns
  | .sequence .omap ns => g.openPairs ns
  | .sequence .pairs ns => g.openPairs ns
  | .mapping .map es => do g.openEntries (← g.allEntries es)
  | .mapping .set es => do g.openEntries (← g.allEntries es)
  | _ => .error .malformed

def unseen (seen : List Nat) : List Node → List Node × List Nat
  | [] => ([], seen)
  | .reference i :: ns =>
    if seen.contains i then unseen seen ns
    else
      let (rest, seen) := unseen (i :: seen) ns
      (.reference i :: rest, seen)
  | n :: ns =>
    let (rest, seen) := unseen seen ns
    (n :: rest, seen)

/-- Looks through collections level by level. Fuel bounds the levels. -/
def checkLevels (g : Graph) : Nat → List Nat → List Node → Except Flaw Unit
  | 0, _, _ => .ok ()
  | fuel + 1, seen, level => do
    let next ← level.mapM g.filling
    let (later, seen) := unseen seen next.flatten
    if later.isEmpty then .ok () else g.checkLevels fuel seen later

/-- Whether every node has a value. Fuel bounds the depth. -/
def check (g : Graph) (fuel : Nat) : Except Flaw Unit := do
  match ← g.opening g.root with
  | some _ => .ok ()
  | none => g.checkLevels fuel [] [g.root]

/-- The entries of what is merged into a mapping; of several mappings the first one counts most. -/
def merged : Data → List (Data × Data)
  | .mapping es => es
  | .members ks => ks.map fun k => (k, .null)
  | .list ds =>
    (ds.map fun d => match d with
      | .mapping es => es
      | .members ks => ks.map fun k => (k, .null)
      | _ => []).reverse.flatten
  | _ => []

def insertAll (es : List (Data × Data)) (into : List (Data × Data)) : List (Data × Data) :=
  es.foldl (fun m e => Data.insert e.1 e.2 m) into

def scalarData (g : Graph) (n : Node) : Data :=
  match g.opening n with
  | .ok (some d) => d
  | _ => .null

mutual

/-- The value of a node, given the values of the anchors. -/
def valueWith (g : Graph) (known : Nat → Data) : Node → Data
  | .reference i => known i
  | .scalar t codes => if t = .value then .ofCodes codes else g.scalarData (.scalar t codes)
  | .sequence t ns =>
    if t = .seq then .list (valuesWith g known ns)
    else if t = .omap || t = .pairs then .list (pairsWith g known ns)
    else .null
  | .mapping t es =>
    let entries := insertAll (ownWith g known es) (insertAll (mergesWith g known es) [])
    if t = .map then .mapping entries
    else if t = .set then .members (entries.map Prod.fst)
    else g.scalarData (.mapping t es)

def valuesWith (g : Graph) (known : Nat → Data) : List Node → List Data
  | [] => []
  | n :: ns => valueWith g known n :: valuesWith g known ns

/-- Each mapping with one entry as a list of its key and its value. -/
def pairsWith (g : Graph) (known : Nat → Data) : List Node → List Data
  | [] => []
  | n :: ns =>
    let pair := match valueWith g known n with
      | .mapping ((k, v) :: _) => Data.list [k, v]
      | d => d
    pair :: pairsWith g known ns

def mergesWith (g : Graph) (known : Nat → Data) : List (Node × Node) → List (Data × Data)
  | [] => []
  | (k, v) :: es =>
    if g.isMergeKey k then merged (valueWith g known v) ++ mergesWith g known es
    else mergesWith g known es

def ownWith (g : Graph) (known : Nat → Data) : List (Node × Node) → List (Data × Data)
  | [] => []
  | (k, v) :: es =>
    if g.isMergeKey k then ownWith g known es
    else (valueWith g known k, valueWith g known v) :: ownWith g known es

end

/-- The values of the anchors, with aliases followed so many times. -/
def anchorValues (g : Graph) : Nat → List (Nat × Data)
  | 0 => []
  | fuel + 1 =>
    let known := g.anchorValues fuel
    g.anchored.map fun a =>
      (a.1, valueWith g (fun i => (known.lookup i).getD .null) a.2)

/-- How often aliases are followed that lead to themselves: deeper than any configuration is. -/
def aliasDepth (g : Graph) : Nat := g.anchored.length + 8

/-- The value of a graph whose nodes all have one. -/
def value (g : Graph) : Data :=
  let known := g.anchorValues g.aliasDepth
  valueWith g (fun i => (known.lookup i).getD .null) g.root

end Graph

/-- One plain line break in place of each of the ways to end a line. -/
def normalBreaks : List Char → List Char
  | '\r' :: '\n' :: r => '\n' :: normalBreaks r
  | '\r' :: r => '\n' :: normalBreaks r
  | c :: r => c :: normalBreaks r
  | [] => []

/-- The value of the only document of a text; without a document it is null. -/
def read (text : List Char) : Except Flaw Data := do
  let cs := normalBreaks text
  if !cs.all isAllowed then .error .malformed
  else
    match ← Graph.ofTokens (Token.ofChars cs) with
    | none => .ok .null
    | some g => do
      g.check (cs.length + 1)
      .ok g.value

end LeasePlan.Yaml
