import LeasePlan.Yaml.Lexer
import LeasePlan.Yaml.Tag

namespace LeasePlan.Yaml

inductive Node
  | scalar (tag : Tag) (codes : List Nat)
  | sequence (tag : Tag) (items : List Node)
  | mapping (tag : Tag) (entries : List (Node × Node))
  | reference (anchor : Nat)

instance : Inhabited Node := ⟨.scalar .null []⟩

/-- A tree with the nodes that have anchors. -/
structure Graph where
  root : Node
  anchored : List (Nat × Node)

namespace Graph

def node (g : Graph) (anchor : Nat) : Node := (g.anchored.lookup anchor).getD default

end Graph

/-- What is left to read and what has been said so far. -/
structure Composer where
  tokens : List Token
  handles : List (List Char × List Char)
  /-- The names of anchors, the latest first. -/
  names : List (List Char)
  anchored : List (Nat × Node)

namespace Composer

abbrev Compose (α : Type) := StateT Composer (Except Flaw) α

def fail {α : Type} : Compose α := fun _ => .error .malformed

/-- The next token; beyond a broken text there is none. -/
def peek : Compose Token := fun s =>
  match s.tokens with
  | [] => .error .malformed
  | .broken f :: _ => .error f
  | t :: _ => .ok (t, s)

def advance : Compose Unit := fun s => .ok ((), { s with tokens := s.tokens.tail })

def defaultHandles : List (List Char × List Char) :=
  [(['!'], ['!']), (['!', '!'], Tag.family.toList)]

def tagName (handle : Option (List Char)) (suffix : List Char) : Compose (List Char) := do
  match handle with
  | none => pure suffix
  | some h =>
    match (← get).handles.lookup h with
    | some start => pure (start ++ suffix)
    | none => fail

def takeAnchor : Compose (Option (List Char)) := do
  match ← peek with
  | .anchor name => do
    advance
    pure (some name)
  | _ => pure none

def takeTag : Compose (Option (List Char)) := do
  match ← peek with
  | .tag handle suffix => do
    advance
    pure (some (← tagName handle suffix))
  | _ => pure none

def properties : Compose (Option (List Char) × Option (List Char)) := do
  match ← takeAnchor with
  | some a => pure (some a, ← takeTag)
  | none =>
    match ← takeTag with
    | some t => pure (← takeAnchor, some t)
    | none => pure (none, none)

/-- Gives a new anchor its number. -/
def declare : Option (List Char) → Compose (Option Nat)
  | none => pure none
  | some name => do
    let s ← get
    if s.names.contains name then fail
    else
      set { s with names := name :: s.names }
      pure (some s.names.length)

def keep (anchor : Option Nat) (n : Node) : Compose Node := do
  match anchor with
  | none => pure n
  | some i =>
    modify fun s => { s with anchored := (i, n) :: s.anchored }
    pure n

def chars (codes : List Nat) : List Char := codes.map Char.ofNat

/-- The kind of a scalar; one with an exclamation mark alone is read like a plain one. -/
def scalarTag (tag : Option (List Char)) (s : Scalar) : Tag :=
  match tag with
  | some ['!'] => Tag.ofText (chars s.codes)
  | some t => Tag.ofName t
  | none => if s.plain then Tag.ofText (chars s.codes) else .str

def collectionTag (standard : Tag) : Option (List Char) → Tag
  | some ['!'] => standard
  | some t => Tag.ofName t
  | none => standard

def nothing : Scalar := ⟨[], true⟩

def emptyNode : Node := .scalar .null []

def anchorOf (name : List Char) : Compose Nat := do
  let names := (← get).names
  match names.idxOf? name with
  | some i => pure (names.length - 1 - i)
  | none => fail

mutual

/-- A node. In a block a node can be a block, and as a value a sequence can stand at the column of
its key. Fuel bounds the tokens. -/
def node : Nat → (inBlock dashes : Bool) → Compose Node
  | 0, _, _ => fail
  | fuel + 1, inBlock, dashes => do
    match ← peek with
    | .reference name => do
      advance
      pure (.reference (← anchorOf name))
    | _ => do
      let (anchor, tag) ← properties
      match ← peek, inBlock, dashes with
      | .blockEntry, _, true => do
        let a ← declare anchor
        keep a (.sequence (collectionTag .seq tag) (← dashItems fuel))
      | .scalar s, _, _ => do
        let a ← declare anchor
        advance
        keep a (.scalar (scalarTag tag s) s.codes)
      | .flowSequenceStart, _, _ => do
        let a ← declare anchor
        advance
        keep a (.sequence (collectionTag .seq tag) (← flowItems fuel true))
      | .flowMappingStart, _, _ => do
        let a ← declare anchor
        advance
        keep a (.mapping (collectionTag .map tag) (← flowEntries fuel true))
      | .blockSequenceStart, true, _ => do
        let a ← declare anchor
        advance
        keep a (.sequence (collectionTag .seq tag) (← blockItems fuel))
      | .blockMappingStart, true, _ => do
        let a ← declare anchor
        advance
        keep a (.mapping (collectionTag .map tag) (← blockEntries fuel))
      | _, _, _ =>
        if anchor.isSome || tag.isSome then do
          let a ← declare anchor
          keep a (.scalar (scalarTag tag nothing) [])
        else fail

def blockItems : Nat → Compose (List Node)
  | 0 => fail
  | fuel + 1 => do
    match ← peek with
    | .blockEntry => do
      advance
      let item ← match ← peek with
        | .blockEntry => pure emptyNode
        | .blockEnd => pure emptyNode
        | _ => node fuel true false
      pure (item :: (← blockItems fuel))
    | .blockEnd => do
      advance
      pure []
    | _ => fail

/-- The items of a sequence at the column of its key. -/
def dashItems : Nat → Compose (List Node)
  | 0 => fail
  | fuel + 1 => do
    match ← peek with
    | .blockEntry => do
      advance
      let item ← match ← peek with
        | .blockEntry => pure emptyNode
        | .key => pure emptyNode
        | .value => pure emptyNode
        | .blockEnd => pure emptyNode
        | _ => node fuel true false
      pure (item :: (← dashItems fuel))
    | _ => pure []

/-- A key or a value of a block mapping, which may be missing. -/
def blockPart : Nat → Compose Node
  | 0 => fail
  | fuel + 1 => do
    match ← peek with
    | .key => pure emptyNode
    | .value => pure emptyNode
    | .blockEnd => pure emptyNode
    | _ => node fuel true true

def blockEntries : Nat → Compose (List (Node × Node))
  | 0 => fail
  | fuel + 1 => do
    match ← peek with
    | .key => do
      advance
      let key ← blockPart fuel
      let value ← match ← peek with
        | .value => do
          advance
          blockPart fuel
        | _ => pure emptyNode
      pure ((key, value) :: (← blockEntries fuel))
    | .blockEnd => do
      advance
      pure []
    | _ => fail

/-- A key or a value in brackets, which may be missing. -/
def flowPart : Nat → Compose Node
  | 0 => fail
  | fuel + 1 => do
    match ← peek with
    | .flowEntry => pure emptyNode
    | .flowSequenceEnd => pure emptyNode
    | .flowMappingEnd => pure emptyNode
    | _ => node fuel false false

/-- The key of an entry in brackets, which may be missing before its value. -/
def flowKey : Nat → Compose Node
  | 0 => fail
  | fuel + 1 => do
    match ← peek with
    | .value => pure emptyNode
    | _ => flowPart fuel

def flowValue : Nat → Compose Node
  | 0 => fail
  | fuel + 1 => do
    match ← peek with
    | .value => do
      advance
      flowPart fuel
    | _ => pure emptyNode

/-- The items in brackets; an entry of a mapping there is a mapping of its own. -/
def flowItems : Nat → (first : Bool) → Compose (List Node)
  | 0, _ => fail
  | fuel + 1, first => do
    match ← peek with
    | .flowSequenceEnd => do
      advance
      pure []
    | t => do
      if !first then
        match t with
        | .flowEntry => advance
        | _ => fail
      match ← peek with
      | .flowSequenceEnd => do
        advance
        pure []
      | .key => do
        advance
        let key ← flowKey fuel
        let value ← flowValue fuel
        pure (.mapping .map [(key, value)] :: (← flowItems fuel false))
      | _ => do
        let item ← node fuel false false
        pure (item :: (← flowItems fuel false))

/-- The entries in braces; what is no entry is a key without a value. -/
def flowEntries : Nat → (first : Bool) → Compose (List (Node × Node))
  | 0, _ => fail
  | fuel + 1, first => do
    match ← peek with
    | .flowMappingEnd => do
      advance
      pure []
    | t => do
      if !first then
        match t with
        | .flowEntry => advance
        | _ => fail
      match ← peek with
      | .flowMappingEnd => do
        advance
        pure []
      | .key => do
        advance
        let key ← flowKey fuel
        let value ← flowValue fuel
        pure ((key, value) :: (← flowEntries fuel false))
      | _ => do
        let key ← node fuel false false
        pure ((key, emptyNode) :: (← flowEntries fuel false))

end

/-- The directives before a document. There is one version at most, and a handle has one meaning. -/
def directives : Nat → (versioned : Bool) → List (List Char × List Char) → Compose Unit
  | 0, _, _ => fail
  | fuel + 1, versioned, handles => do
    match ← peek with
    | .directive d => do
      advance
      match d with
      | .version major =>
        if versioned || major ≠ 1 then fail else directives fuel true handles
      | .handle h start =>
        if (handles.lookup h).isSome then fail
        else directives fuel versioned ((h, start) :: handles)
      | .other => directives fuel versioned handles
    | _ => modify fun s => { s with handles := handles ++ defaultHandles }

/-- The content of a document behind its mark. -/
def content (fuel : Nat) : Compose Node := do
  match ← peek with
  | .directive _ => pure emptyNode
  | .documentStart => pure emptyNode
  | .documentEnd => pure emptyNode
  | .streamEnd => pure emptyNode
  | _ => node fuel true false

def skipEnds : Nat → Compose Unit
  | 0 => pure ()
  | fuel + 1 => do
    match ← peek with
    | .documentEnd => do
      advance
      skipEnds fuel
    | _ => pure ()

def marked (fuel : Nat) : Compose Node := do
  directives fuel false []
  match ← peek with
  | .documentStart => do
    advance
    content fuel
  | _ => fail

/-- The only document of a text, if there is one. -/
def document (fuel : Nat) : Compose (Option Node) := do
  match ← peek with
  | .streamEnd => pure none
  | t =>
    let root ← match t with
      | .directive _ => marked fuel
      | .documentStart => marked fuel
      | _ => node fuel true false
    skipEnds fuel
    match ← peek with
    | .streamEnd => pure (some root)
    | _ => fail

end Composer

def Graph.ofTokens (ts : List Token) : Except Flaw (Option Graph) := do
  let start : Composer := ⟨ts, Composer.defaultHandles, [], []⟩
  let (root, s) ← (Composer.document (4 * ts.length + 4)).run start
  .ok (root.map fun r => ⟨r, s.anchored⟩)

end LeasePlan.Yaml
