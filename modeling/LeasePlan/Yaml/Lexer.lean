import LeasePlan.Text.Utf8
import LeasePlan.Yaml.Scalar

namespace LeasePlan.Yaml

/-- A place where a key could have begun: the count of tokens before it, and whether nothing but a
key can be there. -/
structure KeyStart where
  before : Nat
  required : Bool
  index : Nat
  line : Nat
  column : Nat

structure Lexer where
  cursor : Cursor
  /-- The tokens so far, the last one first. -/
  tokens : List Token
  /-- The columns of the open blocks, the innermost first. -/
  blocks : List Nat
  /-- For the document and each open bracket where its latest key could have begun, the innermost
  bracket first. -/
  keys : List (Option KeyStart)
  keyAllowed : Bool

namespace Lexer

def start (cs : List Char) : Lexer := ⟨Cursor.start cs, [], [], [none], true⟩

def inFlow (l : Lexer) : Bool := 1 < l.keys.length

def indent (l : Lexer) : Int :=
  match l.blocks with
  | [] => -1
  | n :: _ => n

def push (l : Lexer) (t : Token) : Lexer := { l with tokens := t :: l.tokens }

/-- Puts tokens behind so many of the first ones. -/
def pushAt (l : Lexer) (before : Nat) (ts : List Token) : Lexer :=
  let (late, early) := l.tokens.splitAt (l.tokens.length - before)
  { l with tokens := late ++ ts.reverse ++ early }

/-- A key start is out of date on the next line and after 1024 characters. -/
def isStale (c : Cursor) (k : KeyStart) : Bool := k.line ≠ c.line || 1024 < c.index - k.index

def dropStale (l : Lexer) : Except Flaw Lexer :=
  let stale (k : Option KeyStart) : Bool := k.any (isStale l.cursor)
  if l.keys.any fun k => stale k && k.any KeyStart.required then .error .malformed
  else .ok { l with keys := l.keys.map fun k => if stale k then none else k }

/-- Gives up the latest key start, where a key need not be. -/
def dropKey (l : Lexer) : Except Flaw Lexer :=
  match l.keys with
  | [] => .ok l
  | k :: ks =>
    if k.any KeyStart.required then .error .malformed else .ok { l with keys := none :: ks }

def markKey (l : Lexer) : Except Flaw Lexer :=
  if l.keyAllowed then do
    let l ← l.dropKey
    let c := l.cursor
    let k : KeyStart :=
      ⟨l.tokens.length, !l.inFlow && l.indent = c.column, c.index, c.line, c.column⟩
    .ok { l with keys := some k :: l.keys.tail }
  else .ok l

/-- Ends the blocks that a column is to the left of. -/
def closeBlocks (column : Int) : List Nat → List Token → List Nat × List Token
  | [], ts => ([], ts)
  | n :: ns, ts =>
    if column < n then closeBlocks column ns (.blockEnd :: ts) else (n :: ns, ts)

/-- Ends blocks by indentation, which has no meaning within brackets. -/
def unwind (l : Lexer) (column : Int) : Lexer :=
  if l.inFlow then l
  else
    let (blocks, tokens) := closeBlocks column l.blocks l.tokens
    { l with blocks, tokens }

def opens (l : Lexer) (column : Nat) : Bool := l.indent < column

def openBlock (l : Lexer) (column : Nat) (t : Token) : Lexer :=
  if l.opens column then { l.push t with blocks := column :: l.blocks } else l

/-- Skips blanks, comments and line breaks; behind a break a key can begin. -/
def skipBlank : Nat → Lexer → Lexer
  | 0, l => l
  | fuel + 1, l =>
    let c := l.cursor.skipSpaces.skipComment
    if isBreak c.peek then
      skipBlank fuel { l with cursor := c.lineBreak.2, keyAllowed := l.keyAllowed || !l.inFlow }
    else { l with cursor := c }

def number? (c : Cursor) : Except Flaw (Nat × Cursor) :=
  let (ds, c) := c.takeWhile Numeral.isDigit
  match Numeral.decimal? ds with
  | some n => .ok (n, c)
  | none => .error .malformed

/-- A handle between exclamation marks, or one of them alone. -/
def tagHandle (c : Cursor) : Except Flaw (List Char × Cursor) :=
  if c.peek ≠ '!' then .error .malformed
  else if c.peekAt 1 = ' ' then .ok (['!'], c.next)
  else
    let (word, d) := c.next.takeWhile isWordChar
    if d.peek = '!' then .ok ('!' :: (word ++ ['!']), d.next) else .error .malformed

def isUriChar (c : Char) : Bool :=
  isAlphanumeric c || "-;/?:@&=+$,_.!~*'()[]".toList.contains c

/-- Bytes behind percent signs, as many as follow one another. -/
def uriBytes : Nat → Cursor → Except Flaw (List UInt8 × Cursor)
  | 0, _ => .error .malformed
  | fuel + 1, c =>
    if c.peek = '%' then
      match Numeral.hexDigit? (c.peekAt 1), Numeral.hexDigit? (c.peekAt 2) with
      | some a, some b => do
        let (bs, c) ← uriBytes fuel (c.skip 3)
        .ok ((16 * a + b).toUInt8 :: bs, c)
      | _, _ => .error .malformed
    else .ok ([], c)

def uriChars : Nat → Cursor → Except Flaw (List Char × Cursor)
  | 0, _ => .error .malformed
  | fuel + 1, c =>
    if c.peek = '%' then do
      let (bs, c) ← uriBytes (c.rest.length + 1) c
      match Utf8.decode bs with
      | .error _ => .error .malformed
      | .ok cs => do
        let (rest, c) ← uriChars fuel c
        .ok (cs ++ rest, c)
    else if isUriChar c.peek then do
      let (rest, d) ← uriChars fuel c.next
      .ok (c.peek :: rest, d)
    else .ok ([], c)

/-- A text for tags with at least one character or escape. -/
def uri (c : Cursor) : Except Flaw (List Char × Cursor) :=
  if c.peek = '%' || isUriChar c.peek then uriChars (c.rest.length + 1) c else .error .malformed

def versionDirective (c : Cursor) : Except Flaw (Directive × Cursor) := do
  let (major, c) ← number? c.skipSpaces
  if c.peek ≠ '.' then .error .malformed
  else
    let (_, c) ← number? c.next
    if isSpaceOrEnd c.peek then .ok (.version major, c) else .error .malformed

def handleDirective (c : Cursor) : Except Flaw (Directive × Cursor) := do
  let (handle, c) ← tagHandle c.skipSpaces
  if c.peek ≠ ' ' then .error .malformed
  else
    let (name, c) ← uri c.skipSpaces
    if isSpaceOrEnd c.peek then .ok (.handle handle name, c) else .error .malformed

def directive (c : Cursor) : Except Flaw (Directive × Cursor) := do
  let (name, c) := c.next.takeWhile isWordChar
  if name.isEmpty || !isSpaceOrEnd c.peek then .error .malformed
  else
    let (d, c) ←
      if name = "YAML".toList then versionDirective c
      else if name = "TAG".toList then handleDirective c
      else .ok (.other, c.skipWhile fun x => !isBreakOrEnd x)
    .ok (d, ← c.endLine)

def anchorName (c : Cursor) : Except Flaw (List Char × Cursor) :=
  let (name, c) := c.next.takeWhile isWordChar
  if name.isEmpty then .error .malformed
  else if isBlankOrEnd c.peek || "?:,]\x7d%@\x60".toList.contains c.peek then .ok (name, c)
  else .error .malformed

/-- A tag, which may be in angle brackets, stand alone or have a handle. -/
def tag (c : Cursor) : Except Flaw (Token × Cursor) := do
  let x := c.peekAt 1
  let (t, c) ←
    if x = '<' then do
      let (name, c) ← uri (c.skip 2)
      if c.peek = '>' then .ok (Token.tag none name, c.next) else .error .malformed
    else if isBlankOrEnd x then .ok (Token.tag none ['!'], c.next)
    else if (c.next.rest.takeWhile fun y => !isSpaceOrEnd y).contains '!' then do
      let (handle, c) ← tagHandle c
      let (name, c) ← uri c
      .ok (Token.tag (some handle) name, c)
    else do
      let (name, c) ← uri c.next
      .ok (Token.tag (some ['!']) name, c)
  if isSpaceOrEnd c.peek then .ok (t, c) else .error .malformed

def mark (l : Lexer) (t : Token) : Lexer := { l.push t with cursor := l.cursor.next }

def endAll (l : Lexer) : Except Flaw Lexer := do
  let l ← (l.unwind (-1)).dropKey
  .ok { l with keyAllowed := false }

def openFlow (l : Lexer) (t : Token) : Except Flaw Lexer := do
  let l ← l.markKey
  .ok { l.mark t with keys := none :: l.keys, keyAllowed := true }

def closeFlow (l : Lexer) (t : Token) : Except Flaw Lexer := do
  let l ← l.dropKey
  if l.inFlow then .ok { l.mark t with keys := l.keys.tail, keyAllowed := false }
  else .error .malformed

def flowEntry (l : Lexer) : Except Flaw Lexer := do
  let l ← l.dropKey
  .ok { l.mark .flowEntry with keyAllowed := true }

def blockEntry (l : Lexer) : Except Flaw Lexer := do
  if !l.inFlow && !l.keyAllowed then .error .malformed
  else
    let l := if l.inFlow then l else l.openBlock l.cursor.column .blockSequenceStart
    let l ← l.dropKey
    .ok { l.mark .blockEntry with keyAllowed := true }

def explicitKey (l : Lexer) : Except Flaw Lexer := do
  if !l.inFlow && !l.keyAllowed then .error .malformed
  else
    let l := if l.inFlow then l else l.openBlock l.cursor.column .blockMappingStart
    let l ← l.dropKey
    .ok { l.mark .key with keyAllowed := !l.inFlow }

/-- A colon, with the key before it if one could have begun there. -/
def colon (l : Lexer) : Except Flaw Lexer := do
  match l.keys with
  | some k :: ks =>
    let l := { l with keys := none :: ks }
    let l :=
      if !l.inFlow && l.opens k.column then
        { l.pushAt k.before [.blockMappingStart, .key] with blocks := k.column :: l.blocks }
      else l.pushAt k.before [.key]
    .ok { l.mark .value with keyAllowed := false }
  | _ =>
    if !l.inFlow && !l.keyAllowed then .error .malformed
    else
      let l := if l.inFlow then l else l.openBlock l.cursor.column .blockMappingStart
      let l ← l.dropKey
      .ok { l.mark .value with keyAllowed := !l.inFlow }

/-- Appends what was read at a place where a key could begin. -/
def item (l : Lexer) (t : Token) (c : Cursor) : Except Flaw Lexer := do
  let l ← l.markKey
  .ok { l.push t with cursor := c, keyAllowed := false }

def blockScalar (l : Lexer) (fold : Bool) : Except Flaw Lexer := do
  let l ← l.dropKey
  let (cs, c) ← l.cursor.next.block fold l.indent
  .ok { l.push (.scalar ⟨codesOf cs, false⟩) with cursor := c, keyAllowed := true }

def plainScalar (l : Lexer) : Except Flaw Lexer := do
  let l ← l.markKey
  let c := l.cursor
  let (cs, broken, d) := c.plain l.inFlow (l.indent + 1) (c.rest.length + 1)
  .ok { l.push (.scalar ⟨codesOf cs, true⟩) with cursor := d, keyAllowed := broken }

def atPlain (l : Lexer) : Bool :=
  let x := l.cursor.peek
  let closed := isBlankOrEnd (l.cursor.peekAt 1)
  if isBlankOrEnd x || ",[]\x7b\x7d#&*!|>'\"%@\x60".toList.contains x then false
  else if x = '-' then !closed
  else if x = '?' || x = ':' then !closed && !l.inFlow
  else true

/-- Reads one token, and perhaps others that follow from it. -/
def token (l : Lexer) : Except Flaw Lexer :=
  let c := l.cursor
  let x := c.peek
  let closed := isBlankOrEnd (c.peekAt 1)
  if x = '%' && c.column = 0 then do
    let l ← l.endAll
    let (d, c) ← directive c
    .ok { l.push (.directive d) with cursor := c }
  else if c.column = 0 && c.atSeparator '-' then do
    let l ← l.endAll
    .ok { l.push .documentStart with cursor := c.skip 3 }
  else if c.column = 0 && c.atSeparator '.' then do
    let l ← l.endAll
    .ok { l.push .documentEnd with cursor := c.skip 3 }
  else if x = '[' then l.openFlow .flowSequenceStart
  else if x = '\x7b' then l.openFlow .flowMappingStart
  else if x = ']' then l.closeFlow .flowSequenceEnd
  else if x = '\x7d' then l.closeFlow .flowMappingEnd
  else if x = ',' then l.flowEntry
  else if x = '-' && closed then l.blockEntry
  else if x = '?' && (l.inFlow || closed) then l.explicitKey
  else if x = ':' && (l.inFlow || closed) then l.colon
  else if x = '*' then do
    let (name, d) ← anchorName c
    l.item (.reference name) d
  else if x = '&' then do
    let (name, d) ← anchorName c
    l.item (.anchor name) d
  else if x = '!' then do
    let (t, d) ← tag c
    l.item t d
  else if x = '|' && !l.inFlow then l.blockScalar false
  else if x = '>' && !l.inFlow then l.blockScalar true
  else if x = Literal.apostrophe then do
    let (cs, d) ← c.next.singleQuoted (c.rest.length + 1)
    l.item (.scalar ⟨codesOf cs, false⟩) d
  else if x = '"' then do
    let (ns, d) ← c.next.doubleQuoted (c.rest.length + 1)
    l.item (.scalar ⟨ns, false⟩) d
  else if l.atPlain then l.plainScalar
  else .error .malformed

/-- All tokens; the last one says how the text ends. Fuel bounds the tokens. -/
def tokens? : Nat → Lexer → List Token
  | 0, l => (.broken .malformed :: l.tokens).reverse
  | fuel + 1, l =>
    let step : Except Flaw Lexer := do
      let l ← (skipBlank (l.cursor.rest.length + 1) l).dropStale
      .ok (l.unwind l.cursor.column)
    match step with
    | .error f => (.broken f :: l.tokens).reverse
    | .ok l =>
      if l.cursor.peek = ending then
        match l.endAll with
        | .error f => (.broken f :: l.tokens).reverse
        | .ok l => (.streamEnd :: l.tokens).reverse
      else
        match l.token with
        | .error f => (.broken f :: l.tokens).reverse
        | .ok l => tokens? fuel l

end Lexer

/-- The tokens of a text; a byte order mark at its front does not count. -/
def Token.ofChars (cs : List Char) : List Token :=
  let l := Lexer.start cs
  let l := if l.cursor.peek = orderMark then { l with cursor := l.cursor.next } else l
  Lexer.tokens? (cs.length + 2) l

end LeasePlan.Yaml
