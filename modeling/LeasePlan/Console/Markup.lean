import LeasePlan.Console.Emoji
import LeasePlan.Console.Style

namespace LeasePlan

/-- A console without colours. The parameters of a tag for a handler are evaluated when the tag is
closed; what the evaluation finds wrong with them is left to the console. -/
structure Console where
  columns : Nat
  complaint? : List Char → Option String

namespace Console

/-- A console of 200 columns. -/
def wide (complaint? : List Char → Option String) : Console := ⟨200, complaint?⟩

/-- What is wrong with markup: a tag closes a style that is not open, or the latest style while none
is open, or a tag for a handler with parameters that cannot be evaluated. -/
inductive MarkupFlaw
  | notOpen (position : Nat) (tag : String)
  | nothingOpen (position : Nat)
  | badParameters (complaint : String)
deriving DecidableEq

def MarkupFlaw.message : MarkupFlaw → String
  | notOpen n t =>
    "closing tag '" ++ t ++ "' at position " ++ toString n ++ " doesn't match any open tag"
  | nothingOpen n => "closing tag '[/]' at position " ++ toString n ++ " has nothing to close"
  | badParameters c => c

/-- A stretch of text, or a tag with its place in the markup. -/
inductive Piece
  | plain (text : List Char)
  | tag (position : Nat) (name : List Char) (parameters : Option (List Char))

namespace Piece

def opensTag (c : Char) : Bool := ('a' ≤ c && c ≤ 'z') || c = '#' || c = '/' || c = '@'

def isTag (body : List Char) : Bool :=
  match body with
  | [] => false
  | c :: _ => opensTag c

def ofBody (position : Nat) (body : List Char) : Piece :=
  let (name, parameters) := Text.cut '=' body
  tag position name parameters

/-- The pieces up to a tag, whose body is given, behind a text with its last character first. Of the
backslashes before the tag, two stand for one, and a single one makes the tag a text. -/
def upToTag (before : List Char) (position : Nat) (body : List Char) : List Piece :=
  let slashes := (before.takeWhile (· = '\\')).length
  [plain (before.drop slashes).reverse, plain (List.replicate (slashes / 2) '\\'),
    if slashes % 2 = 1 then plain ('[' :: (body ++ [']'])) else ofBody position body]

/-- Goes on at a position, behind a text since the last tag and an open bracket, if there is one,
with its place and the text since then; both texts have their last character first. -/
def scan (position : Nat) (before : List Char) (bracket : Option (Nat × List Char)) :
    List Char → List Piece
  | [] =>
    match bracket with
    | none => [plain before.reverse]
    | some (_, body) => [plain (body ++ '[' :: before).reverse]
  | c :: r =>
    match bracket with
    | none =>
      if c = '[' then scan (position + 1) before (some (position, [])) r
      else scan (position + 1) (c :: before) none r
    | some (start, body) =>
      if c = '[' then scan (position + 1) (body ++ '[' :: before) (some (position, [])) r
      else if c = ']' then
        if isTag body.reverse then
          upToTag before start body.reverse ++ scan (position + 1) [] none r
        else scan (position + 1) (']' :: (body ++ '[' :: before)) none r
      else scan (position + 1) before (some (start, c :: body)) r

end Piece

namespace Markup

/-- A bracket may have a backslash before it. -/
def unescape : List Char → List Char
  | [] => []
  | '\\' :: '[' :: r => '[' :: unescape r
  | c :: r => c :: unescape r

/-- Control characters that a console would act on: bell, backspace, vertical tab, form feed and
carriage return. -/
def isControl (c : Char) : Bool := c.toNat ∈ [7, 8, 11, 12, 13]

/-- A text with its emoji and without control characters. -/
def shown (cs : List Char) : List Char := (Emoji.replace cs).filter fun c => !isControl c

def tagText (name : List Char) (parameters : Option (List Char)) : String :=
  match parameters with
  | none => String.ofList ('[' :: (name ++ [']']))
  | some p => String.ofList ('[' :: (name ++ '=' :: (p ++ [']'])))

/-- A tag that is open, by the canonical name of its style. -/
structure OpenTag where
  name : String
  parameters : Option (List Char)

/-- A tag for a handler has an at sign in front. -/
def OpenTag.isHandler (t : OpenTag) : Bool := t.name.toList.head? = some '@'

/-- Closes a tag; only the parameters of a handler, if it has any, are looked at. -/
def close (console : Console) (t : OpenTag) : Except MarkupFlaw Unit :=
  if t.isHandler && t.parameters.any fun p => !p.isEmpty then
    match t.parameters.bind console.complaint? with
    | some complaint => .error (.badParameters complaint)
    | none => .ok ()
  else .ok ()

/-- Renders pieces where tags are open, the latest first. As no styles are shown, all that is left
is the text. -/
def renderPieces (console : Console) : List OpenTag → List Piece → Except MarkupFlaw (List Char)
  | _, [] => .ok []
  | tags, .plain text :: ps => (renderPieces console tags ps).map (shown (unescape text) ++ ·)
  | tags, .tag position name parameters :: ps =>
    match name with
    | '/' :: closed =>
      if (Text.trim Text.isSpace closed).isEmpty then
        match tags with
        | [] => .error (.nothingOpen position)
        | t :: tags => do
          close console t
          renderPieces console tags ps
      else
        let style := Style.canonical (Text.trim Text.isSpace closed)
        match tags.find? fun t => t.name = style with
        | none => .error (.notOpen position (tagText name parameters))
        | some t => do
          close console t
          renderPieces console (tags.eraseP fun t => t.name = style) ps
    | _ => renderPieces console (⟨Style.canonical name, parameters⟩ :: tags) ps

def render (console : Console) (markup : String) : Except MarkupFlaw (List Char) :=
  renderPieces console [] (Piece.scan 0 [] none markup.toList)

end Markup

end Console

end LeasePlan
