import SymbolMarkup.Html.Construction.Rules

/-! Reading a text as an HTML document. Every text gives one: there are no errors, only rules for
what malformed markup means. -/
namespace SymbolMarkup.Html

/-- Applies rules to a token until one of them is done with it. Each further turn leaves an element
or moves on to a later mode, so the turns allowed by `process` are enough. -/
def settle : Nat → State → Token → State
  | 0, s, _ => s
  | turns + 1, s, token =>
    let rule := if takesForeign s token then foreignContent else s.mode.rule
    match rule s token with
    | .done next => next
    | .again next mode token => settle turns (next.setMode mode) token

def splitBlank : List Char → List (List Char)
  | [] => []
  | c :: rest =>
    match splitBlank rest with
    | (d :: run) :: runs =>
      if isSpace c == isSpace d then (c :: d :: run) :: runs else [c] :: (d :: run) :: runs
    | runs => [c] :: runs

def declare (s : State) (d : Doctype) : State :=
  if s.mode = .initial then
    let (s, id) := s.create .doctype
    { s with
      draft := s.draft.append Draft.documentId id
      oldLayout := d.asksOldLayout
      mode := .beforeHtml }
  else s

def process (s : State) (token : Token) : State :=
  let turns := 8 * (s.stack.length + s.templateModes.length + 4)
  let skipping := s.skipNewline
  let s := { s with skipNewline := false }
  match token with
  | .doctype d => declare s d
  | .flaw => s
  | .text cs =>
    let cs := if skipping && cs.head? == some '\n' then cs.tail else cs
    let parts := if s.mode.splitsText then splitBlank cs else [cs].filter (!·.isEmpty)
    parts.foldl (fun s part => settle turns s (.text part)) s
  | _ => settle turns s token

def allowsCharacterData (s : State) : Bool := s.current?.any (·.name.space ≠ .html)

/-- Reads the input to its end. Every step makes it shorter, so its length bounds the steps. -/
def readAll : Nat → State → List Char → State
  | 0, s, _ => process s .endOfInput
  | steps + 1, s, cs =>
    if cs.isEmpty then process s .endOfInput
    else
      let (tokens, rest) := nextTokens s.reading (allowsCharacterData s) cs
      readAll steps (tokens.foldl process { s with reading := .markup }) rest

def parse (html : String) : Tree :=
  let cs := prepareInput html.toList
  (readAll cs.length {} cs).draft.toTree

end SymbolMarkup.Html
