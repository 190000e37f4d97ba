import Reaching.Yaml.Input
import Reaching.Yaml.Property
import Reaching.Yaml.ScalarText
/-!
Cutting a YAML text into tokens.

In block context the column of a token opens and closes collections: `indent` is that of the
innermost one and `outer` holds those around it. A key needs no mark of its own, so every token that
may be one is remembered as a `Candidate` until a value mark follows on its line; the `key` token is
then put before it. There is one candidate at most for each level of flow collections.
-/
set_option autoImplicit false

namespace Reaching.Yaml

/-- A token that may turn out to be a key: how many tokens stand before it, where it starts, and
whether it must be a key because nothing else may stand there. -/
structure Candidate where
  before : Nat
  required : Bool
  index : Nat
  line : Nat
  column : Nat

structure Scan where
  cursor : Cursor
  tokens : Array Token
  flow : Nat
  indent : Int
  outer : List Int
  keyAllowed : Bool
  candidates : List (Nat × Candidate)

namespace Scan

def ofChars (cs : List Char) : Scan := ⟨.ofChars cs, #[], 0, -1, [], true, []⟩

def emit (scan : Scan) (token : Token) : Scan :=
  { scan with tokens := scan.tokens.push token }

def insertAt (scan : Scan) (position : Nat) (token : Token) : Scan :=
  let before := scan.tokens.extract 0 position
  let after := scan.tokens.extract position scan.tokens.size
  { scan with tokens := before.push token ++ after }

def allowKey (scan : Scan) (allowed : Bool) : Scan := { scan with keyAllowed := allowed }

def inFlow (scan : Scan) : Bool := scan.flow ≠ 0

def candidate? (scan : Scan) : Option Candidate := scan.candidates.lookup scan.flow

/-- Forgets the candidate of the present level, which is an error if it had to be a key. -/
def dropCandidate (scan : Scan) : Except Fault Scan :=
  if scan.candidate?.any Candidate.required then .error .malformed
  else .ok { scan with candidates := scan.candidates.filter (·.1 ≠ scan.flow) }

/-- Remembers the token that starts here as a possible key. -/
def saveCandidate (scan : Scan) : Except Fault Scan :=
  if scan.keyAllowed then do
    let scan ← scan.dropCandidate
    let cursor := scan.cursor
    let required := !scan.inFlow && scan.indent = cursor.column
    let candidate := ⟨scan.tokens.size, required, cursor.index, cursor.line, cursor.column⟩
    return { scan with candidates := (scan.flow, candidate) :: scan.candidates }
  else .ok scan

def isStale (scan : Scan) (candidate : Candidate) : Bool :=
  candidate.line ≠ scan.cursor.line || scan.cursor.index - candidate.index > 1024

/-- Forgets candidates that started on another line or too far back. -/
def dropStale (scan : Scan) : Except Fault Scan :=
  if scan.candidates.any fun entry => scan.isStale entry.2 && entry.2.required then
    .error .malformed
  else
    .ok { scan with candidates := scan.candidates.filter fun entry => !scan.isStale entry.2 }

/-- Closes the block collections that are indented more than a column. -/
def unwind (column : Int) (scan : Scan) : Scan :=
  if scan.inFlow then scan else go scan.outer scan
where
  go : List Int → Scan → Scan
    | [], scan => scan
    | around :: outer, scan =>
      if scan.indent > column then
        go outer ({ scan with indent := around, outer }.emit .blockEnd)
      else scan

/-- Opens a block collection at a column, if it is indented more than the one around it. -/
def indentTo (scan : Scan) (column : Nat) : Option Scan :=
  if scan.indent < column then
    some { scan with indent := column, outer := scan.indent :: scan.outer }
  else none

def toNextToken : Nat → Scan → Scan
  | 0, scan => scan
  | fuel + 1, scan =>
    let cursor := scan.cursor.skipSpaces.skipComment
    match cursor.lineBreak with
    | ([], _) => { scan with cursor }
    | (_, next) =>
      toNextToken fuel
        { scan with cursor := next, keyAllowed := scan.keyAllowed || !scan.inFlow }

/-- Takes a mark of some characters as a token. -/
def take (scan : Scan) (count : Nat) (token : Token) : Scan :=
  { scan with cursor := scan.cursor.skip count }.emit token

def documentMark (scan : Scan) (token : Token) : Except Fault Scan := do
  let scan ← (scan.unwind (-1)).dropCandidate
  return (scan.allowKey false).take 3 token

def streamEnd (scan : Scan) : Except Fault Scan := do
  let scan ← (scan.unwind (-1)).dropCandidate
  return scan.emit .streamEnd

def directive (scan : Scan) : Except Fault Scan := do
  let scan ← (scan.unwind (-1)).dropCandidate
  let (token, cursor) ← Property.directive scan.cursor
  return ({ scan with cursor }.allowKey false).emit token

def openFlow (scan : Scan) (token : Token) : Except Fault Scan := do
  let scan ← scan.saveCandidate
  return ({ scan with flow := scan.flow + 1 }.allowKey true).take 1 token

def closeFlow (scan : Scan) (token : Token) : Except Fault Scan := do
  let scan ← scan.dropCandidate
  if scan.inFlow then return ({ scan with flow := scan.flow - 1 }.allowKey false).take 1 token
  else .error .malformed

def flowEntry (scan : Scan) : Except Fault Scan := do
  return ((← scan.dropCandidate).allowKey true).take 1 .flowEntry

/-- Opens a block collection here, where a block entry or a key of its own may start. -/
def openBlock (scan : Scan) (token : Token) : Except Fault Scan :=
  if scan.inFlow then .ok scan
  else if scan.keyAllowed then
    match scan.indentTo scan.cursor.column with
    | some scan => .ok (scan.emit token)
    | none => .ok scan
  else .error .malformed

def blockEntry (scan : Scan) : Except Fault Scan := do
  let scan ← scan.openBlock .blockSequenceStart
  return ((← scan.dropCandidate).allowKey true).take 1 .blockEntry

def markedKey (scan : Scan) : Except Fault Scan := do
  let scan ← scan.openBlock .blockMappingStart
  return ((← scan.dropCandidate).allowKey (!scan.inFlow)).take 1 .key

/-- Makes a candidate a key, which may open a block mapping. -/
def keyFrom (scan : Scan) (candidate : Candidate) : Scan :=
  let scan := { scan with candidates := scan.candidates.filter (·.1 ≠ scan.flow) }
  let scan := (scan.insertAt candidate.before .key).allowKey false
  if scan.inFlow then scan
  else match scan.indentTo candidate.column with
    | some scan => scan.insertAt candidate.before .blockMappingStart
    | none => scan

def value (scan : Scan) : Except Fault Scan :=
  match scan.candidate? with
  | some candidate => .ok ((scan.keyFrom candidate).take 1 .value)
  | none => do
    let scan ← scan.openBlock .blockMappingStart
    return ((← scan.dropCandidate).allowKey (!scan.inFlow)).take 1 .value

/-- Takes a token that may be a key. -/
def property (scan : Scan) (read : Cursor → Except Fault (Token × Cursor)) :
    Except Fault Scan := do
  let scan ← scan.saveCandidate
  let (token, cursor) ← read scan.cursor
  return ({ scan with cursor }.allowKey false).emit token

def blockScalar (scan : Scan) (fold : Bool) : Except Fault Scan := do
  let scan ← scan.dropCandidate
  let (token, cursor) ← ScalarText.Block.read fold scan.indent scan.cursor
  return ({ scan with cursor }.allowKey true).emit token

def bareScalar (scan : Scan) : Except Fault Scan := do
  let scan ← scan.saveCandidate
  let (token, broken, cursor) := ScalarText.Bare.read scan.inFlow scan.indent scan.cursor
  return ({ scan with cursor }.allowKey broken).emit token

def name (make : String → Token) (cursor : Cursor) : Except Fault (Token × Cursor) := do
  let (name, cursor) ← Property.name cursor
  return (make name, cursor)

/-- Tells whether a bare scalar may start here. -/
def startsBare (scan : Scan) (c : Char) : Bool :=
  let follows := !isGap (scan.cursor.peek 1)
  if c = '-' then follows
  else if c = '?' || c = ':' then follows && !scan.inFlow
  else !isGap (some c) && !",[]\x7b\x7d#&*!|>'\"%@\x60".toList.contains c

/-- Takes the token that starts with a character. -/
def token (scan : Scan) (c : Char) : Except Fault Scan :=
  let gap := isGap (scan.cursor.peek 1)
  let atStart := scan.cursor.column = 0
  if c = '%' && atStart then scan.directive
  else if atStart && scan.cursor.atMarks '-' then scan.documentMark .documentStart
  else if atStart && scan.cursor.atMarks '.' then scan.documentMark .documentEnd
  else if c = '[' then scan.openFlow .flowSequenceStart
  else if c = '\x7b' then scan.openFlow .flowMappingStart
  else if c = ']' then scan.closeFlow .flowSequenceEnd
  else if c = '\x7d' then scan.closeFlow .flowMappingEnd
  else if c = ',' then scan.flowEntry
  else if c = '-' && gap then scan.blockEntry
  else if c = '?' && (scan.inFlow || gap) then scan.markedKey
  else if c = ':' && (scan.inFlow || gap) then scan.value
  else if c = '*' then scan.property (name .reference)
  else if c = '&' then scan.property (name .anchor)
  else if c = '!' then scan.property Property.tag
  else if c = '|' && !scan.inFlow then scan.blockScalar false
  else if c = '>' && !scan.inFlow then scan.blockScalar true
  else if c = '\'' then scan.property (ScalarText.Quoted.read false)
  else if c = '"' then scan.property (ScalarText.Quoted.read true)
  else if scan.startsBare c then scan.bareScalar
  else .error .malformed

/-- Takes one more token, or the end of the text, which is told by the flag. -/
def step (scan : Scan) : Except Fault (Scan × Bool) := do
  let scan := toNextToken (scan.cursor.rest.length + 1) scan
  let scan ← scan.dropStale
  let scan := scan.unwind scan.cursor.column
  match scan.cursor.here with
  | none => return (← scan.streamEnd, true)
  | some c => return (← scan.token c, false)

/-- Counts the tokens before which no key can be put any more. -/
def settled (scan : Scan) : Nat :=
  scan.candidates.foldl (fun count entry =>
    if scan.isStale entry.2 then count else min count entry.2.before) scan.tokens.size

end Scan

/-- The tokens of a text. A fault ends them early; then only those stand before it that were settled
when it was met. -/
structure Tokens where
  list : List Token
  fault : Option Fault

namespace Scan

def stopped (scan : Scan) (fault : Fault) : Tokens :=
  ⟨scan.tokens.toList.take scan.settled, some fault⟩

/-- Takes tokens from a text that may stop before its end. A token that reaches the place where it
stops has not been read. -/
def tokensFrom (stop : Option Fault) : Nat → Scan → Tokens
  | 0, scan => scan.stopped .malformed
  | fuel + 1, scan =>
    match scan.step with
    | .error .unclosed => scan.stopped (stop.getD .unclosed)
    | .error fault => scan.stopped fault
    | .ok (next, isLast) =>
      match stop with
      | some fault =>
        if next.cursor.rest.isEmpty then scan.stopped fault else tokensFrom stop fuel next
      | none => if isLast then ⟨next.tokens.toList, none⟩ else tokensFrom stop fuel next

end Scan

/-- Cuts a text into tokens; a byte order mark may stand before it. -/
def Tokens.ofInput (input : Input) : Tokens :=
  let start := Scan.ofChars input.chars
  let cursor := if start.cursor.here = some '\uFEFF' then start.cursor.next else start.cursor
  { start with cursor }.tokensFrom input.stop (input.chars.length + 1)

end Reaching.Yaml
