import JobsGateway.Text.Decimal

/-!
# Places and faults in YAML

A place in a YAML text is a mark: how many characters come before it, and its line and column. A
fault is a problem at a mark, perhaps with what was being read and where that began. Both are shown
in one line, lines and columns counted from one; the very beginning is not mentioned.
-/

namespace JobsGateway.Yaml

/-- A place in a text. All three numbers are counted from zero. -/
structure Mark where
  index : Nat
  line : Nat
  column : Nat
  deriving Repr, DecidableEq, Inhabited

namespace Mark

/-- The beginning of a text. -/
def zero : Mark := ⟨0, 0, 0⟩

/-- Whether a mark has line and column zero. -/
def isTop (m : Mark) : Bool :=
  m.line = 0 && m.column = 0

/-- The mark after one more character of a line. -/
def next (m : Mark) : Mark :=
  ⟨m.index + 1, m.line, m.column + 1⟩

/-- The mark after a line break of some characters. -/
def nextLine (m : Mark) (chars : Nat) : Mark :=
  ⟨m.index + chars, m.line + 1, 0⟩

/-- Whether two marks are in the same line and column. -/
def sameSpot (m n : Mark) : Bool :=
  m.line = n.line && m.column = n.column

/-- A mark as messages show it. -/
def text (m : Mark) : Text :=
  " at line ".toList ++ Text.digits (m.line + 1) ++ " column ".toList ++ Text.digits (m.column + 1)

/-- A mark as messages show it, and nothing for the beginning. -/
def textUnlessTop (m : Mark) : Text :=
  if m.isTop then [] else m.text

end Mark

/-- What is wrong with a text. -/
inductive Problem where
  | controlCharacter
  | tokenStart
  | missingColon
  | blockEntryPlace
  | keyPlace
  | valuePlace
  | directiveName
  | directiveNameEnd
  | unknownDirective
  | lineEnd
  | versionDot
  | versionLength
  | versionNumber
  | handleStart
  | handleEnd
  | uri
  | uriEscape
  | uriLeadingOctet
  | uriTrailingOctet
  | uriClose
  | blank
  | blankOrLineEnd
  | anchorName
  | zeroIndentation
  | tabIndentation
  | tabInPlain
  | colonInPlain
  | documentMarkInQuotes
  | endInQuotes
  | unknownEscape
  | hexEscape
  | escapedCodePoint
  | documentStart
  | nodeContent
  | blockEntry
  | blockKey
  | flowSequenceItem
  | flowMappingItem
  | unknownHandle
  | duplicateVersion
  | duplicateHandle
  | versionUnsupported
  deriving Repr, DecidableEq, Inhabited

/-- The sentence that names a problem. -/
def Problem.message : Problem → String
  | .controlCharacter => "control characters are not allowed"
  | .tokenStart => "found character that cannot start any token"
  | .missingColon => "could not find expected ':'"
  | .blockEntryPlace => "block sequence entries are not allowed in this context"
  | .keyPlace => "mapping keys are not allowed in this context"
  | .valuePlace => "mapping values are not allowed in this context"
  | .directiveName => "could not find expected directive name"
  | .directiveNameEnd => "found unexpected non-alphabetical character"
  | .unknownDirective => "found unknown directive name"
  | .lineEnd => "did not find expected comment or line break"
  | .versionDot => "did not find expected digit or '.' character"
  | .versionLength => "found extremely long version number"
  | .versionNumber => "did not find expected version number"
  | .handleStart => "did not find expected '!'"
  | .handleEnd => "did not find expected '!'"
  | .uri => "did not find expected tag URI"
  | .uriEscape => "did not find URI escaped octet"
  | .uriLeadingOctet => "found an incorrect leading UTF-8 octet"
  | .uriTrailingOctet => "found an incorrect trailing UTF-8 octet"
  | .uriClose => "did not find the expected '>'"
  | .blank => "did not find expected whitespace"
  | .blankOrLineEnd => "did not find expected whitespace or line break"
  | .anchorName => "did not find expected alphabetic or numeric character"
  | .zeroIndentation => "found an indentation indicator equal to 0"
  | .tabIndentation => "found a tab character where an indentation space is expected"
  | .tabInPlain => "found a tab character that violates indentation"
  | .colonInPlain => "found unexpected ':'"
  | .documentMarkInQuotes => "found unexpected document indicator"
  | .endInQuotes => "found unexpected end of stream"
  | .unknownEscape => "found unknown escape character"
  | .hexEscape => "did not find expected hexdecimal number"
  | .escapedCodePoint => "found invalid Unicode character escape code"
  | .documentStart => "did not find expected <document start>"
  | .nodeContent => "did not find expected node content"
  | .blockEntry => "did not find expected '-' indicator"
  | .blockKey => "did not find expected key"
  | .flowSequenceItem => "did not find expected ',' or ']'"
  | .flowMappingItem => "did not find expected ',' or '\x7d'"
  | .unknownHandle => "found undefined tag handle"
  | .duplicateVersion => "found duplicate %YAML directive"
  | .duplicateHandle => "found duplicate %TAG directive"
  | .versionUnsupported => "found incompatible YAML document"

/-- What was being read when a problem was found. -/
inductive Activity where
  | nextToken
  | simpleKey
  | directive
  | versionDirective
  | tagDirective
  | tagDirectiveHandle
  | tagDirectiveHandleEnd
  | tagDirectiveUri
  | anchor
  | alias
  | tag
  | tagUri
  | blockScalar
  | quotedScalar
  | escape
  | plainScalar
  | node
  | blockNode
  | flowNode
  | blockCollection
  | blockMapping
  | flowSequence
  | flowMapping
  deriving Repr, DecidableEq, Inhabited

/-- The words for an activity. -/
def Activity.message : Activity → String
  | .nextToken => "while scanning for the next token"
  | .simpleKey => "while scanning a simple key"
  | .directive => "while scanning a directive"
  | .versionDirective => "while scanning a %YAML directive"
  | .tagDirective => "while scanning a %TAG directive"
  | .tagDirectiveHandle => "while scanning a tag directive"
  | .tagDirectiveHandleEnd => "while parsing a tag directive"
  | .tagDirectiveUri => "while parsing a %TAG directive"
  | .anchor => "while scanning an anchor"
  | .alias => "while scanning an alias"
  | .tag => "while scanning a tag"
  | .tagUri => "while parsing a tag"
  | .blockScalar => "while scanning a block scalar"
  | .quotedScalar => "while scanning a quoted scalar"
  | .escape => "while parsing a quoted scalar"
  | .plainScalar => "while scanning a plain scalar"
  | .node => "while parsing a node"
  | .blockNode => "while parsing a block node"
  | .flowNode => "while parsing a flow node"
  | .blockCollection => "while parsing a block collection"
  | .blockMapping => "while parsing a block mapping"
  | .flowSequence => "while parsing a flow sequence"
  | .flowMapping => "while parsing a flow mapping"

/-- A problem with its place. `offset` counts octets and is given where there is no mark. -/
structure Fault where
  problem : Problem
  mark : Mark
  context : Option (Activity × Mark)
  offset : Nat
  deriving Repr, DecidableEq, Inhabited

/-- A problem at a mark, found during an activity that began at another. -/
def Fault.during (activity : Activity) (since : Mark) (problem : Problem) (mark : Mark) : Fault :=
  ⟨problem, mark, some (activity, since), 0⟩

/-- A problem at a mark. -/
def Fault.at (problem : Problem) (mark : Mark) : Fault :=
  ⟨problem, mark, none, 0⟩

/-- The place of a problem. -/
def Fault.placeText (f : Fault) : Text :=
  if !f.mark.isTop then f.mark.text
  else if f.offset != 0 then " at position ".toList ++ Text.digits f.offset
  else []

/-- The activity of a fault, with its beginning unless that is the place of the problem. -/
def Fault.contextText (f : Fault) : Text :=
  match f.context with
  | none => []
  | some (activity, since) =>
    ", ".toList ++ activity.message.toList ++
      (if since.sameSpot f.mark then [] else since.textUnlessTop)

/-- A fault in one line. -/
def Fault.text (f : Fault) : Text :=
  f.problem.message.toList ++ f.placeText ++ f.contextText

end JobsGateway.Yaml
