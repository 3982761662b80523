import JobsGateway.Url.Domain
import JobsGateway.Url.Path

/-!
# Reading URLs

`Url.parse` reads an absolute URL as the URL Standard says. The text is cut from the left: the
scheme, then the authority up to the first slash, question mark or number sign, then the path, the
query and the fragment. Blanks and controls around the text, and tabs and line breaks anywhere in
it, do not count.
-/

namespace JobsGateway.Url

/-! ## The text before it is cut -/

/-- A tab or a line break. -/
def isTabOrBreak (c : Char) : Bool :=
  c == '\t' || c == '\n' || c == '\r'

/-- `text` without what does not count. -/
def clean (text : Text) : Text :=
  let inner := text.dropWhile (·.toNat ≤ 0x20)
  ((inner.reverse.dropWhile (·.toNat ≤ 0x20)).reverse).filter fun c => !isTabOrBreak c

/-! ## Scheme -/

/-- A character that may follow the first letter of a scheme. -/
def isSchemeChar (c : Char) : Bool :=
  c.isAlphanum || c == '+' || c == '-' || c == '.'

/-- The scheme in lower case, and what follows its colon. -/
def readScheme? (text : Text) : Option (Text × Text) :=
  match text with
  | c :: _ =>
    if c.isAlpha then
      match text.dropWhile isSchemeChar with
      | ':' :: rest => some ((text.takeWhile isSchemeChar).map Char.toLower, rest)
      | _ => none
    else none
  | [] => none

/-! ## Path, query and fragment -/

/-- A URL text after the authority: what belongs to the path, the query and the fragment. -/
structure Tail where
  path : Text
  query : Option Text
  fragment : Option Text

/-- The text before the first `mark`, and the text after it if there is one. -/
def cutAt (mark : Char) (text : Text) : Text × Option Text :=
  (text.takeWhile (· != mark),
    match text.dropWhile (· != mark) with
    | _ :: rest => some rest
    | [] => none)

/-- Cuts off the fragment, then the query. -/
def cutTail (text : Text) : Tail :=
  let (before, fragment) := cutAt '#' text
  let (path, query) := cutAt '?' before
  ⟨path, query, fragment⟩

/-- The set for the query of a URL. -/
def querySet (kind : SchemeKind) : Char → Bool :=
  if kind.isSpecial then Percent.inSpecialQuery else Percent.inQuery

/-- A URL from its first parts and the tail that is left to encode. -/
def ofTail (scheme : Text) (authority : Option Authority) (path : UrlPath) (tail : Tail) : Url where
  scheme := scheme
  authority := authority
  path := path
  query := tail.query.map (Percent.encode (querySet (.of scheme)))
  fragment := tail.fragment.map (Percent.encode Percent.inFragment)

/-! ## Authority -/

/-- The characters that end an authority. -/
def endsAuthority (special : Bool) (c : Char) : Bool :=
  c == '/' || c == '?' || c == '#' || (special && c == '\\')

/-- The text before and after the last `@`. -/
def cutUserinfo? (text : Text) : Option (Text × Text) :=
  match (text.reverse.dropWhile (· != '@')) with
  | _ :: before => some (before.reverse, (text.reverse.takeWhile (· != '@')).reverse)
  | [] => none

/-- User name and password, encoded. -/
def readUserinfo (text : Text) : Text × Text :=
  let (username, password) := cutAt ':' text
  (Percent.encode Percent.inUserinfo username,
    Percent.encode Percent.inUserinfo (password.getD []))

/-- The text of the host, up to the first colon outside brackets, and the rest. -/
def cutHost (inBrackets : Bool) : Text → Text × Text
  | [] => ([], [])
  | c :: rest =>
    if c == ':' && !inBrackets then ([], c :: rest)
    else
      let (host, after) := cutHost (c == '[' || (inBrackets && c != ']')) rest
      (c :: host, after)

/-- The port number that digits spell: `none` in the result if there are no digits. -/
def readPort (digits : Text) : Except UrlError (Option Nat) :=
  match digits with
  | [] => .ok none
  | _ =>
    match Text.natural? 10 digits with
    | some n => if n < 65536 then .ok (some n) else .error .invalidPortNumber
    | none => .error .invalidPortNumber

/-- What follows the host: the port number after a colon, unless it is the one that the scheme
implies, and the rest. -/
def readPortPart (scheme : Text) (text : Text) : Except UrlError (Option Nat × Text) :=
  match text with
  | ':' :: after => do
    let rest := after.dropWhile (· != '\\')
    let number ← readPort (after.takeWhile (· != '\\'))
    pure (if number = defaultPort? scheme then none else number, rest)
  | _ => .ok (none, text)

/-- Reads the authority from the text before its end. `more` tells whether anything follows it.
The rest is not empty only where a backslash after the port number starts the path. -/
def readAuthority (scheme : Text) (special more : Bool) (text : Text) :
    Except UrlError (Authority × Text) := do
  let (userinfo, hostPart) := (cutUserinfo? text).getD ([], text)
  if (cutUserinfo? text).isSome && userinfo.isEmpty && hostPart.isEmpty && more then
    throw .emptyHost
  let (username, password) := readUserinfo userinfo
  let (hostText, portText) := cutHost false hostPart
  if special && hostText.isEmpty then throw .emptyHost
  let host ← if special then (Host.readSpecial hostText).map some else Host.readOpaque hostText
  if host.isNone && portText.head? == some ':' then throw .emptyHost
  let (number, rest) ← readPortPart scheme portText
  if host.isNone && (!username.isEmpty || !password.isEmpty) then throw .emptyHost
  pure (⟨username, password, host, number⟩, rest)

/-- The path after an authority. -/
def readPathAfter (special : Bool) (text : Text) : List Text :=
  match text with
  | [] => if special then [[]] else []
  | c :: rest =>
    if isSeparator special c then readSegments special rest else readSegments special (c :: rest)

/-- A URL with an authority, from the text after the slashes. -/
def readHierarchy (scheme : Text) (special : Bool) (text : Text) : Except UrlError Url := do
  let after := text.dropWhile (!endsAuthority special ·)
  let (authority, extra) ←
    readAuthority scheme special (!after.isEmpty) (text.takeWhile (!endsAuthority special ·))
  let tail := cutTail (extra ++ after)
  pure (ofTail scheme (some authority) (.segments (readPathAfter special tail.path)) tail)

/-! ## Files -/

/-- The host of a file URL; `localhost` and a drive letter are none. -/
def readFileHost (text : Text) : Except UrlError (Option Host) :=
  if text = [] then .ok none
  else match Host.readSpecial text with
    | .ok (.domain name) => .ok (if name = "localhost".toList then none else some (.domain name))
    | .ok host => .ok (some host)
    | .error e => .error e

/-- A file URL with the given host. -/
def ofFile (host : Option Host) (text : Text) : Url :=
  let tail := cutTail text
  let pieces := match tail.path with
    | c :: rest => if isSeparator true c then rest else c :: rest
    | [] => []
  let segments := readFileSegments pieces
  let host := if segments.head?.any isDriveLetter then none else host
  ofTail "file".toList (some ⟨[], [], host, none⟩) (.segments segments) tail

/-- A file URL, from the text after the scheme. -/
def readFile (text : Text) : Except UrlError Url :=
  match text with
  | a :: b :: rest =>
    if isSeparator true a && isSeparator true b then
      let hostText := rest.takeWhile (!endsAuthority true ·)
      if isDriveLetter hostText then .ok (ofFile none rest)
      else do
        let host ← readFileHost hostText
        pure (ofFile host (rest.dropWhile (!endsAuthority true ·)))
    else .ok (ofFile none text)
  | _ => .ok (ofFile none text)

/-! ## Replacing the query -/

/-- A path without spaces at its end, if it is bare. -/
def trimBare : UrlPath → UrlPath
  | .bare text => .bare (text.reverse.dropWhile (· == ' ')).reverse
  | path => path

/-- The URL with another query, given as raw text, or with none. Fragment and path stay, but an
bare path that is left at the end of the URL loses the spaces at its own end. -/
def withQuery (u : Url) (query : Option Text) : Url :=
  { u with
    query := query.map fun q =>
      Percent.encode (querySet (.of u.scheme)) (q.filter fun c => !isTabOrBreak c)
    path := if query.isNone && u.fragment.isNone then trimBare u.path else u.path }

/-! ## The whole -/

/-- A URL of no special scheme, from the text after the scheme. -/
def readPlain (scheme text : Text) : Except UrlError Url :=
  match text with
  | '/' :: '/' :: rest => readHierarchy scheme false rest
  | '/' :: rest =>
    let tail := cutTail rest
    .ok (ofTail scheme none (.segments (readSegments false tail.path)) tail)
  | _ =>
    let tail := cutTail text
    .ok (ofTail scheme none (.bare (Percent.encode Percent.controls tail.path)) tail)

/-- Reads an absolute URL. -/
def parse (text : Text) : Except UrlError Url :=
  match readScheme? (clean text) with
  | none => .error .relativeWithoutBase
  | some (scheme, rest) =>
    match SchemeKind.of scheme with
    | .file => readFile rest
    | .special => readHierarchy scheme true (rest.dropWhile (isSeparator true))
    | .plain => readPlain scheme rest

end JobsGateway.Url
