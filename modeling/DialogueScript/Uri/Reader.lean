import DialogueScript.Disk.Path
import DialogueScript.Uri.Host

/-!
# URIs

`Uri.parse?` reads an absolute URI and brings it to one form: scheme and domain in lower case, the default number of
the service left out, dots in the path resolved, characters that may not stand in a part percent-encoded. `Uri.render`
writes it down, and two URIs are the same when they are written the same. `Uri.filePath?` is the path on disk that a URI
names.
-/

namespace DialogueScript

/-- Who is addressed, in front of the path. All texts are as they stand in the URI. -/
structure Authority where
  user : List Char
  password : Option (List Char)
  host : List Char
  /-- The number of a service on the host. -/
  service : Option Nat
  deriving DecidableEq, Repr

/-- An absolute URI. -/
structure Uri where
  scheme : List Char
  authority : Option Authority
  /-- The path as it stands in the URI. One that does not start with a slash has no structure. -/
  path : List Char
  query : Option (List Char)
  fragment : Option (List Char)
  deriving DecidableEq, Repr

namespace Uri

/-! ## Schemes -/

/-- The schemes with special rules. -/
inductive SchemeKind where
  | file
  | special
  | plain
  deriving DecidableEq, Repr

/-- The kind of a scheme. -/
def schemeKind (scheme : List Char) : SchemeKind :=
  match String.ofList scheme with
  | "file" => .file
  | "http" | "https" | "ws" | "wss" | "ftp" => .special
  | _ => .plain

/-- The number of the service that a scheme uses when none is given. -/
def defaultService? (scheme : List Char) : Option Nat :=
  match String.ofList scheme with
  | "http" | "ws" => some 80
  | "https" | "wss" => some 443
  | "ftp" => some 21
  | _ => none

/-- The characters of a scheme after its first letter. -/
def isSchemeChar (c : Char) : Bool := isLetter c || isDigit c || c == '+' || c == '-' || c == '.'

/-- The scheme of a text, in lower case, and the text after its colon. -/
def scheme? (s : List Char) : Option (List Char × List Char) := do
  let (scheme, rest) ← cut ':' s
  match scheme with
  | [] => none
  | c :: cs => if isLetter c && cs.all isSchemeChar then some (scheme.map Char.toLower, rest) else none

/-- Whether a character separates the segments of a path. In special schemes a backslash does, too. -/
def isSlash (kind : SchemeKind) (c : Char) : Bool := c == '/' || (kind != .plain && c == '\\')

/-! ## Authorities -/

/-- Cuts a text at its last occurrence of a character. -/
def cutLast (c : Char) (s : List Char) : Option (List Char × List Char) :=
  (cut c s.reverse).map fun (after, before) => (before.reverse, after.reverse)

/-- User name and password in front of the host. An empty password is no password. -/
def userInfo (s : List Char) : List Char × Option (List Char) :=
  match cut ':' s with
  | none => (encode inUserInfo s, none)
  | some (user, password) =>
    (encode inUserInfo user, if password.isEmpty then none else some (encode inUserInfo password))

/-- Cuts the host and the number behind it apart at the first colon outside brackets. -/
def cutService : Bool → List Char → List Char × Option (List Char)
  | _, [] => ([], none)
  | inside, c :: rest =>
    if c = ':' && !inside then ([], some rest)
    else
      let inside := if c = '[' then true else if c = ']' then false else inside
      let (host, service) := cutService inside rest
      (c :: host, service)

/-- The number of a service: digits for a number of 16 bits, or nothing at all. The scheme's own number is left out. A
backslash ends the digits; what is left belongs to the path. -/
def service? (scheme : List Char) : Option (List Char) → Option (Option Nat × List Char)
  | none => some (none, [])
  | some s =>
    let digits := s.takeWhile isDigit
    let rest := s.drop digits.length
    let n := digitsValue 10 digits
    if 65535 < n || (!rest.isEmpty && rest.head? != some '\\') then none
    else if digits.isEmpty || defaultService? scheme == some n then some (none, rest)
    else some (some n, rest)

/-- The authority at the start of a text and the path after it, for a scheme other than `file`. A special scheme needs a
host, and so do a user name and a number. An at sign with nothing on either side is refused when anything follows, be it
a path or the query or fragment that `more` tells of. -/
def authority? (scheme : List Char) (s : List Char) (more : Bool) : Option (Authority × List Char) := do
  let kind := schemeKind scheme
  let who := s.takeWhile fun c => !isSlash kind c
  let path := s.drop who.length
  let (info, rest) := (cutLast '@' who).getD ([], who)
  if who == ['@'] && (more || !path.isEmpty) then none
  let (user, password) := userInfo info
  let (hostText, serviceText) := cutService false rest
  let needsHost := kind == .special || serviceText.isSome || !user.isEmpty || password.isSome
  if hostText.isEmpty && needsHost then none
  let host ← if kind == .special then specialHost? hostText else plainHost? hostText
  let (service, more) ← service? scheme serviceText
  some (⟨user, password, host, service⟩, more ++ path)

/-! ## Paths -/

/-- Whether a text is a letter and a colon or bar: a drive. -/
def isDrive (s : List Char) : Bool :=
  match s with
  | [letter, mark] => isLetter letter && (mark == ':' || mark == '|')
  | _ => false

/-- Whether a text is a drive written with a colon. -/
def isPlainDrive (s : List Char) : Bool := isDrive s && s.getLast? == some ':'

/-- Whether a segment begins with a drive that ends at a slash of either kind, at a mark of a query or fragment, or with
the segment. -/
def beginsWithDrive (segment : List Char) : Bool :=
  isDrive (segment.take 2) && ((segment.drop 2).head?.map fun c => ['/', '\\', '?', '#'].contains c).getD true

/-- A segment in which encoded dots stand as dots. -/
def plainDots (segment : List Char) : List Char :=
  match segment with
  | [] => []
  | '%' :: '2' :: 'e' :: rest | '%' :: '2' :: 'E' :: rest => '.' :: plainDots rest
  | c :: rest => c :: plainDots rest

/-- A path with a slash at its end. -/
def withSlash (path : List Char) : List Char := if path.getLast? == some '/' then path else path ++ ['/']

/-- A path cut back to its last slash. A drive at the end of a `file` path stays. -/
def cutBack (kind : SchemeKind) (path : List Char) : List Char :=
  let last := (path.reverse.takeWhile (· != '/')).reverse
  if kind = .file && isPlainDrive last then path else path.take (path.length - last.length)

/-- A path without its last segment and the slash behind that; a segment that begins with a drive stays. -/
def shorten (kind : SchemeKind) (path : List Char) : List Char :=
  let inner := path.dropLast
  let segment := (inner.reverse.takeWhile (· != '/')).reverse
  let whole := path.getLast? == some '/' && inner.contains '/' && !beginsWithDrive segment
  cutBack kind (if whole then inner else path)

/-- A path that is being read, and whether a drive was found at its start. -/
structure PathSoFar where
  text : List Char
  drive : Bool
  deriving DecidableEq, Repr

/-- Adds a segment, with a slash behind it unless it is the last one: dots are resolved, and a drive at the start of a
`file` path gets its colon. -/
def addSegment (kind : SchemeKind) (p : PathSoFar) (segment : List Char) (last : Bool) : PathSoFar :=
  let dots := plainDots segment
  let slash := if last then [] else ['/']
  if dots = ['.', '.'] then
    let path := shorten kind p.text
    { p with text := if last then path else withSlash path }
  else if dots = ['.'] then { p with text := withSlash p.text }
  else if kind = .file && p.text.length = 1 && isDrive segment then
    ⟨p.text ++ segment.take 1 ++ [':'] ++ slash, true⟩
  else { p with text := p.text ++ segment ++ slash }

/-- Adds segments in order. -/
def addSegments (kind : SchemeKind) : PathSoFar → List (List Char) → PathSoFar
  | p, [] => p
  | p, [segment] => addSegment kind p segment true
  | p, segment :: rest => addSegments kind (addSegment kind p segment false) rest

/-- Splits a path at its slashes. -/
def pieces (kind : SchemeKind) (s : List Char) : List (List Char) :=
  splitOn '/' (s.map fun c => if isSlash kind c then '/' else c)

/-- Reads a path from a start on. A `file` path begins with one slash. -/
def readPath (kind : SchemeKind) (start s : List Char) : PathSoFar :=
  let p := addSegments kind ⟨start, false⟩ ((pieces kind s).map (encode inPath))
  if kind = .file then { p with text := '/' :: p.text.dropWhile (· == '/') } else p

/-! ## Whole URIs -/

/-- A text without a slash at its start. -/
def dropSlash (kind : SchemeKind) : List Char → List Char
  | [] => []
  | c :: rest => if isSlash kind c then rest else c :: rest

/-- Authority and path of a `file` URI. The host `localhost` is no host, a drive in its place belongs to the path, and a
drive at the start of the path leaves no host. -/
def fileBody? (s : List Char) : Option (Authority × List Char) := do
  let noHost : Authority := ⟨[], none, [], none⟩
  let slashes := (s.takeWhile (isSlash .file)).length
  if slashes = 0 then some (noHost, (readPath .file ['/'] s).text)
  else if slashes = 1 then some (noHost, (readPath .file [] s).text)
  else
    let rest := s.drop 2
    let hostText := rest.takeWhile fun c => !isSlash .file c
    let path := rest.drop hostText.length
    if isDrive hostText then some (noHost, (readPath .file ['/'] rest).text)
    else
      let host ← if hostText.isEmpty then some [] else specialHost? hostText
      if host.isEmpty || String.ofList host == "localhost" then some (noHost, (readPath .file ['/'] path).text)
      else
        let p := readPath .file ['/'] (dropSlash .file path)
        some (if p.drive then noHost else { noHost with host := host }, p.text)

/-- Authority and path behind a scheme that is not special. -/
def plainBody? (scheme : List Char) (s : List Char) (more : Bool) : Option (Option Authority × List Char) :=
  match s with
  | '/' :: '/' :: rest => do
    let (authority, path) ← authority? scheme rest more
    let text := match path with
      | [] => []
      | c :: _ => (readPath .plain (if c = '/' then [] else ['/']) path).text
    some (some authority, text)
  | '/' :: rest => some (none, (readPath .plain ['/'] rest).text)
  | _ => some (none, encode isControl s)

/-- Authority and path behind the scheme, without query and fragment; `more` says whether one of these follows. -/
def body? (scheme : List Char) (s : List Char) (more : Bool) : Option (Option Authority × List Char) :=
  match schemeKind scheme with
  | .file => (fileBody? s).map fun (authority, path) => (some authority, path)
  | .special => do
    let (authority, path) ← authority? scheme (s.dropWhile (isSlash .special)) more
    some (some authority, (readPath .special ['/'] (dropSlash .special path)).text)
  | .plain => plainBody? scheme s more

/-- A text without controls and blanks at its ends, and without tabs and line ends anywhere. -/
def cleaned (s : List Char) : List Char :=
  let isEdge (c : Char) : Bool := c.toNat ≤ 0x20
  let inner := ((s.dropWhile isEdge).reverse.dropWhile isEdge).reverse
  inner.filter fun c => c != '\t' && c != '\n' && c != '\r'

/-- Cuts off the part behind a mark. -/
def cutOff (mark : Char) (s : List Char) : List Char × Option (List Char) :=
  match cut mark s with
  | some (before, after) => (before, some after)
  | none => (s, none)

/-- The URI that a text is. -/
def parse? (text : List Char) : Option Uri := do
  let (scheme, rest) ← scheme? (cleaned text)
  let (rest, fragment) := cutOff '#' rest
  let (rest, query) := cutOff '?' rest
  let (authority, path) ← body? scheme rest (query.isSome || fragment.isSome)
  let set := if schemeKind scheme == .plain then inQuery else inSpecialQuery
  some {
    scheme := scheme
    authority := authority
    path := path
    query := query.map (encode set)
    fragment := fragment.map (encode inFragment) }

/-! ## Writing -/

/-- User name and password with the at sign behind them. -/
def renderUserInfo (a : Authority) : List Char :=
  match a.password with
  | some password => a.user ++ [':'] ++ password ++ ['@']
  | none => if a.user.isEmpty then [] else a.user ++ ['@']

/-- An authority with the slashes in front of it. -/
def renderAuthority (a : Authority) : List Char :=
  let service := match a.service with
    | some n => [':'] ++ Nat.toDigits 10 n
    | none => []
  ['/', '/'] ++ renderUserInfo a ++ a.host ++ service

/-- What stands between scheme and path: the authority, or a dot that keeps a path that begins with two slashes from
being read as one. -/
def renderBeforePath (u : Uri) : List Char :=
  match u.authority with
  | some a => renderAuthority a
  | none => if ['/', '/'].isPrefixOf u.path then ['/', '.'] else []

/-- A URI as a text. -/
def render (u : Uri) : String :=
  let behind (mark : Char) : Option (List Char) → List Char
    | some text => mark :: text
    | none => []
  String.ofList (u.scheme ++ [':'] ++ renderBeforePath u ++ u.path ++ behind '?' u.query ++ behind '#' u.fragment)

/-! ## Files -/

/-- Whether the last two bytes of a path are a drive. -/
def endsWithDrive (bytes : List UInt8) : Bool :=
  isDrive ((bytes.drop (bytes.length - 2)).map fun b => Char.ofNat b.toNat)

/-- The path on disk of a URI on this machine, whatever its scheme. A drive at its end gets a slash. -/
def filePath? (u : Uri) : Option Path :=
  let host := (u.authority.map Authority.host).getD []
  if u.path.head? != some '/' || !(host.isEmpty || String.ofList host == "localhost") then none
  else
    let bytes := decode u.path
    some ⟨if 2 < bytes.length && endsWithDrive bytes then bytes ++ [Path.slash] else bytes⟩

end Uri

end DialogueScript
