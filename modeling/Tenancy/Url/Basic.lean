import Tenancy.Url.Host
import Tenancy.Url.Path

/-!
# URLs

`Url.read` takes a URL apart: scheme, credentials, host, port, path and query. White space around the
text and line breaks within it do not count. Some schemes are common: they always have a host, a
backslash is a slash in them, and their usual port is left out. A `file` URL may lack its host, and
other schemes may also lack the slashes and have a path that is mere text.
-/

namespace Tenancy

/-- The parts of a URL. Credentials and query are as they were written; host and path are in their
canonical form. -/
structure Url where
  user : List Char := []
  password : Option (List Char) := none
  host : Option String := none
  port : Option Nat := none
  path : List Char := []
  query : List Char := []
  deriving DecidableEq, Repr

namespace Url

/-- The kinds of schemes. -/
inductive Scheme where
  | file
  | common (usualPort : Nat)
  | other
  deriving DecidableEq, Repr

/-- The kind of a scheme in lower case. -/
def Scheme.ofName (name : String) : Scheme :=
  match name with
  | "file" => .file
  | "http" | "ws" => .common 80
  | "https" | "wss" => .common 443
  | "ftp" => .common 21
  | _ => .other

/-- Whether a backslash is a slash. -/
def Scheme.isOther : Scheme → Bool
  | .other => true
  | _ => false

/-- Whether a character is a slash in a URL of this kind. -/
def Scheme.isSlash (s : Scheme) (c : Char) : Bool := c = '/' || (c = '\\' && !s.isOther)

/-- Whether a character ends what stands before the path. -/
def Scheme.endsAuthority (s : Scheme) (c : Char) : Bool := s.isSlash c || c = '?' || c = '#'

/-- The text without what does not count. -/
def cleaned (text : List Char) : List Char :=
  let counts (c : Char) : Bool := 0x20 < c.toNat
  let inner := ((text.dropWhile (!counts ·)).reverse.dropWhile (!counts ·)).reverse
  inner.filter fun c => c ≠ '\t' ∧ c ≠ '\n' ∧ c ≠ '\r'

/-- A character of a scheme. -/
def isSchemeChar (c : Char) : Bool := c.isAlphanum || c = '+' || c = '-' || c = '.'

/-- The scheme in lower case and what follows its colon. -/
def splitScheme? (text : List Char) : Option (String × List Char) :=
  if text.head?.any Char.isAlpha then
    match text.dropWhile isSchemeChar with
    | ':' :: rest => some (lowerAscii (String.ofList (text.takeWhile isSchemeChar)), rest)
    | _ => none
  else none
where
  lowerAscii (s : String) : String := String.ofList (s.toList.map Char.toLower)

/-- The user, the password if it is not empty, and what follows them. The last `@` before the path
ends them. -/
def splitCredentials (s : Scheme) (text : List Char) :
    Except UrlFault (List Char × Option (List Char) × List Char) :=
  let authority := text.takeWhile (!s.endsAuthority ·)
  let rest := text.dropWhile (!s.endsAuthority ·)
  if '@' ∈ authority then
    let host := (authority.reverse.takeWhile (· ≠ '@')).reverse
    let credentials := (authority.reverse.dropWhile (· ≠ '@')).reverse.dropLast
    if credentials = [] ∧ host = [] ∧ rest ≠ [] then .error .emptyHost
    else
      let password := (credentials.dropWhile (· ≠ ':')).drop 1
      .ok (credentials.takeWhile (· ≠ ':'), if password = [] then none else some password,
        host ++ rest)
  else .ok ([], none, text)

/-- The host, and what follows it; a colon between brackets is part of it. -/
def splitHost (s : Scheme) (inBrackets : Bool) : List Char → List Char × List Char
  | [] => ([], [])
  | c :: cs =>
    if s.endsAuthority c ∨ (c = ':' ∧ ¬ inBrackets) then ([], c :: cs)
    else
      let inBrackets := if c = '[' then true else if c = ']' then false else inBrackets
      let (host, rest) := splitHost s inBrackets cs
      (c :: host, rest)

/-- The port, unless it is the usual one, and what follows it. -/
def splitPort (s : Scheme) (text : List Char) : Except UrlFault (Option Nat × List Char) :=
  match text with
  | ':' :: text =>
    let digits := text.takeWhile Char.isDigit
    let rest := text.dropWhile Char.isDigit
    let port := Text.digitsValue 0 digits
    if Text.maxWord16 < port then .error .portNumber
    else if rest.head?.all fun c => c = '/' || c = '\\' || c = '?' || c = '#' then
      .ok (if digits = [] ∨ s = .common port then none else some port, rest)
    else .error .portNumber
  | _ => .ok (none, text)

/-- The segments between the slashes of a text, without a slash in front. -/
def segments (s : Scheme) (text : List Char) : List (List Char) :=
  let text := text.map fun c => if s.isSlash c then '/' else c
  (if text.head? = some '/' then text.tail else text).splitOn '/'

/-- What stands before the query and the fragment. -/
def pathPart (text : List Char) : List Char := text.takeWhile fun c => c ≠ '?' ∧ c ≠ '#'

/-- The query, which ends at a fragment. -/
def queryPart (text : List Char) : List Char :=
  let text := text.takeWhile (· ≠ '#')
  (text.dropWhile (· ≠ '?')).drop 1

/-- A URL whose host follows two slashes, for a scheme that is not `file`. -/
def readAuthority (s : Scheme) (text : List Char) : Except UrlFault Url := do
  let (user, password, text) ← splitCredentials s text
  let (hostText, text) := splitHost s false text
  let host ← if s.isOther then plainHost hostText
    else if hostText = [] then .error .emptyHost else commonHost hostText
  if hostText = [] ∧ (text.head? = some ':' ∨ user ≠ [] ∨ password ≠ none) then throw .emptyHost
  let (port, text) ← splitPort s text
  let path := pathPart text
  let path := if path = [] ∧ s.isOther then [] else pathText (resolve [] (segments s path))
  return {
    user, password, port, path
    host := if hostText = [] then none else some host
    query := queryPart text }

/-- A `file` URL, from what follows its colon. -/
def readFile (text : List Char) : Except UrlFault Url := do
  let twoSlashes := 2 ≤ (text.takeWhile Scheme.file.isSlash).length
  let afterSlashes := if twoSlashes then text.drop 2 else text
  let hostText := afterSlashes.takeWhile (!Scheme.file.endsAuthority ·)
  let hasHost := twoSlashes && !isDrive hostText && hostText ≠ []
  let host ← if hasHost then (commonHost hostText).map some else .ok none
  let text := if hasHost then afterSlashes.drop hostText.length else afterSlashes
  let raw := segments .file (pathPart text)
  let host := host.filter fun h => h ≠ "localhost" ∧ ¬ raw.any isDrive
  return { host, path := pathText (resolveFile raw), query := queryPart text }

/-- A URL without a host, from what follows the colon of its scheme. -/
def readHostless (text : List Char) : Url :=
  let path := pathPart text
  let path :=
    if path.head? = some '/' then pathText (resolve [] (segments .other path))
    else percentEncode (fun _ => false) path
  { path, query := queryPart text }

/-- Takes a URL apart. -/
def read (text : String) : Except UrlFault Url :=
  match splitScheme? (cleaned text.toList) with
  | none => .error .noScheme
  | some (name, rest) =>
    match Scheme.ofName name with
    | .file => readFile rest
    | .common port => readAuthority (.common port) (rest.dropWhile (Scheme.common port).isSlash)
    | .other =>
      match rest with
      | '/' :: '/' :: rest => readAuthority .other rest
      | _ => .ok (readHostless rest)

/-- The names and values of the query, in order. -/
def queryPairs (u : Url) : List (String × String) := formPairs u.query

end Url
end Tenancy
