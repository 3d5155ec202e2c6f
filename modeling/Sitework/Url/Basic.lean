import Sitework.Text.Blank
import Sitework.Url.Host
import Sitework.Url.Path

/-!
# URLs

A URL is read from a text into its parts, each in normal form, and written back from them.
A few schemes are special: they always have a host and a path, and take a backslash for a slash.
-/

namespace Sitework

/-- A URL, its parts in written form. -/
structure Url where
  /-- The scheme, in lower case. -/
  scheme : List Char
  /-- The user name and the password; empty for none. -/
  userInfo : List Char
  /-- The host. -/
  host : Option Host
  /-- The port, unless it is the usual one of the scheme. -/
  port : Option Nat
  /-- The path. -/
  path : UrlPath
  /-- What follows the question mark. -/
  query : Option (List Char)
  /-- What follows the hash. -/
  fragment : Option (List Char)
deriving DecidableEq, Repr

namespace Url

/-- Whether the path of a URL without a host would be taken for one. -/
def hidesHost (u : Url) : Bool :=
  u.host.isNone && (Text.after? ['/', '/'] u.path.text).isSome

/-- The written form of the path; one that would be taken for a host is marked. -/
def pathText (u : Url) : List Char :=
  if u.hidesHost then ['/', '.'] ++ u.path.text else u.path.text

/-- The written form of the host and what stands beside it. -/
def authorityText (u : Url) : List Char :=
  match u.host with
  | none => []
  | some host =>
    ['/', '/'] ++ (if u.userInfo = [] then [] else u.userInfo ++ ['@']) ++ host.text ++
      match u.port with
      | some port => ':' :: Nat.toDigits 10 port
      | none => []

/-- The written form of a URL. -/
def text (u : Url) : String :=
  String.ofList (u.scheme ++ [':'] ++ u.authorityText ++ u.pathText ++
    (u.query.map ('?' :: ·)).getD [] ++ (u.fragment.map ('#' :: ·)).getD [])

/-- The special schemes other than that of files, with their usual ports. -/
def usualPorts : List (List Char × Nat) :=
  [("http".toList, 80), ("https".toList, 443), ("ws".toList, 80), ("wss".toList, 443),
    ("ftp".toList, 21)]

/-- The scheme of files, which is special too. -/
def fileScheme : List Char := "file".toList

/-- Whether a scheme is special. -/
def isSpecial (scheme : List Char) : Bool :=
  scheme == fileScheme || (usualPorts.lookup scheme).isSome

/-- Whether a character separates segments of a path. -/
def isSeparator (scheme : List Char) (c : Char) : Bool :=
  c == '/' || (c == '\\' && isSpecial scheme)

/-- Whether a character ends a path. -/
def endsPath (c : Char) : Bool :=
  c == '?' || c == '#'

/-- Whether a character ends the part with the host. -/
def endsAuthority (scheme : List Char) (c : Char) : Bool :=
  isSeparator scheme c || endsPath c

/-- Blanks of ASCII and control characters at either end, and breaks anywhere, are no part of a
URL. -/
def strip (cs : List Char) : List Char :=
  let isOuter (c : Char) : Bool := c.toNat ≤ 0x20
  let isBreak (c : Char) : Bool := c == '\t' || c == '\n' || c == '\r'
  (((cs.dropWhile isOuter).reverse.dropWhile isOuter).reverse).filter fun c => !isBreak c

/-- Whether a character may stand in a scheme after its first letter. -/
def isSchemeChar (c : Char) : Bool :=
  c.isAlphanum || c == '+' || c == '-' || c == '.'

/-- The scheme and what follows its colon. -/
def scheme? : List Char → Option (List Char × List Char)
  | c :: cs =>
    match c.isAlpha, cs.dropWhile isSchemeChar with
    | true, ':' :: rest => some (Text.lower (c :: cs.takeWhile isSchemeChar), rest)
    | _, _ => none
  | [] => none

/-- What comes before and after the last `c`, if there is one. -/
def breakOnLast? (c : Char) (cs : List Char) : Option (List Char × List Char) :=
  (Text.breakOn? c cs.reverse).map fun (after, before) => (before.reverse, after.reverse)

/-- The written form of a user name and a password. -/
def userInfoText (cs : List Char) : List Char :=
  match Text.breakOn? ':' cs with
  | some (user, []) => Percent.encode Percent.inUserInfo user
  | some (user, password) =>
    Percent.encode Percent.inUserInfo user ++ ':' :: Percent.encode Percent.inUserInfo password
  | none => Percent.encode Percent.inUserInfo cs

/-- The user name and password before the host, and what follows them. -/
def readUserInfo (scheme cs : List Char) : Except UrlError (List Char × List Char) :=
  let authority := cs.takeWhile fun c => !endsAuthority scheme c
  let rest := cs.dropWhile fun c => !endsAuthority scheme c
  match breakOnLast? '@' authority with
  | none => .ok ([], cs)
  | some ([], []) => if rest = [] then .ok ([], []) else .error .emptyHost
  | some (user, host) => .ok (userInfoText user, host ++ rest)

/-- The host and what follows it. A colon in brackets is part of the host. -/
def readHost (scheme : List Char) (inBrackets : Bool) : List Char → List Char × List Char
  | [] => ([], [])
  | c :: cs =>
    if endsAuthority scheme c || (c == ':' && !inBrackets) then ([], c :: cs)
    else
      let (host, rest) := readHost scheme (c == '[' || (inBrackets && c != ']')) cs
      (c :: host, rest)

/-- The port after a colon, and what follows it. -/
def readPort (scheme : List Char) : List Char → Except UrlError (Option Nat × List Char)
  | ':' :: cs =>
    let digits := cs.takeWhile Char.isDigit
    let rest := cs.dropWhile Char.isDigit
    let value := Nat.ofDigitChars 10 digits 0
    let ended := rest.head?.all fun c => c == '/' || c == '\\' || endsPath c
    if 65535 < value || !ended then .error .invalidPort
    else if digits = [] || usualPorts.lookup scheme == some value then .ok (none, rest)
    else .ok (some value, rest)
  | cs => .ok (none, cs)

/-- Reads the query and the fragment of a URL that has its other parts. -/
def withEnd (u : Url) (cs : List Char) : Url :=
  let set := if isSpecial u.scheme then Percent.inSpecialQuery else Percent.inQuery
  let query (cs : List Char) := Percent.encode set cs
  let fragment (cs : List Char) := Percent.encode Percent.inFragment cs
  match cs with
  | '?' :: rest =>
    match Text.breakOn? '#' rest with
    | some (q, f) => { u with query := some (query q), fragment := some (fragment f) }
    | none => { u with query := some (query rest) }
  | '#' :: rest => { u with fragment := some (fragment rest) }
  | _ => u

/-- Reads the path and what follows it of a URL that has a host. -/
def withPath (u : Url) (cs : List Char) : Url :=
  let path := cs.takeWhile fun c => !endsPath c
  let list := if path = [] && !isSpecial u.scheme then []
    else UrlPath.split (isSeparator u.scheme) path
  withEnd { u with path := .segments list } (cs.dropWhile fun c => !endsPath c)

/-- A URL with nothing but a scheme. -/
def ofScheme (scheme : List Char) : Url :=
  ⟨scheme, [], none, none, .segments [], none, none⟩

/-- Reads a URL from its host on. -/
def ofAuthority (scheme cs : List Char) : Except UrlError Url := do
  let (user, cs) ← readUserInfo scheme cs
  let (text, cs) := readHost scheme false cs
  if text = [] && (isSpecial scheme || user ≠ []) then throw .emptyHost
  let host ← if isSpecial scheme then Host.ofDomain text else Host.ofText text
  if text = [] && cs.head? == some ':' then throw .emptyHost
  let (port, cs) ← readPort scheme cs
  return withPath { ofScheme scheme with userInfo := user, host := some host, port } cs

/-- Reads a URL without a host from its path on. -/
def ofPath (scheme cs : List Char) : Url :=
  let path := cs.takeWhile fun c => !endsPath c
  let rest := cs.dropWhile fun c => !endsPath c
  match cs with
  | '/' :: _ =>
    withEnd { ofScheme scheme with path := .segments (UrlPath.split (· == '/') path) } rest
  | _ =>
    let text := Percent.encode Percent.isAlwaysEncoded path
    withEnd { ofScheme scheme with path := .plain text } rest

/-- Reads the URL of a file with a host. The host goes away before the letter of a drive, and so
does the name of the machine itself. -/
def ofFilePath (host : Host) (cs : List Char) : Url :=
  let path := cs.takeWhile fun c => !endsPath c
  let list := UrlPath.splitFile (isSeparator fileScheme) path
  let isLocal := host == .name "localhost".toList
  let host := if isLocal || list.any UrlPath.isDrive then .name [] else host
  withEnd { ofScheme fileScheme with host := some host, path := .segments list }
    (cs.dropWhile fun c => !endsPath c)

/-- Reads the URL of a file. -/
def ofFile (cs : List Char) : Except UrlError Url :=
  let separates := isSeparator fileScheme
  match cs with
  | a :: b :: rest =>
    if separates a && separates b then
      let text := rest.takeWhile fun c => !endsAuthority fileScheme c
      if text = [] || UrlPath.isDrive text then .ok (ofFilePath (.name []) rest)
      else do
        let host ← Host.ofDomain text
        return ofFilePath host (rest.dropWhile fun c => !endsAuthority fileScheme c)
    else .ok (ofFilePath (.name []) cs)
  | _ => .ok (ofFilePath (.name []) cs)

/-- The URL of a text. -/
def parse (text : String) : Except UrlError Url :=
  match scheme? (strip text.toList) with
  | none => .error .relative
  | some (scheme, rest) =>
    if scheme = fileScheme then ofFile rest
    else if isSpecial scheme then ofAuthority scheme (rest.dropWhile (isSeparator scheme))
    else
      match Text.after? ['/', '/'] rest with
      | some rest => ofAuthority scheme rest
      | none => .ok (ofPath scheme rest)

end Url

end Sitework
