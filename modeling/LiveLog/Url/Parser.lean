import LiveLog.Url.Form
import LiveLog.Url.Host

/-!
# Reading addresses

An address names a scheme, and for the schemes of web servers and streams that is followed by a host,
with a user and a port if need be, and by a path, a query and a fragment. This reader keeps what such an
address says about the server, and its fragment; path and query of a server address mean nothing here.

Reading is forgiving: blanks around the address, and line ends and tabs anywhere in it, do not count;
backslashes are slashes; any number of slashes may stand before the host, none included.

Addresses of other schemes are read as far as needed to say what is wrong with them first.
-/

namespace LiveLog.Url

/-- The schemes of servers. -/
inductive Scheme where
  | http
  | https
  | ws
  | wss
deriving DecidableEq, Repr

namespace Scheme

/-- The name of a scheme. -/
def name : Scheme → String
  | .http => "http"
  | .https => "https"
  | .ws => "ws"
  | .wss => "wss"

/-- The schemes. -/
def all : List Scheme := [.http, .https, .ws, .wss]

/-- The port that an address of the scheme need not name. -/
def defaultPort : Scheme → Nat
  | .http | .ws => 80
  | .https | .wss => 443

end Scheme

/-- **A server as an address names it.** -/
structure Server where
  /-- User name and password as they are written, without the sign after them. -/
  userinfo : String := ""
  host : Host
  /-- The port, unless it is the default one of the scheme. -/
  port : Option Nat := none
deriving DecidableEq, Repr

/-- **An address that could be read.** -/
inductive Address where
  | server (scheme : Scheme) (server : Server) (fragment : Option String)
  /-- An address of another scheme. -/
  | other (scheme : String)
deriving DecidableEq, Repr

namespace Parser

/-! ## 1. The parts of an address -/

/-- What is left of an address when blanks and controls at its ends, and line ends and tabs in it, are
    dropped. -/
def significant (cs : List Char) : List Char :=
  let isEdge (c : Char) : Bool := c.toNat ≤ 0x20
  let trimmed := ((cs.dropWhile isEdge).reverse.dropWhile isEdge).reverse
  trimmed.filter fun c => c != '\t' && c != '\n' && c != '\r'

/-- Whether a character may stand in a scheme. -/
def isSchemeChar (c : Char) : Bool := c.isAlphanum || c == '+' || c == '-' || c == '.'

/-- The scheme in small letters and what follows its colon. -/
def scheme? (cs : List Char) : Option (String × List Char) :=
  match cs with
  | c :: _ =>
    if c.isAlpha then
      match cs.span isSchemeChar with
      | (name, ':' :: rest) => some (String.ofList (name.map Char.toLower), rest)
      | _ => none
    else none
  | [] => none

/-- Whether a character is a slash, where backslashes are slashes. -/
def isSlash (c : Char) : Bool := c == '/' || c == '\\'

/-- Whether a character ends the part with user, host and port. `web` tells whether backslashes are
    slashes. -/
def endsAuthority (web : Bool) (c : Char) : Bool :=
  c == '/' || c == '?' || c == '#' || (web && c == '\\')

/-- The text before the last `@`, if there is one, and the text after it. -/
def splitUser (cs : List Char) : Option (List Char) × List Char :=
  match cs.reverse.span (· != '@') with
  | (after, _ :: before) => (some before.reverse, after.reverse)
  | (_, []) => (none, cs)

/-- The written form of user name and password. Without a password no colon is written. -/
def userinfo (cs : List Char) : String :=
  let (name, rest) := cs.span (· != ':')
  let password := rest.drop 1
  String.ofList (percentEncode inUserinfo name ++
    (if password.isEmpty then [] else ':' :: percentEncode inUserinfo password))

/-- Splits off the host, which ends at a colon outside brackets. -/
def splitHost (inside : Bool) : List Char → List Char × List Char
  | [] => ([], [])
  | c :: cs =>
    if c == ':' && !inside then ([], c :: cs)
    else
      let (host, rest) := splitHost (c == '[' || (inside && c != ']')) cs
      (c :: host, rest)

/-- The port after a host, if one is named. -/
def port (cs : List Char) : Except Fault (Option Nat) :=
  match cs with
  | [] => .ok none
  | _ :: digits =>
    if digits.isEmpty then .ok none
    else
      match Ipv4.valueOf? 10 digits with
      | some n => if n ≤ 65535 then .ok (some n) else .error .port
      | none => .error .port

/-- The fragment of what follows the host. -/
def fragment (cs : List Char) : Option String :=
  match cs.dropWhile (· != '#') with
  | _ :: text => some (String.ofList (percentEncode inFragment text))
  | [] => none

/-! ## 2. Addresses -/

/-- The server in the part between the slashes and the path. -/
def server (defaultPort : Nat) (authority : List Char) : Except Fault Server := do
  let (user, hostPort) := splitUser authority
  let (hostText, portText) := splitHost false hostPort
  if hostText.isEmpty then .error .emptyHost
  else
    let host ← Host.parse hostText
    let port ← port portText
    pure { userinfo := (user.map userinfo).getD "", host, port := port.filter (· != defaultPort) }

/-- What is wrong with an address of a general scheme, from the slashes on. Such an address may lack a
    host, but then it has no user and no port either. -/
def checkGeneral (rest : List Char) : Except Fault Unit := do
  let authority := rest.takeWhile fun c => !endsAuthority false c
  let (user, hostPort) := splitUser authority
  let (hostText, portText) := splitHost false hostPort
  Host.checkOpaque hostText
  if hostText.isEmpty then
    let hasUser := (user.map userinfo).getD "" != ""
    let cutOff := user == some [] && rest.length != authority.length
    if !portText.isEmpty || hasUser || cutOff then .error .emptyHost else .ok ()
  else
    let _ ← port (portText.takeWhile (· != '\\'))
    pure ()

/-- Whether a text is a letter and a colon or bar, as in the path of a file. -/
def isDrive : List Char → Bool
  | [c, d] => c.isAlpha && (d == ':' || d == '|')
  | _ => false

/-- What is wrong with the host of a file address. -/
def checkFile (rest : List Char) : Except Fault Unit :=
  match rest with
  | a :: b :: rest =>
    if isSlash a && isSlash b then
      let host := rest.takeWhile fun c => !endsAuthority true c
      if host.isEmpty || isDrive host then .ok () else (Host.parse host).map fun _ => ()
    else .ok ()
  | _ => .ok ()

/-- What comes after the scheme of an address with a server: the server, and what follows it. -/
def serverAndRest (defaultPort : Nat) (rest : List Char) : Except Fault (Server × List Char) := do
  let rest := rest.dropWhile isSlash
  let authority := rest.takeWhile fun c => !endsAuthority true c
  let server ← server defaultPort authority
  pure (server, rest.drop authority.length)

/-- What is wrong with an address of a scheme that is no server's here. -/
def checkOther (scheme : String) (rest : List Char) : Except Fault Unit :=
  if scheme == "ftp" then (serverAndRest 21 rest).map fun _ => ()
  else if scheme == "file" then checkFile rest
  else
    match rest with
    | '/' :: '/' :: rest => checkGeneral rest
    | _ => .ok ()

end Parser

/-- **Reads an address.** -/
def parse (text : String) : Except Fault Address :=
  match Parser.scheme? (Parser.significant text.toList) with
  | none => .error .noScheme
  | some (name, rest) =>
    match Scheme.all.find? (·.name == name) with
    | some scheme => do
      let (server, rest) ← Parser.serverAndRest scheme.defaultPort rest
      pure (.server scheme server (Parser.fragment rest))
    | none => do
      Parser.checkOther name rest
      pure (.other name)

end LiveLog.Url
