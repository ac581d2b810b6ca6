import LiveLog.Url.Domain.Ascii
import LiveLog.Url.Ipv6

/-!
# Hosts

The host of an address: a name, or a number in one of two notations. A name is kept in its ASCII form.
-/

namespace LiveLog.Url

/-- Why an address cannot be read. -/
inductive Fault where
  | noScheme
  | emptyHost
  | port
  | hostName
  | hostCharacter
  | ipv4
  | ipv6
deriving DecidableEq, Repr

/-- The wording of a fault. -/
def Fault.message : Fault → String
  | .noScheme => "relative URL without a base"
  | .emptyHost => "empty host"
  | .port => "invalid port number"
  | .hostName => "invalid international domain name"
  | .hostCharacter => "invalid domain character"
  | .ipv4 => "invalid IPv4 address"
  | .ipv6 => "invalid IPv6 address"

/-- **A host.** -/
inductive Host where
  | name (ascii : String)
  | ipv4 (address : Nat)
  | ipv6 (groups : List Nat)
deriving DecidableEq, Repr

namespace Host

/-- The text of a host. -/
def text : Host → String
  | .name ascii => ascii
  | .ipv4 address => Ipv4.text address
  | .ipv6 groups => "[" ++ Ipv6.text groups ++ "]"

/-- A host in brackets, whose opening bracket is already read. -/
def bracketed (rest : List Char) : Except Fault Host :=
  match rest.reverse with
  | ']' :: inner =>
    match Ipv6.parse? inner.reverse with
    | some groups => .ok (.ipv6 groups)
    | none => .error .ipv6
  | _ => .error .ipv6

/-- The characters of a name with its escapes undone. -/
def unescaped? (cs : List Char) : Option (List Char) :=
  (String.fromUTF8? (ByteArray.mk
    (percentDecode (String.ofList cs).toUTF8.toList).toArray)).map String.toList

/-- **Reads a host.** A name whose last label is a number has to be an address. -/
def parse : List Char → Except Fault Host
  | '[' :: rest => bracketed rest
  | cs =>
    match (unescaped? cs).bind Domain.toAscii? with
    | none => .error .hostName
    | some [] => .error .emptyHost
    | some ascii =>
      if Ipv4.endsInNumber ascii then
        match Ipv4.parse? ascii with
        | some address => .ok (.ipv4 address)
        | none => .error .ipv4
      else .ok (.name (String.ofList ascii))

/-- Whether the host of an address of a general scheme can be read. Such a name is not looked into. -/
def checkOpaque : List Char → Except Fault Unit
  | '[' :: rest => (bracketed rest).map fun _ => ()
  | cs =>
    if cs.any fun c => ['\x00', '\t', '\n', '\r', ' ', '#', '/', ':', '<', '>', '?', '@', '[', '\\', ']',
        '^', '|'].contains c
    then .error .hostCharacter
    else .ok ()

end Host
end LiveLog.Url
