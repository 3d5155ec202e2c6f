import Sitework.Url.Address
import Sitework.Url.Domain
import Sitework.Url.Percent

/-!
# Hosts

The host of a URL is a name or an address. The host of a special scheme is a domain name, which is
brought into its ASCII form; that of any other scheme is kept as it is.
-/

namespace Sitework

/-- Why a text is no URL. -/
inductive UrlError where
  /-- There is no scheme. -/
  | relative
  /-- The host is empty where there must be one. -/
  | emptyHost
  /-- The port is no number below 65536. -/
  | invalidPort
  /-- The host ends in a number and is no address of version 4. -/
  | invalidIpv4
  /-- The host is in brackets and is no address of version 6. -/
  | invalidIpv6
  /-- The host is no domain name. -/
  | invalidDomain
  /-- The host has a character that no host has. -/
  | invalidHostCharacter
deriving DecidableEq, Repr

/-- The text of the error. -/
def UrlError.message : UrlError → String
  | .relative => "relative URL without a base"
  | .emptyHost => "empty host"
  | .invalidPort => "invalid port number"
  | .invalidIpv4 => "invalid IPv4 address"
  | .invalidIpv6 => "invalid IPv6 address"
  | .invalidDomain => "invalid international domain name"
  | .invalidHostCharacter => "invalid domain character"

/-- A host. -/
inductive Host where
  /-- A name in its written form. -/
  | name (text : List Char)
  /-- The bits of an address of version 4. -/
  | ipv4 (bits : Nat)
  /-- The pieces of an address of version 6. -/
  | ipv6 (pieces : List Nat)
deriving DecidableEq, Repr

namespace Host

/-- The written form of a host. -/
def text : Host → List Char
  | .name text => text
  | .ipv4 bits => Address.text4 bits
  | .ipv6 pieces => '[' :: Address.text6 pieces ++ [']']

/-- The address in brackets. -/
def ofBrackets (cs : List Char) : Except UrlError Host :=
  match (Text.before? [']'] cs).bind Address.version6? with
  | some pieces => .ok (.ipv6 pieces)
  | none => .error .invalidIpv6

/-- The host of a special scheme. -/
def ofDomain (cs : List Char) : Except UrlError Host :=
  match cs with
  | '[' :: rest => ofBrackets rest
  | _ =>
    match (Utf8.decode? (Percent.decode (Utf8.encode cs))).bind Domain.toAscii? with
    | none => .error .invalidDomain
    | some [] => .error .emptyHost
    | some domain =>
      if Address.endsInNumber domain then
        match Address.version4? domain with
        | some bits => .ok (.ipv4 bits)
        | none => .error .invalidIpv4
      else .ok (.name domain)

/-- Characters that no host has. -/
def isForbidden (c : Char) : Bool :=
  ['\x00', '\t', '\n', '\r', ' ', '#', '/', ':', '<', '>', '?', '@', '[', '\\', ']', '^',
    '|'].contains c

/-- The host of any other scheme. -/
def ofText (cs : List Char) : Except UrlError Host :=
  match cs with
  | '[' :: rest => ofBrackets rest
  | _ =>
    if cs.any isForbidden then .error .invalidHostCharacter
    else .ok (.name (Percent.encode Percent.isAlwaysEncoded cs))

end Host

end Sitework
