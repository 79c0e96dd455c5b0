import Graft.Domain.Name
import Graft.Url.Failure
import Graft.Url.Ipv6

/-!
# Hosts

The host of a URL is a domain name or an address. Schemes that name no network protocol have hosts
of their own kind, which are taken as they are.

* `Url.Host.read`: the host of a network protocol.
* `Url.Host.readOpaque`: any other host.
-/

namespace Graft.Url

/-- A host. -/
inductive Host where
  | empty
  | domain (name : List Char)
  | opaqueName (text : List Char)
  | ipv4 (address : Nat)
  | ipv6 (groups : List Nat)
deriving DecidableEq, Repr, Inhabited

namespace Host

/-- The address between square brackets. -/
def bracketed (cs : List Char) : Except Failure Host :=
  match cs.reverse with
  | ']' :: inner =>
    match ipv6? inner.reverse with
    | some groups => .ok (.ipv6 groups)
    | none => .error .invalidIpv6
  | _ => .error .invalidIpv6

/-- A host that is a domain name or an address. -/
def read : List Char → Except Failure Host
  | '[' :: rest => bracketed rest
  | cs =>
    match (percentDecode? cs).bind Domain.toAscii? with
    | none => .error .invalidDomainName
    | some [] => .error .emptyHost
    | some name =>
      if endsInNumber name then
        match ipv4? name with
        | some address => .ok (.ipv4 address)
        | none => .error .invalidIpv4
      else .ok (.domain name)

/-- Characters that no host may have. -/
def isForbidden (c : Char) : Bool := "\x00\t\n\r #/:<>?@[\\]^|".contains c

/-- A host that is taken as it is. -/
def readOpaque : List Char → Except Failure Host
  | [] => .ok .empty
  | '[' :: rest => bracketed rest
  | cs =>
    if cs.any isForbidden then .error .invalidDomainCharacter
    else .ok (.opaqueName (percentEncode inOpaque cs))

/-- The text of a host. -/
def text : Host → List Char
  | .empty => []
  | .domain name => name
  | .opaqueName cs => cs
  | .ipv4 address => ipv4Text address
  | .ipv6 groups => '[' :: ipv6Text groups ++ [']']

end Host

end Graft.Url
