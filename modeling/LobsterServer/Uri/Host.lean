import LobsterServer.Text.Lossy
import LobsterServer.Uri.Address
import LobsterServer.Uri.Label

set_option autoImplicit false

/-!
# Hosts

The host of a URI is a name or an address.  Schemes for the web and for files want a domain: labels
between dots, whose characters past ASCII are written in ASCII.  Other schemes take any name whose
characters do not end a host.
-/

namespace LobsterServer.Uri

/-- The host a URI names. -/
inductive Host where
  | name (text : Text)
  | address4 (value : Nat)
  | address6 (groups : List Nat)
  deriving DecidableEq, Repr

/-- Writes a host. -/
def Host.render : Host → Text
  | .name text => text
  | .address4 value => Address4.render value
  | .address6 groups => '[' :: Address6.render groups ++ [']']

namespace Host

/-- Characters that no domain has. -/
def isForbidden (c : Char) : Bool :=
  c.toNat ≤ 0x20 || c.toNat = 0x7F
    || ['#', '/', ':', '<', '>', '?', '@', '[', '\\', ']', '^', '|', '%'].contains c

/-- The labels of a domain. -/
def labels? (t : Text) : Option (List Text) := do
  let text ← Label.replaced? t
  let labels ← (Text.splitOn '.' (Character.composed text)).mapM Label.ofText?
  if labels.all Label.isFit && Label.allDirectionsFit labels then some labels else none

/-- The ASCII form of a domain. -/
def domain? (t : Text) : Option Text := do
  let labels ← labels? t
  let domain := ['.'].intercalate (labels.map Label.toAscii)
  if domain = [] ∨ domain.any isForbidden then none else some domain

/-- Reads an address of 128 bits between brackets. -/
def bracketed? (t : Text) : Option Host :=
  if 1 < t.length ∧ t.getLast? = some ']' then
    (Address6.read? (t.drop 1).dropLast).map .address6
  else none

/-- Reads a host that is a domain or an address. -/
def special? (t : Text) : Option Host :=
  if t.head? = some '[' then bracketed? t
  else
    let bytes := percentDecode t
    if Text.isEncoding bytes then
      (domain? (Text.decodeLossy bytes)).bind fun domain =>
        if Address4.isMeant domain then (Address4.read? domain).map .address4
        else some (.name domain)
    else none

/-- Characters that end a name. -/
def isBoundary (c : Char) : Bool :=
  ['\x00', '\t', '\n', '\r', ' ', '#', '/', ':', '<', '>', '?', '@', '[', '\\', ']', '^',
    '|'].contains c

/-- Reads a host of any other scheme. -/
def plain? (t : Text) : Option Host :=
  if t.head? = some '[' then bracketed? t
  else if t.any isBoundary then none
  else some (.name (Part.plain.encode t))

end Host

end LobsterServer.Uri
