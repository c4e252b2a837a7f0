import LobsterServer.Uri.Host
import LobsterServer.Uri.Scheme

set_option autoImplicit false

/-!
# Authorities

The part of a URI behind two slashes: who asks, which host, and at which port.
-/

namespace LobsterServer.Uri

/-- Who asks, which host, and at which port.  There may be no host where the scheme asks for
none. -/
structure Authority where
  user : Text
  password : Text
  host : Option Host
  port : Option Nat
  deriving DecidableEq, Repr

namespace Authority

/-- The authority of a place on this machine. -/
def here : Authority := ⟨[], [], none, none⟩

/-- Writes an authority. -/
def render (a : Authority) : Text :=
  a.user ++ (if a.password = [] then [] else ':' :: a.password)
    ++ (if a.user = [] ∧ a.password = [] then [] else ['@'])
    ++ (a.host.map Host.render).getD []
    ++ (a.port.map fun port => ':' :: (toString port).toList).getD []

/-- Parts a text at its first character that `stop` holds of; the rest starts with it. -/
def upTo (stop : Char → Bool) (t : Text) : Text × Text :=
  (t.takeWhile fun c => !stop c, t.dropWhile fun c => !stop c)

/-- Who asks, and the rest: all in front of the last at sign of the authority. -/
def readUser (m : Manner) (t : Text) : Option Text × Text :=
  let authority := (upTo m.isSeparator t).1
  if authority.contains '@' then
    let host := authority.reverse.takeWhile (· ≠ '@')
    let user := authority.take (authority.length - host.length - 1)
    (some user, t.drop (user.length + 1))
  else (none, t)

/-- The user and the password, which the first colon parts. -/
def splitUser (t : Text) : Text × Text :=
  let (user, password) := upTo (· = ':') t
  (Part.user.encode user, Part.user.encode (password.drop 1))

/-- The text of a host: up to a colon outside brackets or to the path. -/
def hostText (m : Manner) : (bracketed : Bool) → Text → Text
  | _, [] => []
  | bracketed, c :: rest =>
    if (c = ':' && !bracketed) || m.isSeparator c then []
    else c :: hostText m (c = '[' || (bracketed && c ≠ ']')) rest

/-- Reads a host; an empty text names none. -/
def readHost? (m : Manner) (t : Text) : Option (Option Host) :=
  if t = [] then some none
  else (if m = .other then Host.plain? t else Host.special? t).map some

/-- Reads a port and gives the path behind it. -/
def readPort? (t : Text) : Option (Option Nat × Text) :=
  let (digits, rest) := upTo (fun c => !c.isDigit) t
  let port := digits.foldl (fun n c => n * 10 + (c.toNat - '0'.toNat)) 0
  if 65535 < port ∨ (rest ≠ [] ∧ rest.head? ≠ some '/' ∧ rest.head? ≠ some '\\') then none
  else some (if digits = [] then none else some port, rest)

/-- Reads an authority and gives the path behind it.  `usual` is the port that goes without saying,
and `ends` tells whether the whole URI ends with `t`. -/
def read? (m : Manner) (usual : Option Nat) (ends : Bool) (t : Text) :
    Option (Authority × Text) := do
  let (user?, t) := readUser m t
  let (user, password) := splitUser (user?.getD [])
  if user? = some [] ∧ (if t = [] then !ends else (t.head?.map m.isSeparator).getD false) then none
  else
    let text := hostText m false t
    let rest := t.drop text.length
    let host ← readHost? m text
    let (port, path) ← if rest.head? = some ':' then readPort? (rest.drop 1) else some (none, rest)
    let isMissing := host = none
      ∧ (rest.head? = some ':' ∨ m = .web ∨ user ≠ [] ∨ password ≠ [])
    if isMissing then none
    else some (⟨user, password, host, if port = usual then none else port⟩, path)

/-- Whether a text is a drive letter and its sign. -/
def isDrive : Text → Bool
  | [c, d] => c.isAlpha && (d = ':' || d = '|')
  | _ => false

/-- Reads the host of a file and gives the path behind it.  This machine is no host, and a drive
letter belongs to the path. -/
def readFile? (t : Text) : Option (Authority × Text) :=
  let (raw, rest) := upTo Manner.file.isSeparator t
  let text := visible raw
  if isDrive text then some (here, t)
  else (readHost? .file text).map fun host =>
    (if host = some (.name "localhost".toList) then here else { here with host }, rest)

end Authority

end LobsterServer.Uri
