import LobsterServer.Text.Basic

set_option autoImplicit false

/-!
# Schemes

The scheme of a URI decides how the rest is read: schemes of the web always name a host, the scheme
of files may, and every other scheme may leave out host and structure.
-/

namespace LobsterServer.Uri

/-- How the rest of a URI is read. -/
inductive Manner where
  /-- a host is always named -/
  | web
  /-- a place on this machine, if no host is named -/
  | file
  | other
  deriving DecidableEq, Repr

/-- Schemes of the web and their ports. -/
def webPorts : List (Text × Nat) :=
  [("http", 80), ("https", 443), ("ws", 80), ("wss", 443), ("ftp", 21)].map
    fun (name, port) => (name.toList, port)

/-- The port that a scheme has unless a URI says otherwise. -/
def usualPort? (scheme : Text) : Option Nat := webPorts.lookup scheme

/-- How URIs of a scheme are read. -/
def Manner.ofScheme (scheme : Text) : Manner :=
  if scheme = "file".toList then .file
  else if (usualPort? scheme).isSome then .web
  else .other

/-- Whether a character parts the pieces of a path; a backslash does so on the web and in files. -/
def Manner.isSeparator (m : Manner) (c : Char) : Bool := c = '/' || (c = '\\' && m ≠ .other)

/-- Characters of a scheme after its first letter. -/
def isSchemeChar (c : Char) : Bool := c.isAlphanum || c = '+' || c = '-' || c = '.'

/-- Characters that may stand anywhere in a URI and mean nothing. -/
def isBreak (c : Char) : Bool := c = '\t' || c = '\n' || c = '\r'

/-- A text without its breaks. -/
def visible (t : Text) : Text := t.filter fun c => !isBreak c

/-- The scheme of a URI, in small letters, and what follows its colon. -/
def scheme? (t : Text) : Option (Text × Text) :=
  match visible (t.takeWhile (· ≠ ':')), t.dropWhile (· ≠ ':') with
  | c :: scheme, _ :: rest =>
    if c.isAlpha && scheme.all isSchemeChar then some ((c :: scheme).map Char.toLower, rest)
    else none
  | _, _ => none

end LobsterServer.Uri
