import LobsterServer.Uri.Trail

set_option autoImplicit false

/-!
# Document URIs

Documents are named by absolute URIs.  Reading one brings it into normal form: small letters in
scheme and host, no port that goes without saying, no dots in the path, and escapes for all
characters that may not stand for themselves.  A URI that names a place on this machine gives the
path of the document.
-/

namespace LobsterServer

/-- The path of a URI. -/
inductive Uri.Trail where
  /-- pieces from the root -/
  | pieces (list : List Text)
  /-- a text without structure -/
  | plain (text : Text)
  deriving DecidableEq, Repr

/-- An absolute URI in normal form. -/
structure Uri where
  scheme : Text
  authority : Option Uri.Authority
  trail : Uri.Trail
  query : Option Text
  fragment : Option Text
  deriving DecidableEq, Repr

namespace Uri

/-! ## Reading -/

/-- A text without spaces and control characters around it. -/
def trim (t : Text) : Text :=
  let isOuter (c : Char) : Bool := c.toNat ≤ 0x20
  Text.dropEndWhile isOuter (t.dropWhile isOuter)

/-- Reads the path of a file, whose authority is known.  A path that starts with a drive letter as a
piece of its own is on this machine. -/
def onPath (authority : Authority) (path : Text) : Authority × Trail :=
  let w := walk .file (behindRoot .file path)
  (if w.onDrive then Authority.here else authority, .pieces (w.pieces .file))

/-- Reads the path and the authority of a file, which needs no slashes. -/
def readFile? (t : Text) : Option (Authority × Trail) :=
  let t := t.dropWhile isBreak
  match t.take 1, (t.drop 1).dropWhile isBreak with
  | [c], d :: rest =>
    if Manner.file.isSeparator c && Manner.file.isSeparator d then
      (Authority.readFile? rest).map fun (authority, path) => onPath authority path
    else some (onPath .here t)
  | _, _ => some (onPath .here t)

/-- Reads what stands between the scheme and the query; `ends` tells whether there is no query and
no fragment.  Breaks matter in the paths of files alone. -/
def readBody? (scheme : Text) (ends : Bool) (t : Text) : Option (Option Authority × Trail) :=
  match Manner.ofScheme scheme, visible t with
  | .file, _ => (readFile? t).map fun (authority, trail) => (some authority, trail)
  | .web, t => withAuthority .web (t.dropWhile Manner.web.isSeparator)
  | .other, '/' :: '/' :: t => withAuthority .other t
  | .other, '/' :: t => some (none, .pieces ((walk .other t).pieces .other))
  | .other, t => some (none, .plain (Part.plain.encode t))
where
  /-- Reads an authority and a path. -/
  withAuthority (m : Manner) (t : Text) : Option (Option Authority × Trail) :=
    (Authority.read? m (usualPort? scheme) ends t).map fun (authority, path) =>
      (some authority, .pieces (readTrail m path))

/-- Parts a text at the first `sep`, which belongs to neither part. -/
def cut (sep : Char) (t : Text) : Text × Option Text :=
  match t.dropWhile (· ≠ sep) with
  | [] => (t, none)
  | _ :: rest => (t.takeWhile (· ≠ sep), some rest)

/-- Reads an absolute URI. -/
def parse? (t : Text) : Option Uri := do
  let (scheme, rest) ← scheme? (trim t)
  let (rest, fragment) := cut '#' rest
  let (body, query) := cut '?' rest
  let (authority, trail) ← readBody? scheme (query = none ∧ fragment = none) body
  let part := if Manner.ofScheme scheme = .other then Part.query else Part.specialQuery
  return ⟨scheme, authority, trail, query.map fun q => part.encode (visible q),
    fragment.map fun f => Part.fragment.encode (visible f)⟩

/-! ## Writing -/

/-- Writes the path.  Without an authority it may not look like one. -/
def renderTrail : Option Authority → Trail → Text
  | none, .pieces ([] :: piece :: rest) =>
    "/.".toList ++ ([] :: piece :: rest).flatMap fun piece => '/' :: piece
  | _, .pieces list => list.flatMap fun piece => '/' :: piece
  | _, .plain text => text

/-- Writes a URI. -/
def render (u : Uri) : Text :=
  u.scheme ++ [':'] ++ (u.authority.map fun a => '/' :: '/' :: a.render).getD []
    ++ renderTrail u.authority u.trail
    ++ (u.query.map ('?' :: ·)).getD [] ++ (u.fragment.map ('#' :: ·)).getD []

/-- The normal form of an absolute URI. -/
def normal? (t : String) : Option String :=
  (parse? t.toList).map fun u => String.ofList u.render

/-! ## Places on this machine -/

/-- A drive letter at the end of a path is followed by a separator. -/
def closeDrive (bytes : List UInt8) : List UInt8 :=
  match bytes.reverse with
  | last :: letter :: _ :: _ =>
    if (last = 0x3A ∨ last = 0x7C) ∧ (Char.ofNat letter.toNat).isAlpha then bytes ++ [0x2F]
    else bytes
  | _ => bytes

/-- Whether a URI names no host but this machine. -/
def isHere (u : Uri) : Bool :=
  match u.authority.bind Authority.host with
  | none => true
  | some host => host = .name "localhost".toList

/-- The path a URI names on this machine, percent-decoded: it needs a path from the root and no
foreign host. -/
def path? (u : Uri) : Option Text :=
  match u.trail with
  | .pieces (piece :: rest) =>
    if u.isHere then
      let bytes := (piece :: rest).flatMap fun piece => 0x2F :: percentDecode piece
      some (Text.decodeLossy (closeDrive bytes))
    else none
  | _ => none

/-- The path that the text of a URI names on this machine. -/
def filePath? (uri : String) : Option String :=
  ((parse? uri.toList).bind path?).map String.ofList

end Uri

end LobsterServer
