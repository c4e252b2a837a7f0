import LobsterServer.Host.Shell.Arithmetic
import LobsterServer.Host.Shell.Order

set_option autoImplicit false

/-!
# Expansion

A word becomes glyphs: parameters, expressions and commands in it are replaced by their values.
The glyphs are then split into fields, or make up one text or one pattern.
-/

namespace LobsterServer.Host.Shell

/-! ## Parts of words -/

/-- The output of commands without the line breaks at its end. -/
def trimmedOutput (output : Raw) : Raw :=
  let bytes := output.filter (· ≠ '\x00')
  (bytes.reverse.dropWhile (· = '\n')).reverse

/-- The output of a command that runs on its own. -/
def capture (e : Executor) (c : Command) (s : Shell) : Raw × Shell :=
  let (world, n) := s.world.addChannel (.sink [] [])
  let part := { s with world }.fork
  let part := branch e (.command ⟨false, true⟩ c)
    { part with streams := withStream part.streams 1 n }
  let output := trimmedOutput (part.world.output n)
  let t := (s.joined part).waitUntil (part.world.ends n)
  (output, { t with
    world := t.world.setChannel n .null, status := s.status, outputStatus := t.status })

/-- The glyphs of all parameters: one text in quotes for the star, else one field for each. -/
def rowGlyphs (s : Shell) (name : Raw) (inQuotes : Bool) : List Glyph :=
  if name = ['*'] && inQuotes then Glyph.expanded true (joinedBy s.joint s.parameters)
  else ((s.parameters.map (Glyph.expanded inQuotes)).intersperse [.border]).flatten

/-- The value of a parameter, also of those that stand for all. -/
def valueOf? (s : Shell) (name : Raw) : Option Raw :=
  if isRow name then
    if s.parameters = [] then none else some (joinedBy s.joint s.parameters)
  else s.parameter? name

/-- The glyphs of a parameter. -/
def valueGlyphs (s : Shell) (name : Raw) (inQuotes : Bool) : List Glyph :=
  if isRow name then s.rowGlyphs name inQuotes
  else Glyph.expanded inQuotes ((s.parameter? name).getD [])

/-- Whether the shell has to complain about a parameter without a value. -/
def isMissing (s : Shell) (name : Raw) : Bool :=
  s.has 'u' && !isRow name && (s.parameter? name).isNone

/-- Expands a parameter. -/
def expandParameter (e : Executor) (name : Raw) (use : Use) (inQuotes : Bool) (s : Shell) :
    List Glyph × Shell :=
  let isThere (orEmpty : Bool) : Bool := (s.valueOf? name).any fun v => !orEmpty || v ≠ []
  let framed (glyphs : List Glyph) := if inQuotes then .mark :: glyphs else glyphs
  let missing := s.abandon 2 (name ++ ascii ": parameter not set")
  match use with
  | .value => if s.isMissing name then ([], missing) else (s.valueGlyphs name inQuotes, s)
  | .size =>
    if s.isMissing name then ([], missing)
    else (Glyph.expanded inQuotes (decimal ((s.valueOf? name).getD []).length), s)
  | .otherwise .standIn orEmpty word =>
    if isThere orEmpty then (s.valueGlyphs name inQuotes, s)
    else
      let (glyphs, s) := e.expand (!inQuotes) word s
      (framed glyphs, s)
  | .otherwise .replace orEmpty word =>
    if isThere orEmpty then
      let (glyphs, s) := e.expand (!inQuotes) word s
      (framed glyphs, s)
    else (framed [], s)
  | .otherwise .assign orEmpty word =>
    if isThere orEmpty then (s.valueGlyphs name inQuotes, s)
    else if !isName name then ([], s.abandon 2 (name ++ ascii ": bad variable name"))
    else
      let (glyphs, s) := e.expand false word s
      let value := Glyph.text glyphs
      (Glyph.expanded inQuotes value, if s.isRunning then s.assign name value else s)
  | .otherwise .fail orEmpty word =>
    if isThere orEmpty then (s.valueGlyphs name inQuotes, s)
    else
      let (glyphs, s) := e.expand false word s
      let complaint :=
        if !word.isEmpty then Glyph.text glyphs
        else if orEmpty then ascii "parameter not set or null"
        else ascii "parameter not set"
      ([], if s.isRunning then s.abandon 2 (name ++ ascii ": " ++ complaint) else s)
  | .trim front longest pattern =>
    if s.isMissing name then ([], missing)
    else
      let (glyphs, t) := e.expand false pattern s
      let p := Pattern.read (Glyph.marked glyphs)
      (Glyph.expanded inQuotes (Pattern.trim p front longest ((s.valueOf? name).getD [])), t)
  | .bad => ([], s.abandon 2 (ascii "Bad substitution"))

/-- Expands an expression. -/
def expandExpression (e : Executor) (expression : Word) (s : Shell) : List Glyph × Shell :=
  let (glyphs, s) := e.expand false expression s
  let text := Glyph.text glyphs
  if !s.isRunning then ([], s)
  else
    match Arithmetic.evaluate s.textOf text with
    | .ok (n, assigned) =>
      (Glyph.expanded true (signed n),
        assigned.reverse.foldl (fun s (name, value) => s.assign name (signed value)) s)
    | .error fault => ([], s.abandon 2 (fault.message text))

/-- Expands a part of a word. -/
def expandPiece (e : Executor) (splits : Bool) (p : Piece) (s : Shell) : List Glyph × Shell :=
  match p with
  | .text t => (t.map fun c => .char c false splits, s)
  | .quoted t => (.mark :: t.map fun c => .char c true false, s)
  | .parameter name use inQuotes => s.expandParameter e name use inQuotes
  | .arithmetic expression => s.expandExpression e expression
  | .output c inQuotes =>
    let (output, s) := s.capture e c
    (Glyph.expanded inQuotes output, s)

/-- Expands a word, part by part. -/
def expandWord (e : Executor) (splits : Bool) (w : Word) (s : Shell) : List Glyph × Shell :=
  w.foldl
    (fun (glyphs, s) p =>
      if !s.isRunning then (glyphs, s)
      else
        let (more, s) := s.expandPiece e splits p
        (glyphs ++ more, s))
    ([], s)

/-! ## Home -/

/-- Home directories, by the names of those who live there; the name of the shell's own is
empty. -/
def home? (s : Shell) (name : Raw) : Option Raw :=
  if name = [] then (s.lookUp? (ascii "HOME")).bind Variable.value
  else if name = ascii "root" then some (ascii "/root")
  else none

/-- A text with the home directory that a tilde at its front stands for.  The name behind it ends
at a slash or a colon; `isWhole` says that the text is not followed by other parts of its word. -/
def homeAt (s : Shell) (atColon isWhole : Bool) (t : Raw) : List Piece :=
  match t with
  | '~' :: rest =>
    let name := rest.takeWhile fun c => c ≠ '/' && !(atColon && c = ':')
    let after := rest.drop name.length
    if after = [] && !isWhole then [.text t]
    else
      match s.home? name with
      | some place => [.quoted place, .text after]
      | none => [.text t]
  | t => [.text t]

/-- A word whose tilde at the front stands for a home directory. -/
def withHome (s : Shell) (w : Word) : Word :=
  match w with
  | .text t :: rest => s.homeAt false rest.isEmpty t ++ rest
  | w => w

/-- The value of an assignment, where tildes behind colons stand for home directories too. -/
def withHomes (s : Shell) (w : Word) : Word :=
  match w with
  | .text t :: rest =>
    let parts := Text.splitOn ':' t
    let pieces := parts.zipIdx.map fun (part, i) =>
      s.homeAt true (rest.isEmpty || i + 1 < parts.length) part
    (pieces.intersperse [.text [':']]).flatten ++ rest
  | w => w

/-! ## Whole words -/

/-- The text of a word. -/
def textOfWord (e : Executor) (w : Word) (s : Shell) : Raw × Shell :=
  let (glyphs, s) := e.expand false (s.withHome w) s
  (Glyph.text glyphs, s)

/-- The value that a word gives to a variable. -/
def valueOfWord (e : Executor) (w : Word) (s : Shell) : Raw × Shell :=
  let (glyphs, s) := e.expand false (s.withHomes w) s
  (Glyph.text glyphs, s)

/-- The pattern of a word. -/
def patternOfWord (e : Executor) (w : Word) (s : Shell) : Pattern × Shell :=
  let (glyphs, s) := e.expand false (s.withHome w) s
  (Pattern.read (Glyph.marked glyphs), s)

/-- The fields of words. -/
def fieldsOf (e : Executor) (words : List Word) (s : Shell) : List Raw × Shell :=
  words.foldl
    (fun (fields, s) w =>
      if !s.isRunning then (fields, s)
      else
        let (glyphs, s) := e.expand false (s.withHome w) s
        let more := (splitFields s.separators glyphs).flatMap fun field =>
          if s.has 'f' then [field.text] else field.resolve s.world.disk s.directory
        (fields ++ more, s))
    ([], s)

end LobsterServer.Host.Shell
