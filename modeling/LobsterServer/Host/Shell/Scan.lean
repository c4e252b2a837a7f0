import LobsterServer.Host.Shell.Script

set_option autoImplicit false

/-!
# Scanning shell scripts

A script is read from the front.  The state of a scan is what is left of it, with the line, a token
that was looked at too early, and the here-documents that begin at the next line.
-/

namespace LobsterServer.Host

/-- A redirection operator. -/
inductive RedirectMark where
  | read
  | write
  | clobber
  | append
  | both
  | followIn
  | followOut
  /-- a here-document, whose lines may be indented by tabs -/
  | here (indented : Bool)
  deriving DecidableEq, Repr

/-- A word or what stands between words. -/
inductive Token where
  | word (w : Word)
  | redirect (stream : Option Nat) (mark : RedirectMark)
  | operator (name : String)
  | keyword (name : String)
  | newline
  | ending

instance : Inhabited Token := ⟨.ending⟩

/-- A here-document that has been announced. -/
structure Announced where
  number : Nat
  /-- the line that ends it -/
  delimiter : Raw
  /-- whether parameters and commands in it are expanded -/
  expands : Bool
  /-- whether tabs at the front of its lines are dropped -/
  indented : Bool

/-- The state of a scan. -/
structure Scan where
  rest : Raw
  line : Nat
  pushed : Option Token
  announced : List Announced
  /-- here-documents that were read, by their numbers -/
  documents : List (Nat × Word)
  nextDocument : Nat

/-- Why a script cannot be read. -/
structure SyntaxFault where
  line : Nat
  message : Raw
  deriving DecidableEq, Repr

/-- Reads something from a script. -/
abbrev Scanner (α : Type) := StateT Scan (Except SyntaxFault) α

namespace Scanner

/-- Stops with a message. -/
def fault {α : Type} (message : Raw) : Scanner α := do
  let s ← get
  throw ⟨s.line, message⟩

/-- Goes on behind some characters. -/
def skip (taken : Raw) : Scanner Unit :=
  modify fun s =>
    { s with rest := s.rest.drop taken.length, line := s.line + taken.countP (· = '\n') }

/-- Reads characters as long as they satisfy `p`. -/
def takeWhile (p : Char → Bool) : Scanner Raw := do
  let taken := (← get).rest.takeWhile p
  skip taken
  return taken

/-- Gives a token back. -/
def push (t : Token) : Scanner Unit := modify fun s => { s with pushed := some t }

end Scanner

/-- The words that have a meaning of their own at the front of a command. -/
def keywords : List String :=
  ["!", "case", "do", "done", "elif", "else", "esac", "fi", "for", "if", "in", "then", "until",
   "while", "\x7b", "\x7d"]

/-- The token that a word stands for where keywords count. -/
def Token.asKeyword : Token → Token
  | .word w =>
    match Word.plain? w with
    | some t => if keywords.contains (String.ofList t) then .keyword (String.ofList t) else .word w
    | none => .word w
  | t => t

/-- The word that a token stands for where keywords do not count. -/
def Token.asWord? : Token → Option Word
  | .word w => some w
  | .keyword name => some [.text name.toList]
  | _ => none

/-- How a token is named in complaints. -/
def Token.shown : Token → Raw
  | .word _ => ascii "word"
  | .redirect _ _ => ascii "redirection"
  | .operator name => ascii ("\"" ++ name ++ "\"")
  | .keyword name => ascii ("\"" ++ name ++ "\"")
  | .newline => ascii "newline"
  | .ending => ascii "end of file"

/-- Whether a token is an operator or a keyword. -/
def Token.isSign (t : Token) (name : String) : Bool :=
  match t with
  | .operator n => n = name
  | .keyword n => n = name
  | _ => false

/-- Whether a list of commands may end in front of a token. -/
def Token.endsList : Token → Bool
  | .ending => true
  | .operator name => name = ")" || name = ";;"
  | .keyword name => ["then", "do", "else", "elif", "fi", "done", "esac", "\x7d"].contains name
  | _ => false

/-- Characters that end a word. -/
def isMeta (c : Char) : Bool := [' ', '\t', '\n', ';', '&', '|', '<', '>', '(', ')'].contains c

/-- Characters that have a meaning in a word. -/
def isActive (c : Char) : Bool := ['\\', '\'', '"', '$', '\x60'].contains c

/-- A word with a piece in front; texts without quotes are joined. -/
def Word.cons : Piece → Word → Word
  | .text s, .text t :: rest => .text (s ++ t) :: rest
  | .quoted s, .quoted t :: rest => if s = [] || t = [] then .quoted s :: .quoted t :: rest
    else .quoted (s ++ t) :: rest
  | p, w => p :: w

/-- A redirection operator at the front of a text, and its length. -/
def redirectMark? : Raw → Option (RedirectMark × Nat)
  | '<' :: '<' :: '-' :: _ => some (.here true, 3)
  | '<' :: '<' :: _ => some (.here false, 2)
  | '<' :: '&' :: _ => some (.followIn, 2)
  | '<' :: '>' :: _ => some (.both, 2)
  | '<' :: _ => some (.read, 1)
  | '>' :: '>' :: _ => some (.append, 2)
  | '>' :: '&' :: _ => some (.followOut, 2)
  | '>' :: '|' :: _ => some (.clobber, 2)
  | '>' :: _ => some (.write, 1)
  | _ => none

/-- An operator at the front of a text. -/
def operator? : Raw → Option String
  | '&' :: '&' :: _ => some "&&"
  | '&' :: _ => some "&"
  | '|' :: '|' :: _ => some "||"
  | '|' :: _ => some "|"
  | ';' :: ';' :: _ => some ";;"
  | ';' :: _ => some ";"
  | '(' :: _ => some "("
  | ')' :: _ => some ")"
  | _ => none

/-- The stream that a redirection concerns if none is named. -/
def RedirectMark.usualStream : RedirectMark → Nat
  | .write => 1
  | .clobber => 1
  | .append => 1
  | .followOut => 1
  | _ => 0

/-- The text between backquotes without the backslashes that protect characters in it, up to the
backquote that ends it; and how many characters that takes. -/
def backquoted? (inQuotes : Bool) : Raw → Option (Raw × Nat)
  | [] => none
  | '\x60' :: _ => some ([], 1)
  | '\\' :: c :: rest =>
    (backquoted? inQuotes rest).map fun (t, n) =>
      (if ['\\', '\x60', '$'].contains c || (inQuotes && c = '"') then c :: t else '\\' :: c :: t,
        n + 2)
  | c :: rest => (backquoted? inQuotes rest).map fun (t, n) => (c :: t, n + 1)

/-- The lines of a here-document: what is in front of the line that ends it, and how many characters
there are up to the line behind. -/
def documentLines (d : Announced) : List Raw → Raw × Nat
  | [] => ([], 0)
  | [last] => (if trimmed last = d.delimiter then [] else trimmed last, last.length)
  | line :: rest =>
    if trimmed line = d.delimiter then ([], line.length + 1)
    else
      let (body, n) := documentLines d rest
      (trimmed line ++ '\n' :: body, line.length + 1 + n)
where
  /-- A line without the tabs at its front, if they are to be dropped. -/
  trimmed (line : Raw) : Raw := if d.indented then line.dropWhile (· = '\t') else line

end LobsterServer.Host
