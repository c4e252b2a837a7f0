import LobsterServer.Host.Number
import LobsterServer.Host.Shell.Scan

set_option autoImplicit false

/-!
# Reading shell scripts

Words, commands and lists of commands are read by functions that call each other, since a word may
hold commands.  Each takes fuel that bounds the depth of its recursion; a multiple of the length of
the script is always enough.
-/

namespace LobsterServer.Host

/-- Where quoted text stands: what ends it, and what a backslash protects. -/
inductive Quoting where
  /-- between double quotes -/
  | string
  /-- in the braces of a parameter between double quotes -/
  | braces
  /-- in a here-document -/
  | document
  deriving DecidableEq, Repr

/-- Whether a backslash protects a character. -/
def Quoting.protects (q : Quoting) (c : Char) : Bool :=
  ['$', '\\', '\x60'].contains c || (c = '"' && q ≠ .document) || (c = '\x7d' && q = .braces)

/-- Whether a character has a meaning in quoted text. -/
def Quoting.isActive (q : Quoting) (c : Char) : Bool :=
  ['\\', '$', '\x60'].contains c || (c = '"' && q ≠ .document) || (c = '\x7d' && q = .braces)

/-- Characters of a parameter that has a value of its own making. -/
def isSpecialParameter (c : Char) : Bool :=
  ['#', '@', '*', '?', '$', '!', '-'].contains c || c.isDigit

/-- The name of a parameter at the front of a text. -/
def parameterName (inBraces : Bool) (t : Raw) : Raw :=
  match t with
  | [] => []
  | c :: _ =>
    if c.isDigit && inBraces then t.takeWhile Char.isDigit
    else if isSpecialParameter c then [c]
    else t.takeWhile isNameChar

/-- What follows the name of a parameter in braces: its use, as far as no word is needed, whether
the word is a pattern, and how many characters that takes. -/
def useMark? : Raw → Option ((Word → Use) × Bool × Nat)
  | ':' :: '-' :: _ => some (.otherwise .standIn true, false, 2)
  | ':' :: '=' :: _ => some (.otherwise .assign true, false, 2)
  | ':' :: '?' :: _ => some (.otherwise .fail true, false, 2)
  | ':' :: '+' :: _ => some (.otherwise .replace true, false, 2)
  | '-' :: _ => some (.otherwise .standIn false, false, 1)
  | '=' :: _ => some (.otherwise .assign false, false, 1)
  | '?' :: _ => some (.otherwise .fail false, false, 1)
  | '+' :: _ => some (.otherwise .replace false, false, 1)
  | '#' :: '#' :: _ => some (.trim true true, true, 2)
  | '#' :: _ => some (.trim true false, true, 1)
  | '%' :: '%' :: _ => some (.trim false true, true, 2)
  | '%' :: _ => some (.trim false false, true, 1)
  | _ => none

/-- Where an unquoted word ends. -/
inductive WordEnd where
  /-- at a character that stands between words -/
  | gap
  /-- at the brace that ends a parameter -/
  | brace
  deriving DecidableEq, Repr

/-- Whether a word ends in front of a character. -/
def WordEnd.holds (e : WordEnd) (c : Char) : Bool :=
  match e with
  | .gap => isMeta c
  | .brace => c = '\x7d'

/-- A complaint about a token that does not fit. -/
def unexpected {α : Type} (t : Token) : Scanner α := .fault (ascii "Syntax error: " ++ t.shown
  ++ ascii " unexpected")

/-- A complaint about a token that is not the one that has to come. -/
def expecting {α : Type} (t : Token) (name : String) : Scanner α :=
  .fault (ascii "Syntax error: " ++ t.shown
    ++ ascii (" unexpected (expecting \"" ++ name ++ "\")"))

/-- A syntax error. -/
def malformed {α : Type} (message : String) : Scanner α :=
  .fault (ascii ("Syntax error: " ++ message))

/-- The names of the commands that no function may have. -/
def specialCommands : List String :=
  [".", ":", "break", "continue", "eval", "exec", "exit", "export", "readonly", "return", "set",
   "shift", "trap", "unset"]

/-- Commands joined by conditions or order, where there may be none yet. -/
def joinCommands (first : Option Command) (second : Command) : Option Command :=
  match first with
  | none => some second
  | some c => some (.sequence c second)

mutual

/-- Reads a word without quotes around it. -/
def readWord (fuel : Nat) (stop : WordEnd) : Scanner Word :=
  match fuel with
  | 0 => malformed "too deep"
  | fuel + 1 => do
    match (← get).rest with
    | [] => return []
    | '\\' :: '\n' :: _ =>
      Scanner.skip ['\\', '\n']
      readWord fuel stop
    | ['\\'] =>
      Scanner.skip ['\\']
      return [.quoted ['\\']]
    | '\\' :: c :: _ =>
      Scanner.skip ['\\', c]
      return Word.cons (.quoted [c]) (← readWord fuel stop)
    | '\'' :: _ =>
      Scanner.skip ['\'']
      let inside ← Scanner.takeWhile (· ≠ '\'')
      if (← get).rest = [] then malformed "Unterminated quoted string"
      else
        Scanner.skip ['\'']
        return .quoted inside :: (← readWord fuel stop)
    | '"' :: _ =>
      Scanner.skip ['"']
      let inside ← readQuoted fuel .string
      let rest ← readWord fuel stop
      return (if inside.isEmpty then [.quoted []] else inside) ++ rest
    | '$' :: _ =>
      Scanner.skip ['$']
      let p ← readDollar fuel false
      return Word.cons p (← readWord fuel stop)
    | '\x60' :: _ =>
      let p ← readBackquoted fuel false
      return p :: (← readWord fuel stop)
    | c :: _ =>
      if stop.holds c then return []
      else
        let t ← Scanner.takeWhile fun c => !isActive c && !stop.holds c
        return Word.cons (.text t) (← readWord fuel stop)

/-- Reads quoted text up to its end. -/
def readQuoted (fuel : Nat) (q : Quoting) : Scanner Word :=
  match fuel with
  | 0 => malformed "too deep"
  | fuel + 1 => do
    match (← get).rest with
    | [] =>
      if q = .document then return []
      else if q = .braces then malformed "Missing '\x7d'"
      else malformed "Unterminated quoted string"
    | '\\' :: '\n' :: _ =>
      Scanner.skip ['\\', '\n']
      readQuoted fuel q
    | '\\' :: c :: _ =>
      Scanner.skip ['\\', c]
      let rest ← readQuoted fuel q
      return Word.cons (.quoted (if q.protects c then [c] else ['\\', c])) rest
    | '$' :: _ =>
      Scanner.skip ['$']
      let p ← readDollar fuel true
      return Word.cons p (← readQuoted fuel q)
    | '\x60' :: _ =>
      let p ← readBackquoted fuel true
      return p :: (← readQuoted fuel q)
    | c :: _ =>
      if c = '"' && q = .string then
        Scanner.skip [c]
        return []
      else if c = '"' && q = .braces then
        Scanner.skip [c]
        let inside ← readQuoted fuel .string
        return inside ++ (← readQuoted fuel q)
      else if c = '\x7d' && q = .braces then return []
      else
        let t ← Scanner.takeWhile fun c => !q.isActive c
        if t = [] then
          Scanner.skip [c]
          return Word.cons (.quoted [c]) (← readQuoted fuel q)
        else return Word.cons (.quoted t) (← readQuoted fuel q)

/-- Reads what follows a dollar sign. -/
def readDollar (fuel : Nat) (inQuotes : Bool) : Scanner Piece :=
  match fuel with
  | 0 => malformed "too deep"
  | fuel + 1 => do
    match (← get).rest with
    | '(' :: '(' :: _ =>
      Scanner.skip ['(', '(']
      return .arithmetic (← readArithmetic fuel 0)
    | '(' :: _ =>
      Scanner.skip ['(']
      let body ← readList fuel false true none
      let t ← readToken fuel false false
      if t.isSign ")" then return .output (body.getD .skip) inQuotes else expecting t ")"
    | '\x7b' :: _ =>
      Scanner.skip ['\x7b']
      readBraces fuel inQuotes
    | rest =>
      let name := parameterName false rest
      if name = [] then return if inQuotes then .quoted ['$'] else .text ['$']
      else
        Scanner.skip name
        return .parameter name .value inQuotes

/-- Reads a parameter in braces, behind the first of them. -/
def readBraces (fuel : Nat) (inQuotes : Bool) : Scanner Piece :=
  match fuel with
  | 0 => malformed "too deep"
  | fuel + 1 => do
    let rest := (← get).rest
    let isSize := match rest with
      | '#' :: c :: more => (isNameChar c || isSpecialParameter c)
        && ((c :: more).drop (parameterName true (c :: more)).length).head? = some '\x7d'
      | _ => false
    if isSize then
      let name := parameterName true (rest.drop 1)
      Scanner.skip ('#' :: name ++ ['\x7d'])
      return .parameter name .size inQuotes
    else
      let name := parameterName true rest
      Scanner.skip name
      let rest := (← get).rest
      match rest with
      | '\x7d' :: _ =>
        Scanner.skip ['\x7d']
        return .parameter name (if name = [] then .bad else .value) inQuotes
      | _ =>
        let (use, isPattern, n) := (useMark? rest).getD (fun _ => .bad, false, 0)
        Scanner.skip (rest.take n)
        let word ←
          if inQuotes && !isPattern then readQuoted fuel .braces else readWord fuel .brace
        if (← get).rest = [] then malformed "Missing '\x7d'"
        else
          Scanner.skip ['\x7d']
          return .parameter name (if name = [] then .bad else use word) inQuotes

/-- Reads an expression up to the parentheses that end it, where `depth` parentheses are open. -/
def readArithmetic (fuel depth : Nat) : Scanner Word :=
  match fuel with
  | 0 => malformed "too deep"
  | fuel + 1 => do
    match (← get).rest with
    | [] => malformed "Missing '))'"
    | '\\' :: '\n' :: _ =>
      Scanner.skip ['\\', '\n']
      readArithmetic fuel depth
    | '$' :: _ =>
      Scanner.skip ['$']
      let p ← readDollar fuel true
      return p :: (← readArithmetic fuel depth)
    | '\x60' :: _ =>
      let p ← readBackquoted fuel true
      return p :: (← readArithmetic fuel depth)
    | '"' :: _ =>
      Scanner.skip ['"']
      readArithmetic fuel depth
    | ')' :: ')' :: _ =>
      if depth = 0 then
        Scanner.skip [')', ')']
        return []
      else
        Scanner.skip [')']
        return Word.cons (.quoted [')']) (← readArithmetic fuel (depth - 1))
    | c :: _ =>
      Scanner.skip [c]
      let depth := if c = '(' then depth + 1 else if c = ')' then depth - 1 else depth
      return Word.cons (.quoted [c]) (← readArithmetic fuel depth)

/-- Reads commands between backquotes. -/
def readBackquoted (fuel : Nat) (inQuotes : Bool) : Scanner Piece :=
  match fuel with
  | 0 => malformed "too deep"
  | fuel + 1 => do
    Scanner.skip ['\x60']
    let s ← get
    match backquoted? inQuotes s.rest with
    | none =>
      Scanner.skip s.rest
      malformed "EOF in backquote substitution"
    | some (t, n) =>
      Scanner.skip (s.rest.take n)
      let outer ← get
      set { outer with rest := t, line := s.line, pushed := none }
      let body ← readList fuel false true none
      let last ← readToken fuel false false
      match last with
      | .ending =>
        modify fun inner =>
          { inner with rest := outer.rest, line := outer.line, pushed := outer.pushed }
        return .output (body.getD .skip) inQuotes
      | t => unexpected t

/-- Reads the here-documents that have been announced. -/
def readDocuments (fuel : Nat) : Scanner Unit :=
  match fuel with
  | 0 => malformed "too deep"
  | fuel + 1 => do
    let s ← get
    match s.announced with
    | [] => return ()
    | d :: announced =>
      let (body, n) := documentLines d (Text.splitOn '\n' s.rest)
      Scanner.skip (s.rest.take n)
      let outer ← get
      set { outer with rest := body, pushed := none, announced := [] }
      let word ← if d.expands then readQuoted fuel .document else pure [.quoted body]
      modify fun inner =>
        { inner with
          rest := outer.rest, line := outer.line, pushed := outer.pushed, announced
          documents := (d.number, word) :: inner.documents }
      readDocuments fuel

/-- Reads the next word or operator from the script. -/
def scanToken (fuel : Nat) : Scanner Token :=
  match fuel with
  | 0 => malformed "too deep"
  | fuel + 1 => do
    let _ ← Scanner.takeWhile fun c => c = ' ' || c = '\t'
    let rest := (← get).rest
    match rest with
    | [] => return .ending
    | '\\' :: '\n' :: _ =>
      Scanner.skip ['\\', '\n']
      scanToken fuel
    | '#' :: _ =>
      let _ ← Scanner.takeWhile (· ≠ '\n')
      scanToken fuel
    | '\n' :: _ =>
      Scanner.skip ['\n']
      readDocuments fuel
      return .newline
    | c :: after =>
      match redirectMark? rest, redirectMark? after, operator? rest with
      | some (mark, n), _, _ =>
        Scanner.skip (rest.take n)
        return .redirect none mark
      | none, mark, some name =>
        let _ := mark
        Scanner.skip name.toList
        return .operator name
      | none, some (mark, n), none =>
        if c.isDigit then
          Scanner.skip (rest.take (n + 1))
          return .redirect (digitValue? c) mark
        else return .word (← readWord fuel .gap)
      | none, none, none => return .word (← readWord fuel .gap)

/-- Reads a token: behind empty lines if `lines` says so, and as a keyword if `words` does. -/
def readToken (fuel : Nat) (lines words : Bool) : Scanner Token :=
  match fuel with
  | 0 => malformed "too deep"
  | fuel + 1 => do
    let s ← get
    let t ← match s.pushed with
      | some t =>
        set { s with pushed := none }
        pure t
      | none => scanToken fuel
    match t with
    | .newline => if lines then readToken fuel lines words else return t
    | t => return if words then t.asKeyword else t

/-- Reads a list of commands.  At the top level it is the rest of a line; elsewhere it goes on
behind lines, and `mayEnd` says that it may end in front of the next token.  `first` is what has
been read of it. -/
def readList (fuel : Nat) (top mayEnd : Bool) (first : Option Command) :
    Scanner (Option Command) :=
  match fuel with
  | 0 => malformed "too deep"
  | fuel + 1 => do
    let t ← readToken fuel (!top) true
    match t with
    | .newline => return first
    | .ending =>
      readDocuments fuel
      Scanner.push t
      return first
    | _ =>
      Scanner.push t
      if mayEnd && !top && t.endsList then return first
      else
        let line := (← get).line
        let c ← readConditions fuel none
        let t ← readToken fuel false false
        let c := if t.isSign "&" then Command.background line c else c
        let first := joinCommands first c
        match t with
        | .ending =>
          readDocuments fuel
          Scanner.push t
          return first
        | .newline =>
          Scanner.push t
          readList fuel top true first
        | _ =>
          if t.isSign ";" || t.isSign "&" then readList fuel top true first
          else if top then unexpected t
          else
            Scanner.push t
            return first

/-- Reads pipelines joined by conditions; `first` makes a condition of the next. -/
def readConditions (fuel : Nat) (first : Option (Command → Command)) : Scanner Command :=
  match fuel with
  | 0 => malformed "too deep"
  | fuel + 1 => do
    let c ← readPipeline fuel
    let c := match first with
      | none => c
      | some join => join c
    let t ← readToken fuel false false
    if t.isSign "&&" || t.isSign "||" then
      Scanner.push (← readToken fuel true true)
      readConditions fuel (some (if t.isSign "&&" then .both c else .either c))
    else
      Scanner.push t
      return c

/-- Reads a pipeline. -/
def readPipeline (fuel : Nat) : Scanner Command :=
  match fuel with
  | 0 => malformed "too deep"
  | fuel + 1 => do
    let t ← readToken fuel false false
    if t.isSign "!" then
      Scanner.push (← readToken fuel false true)
      let c ← readStages fuel
      return .negated c
    else
      Scanner.push t
      readStages fuel

/-- Reads the commands of a pipeline. -/
def readStages (fuel : Nat) : Scanner Command :=
  match fuel with
  | 0 => malformed "too deep"
  | fuel + 1 => do
    let first ← readCommand fuel
    let t ← readToken fuel false false
    if t.isSign "|" then
      Scanner.push (← readToken fuel true true)
      match ← readStages fuel with
      | .pipe others => return .pipe (first :: others)
      | second => return .pipe [first, second]
    else
      Scanner.push t
      return first

/-- Reads one command. -/
def readCommand (fuel : Nat) : Scanner Command :=
  match fuel with
  | 0 => malformed "too deep"
  | fuel + 1 => do
    let t ← readToken fuel false false
    let line := (← get).line
    match t with
    | .word _ =>
      Scanner.push t
      readSimple fuel line [] [] []
    | .redirect _ _ =>
      Scanner.push t
      readSimple fuel line [] [] []
    | .operator "(" =>
      let body ← readList fuel false false none
      readSign fuel ")"
      return .subshell line (body.getD .skip) (← readRedirects fuel)
    | .keyword name =>
      let body ← match name with
        | "\x7b" => do
          let body ← readList fuel false false none
          readSign fuel "\x7d"
          pure (body.getD .skip)
        | "if" => do
          let c ← readChoice fuel
          readSign fuel "fi"
          pure c
        | "while" => readLoop fuel false
        | "until" => readLoop fuel true
        | "for" => readEach fuel line
        | "case" => readSelect fuel line
        | _ => unexpected t
      let redirects ← readRedirects fuel
      return if redirects.isEmpty then body else .group line body redirects
    | _ => unexpected t

/-- Reads an operator or a keyword that has to come. -/
def readSign (fuel : Nat) (name : String) : Scanner Unit :=
  match fuel with
  | 0 => malformed "too deep"
  | fuel + 1 => do
    let t ← readToken fuel false true
    if t.isSign name then return () else expecting t name

/-- Reads a condition and what depends on it, up to the keyword that ends it. -/
def readChoice (fuel : Nat) : Scanner Command :=
  match fuel with
  | 0 => malformed "too deep"
  | fuel + 1 => do
    let condition ← readList fuel false false none
    readSign fuel "then"
    let body ← readList fuel false false none
    let t ← readToken fuel false true
    let choice (other : Option Command) : Command :=
      .choice (condition.getD .skip) (body.getD .skip) (other.getD .skip)
    if t.isSign "elif" then return choice (some (← readChoice fuel))
    else if t.isSign "else" then return choice (← readList fuel false false none)
    else
      Scanner.push t
      return choice none

/-- Reads the condition and the body of a loop. -/
def readLoop (fuel : Nat) (inverted : Bool) : Scanner Command :=
  match fuel with
  | 0 => malformed "too deep"
  | fuel + 1 => do
    let condition ← readList fuel false false none
    readSign fuel "do"
    let body ← readList fuel false false none
    readSign fuel "done"
    return .loop inverted (condition.getD .skip) (body.getD .skip)

/-- Reads the words and the body of a loop with a variable. -/
def readEach (fuel line : Nat) : Scanner Command :=
  match fuel with
  | 0 => malformed "too deep"
  | fuel + 1 => do
    let t ← readToken fuel false false
    let name? := match t with
      | .word w => Word.plain? w
      | _ => none
    match name? with
    | none => malformed "Bad for loop variable"
    | some name =>
      if !isName name then malformed "Bad for loop variable"
      else
        let t ← readToken fuel true true
        let words ← if t.isSign "in" then do
            let words ← readWords fuel
            let t ← readToken fuel false false
            match t with
            | .newline => pure words
            | _ => if t.isSign ";" then pure words else unexpected t
          else do
            if !t.isSign ";" then Scanner.push t
            pure [[.parameter ['@'] .value true]]
        Scanner.push (← readToken fuel true true)
        readSign fuel "do"
        let body ← readList fuel false false none
        readSign fuel "done"
        return .each line name words (body.getD .skip)

/-- Reads words as long as there are some. -/
def readWords (fuel : Nat) : Scanner (List Word) :=
  match fuel with
  | 0 => malformed "too deep"
  | fuel + 1 => do
    let t ← readToken fuel false false
    match t with
    | .word w => return w :: (← readWords fuel)
    | _ =>
      Scanner.push t
      return []

/-- Reads a word and the cases that it may fit. -/
def readSelect (fuel line : Nat) : Scanner Command :=
  match fuel with
  | 0 => malformed "too deep"
  | fuel + 1 => do
    let t ← readToken fuel false false
    match t with
    | .word w =>
      let t ← readToken fuel true true
      if t.isSign "in" then return .select line w (← readCases fuel) else expecting t "in"
    | _ => .fault (ascii "Syntax error: " ++ t.shown ++ ascii " unexpected (expecting word)")

/-- Reads cases up to the keyword behind the last. -/
def readCases (fuel : Nat) : Scanner (List (List Word × Command)) :=
  match fuel with
  | 0 => malformed "too deep"
  | fuel + 1 => do
    let t ← readToken fuel true true
    if t.isSign "esac" then return []
    else
      let t ← if t.isSign "(" then readToken fuel false false else pure t
      let patterns ← readPatterns fuel t
      let body ← readList fuel false true none
      let t ← readToken fuel true true
      let first := (patterns, body.getD .skip)
      if t.isSign "esac" then return [first]
      else if t.isSign ";;" then return first :: (← readCases fuel)
      else expecting t ";;"

/-- Reads the patterns of a case, the first of which is a token. -/
def readPatterns (fuel : Nat) (t : Token) : Scanner (List Word) :=
  match fuel with
  | 0 => malformed "too deep"
  | fuel + 1 => do
    match t.asWord? with
    | none => expecting t ")"
    | some w =>
      let t ← readToken fuel false false
      if t.isSign "|" then return w :: (← readPatterns fuel (← readToken fuel false false))
      else if t.isSign ")" then return [w]
      else expecting t ")"

/-- Reads the redirections behind a command. -/
def readRedirects (fuel : Nat) : Scanner (List Redirect) :=
  match fuel with
  | 0 => malformed "too deep"
  | fuel + 1 => do
    let t ← readToken fuel false true
    match t with
    | .redirect stream mark =>
      let r ← readRedirect fuel stream mark
      return r :: (← readRedirects fuel)
    | _ =>
      Scanner.push t
      return []

/-- Reads the word of a redirection. -/
def readRedirect (fuel : Nat) (stream : Option Nat) (mark : RedirectMark) : Scanner Redirect :=
  match fuel with
  | 0 => malformed "too deep"
  | fuel + 1 => do
    let t ← readToken fuel false false
    let stream := stream.getD mark.usualStream
    match t with
    | .word w =>
      match mark with
      | .read => return .mk stream .read w
      | .write => return .mk stream .write w
      | .clobber => return .mk stream .clobber w
      | .append => return .mk stream .append w
      | .both => return .mk stream .both w
      | .followIn => return .mk stream .follow w
      | .followOut => return .mk stream .follow w
      | .here indented =>
        let s ← get
        let number := s.nextDocument
        let d : Announced :=
          ⟨number, (Word.literal? w).getD [], (Word.plain? w).isSome, indented⟩
        set { s with announced := s.announced ++ [d], nextDocument := number + 1 }
        return .mk stream (.here number) []
    | t => unexpected t

/-- Reads the rest of a simple command, or the body of a function. -/
def readSimple (fuel line : Nat) (assignments : List (Raw × Word)) (words : List Word)
    (redirects : List Redirect) : Scanner Command :=
  match fuel with
  | 0 => malformed "too deep"
  | fuel + 1 => do
    let t ← readToken fuel false false
    match t with
    | .word w =>
      match words, Word.assignment? w with
      | [], some a => readSimple fuel line (assignments ++ [a]) [] redirects
      | _, _ => readSimple fuel line assignments (words ++ [w]) redirects
    | .redirect stream mark =>
      let r ← readRedirect fuel stream mark
      readSimple fuel line assignments words (redirects ++ [r])
    | .operator "(" =>
      match words with
      | [w] =>
        if assignments.isEmpty && redirects.isEmpty then
          readSign fuel ")"
          match Word.plain? w with
          | some name =>
            if isName name && !specialCommands.contains (String.ofList name) then
              Scanner.push (← readToken fuel true true)
              return .define name (← readCommand fuel)
            else malformed "Bad function name"
          | none => malformed "Bad function name"
        else
          Scanner.push t
          return .simple line assignments words redirects
      | _ =>
        Scanner.push t
        return .simple line assignments words redirects
    | _ =>
      Scanner.push t
      return .simple line assignments words redirects

end

/-- The start of a scan. -/
def Scan.start (script : Raw) (nextDocument : Nat) : Scan :=
  ⟨script, 1, none, [], [], nextDocument⟩

/-- Fuel that is enough for a script. -/
def Scan.fuel (s : Scan) : Nat := 40 * s.rest.length + 200

/-- Reads the commands of the next line, and gives nothing where the script ends. -/
def readLine : Scanner (Option Command) := do
  let s ← get
  let fuel := s.fuel
  let t ← readToken fuel false true
  match t with
  | .ending => return none
  | .newline => return some .skip
  | t =>
    Scanner.push t
    return some ((← readList fuel true false none).getD .skip)

/-- Whether a script has been read to its end. -/
def Scan.isOver (s : Scan) : Bool :=
  match s.pushed with
  | some .ending => true
  | _ => false

end LobsterServer.Host
