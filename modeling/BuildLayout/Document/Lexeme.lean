import BuildLayout.Decimal.Numeral

/-! # The parts of a line

    Blanks, line ends, comments, quoted texts and keys.  A reader looks at the start of a text
    and gives what it has read together with the rest, or nothing if the text starts otherwise. -/

namespace BuildLayout.Document

/-- Takes a part off the start of a text. -/
abbrev Reader (α : Type) := List Char → Option (α × List Char)

/-! ## Characters -/

/-- Whether the character is a space or a tab. -/
def isBlank (c : Char) : Bool := c == ' ' || c == '\t'

/-- Whether the character may stand in a comment or a literal text: no control but the tab. -/
def isPlain (c : Char) : Bool := c == '\t' || (0x20 ≤ c.toNat && c.toNat != 0x7F)

/-- Whether the character may stand in a bare key. -/
def isKeyChar (c : Char) : Bool := c.isAlphanum || c == '_' || c == '-'

/-- The text after leading blanks. -/
def skipBlanks (s : List Char) : List Char := s.dropWhile isBlank

/-- What follows a line end. -/
def newline? : List Char → Option (List Char)
  | '\n' :: rest => some rest
  | '\r' :: '\n' :: rest => some rest
  | _ => none

/-- What follows when nothing but blanks and a comment is left on the line. -/
def lineEnd? (s : List Char) : Option (List Char) :=
  let rest :=
    match skipBlanks s with
    | '#' :: comment => comment.dropWhile isPlain
    | rest => rest
  if rest.isEmpty then some [] else newline? rest

/-- The text after leading blanks, line ends and comments; it starts inside a comment if
    `inComment` says so. -/
def skipFiller (inComment : Bool) : List Char → List Char
  | [] => []
  | '\n' :: rest => skipFiller false rest
  | '\r' :: '\n' :: rest => skipFiller false rest
  | c :: rest =>
    if inComment then (if isPlain c then skipFiller true rest else c :: rest)
    else if isBlank c then skipFiller false rest
    else if c = '#' then skipFiller true rest
    else c :: rest

/-! ## Quoted texts -/

/-- Puts a character in front of a text that has been read. -/
def withChar (c : Char) : Option (List Char × List Char) → Option (List Char × List Char) :=
  Option.map fun (text, rest) => (c :: text, rest)

/-- The character of a number, unless the number belongs to none. -/
def scalar? (n : Nat) : Option Char :=
  if n.isValidChar then some (Char.ofNat n) else none

/-- The character that a letter behind a backslash stands for. -/
def escape? : Char → Option Char
  | 'b' => some '\x08'
  | 't' => some '\t'
  | 'n' => some '\n'
  | 'f' => some '\x0c'
  | 'r' => some '\r'
  | '"' => some '"'
  | '\\' => some '\\'
  | _ => none

/-- How far the reader of a basic text is. -/
inductive Progress where
  | plain
  /-- Behind a backslash. -/
  | escape
  /-- Inside a character's number, with this many digits to come. -/
  | code (missing value : Nat)
  /-- Behind a backslash and blanks, on the way to the line end. -/
  | folding
  /-- Behind a line end that a backslash took out, before the next character that counts. -/
  | folded

/-- One more digit of a character's number: the character, or the progress made. -/
def codeDigit? (missing value : Nat) (c : Char) : Option (Char ⊕ Progress) := do
  let d ← Numeral.digit? 16 c
  if missing ≤ 1 then return .inl (← scalar? (value * 16 + d))
  else return .inr (.code (missing - 1) (value * 16 + d))

/-- The progress behind a backslash and a letter: a character, or a number to read. -/
def escapeLetter? (c : Char) : Option (Char ⊕ Progress) :=
  match c with
  | 'u' => some (.inr (.code 4 0))
  | 'U' => some (.inr (.code 8 0))
  | c => (escape? c).map .inl

/-- The text up to the closing quote, its escapes resolved. -/
def basicText : Progress → Reader (List Char)
  | _, [] => none
  | .plain, c :: rest =>
    if c = '"' then some ([], rest)
    else if c = '\\' then basicText .escape rest
    else if isPlain c then withChar c (basicText .plain rest)
    else none
  | .escape, c :: rest =>
    match escapeLetter? c with
    | some (.inl x) => withChar x (basicText .plain rest)
    | some (.inr next) => basicText next rest
    | none => none
  | .code missing value, c :: rest =>
    match codeDigit? missing value c with
    | some (.inl x) => withChar x (basicText .plain rest)
    | some (.inr next) => basicText next rest
    | none => none
  | .folding, _ | .folded, _ => none

/-- The text up to three closing quotes, of which two more may belong to the text.  Line ends
    count as line feeds, and a backslash at the end of a line takes out all blanks and line
    ends up to the next character. -/
def basicLines : Progress → Reader (List Char)
  | _, [] => none
  | .folding, '\r' :: '\n' :: rest => basicLines .folded rest
  | .folding, c :: rest =>
    if c = '\n' then basicLines .folded rest
    else if isBlank c then basicLines .folding rest
    else none
  | .escape, '\r' :: '\n' :: rest => basicLines .folded rest
  | .escape, c :: rest =>
    if c = '\n' then basicLines .folded rest
    else if isBlank c then basicLines .folding rest
    else
      match escapeLetter? c with
      | some (.inl x) => withChar x (basicLines .plain rest)
      | some (.inr next) => basicLines next rest
      | none => none
  | .code missing value, c :: rest =>
    match codeDigit? missing value c with
    | some (.inl x) => withChar x (basicLines .plain rest)
    | some (.inr next) => basicLines next rest
    | none => none
  | _, '"' :: '"' :: '"' :: '"' :: '"' :: rest => some (['"', '"'], rest)
  | _, '"' :: '"' :: '"' :: '"' :: rest => some (['"'], rest)
  | _, '"' :: '"' :: '"' :: rest => some ([], rest)
  | .folded, '\r' :: '\n' :: rest => basicLines .folded rest
  | _, '\r' :: '\n' :: rest => withChar '\n' (basicLines .plain rest)
  | progress, c :: rest =>
    match progress, c with
    | .folded, '\n' | .folded, ' ' | .folded, '\t' => basicLines .folded rest
    | _, '\n' => withChar '\n' (basicLines .plain rest)
    | _, '\\' => basicLines .escape rest
    | _, c => if isPlain c then withChar c (basicLines .plain rest) else none

/-- The text up to the closing single quote, as it stands. -/
def literalText (s : List Char) : Option (List Char × List Char) :=
  let text := s.takeWhile fun c => isPlain c && c != '\''
  match s.dropWhile fun c => isPlain c && c != '\'' with
  | '\'' :: rest => some (text, rest)
  | _ => none

/-- The text up to three closing single quotes, of which two more may belong to the text. -/
def literalLines : Reader (List Char)
  | [] => none
  | '\'' :: '\'' :: '\'' :: '\'' :: '\'' :: rest => some (['\'', '\''], rest)
  | '\'' :: '\'' :: '\'' :: '\'' :: rest => some (['\''], rest)
  | '\'' :: '\'' :: '\'' :: rest => some ([], rest)
  | '\r' :: '\n' :: rest => withChar '\n' (literalLines rest)
  | c :: rest => if c = '\n' ∨ isPlain c then withChar c (literalLines rest) else none

/-- A quoted text of any of the four kinds. -/
def quotedText : Reader (List Char)
  | '"' :: '"' :: '"' :: rest => basicLines .plain ((newline? rest).getD rest)
  | '"' :: rest => basicText .plain rest
  | '\'' :: '\'' :: '\'' :: rest => literalLines ((newline? rest).getD rest)
  | '\'' :: rest => literalText rest
  | _ => none

/-! ## Keys -/

/-- A bare key or one between quotes on one line. -/
def simpleKey : Reader String
  | '"' :: rest => (basicText .plain rest).map fun (text, rest) => (String.ofList text, rest)
  | '\'' :: rest => (literalText rest).map fun (text, rest) => (String.ofList text, rest)
  | s =>
    let key := s.takeWhile isKeyChar
    if key.isEmpty then none else some (String.ofList key, s.dropWhile isKeyChar)

/-- At most so many keys with dots between them, as the keys before the last and the last. -/
def dottedKey : Nat → Reader (List String × String)
  | 0, _ => none
  | most + 1, s => do
    let (key, rest) ← simpleKey (skipBlanks s)
    match skipBlanks rest with
    | '.' :: rest =>
      let ((path, last), rest) ← dottedKey most rest
      return ((key :: path, last), rest)
    | rest => return (([], key), rest)

end BuildLayout.Document
