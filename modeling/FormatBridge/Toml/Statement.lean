import FormatBridge.Toml.Table

set_option autoImplicit false

/-! # TOML statements

A document is a sequence of statements, one to a line: a header opens a table, an assignment gives
a value to a key. Arrays and inline tables may go over many lines, with comments between their
parts, and may end with a comma. -/

namespace FormatBridge.Toml

/-! ## Between the parts -/

/-- What follows the blanks at the front. -/
def dropBlanks (s : List Char) : List Char := s.dropWhile isBlank

/-- What follows the white space, line ends and comments at the front; fails at a character that
    must not stand there. -/
def dropTrivia? (inComment : Bool) : List Char → Option (List Char)
  | [] => some []
  | '\n' :: rest => dropTrivia? false rest
  | '\r' :: '\n' :: rest => dropTrivia? false rest
  | c :: rest =>
    if inComment then if isPlain c then dropTrivia? true rest else none
    else if isBlank c then dropTrivia? false rest
    else if c = '#' then dropTrivia? true rest
    else some (c :: rest)

/-- What follows the end of a statement: blanks, a comment, and a line end or the end of all. -/
def dropLineRest? (s : List Char) : Option (List Char) :=
  let s := dropBlanks s
  let s :=
    match s with
    | '#' :: comment => comment.dropWhile isPlain
    | s => s
  match s with
  | [] => some []
  | s => dropNewline? s

/-! ## Keys -/

/-- A character of a key without quotes. -/
def isKeyChar (c : Char) : Bool := c.isAlphanum || c = '_' || c = '-'

/-- Reads one part of a key. -/
def readKeyPart? (s : List Char) : Option (String × List Char) :=
  match s.takeWhile isKeyChar with
  | [] => readLineString? s
  | part => some (String.ofList part, s.dropWhile isKeyChar)

/-- How many parts a key may have. -/
def maxKeyParts : Nat := 80

/-- Reads the parts of a key with dots between them, at most as many as given; gives the parts
    before the last, and the last. -/
def readKey? : Nat → List Char → Option ((List String × String) × List Char)
  | 0, _ => none
  | room + 1, s => do
    let (part, rest) ← readKeyPart? (dropBlanks s)
    match dropBlanks rest with
    | '.' :: rest =>
      let ((path, last), rest) ← readKey? room rest
      return ((part :: path, last), rest)
    | rest => return (([], part), rest)

/-! ## Values -/

/-- How many arrays and inline tables may stand within each other. -/
def maxDepth : Nat := 80

mutual

/-- Reads a value in which `room` more arrays and inline tables may stand within each other. The
    fuel bounds the number of calls. -/
def readValue? : Nat → Nat → List Char → Option (Value × List Char)
  | 0, _, _ => none
  | fuel + 1, room, s =>
    match s with
    | '[' :: rest =>
      match room with
      | 0 => none
      | room + 1 => readItems? fuel room [] rest
    | '{' :: rest =>
      match room with
      | 0 => none
      | room + 1 => readMembers? fuel room [] rest
    | s =>
      match readString? s with
      | some (text, rest) => some (.string text, rest)
      | none => readBare? s

/-- Reads on in an array, behind the items in `done` (last first). -/
def readItems? : Nat → Nat → List Value → List Char → Option (Value × List Char)
  | 0, _, _, _ => none
  | fuel + 1, room, done, s => do
    match ← dropTrivia? false s with
    | ']' :: rest => return (.array done.reverse, rest)
    | s =>
      let (v, rest) ← readValue? fuel room s
      match ← dropTrivia? false rest with
      | ',' :: rest => readItems? fuel room (v :: done) rest
      | ']' :: rest => return (.array (v :: done).reverse, rest)
      | _ => none

/-- Reads on in an inline table, behind the entries given. -/
def readMembers? : Nat → Nat → Entries → List Char → Option (Value × List Char)
  | 0, _, _, _ => none
  | fuel + 1, room, entries, s => do
    match ← dropTrivia? false s with
    | '}' :: rest => return (.table (Entries.values entries), rest)
    | s =>
      let ((path, key), rest) ← readKey? maxKeyParts s
      match ← dropTrivia? false rest with
      | '=' :: rest =>
        let (v, rest) ← readValue? fuel room (← dropTrivia? false rest)
        let entries ← Entries.assign? path key v entries
        match ← dropTrivia? false rest with
        | ',' :: rest => readMembers? fuel room entries rest
        | '}' :: rest => return (.table (Entries.values entries), rest)
        | _ => none
      | _ => none

end

/-! ## Statements -/

/-- A statement. -/
inductive Statement where
  /-- A header that opens the table at a path. -/
  | table (path : List String) (key : String)
  /-- A header that opens a new table at the end of an array of tables. -/
  | arrayItem (path : List String) (key : String)
  /-- An assignment in the table that is open. -/
  | assign (path : List String) (key : String) (v : Value)
  deriving Repr

/-- Reads the statement at the front. -/
def readStatement? (s : List Char) : Option (Statement × List Char) :=
  match s with
  | '[' :: '[' :: rest => do
    match ← readKey? maxKeyParts rest with
    | ((path, key), ']' :: ']' :: rest) => return (.arrayItem path key, rest)
    | _ => none
  | '[' :: rest => do
    match ← readKey? maxKeyParts rest with
    | ((path, key), ']' :: rest) => return (.table path key, rest)
    | _ => none
  | s => do
    match ← readKey? maxKeyParts s with
    | ((path, key), '=' :: rest) =>
      let (v, rest) ← readValue? (2 * s.length + 2) maxDepth (dropBlanks rest)
      return (.assign path key v, rest)
    | _ => none

/-- Reads statements, at most `fuel` of them, each followed by the end of its line. -/
def readStatements? : Nat → List Char → Option (List Statement)
  | 0, _ => none
  | fuel + 1, s => do
    match ← dropTrivia? false s with
    | [] => return []
    | s =>
      let (statement, rest) ← readStatement? s
      let rest ← dropLineRest? rest
      let statements ← readStatements? fuel rest
      return statement :: statements

/-- The statements of a document's text. -/
def statements? (s : List Char) : Option (List Statement) := readStatements? (s.length + 1) s

end FormatBridge.Toml
