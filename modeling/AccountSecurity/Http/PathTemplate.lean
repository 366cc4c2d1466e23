import AccountSecurity.Error.Failure

/-!
# Templates of paths

A template is a path in which parameters stand between braces, each with a name and, behind a colon, the kind
of its values: `/v{number:int}/login`.

* `PathTemplate.read` : the template of a text. Braces around anything else stand for themselves;
* `PathTemplate.matchPieces?` : the parameters in a path of the form of a template, by the lengths of their
  values. Of several matches it is the one in which the earlier parameters have the longer values;
* `PathTemplate.accepts` : the path has the form, and its whole numbers can be read.
-/

namespace AccountSecurity

/-! ## Parameters -/

/-- The kinds of parameters, by what their values look like. -/
inductive ParameterKind where
  /-- A part of a path between slashes. -/
  | segment
  /-- Any number of parts within one line. -/
  | path
  | integer
  /-- Digits, and perhaps more of them behind a point. -/
  | decimal
  /-- Hexadecimal digits in five groups, with or without hyphens between them. -/
  | uuid
deriving DecidableEq, Repr

namespace ParameterKind

def all : List ParameterKind := [segment, path, integer, decimal, uuid]

def name : ParameterKind → String
  | segment => "str"
  | path => "path"
  | integer => "int"
  | decimal => "float"
  | uuid => "uuid"

def ofName? (s : String) : Option ParameterKind := all.find? (·.name == s)

/-- What is left of a text behind the characters of a class in front of it, behind the most of them first; then
what was `found` before. -/
def behind (isPart : Char → Bool) (found : List (List Char)) : List Char → List (List Char)
  | [] => found
  | c :: rest => if isPart c then behind isPart (rest :: found) rest else found

/-- What is left behind the fraction of a number. -/
def behindFraction : List Char → List (List Char)
  | '.' :: rest => behind Char.isDigit [] rest
  | _ => []

/-- A hexadecimal digit in either case. -/
def isHexDigit (c : Char) : Bool := c.isDigit || ('a' ≤ c && c ≤ 'f') || ('A' ≤ c && c ≤ 'F')

/-- What follows groups of hexadecimal digits of some sizes, with or without hyphens between them. -/
def afterGroups? : List Nat → List Char → Option (List Char)
  | [], s => some s
  | size :: sizes, s =>
    if (s.take size).length = size ∧ (s.take size).all isHexDigit then
      match sizes, s.drop size with
      | _ :: _, '-' :: rest => afterGroups? sizes rest
      | _, rest => afterGroups? sizes rest
    else none

/-- The sizes of the groups of an identifier. -/
def uuidGroups : List Nat := [8, 4, 4, 4, 12]

/-- What is left of a text behind the values in front of it, behind the longest value first. -/
def rests (kind : ParameterKind) (s : List Char) : List (List Char) :=
  match kind with
  | segment => behind (· != '/') [] s
  | path => behind (· != '\n') [s] s
  | integer => behind Char.isDigit [] s
  | decimal =>
    let whole := behind Char.isDigit [] s
    behindFraction (whole.headD []) ++ whole
  | uuid => (afterGroups? uuidGroups s).toList

end ParameterKind

/-! ## Templates -/

/-- A piece of a template. -/
inductive PathPiece where
  | char (c : Char)
  | parameter (name : String) (kind : ParameterKind)
deriving DecidableEq, Repr

/-- A path with parameters. -/
abbrev PathTemplate := List PathPiece

namespace PathTemplate

/-- A letter or an underscore, with which names begin. -/
def isNameStart (c : Char) : Bool := c.isAlpha || c == '_'

/-- A name in front of a text, and what follows it. -/
def readName? : List Char → Option (String × List Char)
  | [] => none
  | c :: rest =>
    let isNameChar d := isNameStart d || d.isDigit
    if isNameStart c then
      some (String.ofList (c :: rest.takeWhile isNameChar), rest.dropWhile isNameChar)
    else none

/-- The names of a parameter and of its kind, from behind its opening brace, and what follows it. -/
def readParameter? (s : List Char) : Option (String × String × List Char) := do
  let (name, rest) ← readName? s
  match rest with
  | '\x7d' :: rest => return (name, ParameterKind.segment.name, rest)
  | ':' :: rest =>
    let (kind, rest) ← readName? rest
    match rest with
    | '\x7d' :: rest => return (name, kind, rest)
    | _ => none
  | _ => none

/-- The pieces of a text behind its first characters, if the kinds of all parameters are known. -/
def readPieces : (skipped : Nat) → List Char → Option PathTemplate
  | _, [] => some []
  | skipped + 1, _ :: rest => readPieces skipped rest
  | 0, c :: rest =>
    match if c = '\x7b' then readParameter? rest else none with
    | some (name, kind, after) => do
      let kind ← ParameterKind.ofName? kind
      return .parameter name kind :: (← readPieces (rest.length - after.length) rest)
    | none => do return .char c :: (← readPieces 0 rest)

/-- The name of the parameter that a piece is. -/
def pieceName? : PathPiece → Option String
  | .parameter name _ => some name
  | .char _ => none

/-- The names of the parameters. -/
def names (t : PathTemplate) : List String := t.filterMap pieceName?

/-- The names that several parameters bear. -/
def repeatedNames (t : PathTemplate) : List String :=
  (names t).eraseDups.filter fun name => 1 < (names t).count name

/-- The text of a template without the kinds of its parameters. -/
def format (t : PathTemplate) : List Char :=
  t.flatMap fun piece =>
    match piece with
    | .char c => [c]
    | .parameter name _ => '\x7b' :: name.toList ++ ['\x7d']

/-- What stands between an opening brace and the next closing one on its line, behind the first characters of a
text. -/
def bracedTexts : (skipped : Nat) → List Char → List String
  | _, [] => []
  | skipped + 1, _ :: rest => bracedTexts skipped rest
  | 0, c :: rest =>
    let inner := rest.takeWhile fun d => d != '\x7d' && d != '\n'
    if c = '\x7b' ∧ rest[inner.length]? = some '\x7d' then
      String.ofList inner :: bracedTexts (inner.length + 1) rest
    else bracedTexts 0 rest

/-- The name by which the body of a request goes, which no parameter may have. -/
def bodyName : String := "body"

/-- The template of a text. -/
def read (path : String) : Except Fault PathTemplate :=
  match readPieces 0 path.toList with
  | none => .error .badPathPrefix
  | some t =>
    if repeatedNames t ≠ [] then .error (.value (.repeatedParameters (repeatedNames t) path))
    else if bodyName ∈ bracedTexts 0 (format t) then .error .badPathPrefix
    else .ok t

/-! ## Matching -/

/-- The lengths of the values of the parameters of a path, each with its kind. A line break at the end is
passed over. -/
def matchPieces? : PathTemplate → List Char → Option (List (ParameterKind × Nat))
  | [], s => if s = [] ∨ s = ['\n'] then some [] else none
  | .char _ :: _, [] => none
  | .char c :: pieces, d :: s => if c = d then matchPieces? pieces s else none
  | .parameter _ kind :: pieces, s =>
    (kind.rests s).findSome? fun rest =>
      (matchPieces? pieces rest).map fun values => (kind, s.length - rest.length) :: values

/-- The path has the form of the template; a whole number in it must not have too many digits. -/
def accepts (t : PathTemplate) (path : String) : Except Fault Bool :=
  match matchPieces? t path.toList with
  | none => .ok false
  | some values =>
    match values.find? fun v => v.1 = .integer ∧ Text.maxIntegerDigits < v.2 with
    | some (_, digits) => .error (.value (.tooManyDigits (some digits)))
    | none => .ok true

end PathTemplate

end AccountSecurity
