import Gatehouse.Text.CharacterSet
import Gatehouse.Text.Split

/-!
Files of environment settings: one `NAME=value` on a line, with comments, an optional `export`,
quoted values that may span lines, and references `${NAME}` or `${NAME:-default}` to settings
before. A line that does not have this form is passed over.
-/
namespace Gatehouse.EnvFile
open Text

/-- A name and its value; a name alone has none. -/
structure Binding where
  name : String
  value : Option String
  deriving DecidableEq, Repr

/-- A blank that does not end a line. -/
def isInlineBlank (c : Char) : Bool := isBlank c && c != '\n' && c != '\r'

/-- The text with every line end written as a line feed. -/
def unifyLineEnds : List Char → List Char
  | [] => []
  | '\r' :: '\n' :: r => '\n' :: unifyLineEnds r
  | '\r' :: r => '\n' :: unifyLineEnds r
  | c :: r => c :: unifyLineEnds r

def skipInline (cs : List Char) : List Char := cs.dropWhile isInlineBlank

/-- Drops the word `export` with blanks behind it. -/
def skipExport (cs : List Char) : List Char :=
  match stripPrefix? "export".toList cs with
  | some (c :: r) => if isInlineBlank c then skipInline r else cs
  | _ => cs

/-- The name of a setting; a comment has none, as `some none` tells. -/
def name? (cs : List Char) : Option (Option (List Char) × List Char) :=
  match cs with
  | '#' :: _ => some (none, cs)
  | '\'' :: r =>
    let key := r.takeWhile (· != '\'')
    match r.drop key.length with
    | '\'' :: rest => if key.isEmpty then none else some (some key, rest)
    | _ => none
  | _ =>
    let key := cs.takeWhile fun c => c != '=' && c != '#' && !isBlank c
    if key.isEmpty then none else some (some key, cs.drop key.length)

/-- The raw text up to the closing quote, where an escaped quote does not close unless no other
quote follows. -/
def quoted? (mark : Char) : List Char → Option (List Char × List Char)
  | [] => none
  | '\\' :: c :: r =>
    if c = mark then
      match quoted? mark r with
      | some (a, rest) => some ('\\' :: c :: a, rest)
      | none => some (['\\'], r)
    else (quoted? mark (c :: r)).map fun (a, rest) => ('\\' :: a, rest)
  | c :: r =>
    if c = mark then some ([], r) else (quoted? mark r).map fun (a, rest) => (c :: a, rest)

/-- The character that an escape in double quotes stands for. -/
def doubleEscape? (c : Char) : Option Char :=
  match c with
  | '\\' => some '\\'
  | '\'' => some '\''
  | '"' => some '"'
  | 'a' => some '\x07'
  | 'b' => some '\x08'
  | 'f' => some '\x0c'
  | 'n' => some '\n'
  | 'r' => some '\r'
  | 't' => some '\t'
  | 'v' => some '\x0b'
  | _ => none

/-- The character that an escape in single quotes stands for. -/
def singleEscape? (c : Char) : Option Char := if c = '\\' ∨ c = '\'' then some c else none

def unescape (escape? : Char → Option Char) : List Char → List Char
  | [] => []
  | '\\' :: c :: r =>
    match escape? c with
    | some d => d :: unescape escape? r
    | none => '\\' :: unescape escape? (c :: r)
  | c :: r => c :: unescape escape? r

/-- A value without quotes, up to a comment that follows a blank. -/
def beforeComment : List Char → List Char
  | [] => []
  | c :: '#' :: r => if isBlank c then [] else c :: beforeComment ('#' :: r)
  | c :: r => c :: beforeComment r

/-- The value after the equals sign. -/
def value? (cs : List Char) : Option (List Char × List Char) :=
  match cs with
  | '\'' :: r => (quoted? '\'' r).map fun (a, rest) => (unescape singleEscape? a, rest)
  | '"' :: r => (quoted? '"' r).map fun (a, rest) => (unescape doubleEscape? a, rest)
  | _ =>
    let line := cs.takeWhile (· != '\n')
    some (trimEnd isBlank (beforeComment line), cs.drop line.length)

/-- What follows a line, with nothing but blanks and a comment left on it. -/
def lineEnd? (cs : List Char) : Option (List Char) :=
  let cs := skipInline cs
  let cs := if cs.head? == some '#' then cs.dropWhile (· != '\n') else cs
  match cs with
  | [] => some []
  | c :: r => if c = '\n' then some r else none

def nextLine (cs : List Char) : List Char := (cs.dropWhile (· != '\n')).drop 1

/-- The first binding of a text, if its first line has one, and what follows. -/
def binding (cs : List Char) : Option Binding × List Char :=
  let cs := cs.dropWhile isBlank
  if cs.isEmpty then (none, [])
  else
    let cs := skipExport cs
    match name? cs with
    | none => (none, nextLine cs)
    | some (key, rest) =>
      let afterName := skipInline rest
      let read := match afterName with
        | '=' :: r =>
          let start := skipInline r
          match value? start with
          | some (v, rest) => (lineEnd? rest).elim (none, nextLine rest) fun t => (some (some v), t)
          | none => (none, nextLine start)
        | _ => (lineEnd? afterName).elim (none, nextLine afterName) fun t => (some none, t)
      match read, key with
      | (some value, rest), some key =>
        (some ⟨String.ofList key, value.map String.ofList⟩, rest)
      | (_, rest), _ => (none, rest)

/-- The bindings of a text in order; `fuel` bounds how many lines are read. -/
def bindingsUpTo : (fuel : Nat) → List Char → List Binding
  | 0, _ => []
  | fuel + 1, cs =>
    if cs.isEmpty then []
    else
      match binding cs with
      | (some b, rest) => b :: bindingsUpTo fuel rest
      | (none, rest) => bindingsUpTo fuel rest

/-- The bindings of a file in order. Every binding takes at least one character. -/
def bindings (file : String) : List Binding :=
  let cs := unifyLineEnds file.toList
  bindingsUpTo (cs.length + 1) cs

/-- Named values, the last of equal names winning. -/
def lookup (env : List (String × Option String)) (name : String) : Option (Option String) :=
  env.lookup name

/-- A reference at the start of a text: its name, its default and what follows. -/
def reference? (cs : List Char) : Option (List Char × List Char × List Char) :=
  match cs with
  | '$' :: '\x7b' :: r =>
    let name := r.takeWhile fun c => c != '\x7d' && c != ':'
    match r.drop name.length with
    | '\x7d' :: rest => some (name, [], rest)
    | ':' :: '-' :: r =>
      let default := r.takeWhile (· != '\x7d')
      match r.drop default.length with
      | '\x7d' :: rest => some (name, default, rest)
      | _ => none
    | _ => none
  | _ => none

/-- The value that a reference stands for: nothing for a name without a value. -/
def resolve (env : List (String × Option String)) (name default : List Char) : List Char :=
  match lookup env (String.ofList name) with
  | some (some v) => v.toList
  | some none => []
  | none => default

/-- The text with its references replaced; `fuel` bounds its length. -/
def interpolateUpTo (env : List (String × Option String)) :
    (fuel : Nat) → List Char → List Char
  | 0, cs => cs
  | _, [] => []
  | fuel + 1, c :: r =>
    match reference? (c :: r) with
    | some (name, default, rest) => resolve env name default ++ interpolateUpTo env fuel rest
    | none => c :: interpolateUpTo env fuel r

def interpolate (env : List (String × Option String)) (value : String) : String :=
  String.ofList (interpolateUpTo env value.length value.toList)

/-- The settings of a file; references look among the settings before, then in the
environment. The last of equal names wins and stands first. -/
def valuesFrom (environment : List (String × String)) :
    List (String × Option String) → List Binding → List (String × Option String)
  | done, [] => done
  | done, b :: r =>
    let env := done ++ environment.map fun (k, v) => (k, some v)
    valuesFrom environment ((b.name, b.value.map (interpolate env)) :: done) r

def values (environment : List (String × String)) (file : String) :
    List (String × Option String) := valuesFrom environment [] (bindings file)

end Gatehouse.EnvFile
