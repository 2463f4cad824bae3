import Gatehouse.Schema.Checked
import Gatehouse.Text.CharacterSet
import Gatehouse.Text.Split

/-!
Texts, integers and truth values of data. Numbers and truth values may also be given as texts,
as settings from the environment always are.
-/
namespace Gatehouse.Schema
open Number Text

/-- A text; numbers and truth values are not taken for one. -/
def text (v : Json) : Checked AnyText :=
  match v with
  | .text t => .accepted t
  | _ => .fault .stringType v

/-- A text without unpaired surrogates, as a text whose characters are looked at must be. -/
def string (v : Json) : Checked String :=
  match v with
  | .text (.string s) => .accepted s
  | .text (.unpaired ..) => .fault .stringUnicode v
  | _ => .fault .stringType v

/-- A text with a length within bounds, counted in code points. -/
def boundedText (least : Nat) (most : Option Nat) (v : Json) : Checked String :=
  ((string v).ensure (fun s => least ≤ s.length) .stringTooShort v).ensure
    (fun s => most.all (s.length ≤ ·)) .stringTooLong v

/-- A digit sequence without its leading zeros, which single underscores may follow. -/
def withoutLeadingZeros? (cs : List Char) : Option (List Char) :=
  match cs with
  | '0' :: _ =>
    match cs.dropWhile fun c => c == '0' || c == '_' with
    | [] => some (cs.drop (cs.length - 1))
    | '.' :: r => some (cs.drop (cs.length - r.length - 2))
    | c :: r => if c.isDigit then some (c :: r) else none
  | c :: _ => if c.isDigit || c == '-' then some cs else none
  | [] => none

/-- A number without a fraction of zeros. -/
def withoutZeroFraction? (cs : List Char) : Option (List Char) :=
  match cutFirst '.' cs with
  | none => some cs
  | some (whole, fraction) => if fraction.all (· == '0') then some whole else none

/-- A number without the single underscores inside it. -/
def withoutUnderscores? : List Char → Option (List Char)
  | [] => some []
  | ['_'] => none
  | '_' :: '_' :: _ => none
  | '_' :: r => withoutUnderscores? r
  | c :: r => (withoutUnderscores? r).map (c :: ·)

/-- The most digits that a number in a text may have. -/
def digitLimit : Nat := 4300

/-- A number from plain digits, which has no leading zero. -/
def plainDigits (cs : List Char) : Except FieldProblem Nat :=
  if cs.isEmpty || !cs.all Char.isDigit then .error .intParsing
  else if cs.head? == some '0' && cs.length ≠ 1 then .error .intParsing
  else if digitLimit < cs.length then .error .intParsingSize
  else .ok (cs.foldl (fun n c => n * 10 + (c.toNat - 0x30)) 0)

/-- The text of an integer with blanks, sign, underscores and a zero fraction taken away. -/
def cleanInteger? (s : String) : Option (List Char) := do
  let cs := trim isWhiteSpace s.toList
  let cs ← match cs with
    | '+' :: r => if r.head? == some '-' then none else some r
    | _ => some cs
  let cs ← withoutLeadingZeros? cs
  let cs ← withoutZeroFraction? cs
  if cs.head? == some '_' then none else withoutUnderscores? cs

def integerOfText (s : String) : Except FieldProblem Int :=
  match cleanInteger? s with
  | none => .error .intParsing
  | some ('-' :: r) => (fun n => -(n : Int)) <$> plainDigits r
  | some cs => (fun n => (n : Int)) <$> plainDigits cs

/-- The number fits in 64 bits. -/
def isWord (i : Int) : Bool := -0x8000000000000000 ≤ i && i < 0x8000000000000000

/-- A whole float is taken for an integer if its magnitude is below 2^63. -/
def isWholeWord (i : Int) : Bool := i.natAbs < 0x8000000000000000

/-- An integer; whole numbers, truth values and texts count too. -/
def integer (v : Json) : Checked Int :=
  match v with
  | .int i => .accepted i
  | .bool b => .accepted (if b then 1 else 0)
  | .float x =>
    match x with
    | .finite .. =>
      match x.whole? with
      | some i => if isWholeWord i then .accepted i else .fault .intParsingSize v
      | none => .fault .intFromFloat v
    | _ => .fault .finiteNumber v
  | .text (.string s) =>
    match integerOfText s with
    | .ok i => .accepted i
    | .error p => .fault p v
  | .text (.unpaired ..) => .fault .intParsing v
  | _ => .fault .intType v

def positive (v : Json) : Checked Int := (integer v).ensure (0 < ·) .greaterThan v

/-- The words for true and for false, in any letter case. -/
def truthOfText (s : String) : Option Bool :=
  let w := String.ofList (s.toList.map Char.toLower)
  if ["0", "f", "n", "no", "off", "false"].contains w then some false
  else if ["1", "t", "y", "on", "yes", "true"].contains w then some true
  else none

/-- A truth value from zero or one. -/
def truthOfInteger (v : Json) (i : Int) : Checked Bool :=
  if i = 0 then .accepted false
  else if i = 1 then .accepted true
  else .fault .boolParsing v

/-- A truth value; zero, one and the usual words count too. -/
def boolean (v : Json) : Checked Bool :=
  match v with
  | .bool b => .accepted b
  | .int i => if isWord i then truthOfInteger v i else .fault .boolType v
  | .float x =>
    match x.whole? with
    | some i => if isWholeWord i then truthOfInteger v i else .fault .boolType v
    | none => .fault .boolType v
  | .text (.string s) =>
    match truthOfText s with
    | some b => .accepted b
    | none => .fault .boolParsing v
  | .text (.unpaired ..) => .fault .boolParsing v
  | _ => .fault .boolType v

end Gatehouse.Schema
