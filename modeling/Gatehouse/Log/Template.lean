import Gatehouse.Fault
import Gatehouse.Json.Display
import Gatehouse.Number.Precision

/-!
Message templates. A template is literal text with directives, which begin with a percent sign:
an optional key in parentheses, flags, a width, a precision, a size letter without meaning, and
the letter of a conversion. `Template.pieces` reads a template; `fill` puts arguments into it
from left to right, so that of several faults the leftmost is told.
-/
namespace Gatehouse.Log
open Number Text

/-- A width or a precision: a number in the template, or the next argument. -/
inductive Measure where
  | fixed (n : Nat)
  | argument
  deriving DecidableEq, Repr

inductive Key where
  | absent
  | named (name : String)
  | unclosed
  deriving DecidableEq, Repr

structure Flags where
  alternate : Bool
  zero : Bool
  left : Bool
  blank : Bool
  sign : Bool
  deriving DecidableEq, Repr

structure Directive where
  key : Key
  flags : Flags
  width : Option Measure
  precision : Option Measure
  /-- The letter of the conversion; none if the template ends before it. -/
  conversion : Option Char
  deriving DecidableEq, Repr

inductive Piece where
  | literal (c : Char)
  | percent
  | directive (d : Directive)
  deriving DecidableEq, Repr

namespace Template

/-- A key up to its closing parenthesis, with inner parentheses in pairs. -/
def takeKey : Nat → List Char → Option (List Char × List Char)
  | _, [] => none
  | depth, c :: r =>
    if c = ')' then
      match depth with
      | 0 => some ([], r)
      | d + 1 => (takeKey d r).map fun (k, rest) => (c :: k, rest)
    else (takeKey (if c = '(' then depth + 1 else depth) r).map fun (k, rest) => (c :: k, rest)

def isFlag (c : Char) : Bool := "#0- +".toList.contains c

def flagsOf (cs : List Char) : Flags :=
  ⟨cs.contains '#', cs.contains '0', cs.contains '-', cs.contains ' ', cs.contains '+'⟩

def digitsValue (cs : List Char) : Nat :=
  cs.foldl (fun n c => n * 10 + (c.toNat - 0x30)) 0

/-- A star or digits. -/
def takeMeasure (cs : List Char) : Option Measure × List Char :=
  match cs with
  | '*' :: r => (some .argument, r)
  | _ =>
    let ds := cs.takeWhile Char.isDigit
    (if ds.isEmpty then none else some (.fixed (digitsValue ds)), cs.dropWhile Char.isDigit)

/-- A point and a measure; without the measure it is zero. -/
def takePrecision (cs : List Char) : Option Measure × List Char :=
  match cs with
  | '.' :: r => (some ((takeMeasure r).1.getD (.fixed 0)), (takeMeasure r).2)
  | _ => (none, cs)

def dropSize (cs : List Char) : List Char :=
  match cs with
  | c :: r => if "hlL".toList.contains c then r else cs
  | [] => []

/-- A directive behind its percent sign and key. -/
def takeDirective (key : Key) (cs : List Char) : Directive × List Char :=
  let flags := cs.takeWhile isFlag
  let (width, rest) := takeMeasure (cs.dropWhile isFlag)
  let (precision, rest) := takePrecision rest
  let rest := dropSize rest
  (⟨key, flagsOf flags, width, precision, rest.head?⟩, rest.tail)

/-- The directive behind a percent sign. -/
def directive (cs : List Char) : Directive × List Char :=
  match cs with
  | '(' :: r =>
    match takeKey 0 r with
    | some (name, rest) => takeDirective (.named (String.ofList name)) rest
    | none => (⟨.unclosed, flagsOf [], none, none, none⟩, [])
  | _ => takeDirective .absent cs

theorem length_dropWhile_le (p : Char → Bool) (cs : List Char) :
    (cs.dropWhile p).length ≤ cs.length := (List.dropWhile_suffix p).length_le

theorem takeMeasure_length_le (cs : List Char) : (takeMeasure cs).2.length ≤ cs.length := by
  unfold takeMeasure
  split
  · simp
  · exact length_dropWhile_le _ _

theorem takePrecision_length_le (cs : List Char) : (takePrecision cs).2.length ≤ cs.length := by
  unfold takePrecision
  split
  · next r => exact Nat.le_succ_of_le (takeMeasure_length_le r)
  · exact Nat.le_refl _

theorem dropSize_length_le (cs : List Char) : (dropSize cs).length ≤ cs.length := by
  unfold dropSize
  split
  · split <;> simp
  · simp

theorem takeKey_length_le {depth : Nat} {cs key rest : List Char}
    (h : takeKey depth cs = some (key, rest)) : rest.length ≤ cs.length := by
  induction cs generalizing depth key with
  | nil => simp [takeKey] at h
  | cons c r ih =>
    rw [takeKey.eq_def] at h
    simp only at h
    split at h
    · split at h
      · obtain ⟨_, rfl⟩ := Prod.mk.inj (Option.some.inj h)
        simp
      · obtain ⟨⟨k, r'⟩, h', e⟩ := Option.map_eq_some_iff.1 h
        obtain ⟨_, rfl⟩ := Prod.mk.inj e
        exact Nat.le_succ_of_le (ih h')
    · obtain ⟨⟨k, r'⟩, h', e⟩ := Option.map_eq_some_iff.1 h
      obtain ⟨_, rfl⟩ := Prod.mk.inj e
      exact Nat.le_succ_of_le (ih h')

theorem takeDirective_length_le (key : Key) (cs : List Char) :
    (takeDirective key cs).2.length ≤ cs.length := by
  have h₁ := length_dropWhile_le isFlag cs
  have h₂ := takeMeasure_length_le (cs.dropWhile isFlag)
  have h₃ := takePrecision_length_le (takeMeasure (cs.dropWhile isFlag)).2
  have h₄ := dropSize_length_le (takePrecision (takeMeasure (cs.dropWhile isFlag)).2).2
  simp only [takeDirective, List.length_tail]
  omega

theorem directive_length_le (cs : List Char) : (directive cs).2.length ≤ cs.length := by
  unfold directive
  split
  · next r =>
    split
    · next name rest h =>
      exact Nat.le_succ_of_le (Nat.le_trans (takeDirective_length_le _ rest) (takeKey_length_le h))
    · simp
  · exact takeDirective_length_le _ _

def pieces : List Char → List Piece
  | [] => []
  | '%' :: '%' :: r => .percent :: pieces r
  | '%' :: r =>
    have := directive_length_le r
    .directive (directive r).1 :: pieces (directive r).2
  | c :: r => .literal c :: pieces r
termination_by cs => cs.length

end Template

/-- What a template is filled from: a list of values, one each, or one value with members. -/
inductive Arguments where
  | none
  | list (values : List Json)
  | members (ms : Members)
  deriving Repr

/-- A single value with members gives them; otherwise the values are taken in turn. -/
def Arguments.ofList (values : List Json) : Arguments :=
  match values with
  | [.object ms] => if ms.isEmpty then .list values else .members ms
  | _ => .list values

/-- The values that are still to be put into a template. `single` is one value that may be taken
once. -/
inductive Pending where
  | several (values : List Json)
  | single (value : Json)
  | taken

def Pending.next : Pending → Except Fault (Json × Pending)
  | .several (v :: r) => .ok (v, .several r)
  | .single v => .ok (v, .taken)
  | _ => .error .wrongType

/-- The largest width and the largest precision that a template may ask for. -/
def largestWidth : Nat := 0x7fffffffffffffff
def largestPrecision : Nat := 0x7fffffff

/-- An integer that a directive takes for a measure. -/
def measureArgument (v : Json) : Except Fault Int :=
  match v with
  | .int i => .ok i
  | .bool b => .ok (if b then 1 else 0)
  | _ => .error .wrongType

/-- A width; a negative one asks for alignment to the left. -/
def takeWidth (m : Option Measure) (p : Pending) : Except Fault (Nat × Bool × Pending) :=
  match m with
  | none => .ok (0, false, p)
  | some (.fixed n) => if largestWidth < n then .error .badValue else .ok (n, false, p)
  | some .argument => do
    let (v, p) ← p.next
    let i ← measureArgument v
    if largestWidth < i.natAbs then .error .outOfRange else .ok (i.natAbs, i < 0, p)

/-- A precision; a negative one counts as zero. -/
def takePlaces (m : Option Measure) (p : Pending) : Except Fault (Option Nat × Pending) :=
  match m with
  | none => .ok (none, p)
  | some (.fixed n) => if largestPrecision < n then .error .badValue else .ok (some n, p)
  | some .argument => do
    let (v, p) ← p.next
    let i ← measureArgument v
    if largestPrecision < i.natAbs then .error .outOfRange else .ok (some i.toNat, p)

/-- A converted value: the sign, what stands before the digits, and the digits or the text. -/
structure Rendered where
  numeric : Bool
  negative : Bool := false
  lead : List Char := []
  body : List Char

/-- The sign that a number shows. -/
def signOf (f : Flags) (r : Rendered) : List Char :=
  if !r.numeric then []
  else if r.negative then ['-']
  else if f.sign then ['+']
  else if f.blank then [' ']
  else []

/-- A converted value filled up to a width. -/
def layout (f : Flags) (left : Bool) (width : Nat) (r : Rendered) : List Char :=
  let head := signOf f r ++ r.lead
  let gap := width - (head.length + r.body.length)
  if left then head ++ r.body ++ List.replicate gap ' '
  else if f.zero && r.numeric then head ++ List.replicate gap '0' ++ r.body
  else List.replicate gap ' ' ++ head ++ r.body

/-- A shown value with everything outside the basic characters escaped. -/
def escaped (cs : List Char) : List Char :=
  cs.flatMap fun c =>
    let n := c.toNat
    if n < 0x80 then [c]
    else if n < 0x100 then '\\' :: 'x' :: hex 2 n
    else if n < 0x10000 then '\\' :: 'u' :: hex 4 n
    else '\\' :: 'U' :: hex 8 n

/-- The integer that an integer conversion writes; only decimal ones take fractions off. -/
def integerArgument (decimal : Bool) (v : Json) : Except Fault Int :=
  match v with
  | .int i => .ok i
  | .bool b => .ok (if b then 1 else 0)
  | .float x =>
    if !decimal then .error .wrongType
    else if x = .nan then .error .badValue
    else x.truncate?.elim (.error .outOfRange) .ok
  | _ => .error .wrongType

/-- The number that a fractional conversion writes. -/
def numberArgument (v : Json) : Except Fault Binary64 :=
  match v with
  | .float x => .ok x
  | .bool b => .ok (.ofInt (if b then 1 else 0))
  | .int i => if (Binary64.ofInt i).isFinite then .ok (.ofInt i) else .error .outOfRange
  | _ => .error .wrongType

/-- The character that a value stands for. -/
def characterArgument (v : Json) : Except Fault Char :=
  let ofCode (i : Int) : Except Fault Char :=
    if i < 0 ∨ 0x10ffff < i then .error .outOfRange
    else if i.toNat.isValidChar then .ok (Char.ofNat i.toNat) else .error .unencodable
  match v with
  | .text t =>
    match t.codes with
    | [n] => ofCode n
    | _ => .error .wrongType
  | .int i => ofCode i
  | .bool b => ofCode (if b then 1 else 0)
  | _ => .error .wrongType

def upperCased (upper : Bool) (cs : List Char) : List Char :=
  if upper then cs.map Char.toUpper else cs

/-- An integer in a base with at least `places` digits. -/
def renderInteger (base : Nat) (upper : Bool) (lead : List Char) (places : Option Nat) (i : Int) :
    Rendered :=
  let ds := upperCased upper (Nat.toDigits base i.natAbs)
  ⟨true, i < 0, lead, List.replicate (places.getD 0 - ds.length) '0' ++ ds⟩

/-- A text cut to a precision. -/
def renderText (places : Option Nat) (cs : List Char) : Rendered :=
  ⟨false, false, [], places.elim cs cs.take⟩

def renderNumber (upper : Bool) (write : Binary64 → List Char) (x : Binary64) : Rendered :=
  ⟨true, x.isNegative, [], upperCased upper (write x)⟩

/-- A value under a conversion. -/
def convert (f : Flags) (places : Option Nat) (letter : Char) (v : Json) : Except Fault Rendered :=
  let lead (cs : String) := if f.alternate then cs.toList else []
  match letter with
  | 's' => .ok (renderText places v.plain)
  | 'r' => .ok (renderText places v.shown)
  | 'a' => .ok (renderText places (escaped v.shown))
  | 'd' | 'i' | 'u' => renderInteger 10 false [] places <$> integerArgument true v
  | 'o' => renderInteger 8 false (lead "0o") places <$> integerArgument false v
  | 'x' => renderInteger 16 false (lead "0x") places <$> integerArgument false v
  | 'X' => renderInteger 16 true (lead "0X") places <$> integerArgument false v
  | 'e' | 'E' => renderNumber (letter = 'E') (·.exponentialText (places.getD 6) f.alternate) <$>
      numberArgument v
  | 'f' | 'F' => renderNumber (letter = 'F') (·.fixedText (places.getD 6) f.alternate) <$>
      numberArgument v
  | 'g' | 'G' => renderNumber (letter = 'G') (·.generalText (places.getD 6) f.alternate) <$>
      numberArgument v
  | 'c' => (fun c => ⟨false, false, [], [c]⟩) <$> characterArgument v
  | _ => .error .badValue

/-- The values behind the key of a directive. -/
def keyed (args : Arguments) (key : Key) (p : Pending) : Except Fault Pending :=
  match key, args with
  | .absent, _ => .ok p
  | .named name, .members ms => (ms.get? name).elim (.error .missingMember) fun v => .ok (.single v)
  | .unclosed, .members _ => .error .badValue
  | _, _ => .error .wrongType

/-- A single value that has not been taken is one too many. -/
def checkTaken (args : Arguments) (p : Pending) : Except Fault Unit :=
  match args, p with
  | .members _, .single _ => .error .wrongType
  | _, _ => .ok ()

/-- The text of a directive and the values behind it. -/
def fillDirective (args : Arguments) (d : Directive) (p : Pending) :
    Except Fault (List Char × Pending) := do
  let p ← keyed args d.key p
  let (width, left, p) ← takeWidth d.width p
  let (places, p) ← takePlaces d.precision p
  match d.conversion with
  | none => .error .badValue
  | some letter => do
    let (v, p) ← p.next
    let r ← convert d.flags places letter v
    checkTaken args p
    .ok (layout d.flags (left || d.flags.left) width r, p)

/-- The text of pieces, which must take all values of a list. -/
def fillPieces (args : Arguments) : List Piece → Pending → Except Fault (List Char)
  | [], .several (_ :: _) => .error .wrongType
  | [], _ => .ok []
  | .literal c :: r, p => (c :: ·) <$> fillPieces args r p
  | .percent :: r, p => ('%' :: ·) <$> fillPieces args r p
  | .directive d :: r, p => do
    let (cs, p) ← fillDirective args d p
    (cs ++ ·) <$> fillPieces args r p

/-- A template with its arguments put in. Without any arguments it is not read at all. -/
def fill (template : String) (args : Arguments) : Except Fault String :=
  let pieces := Template.pieces template.toList
  match args with
  | .none => .ok template
  | .list [] => .ok template
  | .list vs => String.ofList <$> fillPieces args pieces (.several vs)
  | .members ms => String.ofList <$> fillPieces args pieces (.single (.object ms))

end Gatehouse.Log
