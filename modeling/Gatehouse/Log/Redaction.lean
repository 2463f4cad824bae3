import Gatehouse.Text.AnyText
import Gatehouse.Text.CharacterSet
import Gatehouse.Text.Split
import Gatehouse.Text.Word

/-!
Masking of credentials in texts. A pattern tells the length of its match at the beginning of a
text; `Pattern.replace` masks all matches from left to right, each beginning behind the one
before. `redact` masks bearer credentials first and compact signed tokens after them.
-/
namespace Gatehouse.Log
open Text

/-- The length of a match at the beginning of a text, which is never empty. The flag says that a
word character stands before the text. -/
abbrev Pattern := Bool → List Char → Option Nat

namespace Pattern

/-- Masks the matches in a text of which the first `skip` characters are already masked. -/
def replaceFrom (p : Pattern) (mask : List Char) : Nat → Bool → List Char → List Char
  | _, _, [] => []
  | skip + 1, _, c :: r => replaceFrom p mask skip (isWord c) r
  | 0, inWord, c :: r =>
    match p inWord (c :: r) with
    | some n => mask ++ replaceFrom p mask (n - 1) (isWord c) r
    | none => c :: replaceFrom p mask 0 (isWord c) r

def replace (p : Pattern) (mask : List Char) (cs : List Char) : List Char :=
  replaceFrom p mask 0 false cs

/-- The pattern matches somewhere in a text. -/
def occursFrom (p : Pattern) : Bool → List Char → Bool
  | _, [] => false
  | inWord, c :: r => (p inWord (c :: r)).isSome || occursFrom p (isWord c) r

def occurs (p : Pattern) (cs : List Char) : Bool := occursFrom p false cs

theorem replaceFrom_of_not_occursFrom {p : Pattern} {mask : List Char} {w : Bool}
    {cs : List Char} (h : occursFrom p w cs = false) : replaceFrom p mask 0 w cs = cs := by
  induction cs generalizing w with
  | nil => rfl
  | cons c r ih =>
    rw [occursFrom, Bool.or_eq_false_iff] at h
    have hn : p w (c :: r) = none := by simpa using h.1
    simp [replaceFrom, hn, ih h.2]

/-- A text without a match stays as it is. -/
theorem replace_of_not_occurs {p : Pattern} {mask cs : List Char} (h : occurs p cs = false) :
    replace p mask cs = cs := replaceFrom_of_not_occursFrom h

end Pattern

/-- The number of characters of a class at the beginning of a text. -/
def runLength (p : Char → Bool) (cs : List Char) : Nat := (cs.takeWhile p).length

/-- Characters of a segment of a signed token. -/
def isSegmentChar (c : Char) : Bool := c.isAlphanum || c == '_' || c == '-'

/-- Letters outside the basic ones that equal a basic letter when case does not count. -/
def isCaseVariant (c : Char) : Bool := "\u0130\u0131\u017f\u212a".toList.contains c

/-- Characters of a bearer credential, which is matched without regard to case. -/
def isCredentialChar (c : Char) : Bool :=
  isSegmentChar c || c == '.' || c == '=' || isCaseVariant c

/-- The word `bearer` in any case, blanks and a credential. -/
def bearerPattern : Pattern := fun inWord cs =>
  if inWord || (cs.take 6).map Char.toLower != "bearer".toList then none
  else
    let afterWord := cs.drop 6
    let blanks := runLength isBlank afterWord
    let credential := runLength isCredentialChar (afterWord.drop blanks)
    if blanks = 0 || credential = 0 then none else some (6 + blanks + credential)

/-- A dot and the segment behind it. -/
def dotSegment (cs : List Char) : Option Nat :=
  match cs with
  | '.' :: r =>
    let n := runLength isSegmentChar r
    if n = 0 then none else some (n + 1)
  | _ => none

/-- Three segments with dots between them, the first of which begins like an encoded object and
holds more than that beginning. -/
def tokenPattern : Pattern := fun inWord cs =>
  match inWord, stripPrefix? "eyJ".toList cs with
  | false, some r => do
    let a := runLength isSegmentChar r
    if a = 0 then none
    else
      let b ← dotSegment (r.drop a)
      let c ← dotSegment (r.drop (a + b))
      some (3 + a + b + c)
  | _, _ => none

/-- A text with its credentials masked. -/
def redactChars (cs : List Char) : List Char :=
  tokenPattern.replace "***".toList (bearerPattern.replace "Bearer ***".toList cs)

def redact (message : String) : String := String.ofList (redactChars message.toList)

/-- Code points with the credentials masked in every run of characters. A surrogate stands in no
match and ends a word. -/
def redactRuns (run : List Char) : List Nat → List Nat
  | [] => (redactChars run).map Char.toNat
  | n :: r =>
    if isHighSurrogate n || isLowSurrogate n then
      (redactChars run).map Char.toNat ++ n :: redactRuns [] r
    else redactRuns (run ++ [Char.ofNat n]) r

/-- Any text with its credentials masked. -/
def redactText : AnyText → AnyText
  | .string s => redact s
  | .unpaired codes _ => .ofCodes (redactRuns [] codes)

end Gatehouse.Log
