import Gatehouse.Hash.Hmac
import Gatehouse.Json.Parser
import Gatehouse.Platform
import Gatehouse.Text.Split

/-!
Signing algorithms and the secrets they accept, and `Platform.standard`, the platform that the
library is run on. There a secret of a keyed hash must not be empty and must not be a key of another
kind in disguise: a JSON web key, an armoured key or certificate, or a shell key.
-/
namespace Gatehouse
open Text Hash

/-- What an algorithm name stands for. -/
inductive Algorithm where
  | keyed (digest : Digest)
  | unsigned
  deriving DecidableEq, Repr

def Algorithm.ofName? (s : String) : Option Algorithm :=
  if s = "HS256" then some (.keyed .sha256)
  else if s = "HS384" then some (.keyed .sha384)
  else if s = "HS512" then some (.keyed .sha512)
  else if s = "none" then some .unsigned
  else none

namespace Secret

def armourKinds : List String := [
  "CERTIFICATE", "TRUSTED CERTIFICATE", "PRIVATE KEY", "PUBLIC KEY", "ENCRYPTED PRIVATE KEY",
  "OPENSSH PRIVATE KEY", "DSA PRIVATE KEY", "RSA PRIVATE KEY", "RSA PUBLIC KEY",
  "EC PRIVATE KEY", "DH PARAMETERS", "NEW CERTIFICATE REQUEST", "CERTIFICATE REQUEST",
  "SSH2 PUBLIC KEY", "SSH2 ENCRYPTED PRIVATE KEY", "X509 CRL"]

def shellFormats : List String := [
  "ssh-ed25519", "ssh-rsa", "ssh-dss", "ecdsa-sha2-nistp256", "ecdsa-sha2-nistp384",
  "ecdsa-sha2-nistp521"]

def holds (part : List Char) : List Char → Bool
  | [] => part.isEmpty
  | c :: r => (stripPrefix? part (c :: r)).isSome || holds part r

/-- A mark between four hyphens and a hyphen or space. -/
def mark? (word kind cs : List Char) : Option (List Char) := do
  let r ← stripPrefix? "----".toList cs
  let r ← match r with
    | '-' :: r => some r
    | ' ' :: r => some r
    | _ => none
  let r ← stripPrefix? (word ++ ' ' :: kind) r
  let r ← match r with
    | '-' :: r => some r
    | ' ' :: r => some r
    | _ => none
  stripPrefix? "----".toList r

def lineBreak? : List Char → Option (List Char)
  | '\r' :: '\n' :: r => some r
  | '\n' :: r => some r
  | _ => none

/-- Somewhere a line break is followed by the end mark of a kind. -/
def hasEnd (kind : List Char) : List Char → Bool
  | [] => false
  | c :: r =>
    (((lineBreak? (c :: r)).bind (mark? "END".toList kind)).isSome) || hasEnd kind r

/-- Somewhere a begin mark is followed by a line, at least one character and an end mark. -/
def isArmoured : List Char → Bool
  | [] => false
  | c :: r =>
    (armourKinds.any fun kind =>
      match (mark? "BEGIN".toList kind.toList (c :: r)).bind lineBreak? with
      | some (_ :: body) => hasEnd kind.toList body
      | _ => false) || isArmoured r

def isAsciiSpace (c : Char) : Bool := c.toNat = 0x20 || (9 ≤ c.toNat && c.toNat ≤ 13)

/-- The text holds a shell key format, or its first of two words ends like a shell certificate. -/
def isShellKey (cs : List Char) : Bool :=
  shellFormats.any (fun f => holds f.toList cs) ||
    let word := cs.takeWhile fun c => !isAsciiSpace c
    let rest := cs.drop word.length
    let gap := rest.takeWhile fun c => c == ' ' || c == '\t'
    let next := rest.drop gap.length
    !word.isEmpty && !gap.isEmpty && (next.head?.any fun c => !isAsciiSpace c) &&
      "-cert-v01@openssh.com".toList.isSuffixOf word

/-- How deep JSON values may nest on the standard platform. -/
def standardDepth : Nat := 990

/-- The text is a JSON object with a key type. -/
def isWebKey (cs : List Char) : Bool :=
  match Json.parseUpTo standardDepth cs with
  | .ok (.object ms) => (Table.get? ms "kty").isSome
  | _ => false

/-- The secret can be used with a keyed hash. -/
def usable (secret : String) : Bool :=
  let cs := secret.toList
  !cs.isEmpty && !isArmoured cs && !isShellKey cs && !isWebKey cs

end Secret

/-- The platform that the library is run on. It takes canonical texts only for a part of a token,
with or without the signs that complete them. -/
@[reducible]
def Platform.standard : Platform where
  depthLimit := Secret.standardDepth
  hundred_le_depthLimit := by decide
  readPart? := Base64Url.decodePadded?
  readPart?_encode := Base64Url.decodePadded?_encode
  usableSecret := Secret.usable

end Gatehouse
