import EnvMonitor.Device.Bytes
import Mathlib.Data.List.SplitOn

/-!
# The release tool

`make_image.py sign` puts a signed header in front of a linked body.  Where the script raises an
error it writes no file.
-/

namespace EnvMonitor.Tools.MakeImage

open Device

abbrev magic : Nat := 0x4F544131
abbrev headerVersion : Nat := 1
abbrev headerSize : Nat := 128
abbrev signedLen : Nat := 0x40
abbrev maxImageLen : Nat := 491520

inductive Slot where
  | a
  | b
  deriving DecidableEq

/-- `SLOT_BASE` -/
def slotBase : Slot -> Nat
  | .a => 0x08006000
  | .b => 0x08080000

/-- `int` converts one part of the text, or raises an error. -/
def parseVersion (int : List Char -> Option Int) (text : List Char) : Option Nat :=
  match (text.splitOn '.').mapM int with
  | some [major, minor, patch] =>
      if (0 ≤ major ∧ major < 256) ∧ (0 ≤ minor ∧ minor < 256) ∧ 0 ≤ patch ∧ patch < 65536 then
        some ((major.toNat <<< 24) ||| (minor.toNat <<< 16) ||| patch.toNat)
      else none
  | _ => none

/-- The reset vector must carry the Thumb bit and point inside the image. -/
def checkLinkBase (body : List UInt8) (loadAddr : Nat) : Bool :=
  if body.length < 8 ∨ maxImageLen < body.length then false
  else
    let reset := fieldAt body 4 4
    let target := reset - reset % 2
    !(reset % 2 = 0 ∨ ¬(loadAddr ≤ target ∧ target < loadAddr + body.length))

/-!
## Bytes
-/

/-- `struct.pack` of an unsigned number; one that does not fit is an error. -/
def packUint (width n : Nat) : Option (List UInt8) :=
  if n < 256 ^ width then some (putLe width n) else none

/-- `struct.pack` of a byte string, cut or filled up with zeros. -/
def packString (width : Nat) (data : List UInt8) : List UInt8 :=
  data.take width ++ List.replicate (width - data.length) 0

/-- `n.to_bytes(width, "big")` -/
def toBytesBig (width n : Nat) : List UInt8 := (putLe width n).reverse

/-- The two numbers that a signature decodes to, on the curve P-256. -/
structure DssSignature where
  r : Fin (2 ^ 256)
  s : Fin (2 ^ 256)
  deriving DecidableEq

def DssSignature.raw (signature : DssSignature) : List UInt8 :=
  toBytesBig 32 signature.r ++ toBytesBig 32 signature.s

/-!
## Images
-/

/-- `<IHHIII12x32s` -/
def packHead (length version loadAddr : Nat) (digest : List UInt8) : Option (List UInt8) := do
  let magicBytes <- packUint 4 magic
  let versionBytes <- packUint 2 headerVersion
  let sizeBytes <- packUint 2 headerSize
  let lengthBytes <- packUint 4 length
  let imageVersion <- packUint 4 version
  let addrBytes <- packUint 4 loadAddr
  some (magicBytes ++ (versionBytes ++ (sizeBytes ++ (lengthBytes ++ (imageVersion ++
    (addrBytes ++ (List.replicate 12 0 ++ packString 32 digest)))))))

/-- `sign` is what the private key answers for a head. -/
def buildImage (sha256 : List UInt8 -> List UInt8) (sign : List UInt8 -> DssSignature)
    (body : List UInt8) (slot : Slot) (version : Nat) : Option (List UInt8) :=
  let loadAddr := slotBase slot
  if checkLinkBase body loadAddr then
    match packHead body.length version loadAddr (sha256 body) with
    | none => none
    | some head =>
        if head.length = signedLen then some (head ++ ((sign head).raw ++ body)) else none
  else none

/-- What one call of the tool is given, and the signature the key made in it. -/
structure Release where
  body : List UInt8
  slot : Slot
  version : List Char
  signature : DssSignature

/-- The file that is written. -/
def cmdSign (sha256 : List UInt8 -> List UInt8) (int : List Char -> Option Int) (release : Release) :
    Option (List UInt8) :=
  match parseVersion int release.version with
  | none => none
  | some version =>
      buildImage sha256 (fun _ => release.signature) release.body release.slot version

/-!
## Results
-/

theorem checkLinkBase_iff {body : List UInt8} {loadAddr : Nat} :
    checkLinkBase body loadAddr = true ↔
      (8 ≤ body.length ∧ body.length ≤ maxImageLen) ∧ fieldAt body 4 4 % 2 ≠ 0 ∧
        loadAddr ≤ fieldAt body 4 4 - fieldAt body 4 4 % 2 ∧
        fieldAt body 4 4 - fieldAt body 4 4 % 2 < loadAddr + body.length := by
  unfold checkLinkBase
  constructor
  · intro h
    by_cases hlength : body.length < 8 ∨ maxImageLen < body.length
    · rw [if_pos hlength] at h
      cases h
    · rw [if_neg hlength, Bool.not_eq_true', decide_eq_false_iff_not, not_or, not_not] at h
      rw [not_or, Nat.not_lt, Nat.not_lt] at hlength
      exact ⟨hlength, h⟩
  · intro h
    rcases h with ⟨⟨hshort, hlong⟩, hthumb, hinside⟩
    rw [if_neg (not_or.mpr ⟨Nat.not_lt.mpr hshort, Nat.not_lt.mpr hlong⟩), Bool.not_eq_true',
      decide_eq_false_iff_not, not_or, not_not]
    exact ⟨hthumb, hinside⟩

theorem parseVersion_lt {int : List Char -> Option Int} {text : List Char} {version : Nat}
    (h : parseVersion int text = some version) : version < 2 ^ 32 := by
  unfold parseVersion at h
  split at h
  next major minor patch _ =>
      by_cases hrange : (0 ≤ major ∧ major < 256) ∧ (0 ≤ minor ∧ minor < 256) ∧ 0 ≤ patch ∧
          patch < 65536
      · rw [if_pos hrange] at h
        cases h
        have hmajor : major.toNat <<< 24 < 2 ^ 32 := by
          rw [Nat.shiftLeft_eq]
          omega
        have hminor : minor.toNat <<< 16 < 2 ^ 32 := by
          rw [Nat.shiftLeft_eq]
          omega
        exact Nat.or_lt_two_pow (Nat.or_lt_two_pow hmajor hminor) (by omega)
      · rw [if_neg hrange] at h
        cases h
  next => cases h

end EnvMonitor.Tools.MakeImage
