/-
# CellFlow.Webhooks.Signature — webhook signatures (`packages/webhooks/src/crypto.ts`).

A delivery signs `v1.<timestamp>.<body>` with HMAC-SHA256, a parameter here, and sends the digest in
hexadecimal digits.  So is the text in which the platform prints a number; the numbers are integers,
or none that the checks would let pass.
-/
import CellFlow.Core.Types
import CellFlow.Lib.HexBytes
import Mathlib.Algebra.Order.Ring.Int

namespace CellFlow

open Js (hexOf bytesOfHex isHexDigits)

/-- HMAC-SHA256 of a text under a secret: 32 bytes. -/
structure Digest where
  bytes : List (Fin 256)
  length_eq : bytes.length = 32
  deriving DecidableEq

/-- A number: an integer, or one that is none (a fraction, an infinity or `NaN`). -/
inductive Numeric where
  | integer (n : Int)
  | other
  deriving DecidableEq, Repr

/-- `Number.isSafeInteger`, with that integer. -/
def Numeric.safe : Numeric → Option Int
  | .integer n => if n.natAbs < 2 ^ 53 then some n else none
  | .other => none

section Signing

variable (hmac : String → String → Digest) (numberText : Int → String)

/-- The text that is signed: `v1.${timestamp}.${rawBody}`. -/
def canonicalMessage (rawBody : String) (timestamp : Int) : String :=
  "v1." ++ numberText timestamp ++ "." ++ rawBody

/-- `signWebhook`: the HMAC of the canonical message in hexadecimal. -/
def signWebhook (rawBody : String) (timestamp : Int) (secret : String) : String :=
  String.ofList (hexOf (hmac secret (canonicalMessage numberText rawBody timestamp)).bytes)

/-- The header a delivery sends. -/
def signatureHeader (rawBody : String) (timestamp : Int) (secret : String) : String :=
  "v1=" ++ signWebhook hmac numberText rawBody timestamp secret

/-- The arguments of `verifyWebhook`. -/
structure VerifyInput where
  rawBody : String
  timestamp : Numeric
  signatureHeader : String
  secret : String
  now : Option Numeric
  toleranceSeconds : Option Numeric
  deriving DecidableEq, Repr

/-- The header without its `v1=`. -/
def presentedSignature (header : String) : List Char :=
  match header.toList with
  | 'v' :: '1' :: '=' :: rest => rest
  | cs => cs

/-- `clock` is `Math.floor(Date.now() / 1000)`. -/
def verifyWebhookSignature (clock : Int) (input : VerifyInput) : Bool :=
  let now := input.now.getD (.integer clock)
  let tolerance := input.toleranceSeconds.getD (.integer 300)
  match now.safe, input.timestamp.safe, tolerance.safe with
  | some now, some timestamp, some tolerance =>
      if tolerance < 0 ∨ tolerance > 3600 ∨ (now - timestamp).natAbs > tolerance then false
      else
        let presented := presentedSignature input.signatureHeader
        if ¬ (presented.length = 64 ∧ isHexDigits presented = true) then false
        else
          let expected := signWebhook hmac numberText input.rawBody timestamp input.secret
          let a := bytesOfHex presented
          let b := bytesOfHex expected.toList
          a.length = b.length && a.length > 0 && a = b
  | _, _, _ => false

end Signing

end CellFlow
