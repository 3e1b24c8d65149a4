import Formwork.Digest.Sha256
import Formwork.Session.Csrf

/-!
# Identifiers

Forms are saved under identifiers that cannot be guessed: the digest of random octets, of a number
that is used once, and of the time. The identifiers and secrets of request forgery tokens are random
octets as they are.
-/

namespace Formwork

/-- A number as eight octets, least significant first. -/
def littleEndian (value : Nat) : List UInt8 := (Sha256.octetsOf 8 value).reverse

/-- The identifier made of random octets, a number used once and a time in nanoseconds. -/
def formIdentifier (random : List UInt8) (nonce nanoseconds : Nat) : String :=
  Text.hexText (Sha256.digest (random ++ littleEndian nonce ++ littleEndian nanoseconds))

/-- The pair made of sixteen octets for the identifier and thirty-two for the secret. -/
def CsrfPair.ofOctets (octets : List UInt8) : CsrfPair :=
  { id := Text.hexText (octets.take 16), token := Text.hexText ((octets.drop 16).take 32) }

end Formwork
