/-!
# Request forgery tokens

Every form opened on a page carries an identifier and a secret. How they are made and checked is up
to the application: an issuer gives a pair for each number, and pairs are issued in the order of
their numbers.
-/

namespace Formwork

/-- A pair issued for one form. -/
structure CsrfPair where
  /-- Names the secret on the server. -/
  id : String
  /-- The secret that the browser sends back. -/
  token : String
deriving DecidableEq, Repr

/-- The pair with each number; numbers start at one. -/
abbrev CsrfIssuer := Nat → CsrfPair

end Formwork
