import CivicGate.Framework.Exceptions
import CivicGate.Framework.Json.Value

/-!
# Local credentials

`LocalCredentialVerifier` of `mcp/http_identity.py`.  `jwt.decode`, with the pinned key, the
issuer, the audience and the required claims, is the function `decode` of the verifier: it
depends on the token and on the clock, and nothing is assumed of it.
-/

namespace CivicGate.Mcp

/-- `LocalHold(reason)` -/
structure LocalHold where
  reason : String
  deriving DecidableEq

/-- A value of a trust domain. -/
def isBounded (s : String) : Bool := 0 < s.length && s.length ≤ 256

/-- `TrustDomain` -/
structure TrustDomain where
  issuer : String
  audience : String
  principal : String
  serviceIdentity : String
  inst : String
  bounded : [issuer, audience, principal, serviceIdentity, inst].all isBounded = true
  distinct : serviceIdentity ≠ principal

/-- `InvocationContext` -/
structure InvocationContext where
  principal : String
  issuer : String
  audience : String
  session : String
  request : String
  expiresAt : ℤ
  deriving DecidableEq

/-- What `jwt.decode` returns: the claims it requires, and `scope`.  It has compared `iss` and
`aud` with texts. -/
structure Decoded where
  iss : String
  aud : String
  sub : Json
  iat : Json
  nbf : Json
  exp : Json
  jti : Json
  scope : Option Json

/-- The claims of a credential that is verified. -/
structure Claims where
  sub : String
  iss : String
  aud : String
  exp : ℤ
  deriving DecidableEq

/-- `LocalCredentialVerifier` -/
structure LocalCredentialVerifier where
  domain : TrustDomain
  /-- `jwt.decode(token, …)` at this time; `none` where it raises. -/
  decode : String → ℚ → Option Decoded

/-- The checks of the claims, at this time. -/
def LocalCredentialVerifier.check (v : LocalCredentialVerifier) (d : Decoded) (now : ℚ) :
    Option Claims :=
  match d.iat, d.nbf, d.exp, d.jti with
  | .int iat, .int nbf, .int exp, .str jti =>
    if d.sub = .str v.domain.principal ∧ (iat ≤ nbf ∧ nbf < exp) ∧ (0 < exp - iat ∧
      exp - iat ≤ 300) ∧ (16 ≤ jti.length ∧ jti.length ≤ 128) ∧
      d.scope = some (.str "civicgate:invoke") ∧ now < exp
    then some ⟨v.domain.principal, d.iss, d.aud, exp⟩ else none
  | _, _, _, _ => none

/-- `verify`: the clock as `jwt.decode` reads it, and as the last check does. -/
def LocalCredentialVerifier.verify (v : LocalCredentialVerifier) (token : String)
    (decodeClock now : ℚ) : Except LocalHold Claims :=
  if 4096 < token.length then .error ⟨"AUTH_INVALID"⟩
  else match (v.decode token decodeClock).bind fun d => v.check d now with
    | some claims => .ok claims
    | none => .error ⟨"AUTH_INVALID"⟩

variable {v : LocalCredentialVerifier} {token : String} {decodeClock now : ℚ} {claims : Claims}

/-- A credential verified is one of the principal, unexpired at the last check. -/
lemma verify_eq_ok (h : v.verify token decodeClock now = .ok claims) :
    claims.sub = v.domain.principal ∧ now < claims.exp := by
  unfold LocalCredentialVerifier.verify at h
  split at h
  · cases h
  · split at h
    · rename_i found hfound
      obtain ⟨d, -, hcheck⟩ := Option.bind_eq_some_iff.mp hfound
      obtain rfl := Except.ok.inj h
      unfold LocalCredentialVerifier.check at hcheck
      split at hcheck
      · split at hcheck
        · rename_i hall
          obtain rfl := Option.some.inj hcheck
          exact ⟨rfl, hall.2.2.2.2.2⟩
        · cases hcheck
      · cases hcheck
    · cases h

end CivicGate.Mcp
