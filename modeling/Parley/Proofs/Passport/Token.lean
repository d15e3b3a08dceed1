import Parley.Digest.Hmac
import Parley.Passport.Token
import Parley.Proofs.Passport.Claims
import Parley.Proofs.Text.Base64Url
import Parley.Proofs.Text.Blank

/-!
# Which tokens are accepted

The function `mac` that signs is arbitrary throughout.

* `verify_joined`: what is asked of a token, by its three parts.
* `verify_sign`: what is signed is accepted, with the claims that were signed.
* `accepts_signed_only`: a token is accepted if and only if its header names the one
  algorithm, its last part is the signature of the first two as they are written, and its
  claims can be read. So there is one accepted token for the first two parts, and any other
  last part is refused for the signature.
-/
namespace Parley.Passport

/-! ## The three parts -/

def joined (header claims sig : List Char) : String :=
  String.ofList (header ++ '.' :: claims ++ '.' :: sig)

/-- The last two dots of the token part it into these three. -/
structure CutAs (token : String) (header claims sig : List Char) : Prop where
  joined : token = joined header claims sig
  claims_free : '.' ∉ claims
  sig_free : '.' ∉ sig

theorem beq_dot {cs : List Char} (h : '.' ∉ cs) : ∀ c ∈ cs, (c == '.') = false :=
  fun _ hc => beq_eq_false_iff_ne.2 fun e => h (e ▸ hc)

/-- What is asked of a token, by its three parts and in this order. -/
theorem verify_joined (mac : Mac) {token : String} {header claims sig : List Char}
    (h : CutAs token header claims sig) : verify mac token =
      (readPart Header.algorithm header).bind fun algorithm =>
        if algorithm ≠ .hs256 then .error .algorithm
        else if sig ≠ signature mac (header ++ '.' :: claims) then .error .signature
        else readPart Claims.ofBytes claims := by
  have hfirst : Text.splitLast? (· == '.') token.toList = some (header ++ '.' :: claims, sig) := by
    rw [h.joined, joined, String.toList_ofList]
    exact Text.splitLast?_append _ rfl (beq_dot h.sig_free)
  have hsecond : Text.splitLast? (· == '.') (header ++ '.' :: claims) = some (header, claims) :=
    Text.splitLast?_append _ rfl (beq_dot h.claims_free)
  rw [verify, hfirst]
  simp only [hsecond]
  cases readPart Header.algorithm header with
  | error e => rfl
  | ok algorithm =>
    by_cases halg : algorithm = .hs256
    · by_cases hsig : sig = signature mac (header ++ '.' :: claims)
      · simp [halg, hsig, bind, Except.bind]
      · simp [halg, hsig, bind, Except.bind]; rfl
    · simp [halg, bind, Except.bind]; rfl

theorem not_mem_of_beq {cs : List Char} (h : ∀ c ∈ cs, (c == '.') = false) : '.' ∉ cs :=
  fun hc => by simpa using h _ hc

theorem exists_cutAs {mac : Mac} {token : String} {c : Claims} (h : verify mac token = .ok c) :
    ∃ header claims sig, CutAs token header claims sig := by
  rw [verify] at h
  cases hfirst : Text.splitLast? (· == '.') token.toList with
  | none => simp [hfirst] at h
  | some r =>
    obtain ⟨message, sig⟩ := r
    cases hsecond : Text.splitLast? (· == '.') message with
    | none => simp [hfirst, hsecond] at h
    | some r =>
      obtain ⟨header, claims⟩ := r
      obtain ⟨_, hjoined, hdot, hsig⟩ := Text.eq_of_splitLast? hfirst
      obtain ⟨_, rfl, hdot', hclaims⟩ := Text.eq_of_splitLast? hsecond
      obtain rfl := eq_of_beq hdot
      obtain rfl := eq_of_beq hdot'
      refine ⟨header, claims, sig, ?_, not_mem_of_beq hclaims, not_mem_of_beq hsig⟩
      rw [joined, ← String.ofList_toList (s := token), hjoined]

theorem verify_eq_ok_iff (mac : Mac) {token : String} {header claims sig : List Char}
    (h : CutAs token header claims sig) (c : Claims) : verify mac token = .ok c ↔
      readPart Header.algorithm header = .ok .hs256 ∧
        sig = signature mac (header ++ '.' :: claims) ∧ readPart Claims.ofBytes claims = .ok c := by
  rw [verify_joined mac h]
  cases readPart Header.algorithm header with
  | error e => simp [Except.bind]
  | ok algorithm =>
    by_cases halg : algorithm = .hs256
    · by_cases hsig : sig = signature mac (header ++ '.' :: claims)
      · simp [halg, ← hsig, Except.bind]
      · simp [halg, hsig, Except.bind]
    · simp [halg, Except.bind]

/-! ## Issued tokens -/

theorem dot_not_mem_encode (bytes : List UInt8) : '.' ∉ Base64Url.encode bytes :=
  fun h => (Base64Url.written_of_mem_encode h).ne_dot rfl

theorem readPart_part {α : Type} {read : List UInt8 → Except Json.Fault α} {v : Json} {a : α}
    (h : read (Utf8.encode v.write) = .ok a) : readPart read (part v) = .ok a := by
  rw [readPart, part, Base64Url.decode?_encode]
  simp only [h]

theorem cutAs_sign (mac : Mac) (c : Claims) : CutAs (sign mac c) (part Header.json) (part c.toJson)
    (signature mac (part Header.json ++ '.' :: part c.toJson)) :=
  ⟨rfl, dot_not_mem_encode _, dot_not_mem_encode _⟩

/-- What is signed is accepted, with the claims that were signed. -/
theorem verify_sign (mac : Mac) (c : Claims) : verify mac (sign mac c) = .ok c :=
  (verify_eq_ok_iff mac (cutAs_sign mac c) c).2
    ⟨readPart_part Header.algorithm_json, rfl, readPart_part (Claims.ofBytes_toJson c)⟩

/-! ## Accepted tokens -/

/-- A token is accepted if and only if it is three parts of which the first is a header that
names the one algorithm, the last is the signature of the other two as they are written, and
the second is the claims. So two accepted tokens with the same first two parts are equal; with
any other last part an accepted token is refused for the signature; and a header that names
another algorithm is refused for that, whatever the signature. -/
theorem accepts_signed_only (mac : Mac) :
    (∀ token c, verify mac token = .ok c ↔ ∃ header claims sig,
      CutAs token header claims sig ∧ readPart Header.algorithm header = .ok .hs256 ∧
        sig = Base64Url.encode (mac (Utf8.encode (header ++ '.' :: claims))) ∧
        readPart Claims.ofBytes claims = .ok c) ∧
    (∀ token token' c c' header claims sig sig', verify mac token = .ok c →
      verify mac token' = .ok c' → CutAs token header claims sig →
      CutAs token' header claims sig' → token = token') ∧
    (∀ token c header claims sig sig', verify mac token = .ok c →
      CutAs token header claims sig → '.' ∉ sig' → sig' ≠ sig →
      verify mac (joined header claims sig') = .error .signature) ∧
    (∀ token header claims sig algorithm, CutAs token header claims sig →
      readPart Header.algorithm header = .ok algorithm → algorithm ≠ .hs256 →
      verify mac token = .error .algorithm) := by
  refine ⟨fun token c => ⟨fun h => ?_, ?_⟩, ?_, ?_, ?_⟩
  · obtain ⟨header, claims, sig, hcut⟩ := exists_cutAs h
    exact ⟨header, claims, sig, hcut, (verify_eq_ok_iff mac hcut c).1 h⟩
  · rintro ⟨header, claims, sig, hcut, haccepted⟩
    exact (verify_eq_ok_iff mac hcut c).2 haccepted
  · intro token token' c c' header claims sig sig' h h' hcut hcut'
    obtain ⟨-, hsig, -⟩ := (verify_eq_ok_iff mac hcut c).1 h
    obtain ⟨-, hsig', -⟩ := (verify_eq_ok_iff mac hcut' c').1 h'
    rw [hcut.joined, hcut'.joined, hsig, hsig']
  · intro token c header claims sig sig' h hcut hfree hne
    obtain ⟨halg, rfl, -⟩ := (verify_eq_ok_iff mac hcut c).1 h
    rw [verify_joined mac ⟨rfl, hcut.claims_free, hfree⟩, halg]
    simp [Except.bind, hne]
  · intro token header claims sig algorithm hcut halg hne
    rw [verify_joined mac hcut, halg]
    simp [Except.bind, hne]

def guestClaims : Claims :=
  .make (.ofByte 1) "abc123" (.ofByte 2) (.ofByte 2) "account_linked"

/-- The function that signs under the key `secret`. -/
def guestMac : Mac := Hmac.sha256 (Utf8.ofString "secret")

/-- A signed token is accepted, and refused once its signature is padded. -/
theorem padding_refused_for_guestClaims : ∃ header claims sig,
    CutAs (sign guestMac guestClaims) header claims sig ∧
      verify guestMac (sign guestMac guestClaims) = .ok guestClaims ∧
      verify guestMac (joined header claims (sig ++ ['='])) = .error .signature := by
  obtain ⟨haccepts, -, hreplaced, -⟩ := accepts_signed_only guestMac
  have hcut := cutAs_sign guestMac guestClaims
  have hsigned : verify guestMac (sign guestMac guestClaims) = .ok guestClaims :=
    (haccepts _ _).2 ⟨_, _, _, hcut, readPart_part Header.algorithm_json, rfl,
      readPart_part (Claims.ofBytes_toJson guestClaims)⟩
  refine ⟨_, _, _, hcut, hsigned, hreplaced _ _ _ _ _ _ hsigned hcut ?_ ?_⟩
  · simpa using hcut.sig_free
  · simp

end Parley.Passport
