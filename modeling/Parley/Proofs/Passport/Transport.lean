import Parley.Proofs.Http.Bearer
import Parley.Proofs.Passport.Token
import Parley.Proofs.Uuid
import Parley.Service.Visitor

/-!
# Passports on their way

A passport says what it says in characters that may stand anywhere: whatever is in its claims,
the token is made of letters, digits, hyphens and underscores, with a dot behind each of the first
two parts. So nothing on its way has anything to escape or to trim, and it is read back as it
was issued.

* `segments_sign`: the dots of a token stand between its three parts and nowhere else.
* `bearer?_of_sign`: a signed token arrives as it was sent.
* `passport_round_trip`: so do the claims.
-/
namespace Parley.Passport

open Http (IsPadding IsVisible Request)

variable {mac : Mac} {c : Claims}

/-! ## The parts of a token -/

/-- What stands between the dots of a token. -/
def segments (token : String) : List (List Char) :=
  Text.splitWhere (· == '.') token.toList

/-- The dots of a token stand between its three parts and nowhere else. -/
theorem segments_sign (mac : Mac) (c : Claims) : segments (sign mac c) =
    [part Header.json, part c.toJson,
      signature mac (part Header.json ++ '.' :: part c.toJson)] := by
  have hpart (v : Json) : ∀ a ∈ part v, (a == '.') = false := beq_dot (dot_not_mem_encode _)
  have hsignature (message : List Char) : ∀ a ∈ signature mac message, (a == '.') = false :=
    beq_dot (dot_not_mem_encode _)
  rw [segments, sign, String.toList_ofList, List.append_assoc, List.cons_append,
    Text.splitWhere_append _ (hpart _) rfl, Text.splitWhere_append _ (hpart _) rfl,
    Text.splitWhere_of_none (hsignature _)]

theorem inAlphabet_of_mem_segments {segment : List Char} (h : segment ∈ segments (sign mac c))
    {a : Char} (ha : a ∈ segment) : Base64Url.InAlphabet a := by
  rw [segments_sign] at h
  simp only [List.mem_cons, List.not_mem_nil, or_false] at h
  rcases h with rfl | rfl | rfl <;> exact Base64Url.inAlphabet_of_mem_encode ha

theorem part_obj_ne_nil (members : List (String × Json)) : part (.obj members) ≠ [] := by
  obtain ⟨b, bs, hfirst, -⟩ := Utf8.first_encodeChar '\x7b'
  rw [part, Json.write, List.cons_append, Utf8.encode_cons, hfirst]
  exact Base64Url.encode_ne_nil (List.cons_ne_nil _ _)

theorem length_macOf (secretKey : String) (message : List UInt8) :
    (Service.macOf secretKey message).length = 32 :=
  Sha256.length_hash _

theorem ne_nil_of_mem_segments {secretKey : String} {segment : List Char}
    (h : segment ∈ segments (sign (Service.macOf secretKey) c)) : segment ≠ [] := by
  rw [segments_sign] at h
  simp only [List.mem_cons, List.not_mem_nil, or_false] at h
  rcases h with rfl | rfl | rfl
  · exact part_obj_ne_nil _
  · exact part_obj_ne_nil _
  · apply Base64Url.encode_ne_nil
    rw [← List.length_pos_iff, length_macOf]
    decide

/-! ## The way of a token -/

theorem isVisible_of_mem_sign {a : Char} (h : a ∈ (sign mac c).toList) : IsVisible a := by
  have hencoded {bytes : List UInt8} (h : a ∈ Base64Url.encode bytes) : IsVisible a :=
    (Base64Url.written_of_mem_encode h).graphic
  have hdot : IsVisible '.' := ⟨by decide, by decide⟩
  rw [sign, String.toList_ofList] at h
  simp only [List.mem_append, List.mem_cons] at h
  rcases h with (h | rfl | h) | rfl | h
  · exact hencoded h
  · exact hdot
  · exact hencoded h
  · exact hdot
  · exact hencoded h

theorem sign_ne_empty (mac : Mac) (c : Claims) : sign mac c ≠ "" := by
  intro h
  have hnil : (sign mac c).toList = [] := by rw [h]; rfl
  simp [sign] at hnil

theorem bearer?_of_sign {r : Request} {before after : String}
    (hbefore : ∀ a ∈ before.toList, IsPadding a) (hafter : ∀ a ∈ after.toList, IsPadding a)
    (h : r.header? "authorization" =
      some (Utf8.ofString ("Bearer " ++ before ++ sign mac c ++ after))) :
    r.bearer? = some (sign mac c) :=
  Request.bearer?_of_header (sign_ne_empty mac c) (fun _ => isVisible_of_mem_sign) hbefore hafter h

theorem trim_sign (mac : Mac) (c : Claims) : Text.trim (sign mac c) = sign mac c := by
  rw [Text.trim, Text.trimChars_of_not_blank fun a ha => (isVisible_of_mem_sign ha).not_blank,
    String.ofList_toList]

/-- Whatever function signs them, claims are read back from their token as they were. It is three
segments with dots between them, all in the alphabet of base64; it is left as it is where it is
trimmed, and where it is taken from a header with spaces and tabs around it. Under a secret key
no segment is empty, as the function then makes 32 bytes of every message. -/
theorem passport_round_trip (claims : Claims) :
    (∀ mac : Mac,
      let token := sign mac claims
      verify mac token = .ok claims ∧
      (segments token).length = 3 ∧
      (∀ segment ∈ segments token, ∀ a ∈ segment, Base64Url.InAlphabet a) ∧
      Text.trim token = token ∧
      ∀ (r : Request) (before after : String),
        (∀ a ∈ before.toList, IsPadding a) → (∀ a ∈ after.toList, IsPadding a) →
        r.header? "authorization" =
          some (Utf8.ofString ("Bearer " ++ before ++ token ++ after)) →
        r.bearer? = some token) ∧
    ∀ secretKey, ∀ segment ∈ segments (sign (Service.macOf secretKey) claims), segment ≠ [] := by
  refine ⟨fun mac => ⟨verify_sign mac claims, ?_, ?_, trim_sign mac claims, ?_⟩, ?_⟩
  · rw [segments_sign]
    rfl
  · exact fun segment hsegment a ha => inAlphabet_of_mem_segments hsegment ha
  · exact fun r before after hbefore hafter h => bearer?_of_sign hbefore hafter h
  · exact fun secretKey segment hsegment => ne_nil_of_mem_segments hsegment

/-- Claims with a quote, a backslash, a line break, a dot and other than ASCII. -/
def oddClaims : Claims where
  issuer := "a\"b\\c"
  subject := "d\n.\t"
  app := default
  appCode := "é"
  endUser := .ofByte 1
  account := .ofByte 2
  userType := ""

theorem passport_round_trip_of_oddClaims :
    let token := sign (Service.macOf "key") oddClaims
    let r : Request := {
      method := "GET"
      target := "/"
      headers := [("Authorization", Utf8.ofString ("Bearer " ++ "\t" ++ token ++ "  "))] }
    (∀ a ∈ "\t".toList, IsPadding a) ∧ (∀ a ∈ "  ".toList, IsPadding a) ∧
    r.header? "authorization" = some (Utf8.ofString ("Bearer " ++ "\t" ++ token ++ "  ")) ∧
    r.bearer? = some token ∧ verify (Service.macOf "key") token = .ok oddClaims ∧
    (segments token).length = 3 ∧ ∀ segment ∈ segments token, segment ≠ [] := by
  intro token r
  have hbefore : ∀ a ∈ "\t".toList, IsPadding a := by simp [IsPadding]
  have hafter : ∀ a ∈ "  ".toList, IsPadding a := by simp [IsPadding]
  have hheader : r.header? "authorization" =
      some (Utf8.ofString ("Bearer " ++ "\t" ++ token ++ "  ")) := by
    rw [Request.header?, List.find?_cons_of_pos (by decide), Option.map_some]
  obtain ⟨hmac, hnonempty⟩ := passport_round_trip oddClaims
  obtain ⟨hverify, hlength, -, -, hbearer⟩ := hmac (Service.macOf "key")
  exact ⟨hbefore, hafter, hheader, hbearer r _ _ hbefore hafter hheader, hverify, hlength,
    hnonempty "key"⟩

end Parley.Passport
