import QueryDesk.Proofs.Crypto.Base64
import QueryDesk.Proofs.Json.RoundTrip
import QueryDesk.Proofs.Otp.WrongCodes
import QueryDesk.Proofs.Text.Utf8
import QueryDesk.Proofs.Token.Timestamp
import QueryDesk.Token.Read

/-!
# Tokens read back

A token that is issued is read back with the claims that it was issued for, up to and including the
second in which it expires. So is the token in the answer to a code that was accepted.
-/

namespace QueryDesk

namespace Token

/-! ## The parts of a token -/

variable {nesting : Json.Nesting} {secret subject purpose : String} {key : List UInt8}
  {issued expires : Int}

theorem cutLast?_mark {before after : List Char} (unmarked : '.' ∉ after) :
    cutLast? (before ++ '.' :: after) = some (before, after) := by
  have turned : (before ++ '.' :: after).reverse = after.reverse ++ '.' :: before.reverse := by
    simp
  have unmarked' : '.' ∉ after.reverse := by simpa using unmarked
  rw [cutLast?, turned, Text.cut?_mark unmarked']
  simp

/-- The text that a token with given claims is signed for. -/
def signedText (claims : Value) : List Char :=
  segment header ++ '.' :: segment claims

/-- A signed token comes apart into its segments. -/
theorem parts?_signed (key : List UInt8) (claims : Value) :
    parts? (signed key claims) = some
      ⟨Text.Utf8.encode (Json.compactChars header), segment claims,
        Base64.encodeUrl (Hmac.sign key (Text.Utf8.encode (signedText claims))),
        signedText claims⟩ := by
  have headed : Text.cut? ['.'] (signedText claims) = some (segment header, segment claims) :=
    Text.cut?_mark (Base64.point_notMem_encodeUrl _) _
  have bytes : Base64.decodeUrl (segment header) =
      some (Text.Utf8.encode (Json.compactChars header)) :=
    Base64.decodeUrl_encodeUrl _
  rw [parts?, signed, ← signedText]
  dsimp only
  rw [String.toList_ofList, cutLast?_mark (Base64.point_notMem_encodeUrl _)]
  simp only [Option.bind_eq_bind, Option.bind_some, headed, bytes]

/-- The bytes of an object in compact form are read as this object. -/
theorem readObject_encode {depth : Nat} (fault : String → ReadFault) {members : Members}
    (plain : Json.isPlain depth (.object members) = true) :
    readObject depth fault (Text.Utf8.encode (Json.compactChars (.object members))) =
      .ok members := by
  have unmarked : (Json.compactChars (.object members)).head? ≠ some (Char.ofNat 0xFEFF) := by
    rw [Json.compactChars, List.cons_append, List.head?_cons]
    decide
  rw [readObject, Text.Utf8.decode_encode]
  dsimp only
  rw [if_neg unmarked, Json.readChars_compactChars plain]

/-! ## The claims of a token -/

theorem isPlain_claims (depth : Nat) (subject purpose : String) (near : issued.natAbs < 10 ^ 12)
    (near' : expires.natAbs < 10 ^ 12) :
    Json.isPlain (depth + 1) (claims subject purpose issued expires) = true := by
  have text (s : String) : Json.isPlain depth (.text s) = true := by simp [Json.isPlain]
  have whole {n : Int} (near : n.natAbs < 10 ^ 12) : Json.isPlain depth (.int n) = true := by
    rw [Json.isPlain, decide_eq_true_eq]
    exact Numeral.lt_pow_of_lt Numeral.maxDigits near (by decide)
  have distinct : (["sub", "purpose", "iat", "exp"] : List String).Nodup := by decide
  rw [claims, Json.isPlain]
  simp only [Json.membersArePlain, text, whole near, whole near', Bool.and_true]
  exact decide_eq_true distinct

theorem isPlain_header (depth : Nat) : Json.isPlain (depth + 1) header = true := by
  simp [header, Json.isPlain, Json.membersArePlain, Members.keys]

/-- The claims with which a token is issued. -/
def issuedClaims (subject purpose : String) (issued expires : Int) : Members :=
  [("sub", .text subject), ("purpose", .text purpose), ("iat", .int issued), ("exp", .int expires)]

/-- The claims of an issued token are right until the second in which it expires is over. -/
theorem checkClaims_issued (subject purpose : String) (issued expires now : Int) :
    checkClaims (issuedClaims subject purpose issued expires) now =
      if now ≤ expires then .ok () else .error .expired := by
  have began : seconds? (issuedClaims subject purpose issued expires) .issuedAt =
      .ok (some issued) := rfl
  have begins : seconds? (issuedClaims subject purpose issued expires) .notBefore = .ok none := rfl
  have ends : seconds? (issuedClaims subject purpose issued expires) .expiration =
      .ok (some expires) := rfl
  rw [checkClaims, began, begins, ends]
  by_cases late : expires < now
  · rw [if_neg (Int.not_le.mpr late)]
    simp only [bind, Except.bind, late, if_true]
    rfl
  · rw [if_pos (Int.not_lt.mp late)]
    simp only [bind, Except.bind, late, if_false]
    rfl

/-- What becomes of a token whose parts are in order depends on its signature, then on its claims. -/
theorem read_of_parts {secret : Value} {token : String} {parts : Parts} {header claims : Members}
    {payload signature : List UInt8} {verdict : Except ReadFault Unit}
    (parted : parts? token = some parts)
    (headed : readObject (nesting.limit .token) .header parts.header = .ok header)
    (claimBytes : Base64.decodeUrl parts.claims = some payload)
    (signatureBytes : Base64.decodeUrl parts.signature = some signature)
    (allowed : checkAlgorithm header = .ok ())
    (checked :
      checkSignature parts.signed signature (keys (nesting.limit .secret) secret) = verdict)
    (claimed : readObject (nesting.limit .token) .payload payload = .ok claims) (now : Int) :
    read nesting secret token now =
      verdict.bind fun _ => ((checkClaims claims now).mapError .claims).map fun _ => claims := by
  rw [read, parted]
  simp only [bind, Except.bind, pure, Except.pure, headed, claimBytes, signatureBytes, allowed,
    checked, claimed]
  cases verdict with
  | error fault => rfl
  | ok _ => cases checkClaims claims now <;> rfl

/-- What is signed under a key is read, if this is right under the secret to check with, up to the
    second in which it expires. -/
theorem read_signed {secret : Value} {verdict : Except ReadFault Unit}
    (checked : checkSignature (signedText (claims subject purpose issued expires))
      (Hmac.sign key (Text.Utf8.encode (signedText (claims subject purpose issued expires))))
      (keys (nesting.limit .secret) secret) = verdict)
    (near : issued.natAbs < 10 ^ 12) (near' : expires.natAbs < 10 ^ 12) (now : Int) :
    read nesting secret (signed key (claims subject purpose issued expires)) now =
      verdict.bind fun _ =>
        if now ≤ expires then .ok (issuedClaims subject purpose issued expires)
        else .error (.claims .expired) := by
  obtain ⟨depth, deep⟩ := nesting.exists_limit .token
  have headed := readObject_encode .header (isPlain_header (depth + 1))
  have claimed := readObject_encode .payload
    (isPlain_claims (depth + 1) subject purpose near near')
  rw [← deep] at headed claimed
  rw [read_of_parts (parts?_signed key _) headed (Base64.decodeUrl_encodeUrl _)
    (Base64.decodeUrl_encodeUrl _) rfl checked claimed, ← issuedClaims, checkClaims_issued]
  congr 1
  funext _
  by_cases inTime : now ≤ expires
  · rw [if_pos inTime, if_pos inTime]
    rfl
  · rw [if_neg inTime, if_neg inTime]
    rfl

/-! ## Issuing -/

/-- A secret is a key, and it is the one key that it stands for when a token is checked. -/
structure IsOwnKey (nesting : Json.Nesting) (secret : String) : Prop where
  /-- The secret does not look like a public key. -/
  shared : ∀ mark ∈ publicMarks, ¬ mark.toList <:+: secret.toList
  alone : keysOfText (nesting.limit .secret) secret = [.text secret]

/-- A text that is neither a number nor other JSON is the one key that it stands for. -/
theorem keysOfText_of_unread {depth : Nat}
    (word : isNumeral (Text.dropWhileEnd Json.isSpace (Json.skip secret.toList)) = false)
    (unread : (Json.readChars depth secret.toList).isOk = false) :
    keysOfText depth secret = [.text secret] := by
  unfold keysOfText
  cases read : Json.readChars depth secret.toList with
  | error _ => simp [word]
  | ok _ =>
    rw [read] at unread
    cases unread

theorem IsOwnKey.bytes (own : IsOwnKey nesting secret) :
    secretBytes? secret = some (Text.Utf8.encode secret.toList) := by
  have unmarked : ¬ (publicMarks.any fun mark => Text.occurs mark.toList secret.toList) = true := by
    simp only [List.any_eq_true, Text.occurs_iff, not_exists, not_and]
    exact own.shared
  rw [secretBytes?, if_neg unmarked]

/-- What is signed under a secret that is its own key is right under it. -/
theorem IsOwnKey.right (own : IsOwnKey nesting secret) (body : List Char) :
    checkSignature body (Hmac.sign (Text.Utf8.encode secret.toList) (Text.Utf8.encode body))
      (keys (nesting.limit .secret) (.text secret)) = .ok () := by
  have tried : keys (nesting.limit .secret) (.text secret) = [.text secret] := own.alone
  rw [tried, checkSignature, keyBytes?, own.bytes]
  exact if_pos rfl

theorem IsOwnKey.read_signed (own : IsOwnKey nesting secret) (near : issued.natAbs < 10 ^ 12)
    (near' : expires.natAbs < 10 ^ 12) (now : Int) :
    read nesting (.text secret)
      (signed (Text.Utf8.encode secret.toList) (claims subject purpose issued expires)) now =
      if now ≤ expires then .ok (issuedClaims subject purpose issued expires)
      else .error (.claims .expired) := by
  rw [Token.read_signed (own.right _) near near']
  rfl

variable {settings : Settings} {moment : Moment} {ttl : Int} {asked : Option Int}

theorem issue_of_lifetime (given : settings.get .tokenSecret = .text secret)
    (usable : secretBytes? secret = some key) (subject purpose : String)
    (lasts : lifetime settings asked = .ok ttl)
    (ends : Moment.inRange (moment.micros + ttl) = true) :
    issue settings subject purpose moment asked =
      .ok (signed key (claims subject purpose (timestamp moment)
        (timestamp { moment with micros := moment.micros + ttl }))) := by
  have signs : signingKey settings = .ok key := by
    rw [signingKey, given]
    dsimp only
    rw [usable]
  have later : moment.add? ttl = some { moment with micros := moment.micros + ttl } := by
    rw [Moment.add?, if_pos ends]
  simp only [issue, lasts, bind, Except.bind, later, signs]
  rfl

/-- A token that was issued has a lifetime that ends within the calendar. -/
theorem lifetime_of_issue {token : String}
    (issued : issue settings subject purpose moment asked = .ok token) :
    ∃ ttl, lifetime settings asked = .ok ttl ∧ Moment.inRange (moment.micros + ttl) = true := by
  rw [issue, bind_eq_ok_iff] at issued
  obtain ⟨ttl, lasts, issued⟩ := issued
  refine ⟨ttl, lasts, ?_⟩
  cases later : moment.add? ttl with
  | none =>
    rw [later] at issued
    cases issued
  | some expires =>
    rw [Moment.add?] at later
    split at later
    · assumption
    · cases later

/-- Two moments of the calendar are less than a thousand million days apart. -/
theorem lifetime_asked (begins : Moment.inRange moment.micros = true)
    (ends : Moment.inRange (moment.micros + ttl) = true) :
    lifetime settings (some ttl) = .ok ttl := by
  have short : Moment.endOfTime ≤ 999999999 * Moment.day := by decide
  have longer : 999999999 * Moment.day ≤ 1000000000 * Moment.day := by decide
  rw [Moment.inRange, Bool.and_eq_true, decide_eq_true_eq, decide_eq_true_eq] at begins ends
  have span : isSpan ttl = true := by
    rw [isSpan, Bool.and_eq_true, decide_eq_true_eq, decide_eq_true_eq]
    constructor <;> omega
  rw [lifetime]
  simp only [pure, Except.pure, bind, Except.bind, span, if_true]

/-- A token that is issued for a span in microseconds is read with its claims, up to and including
    the second in which the span ends, and not after it. -/
structure Lasts (nesting : Json.Nesting) (secret token subject purpose : String) (moment : Moment)
    (ttl : Int) : Prop where
  issued : Stamps moment.sinceEpoch (timestamp moment)
  expires : Stamps (moment.sinceEpoch + ttl)
    (timestamp { moment with micros := moment.micros + ttl })
  reads (now : Moment) : read nesting (.text secret) token (now.sinceEpoch / 1000000) =
    if now.sinceEpoch / 1000000 ≤ timestamp { moment with micros := moment.micros + ttl } then
      .ok [("sub", .text subject), ("purpose", .text purpose), ("iat", .int (timestamp moment)),
        ("exp", .int (timestamp { moment with micros := moment.micros + ttl }))]
    else .error (.claims .expired)

theorem Stamps.natAbs_lt {micros second : Int} (stamps : Stamps micros second)
    (recent : 0 ≤ micros) (early : micros < 2 ^ 38 * 1000000) : second.natAbs < 10 ^ 12 := by
  obtain ⟨lower, upper, -⟩ := stamps
  omega

theorem lasts_signed (own : IsOwnKey nesting secret) (subject purpose : String)
    (utc : moment.offset? = some 0) (begins : Moment.inRange moment.micros = true)
    (ends : Moment.inRange (moment.micros + ttl) = true) (recent : 0 ≤ moment.sinceEpoch)
    (recent' : 0 ≤ moment.sinceEpoch + ttl) :
    Lasts nesting secret (signed (Text.Utf8.encode secret.toList) (claims subject purpose
      (timestamp moment) (timestamp { moment with micros := moment.micros + ttl })))
      subject purpose moment ttl := by
  have later : ({ moment with micros := moment.micros + ttl } : Moment).sinceEpoch =
      moment.sinceEpoch + ttl := by
    simp only [Moment.sinceEpoch, Moment.universal]
    omega
  have stamps := timestamp_stamps utc begins recent
  have stamps' := timestamp_stamps (m := { moment with micros := moment.micros + ttl }) utc ends
    (later ▸ recent')
  have early := sinceEpoch_lt (m := { moment with micros := moment.micros + ttl }) utc ends
  rw [later] at stamps' early
  have near := stamps.natAbs_lt recent (sinceEpoch_lt utc begins)
  have near' := stamps'.natAbs_lt recent' early
  refine ⟨stamps, stamps', ?_⟩
  exact fun now => own.read_signed near near' _

end Token

/-! ## Tokens for codes -/

namespace Otp

open Http

theorem tokenAnswer_of_judged {s : Service} {key : OtpKey} {verdict : Verdict} {response : Response}
    (answered : s.judged key verdict = .ok response) (verified : response.status = 200) :
    s.tokenAnswer key = .ok response := by
  cases verdict with
  | accepted => exact answered
  | unlimited fault => cases answered
  | tooLong => cases answered
  | _ =>
    cases answered
    cases verified

/-- An answer of status 200 to a code is the answer with a token. -/
theorem tokenAnswer_of_verified {s : Service} {attempt : CodeCheck} {response : Response}
    (answered : (s.checkCode attempt).1 = .ok response) (verified : response.status = 200) :
    s.tokenAnswer (Task.check attempt).key = .ok response := by
  unfold Service.checkCode at answered
  cases read : OtpKey.ofTexts attempt.purpose attempt.email with
  | error fault =>
    rw [read] at answered
    cases answered
    cases verified
  | ok key =>
    obtain ⟨rfl, -⟩ := ofTexts_ok_iff.mp read
    rw [read] at answered
    exact tokenAnswer_of_judged answered verified

/-- The answer with a token is the token for its key. -/
theorem issued_of_tokenAnswer {s : Service} {key : OtpKey} {response : Response}
    (answered : s.tokenAnswer key = .ok response) :
    ∃ token, Token.issue s.settings key.email key.purpose s.now = .ok token ∧
      response.body = .json (.object [("status", .text "verified"), ("purpose", .text key.purpose),
        ("access_token", .text token), ("token_type", .text "bearer")]) := by
  unfold Service.tokenAnswer at answered
  split at answered
  · rename_i token issued
    refine ⟨token, issued, ?_⟩
    unfold Answer.json at answered
    split at answered
    · cases answered
      rfl
    · cases answered
  · cases answered

end Otp

/-- Issued tokens are read back under a secret that is its own key, up to and including the second
    in which they expire. A token in the answer to a code that was accepted is one for the
    normalized address and purpose of the request, issued when the request came for as long as the
    settings say. -/
theorem tokens_last {secret : String} {settings : Settings}
    (own : Token.IsOwnKey settings.platform.nesting secret)
    (given : settings.get .tokenSecret = .text secret) :
    (∀ (subject purpose : String) (moment : Moment) (ttl : Int), moment.offset? = some 0 →
      Moment.inRange moment.micros = true → Moment.inRange (moment.micros + ttl) = true →
      0 ≤ moment.sinceEpoch → 0 ≤ moment.sinceEpoch + ttl →
      ∃ token, Token.issue settings subject purpose moment (some ttl) = .ok token ∧
        Token.Lasts settings.platform.nesting secret token subject purpose moment ttl) ∧
    ∀ (a : Otp.Arrival) (db : Database) (attempt : CodeCheck) (response : Http.Response),
      a.settings = settings → a.task? = some (.check attempt) →
      Moment.inRange a.time = true → 0 ≤ a.now.sinceEpoch →
      a.answer db = .ok response → response.status = 200 →
      ∃ token ttl, Token.lifetime settings none = .ok ttl ∧
        response.body = .json (.object [("status", .text "verified"),
          ("purpose", .text (OtpKey.normalizePurpose attempt.purpose)),
          ("access_token", .text token), ("token_type", .text "bearer")]) ∧
        (0 ≤ a.now.sinceEpoch + ttl →
          Token.Lasts settings.platform.nesting secret token (normalizeEmail attempt.email)
            (OtpKey.normalizePurpose attempt.purpose) a.now ttl) := by
  constructor
  · intro subject purpose moment ttl utc begins ends recent recent'
    have lasts : Token.lifetime settings (some ttl) = .ok ttl := Token.lifetime_asked begins ends
    exact ⟨_, Token.issue_of_lifetime given own.bytes subject purpose lasts ends,
      Token.lasts_signed own subject purpose utc begins ends recent recent'⟩
  · intro a db attempt response same asks begins recent answered verified
    subst same
    rw [(Otp.answer_of_check asks db).1] at answered
    obtain ⟨inner, checked, rfl⟩ := map_eq_ok_iff.mp answered
    rw [Otp.dressed_status] at verified
    rw [Otp.dressed_body]
    obtain ⟨token, issued, body⟩ :=
      Otp.issued_of_tokenAnswer (Otp.tokenAnswer_of_verified checked verified)
    obtain ⟨ttl, lasts, ends⟩ := Token.lifetime_of_issue issued
    refine ⟨token, ttl, lasts, body, ?_⟩
    intro recent'
    have made := Token.issue_of_lifetime given own.bytes (normalizeEmail attempt.email)
      (OtpKey.normalizePurpose attempt.purpose) lasts ends
    obtain rfl := Except.ok.inj (issued.symm.trans made)
    exact Token.lasts_signed own _ _ rfl begins ends recent recent'

theorem isOwnKey_default : Token.IsOwnKey (.uniform 950 (by decide)) "change_me_jwt" where
  shared := by decide +kernel
  alone := Token.keysOfText_of_unread (by decide +kernel) (by decide +kernel)

open Otp in
theorem sample_tokens_last :
    (∃ token, Token.issue sampleSettings "é💥\"" "p" ⟨63902908800500000, some 0⟩ (some 1500000) =
        .ok token ∧
      Token.Lasts sampleSettings.platform.nesting "change_me_jwt" token "é💥\"" "p"
        ⟨63902908800500000, some 0⟩ 1500000) ∧
    ∃ response token ttl, (asking "123456").answer sampleTable = .ok response ∧
      response.status = 200 ∧ Token.lifetime sampleSettings none = .ok ttl ∧ ttl = 86400000000 ∧
      response.body = .json (.object [("status", .text "verified"),
        ("purpose", .text (OtpKey.normalizePurpose (sampleAttempt "123456").purpose)),
        ("access_token", .text token), ("token_type", .text "bearer")]) ∧
      Token.Lasts sampleSettings.platform.nesting "change_me_jwt" token
        (normalizeEmail (sampleAttempt "123456").email)
        (OtpKey.normalizePurpose (sampleAttempt "123456").purpose) (asking "123456").now ttl := by
  have given : (asking "123456").settings.get .tokenSecret = .text "change_me_jwt" := rfl
  obtain ⟨direct, verified⟩ := tokens_last isOwnKey_default given
  refine ⟨direct _ _ _ _ rfl (by decide) (by decide) (by decide) (by decide), ?_⟩
  have asks := task?_asking "123456"
  have lifetime : Token.lifetime (asking "123456").settings none = .ok 86400000000 := rfl
  have issues : (asking "123456").Issues (Task.check (sampleAttempt "123456")).key := by
    have ends : Moment.inRange ((asking "123456").now.micros + 86400000000) = true := by decide
    unfold Arrival.Issues
    rw [Token.issue_of_lifetime given isOwnKey_default.bytes _ _ lifetime ends]
    rfl
  have status := (check_alike asks (admitted_sampleAttempt "123456") nodup_sampleTable
    (guessable_sampleSession "123456") (by decide +kernel) (by decide +kernel)
    (by decide +kernel)).1.mpr issues
  cases answered : (asking "123456").answer sampleTable with
  | error fault =>
    rw [answered] at status
    cases status
  | ok response =>
    rw [answered] at status
    have accepted : response.status = 200 := Option.some.inj status
    obtain ⟨token, ttl, lasts, body, read⟩ := verified _ _ _ _ rfl asks (by decide) (by decide)
      answered accepted
    obtain rfl := Except.ok.inj (lasts.symm.trans lifetime)
    exact ⟨response, token, _, rfl, accepted, lasts, rfl, body, read (by decide)⟩

/-- Close to the end of the calendar a token states a later second than the one in which it is
    issued, and no token lasts past the end. Under a secret that is a list of no keys a token is
    issued, and it is not read back; under one that looks like a public key none is issued. -/
theorem tokens_beyond_doubles_and_keys :
    let last : Moment := ⟨Moment.endOfTime - 1, some 0⟩
    let settings := Settings.defaults "sqlite://"
    let nesting := settings.platform.nesting
    (∃ token, Token.issue settings "a" "p" last (some 0) = .ok token ∧
      last.sinceEpoch / 1000000 = 253402300799 ∧
      Token.read nesting (.text "change_me_jwt") token 253402300799 =
        .ok [("sub", .text "a"), ("purpose", .text "p"), ("iat", .int 253402300800),
          ("exp", .int 253402300800)]) ∧
    Token.issue settings "a" "p" last (some 1) = .error .calendar ∧
    (∃ token, Token.issue (settings.set .tokenSecret (.text "[]")) "a" "p"
        ⟨63902908800000000, some 0⟩ (some 0) = .ok token ∧
      ∀ now, Token.read nesting (.text "[]") token now = .error .signature) ∧
    Token.issue (settings.set .tokenSecret (.text "ssh-rsa")) "a" "p"
      ⟨63902908800000000, some 0⟩ (some 0) = .error .secret := by
  intro last settings nesting
  refine ⟨?_, by decide +kernel, ?_, by decide +kernel⟩
  · have given : settings.get .tokenSecret = .text "change_me_jwt" := rfl
    have stamp : Token.timestamp last = 253402300800 := by decide +kernel
    have stamp' : Token.timestamp { last with micros := last.micros + 0 } = 253402300800 := by
      decide +kernel
    refine ⟨_, Token.issue_of_lifetime given isOwnKey_default.bytes "a" "p" rfl (by decide),
      by decide, ?_⟩
    rw [stamp, stamp']
    exact isOwnKey_default.read_signed (by decide) (by decide) _
  · have given : (settings.set .tokenSecret (.text "[]")).get .tokenSecret = .text "[]" := rfl
    have usable : Token.secretBytes? "[]" = some (Text.Utf8.encode "[]".toList) := by
      decide +kernel
    have empty : Token.keys (nesting.limit .secret) (.text "[]") = [] := by decide +kernel
    have stamp : Token.timestamp ⟨63902908800000000, some 0⟩ = 1767312000 := by decide +kernel
    have refused (body : List Char) (signature : List UInt8) :
        Token.checkSignature body signature (Token.keys (nesting.limit .secret) (.text "[]")) =
          .error .signature := by
      rw [empty, Token.checkSignature]
    refine ⟨_, Token.issue_of_lifetime given usable "a" "p" rfl (by decide), ?_⟩
    intro now
    dsimp only
    rw [Int.add_zero, stamp, Token.read_signed (refused _ _) (by decide) (by decide)]
    rfl

end QueryDesk
