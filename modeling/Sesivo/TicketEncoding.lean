import Sesivo.JoinToken

set_option autoImplicit false

/- The texts of a ticket read back: unpadded base64url, the tagged fields of the payload
with their numbers, and the three parts between the dots. -/

namespace Sesivo.JoinToken

open Octets List UInt32 Nat

variable (input : Octets) (buffer : UInt32) (value : ℕ) (sextet : UInt32) {shift : ℕ} (bits : ℕ)
variable {claims : Claims} (bytes : Octets)

theorem base64Value_base64Char : base64Value (base64Char sextet) = some (sextet &&& 0x3F) := by
  have table : ∀ index : Fin 64, base64Value (base64Alphabet.getD index 0) =
      some (ofNat index) := by decide +kernel
  have bound : (sextet &&& 0x3F).toNat < 64 := by
    exact Nat.lt_of_le_of_lt Nat.and_le_right (by decide)
  have found := table ⟨(sextet &&& 0x3F).toNat, bound⟩
  rw [UInt32.ofNat_toNat] at found
  exact found

theorem toNat_sextet : (sextet &&& 0x3F).toNat = sextet.toNat % 64 := by
  exact and_two_pow_sub_one_eq_mod sextet.toNat 6

/-- Shifting a small value into the rolling buffer, by six or eight bits. -/
theorem toNat_shift_or (value : UInt32) (few : shift < 32) (small : value.toNat < 2 ^ shift) :
    ((buffer <<< ofNat shift) ||| value).toNat =
      (buffer.toNat * 2 ^ shift + value.toNat) % 2 ^ 32 := by
  have amount : (ofNat shift).toNat % 32 = shift := by
    rw [toNat_ofNat']
    omega
  have whole : value.toNat % 2 ^ 32 = value.toNat := mod_eq_of_lt value.toNat_lt
  rw [UInt32.toNat_or, UInt32.toNat_shiftLeft, amount]
  nth_rewrite 1 [← whole]
  rw [← or_mod_two_pow, ← shiftLeft_add_eq_or_of_lt small, shiftLeft_eq]

theorem toNat_shiftRight (few : shift < 32) :
    (buffer >>> ofNat shift).toNat = buffer.toNat / 2 ^ shift := by
  have amount : (ofNat shift).toNat % 32 = shift := by
    rw [toNat_ofNat']
    omega
  rw [UInt32.toNat_shiftRight, amount, shiftRight_eq_div_pow]

/-- The buffer of the encoder with one more byte. -/
theorem toNat_pushByte (byte : UInt8) :
    ((buffer <<< 8) ||| byte.toUInt32).toNat = (buffer.toNat * 256 + byte.toNat) % 2 ^ 32 :=
  toNat_shift_or buffer byte.toUInt32 (by decide) byte.toNat_lt

/-- The buffer of the decoder with one more sextet. -/
theorem toNat_pushSextet :
    ((buffer <<< 6) ||| (sextet &&& 0x3F)).toNat =
      (buffer.toNat * 64 + sextet.toNat % 64) % 2 ^ 32 := by
  have small : (sextet &&& 0x3F).toNat < 2 ^ 6 := by
    rw [toNat_sextet]
    exact mod_lt _ (by decide)
  have pushed := toNat_shift_or buffer (sextet &&& 0x3F) (by decide) small
  rw [toNat_sextet] at pushed
  exact pushed

theorem base64urlDecodeFrom_char (rest : Octets) :
    base64urlDecodeFrom buffer bits (base64Char sextet :: rest) =
      if 8 ≤ bits + 6 then
        (base64urlDecodeFrom ((buffer <<< 6) ||| (sextet &&& 0x3F)) (bits - 2) rest).map
          ((((buffer <<< 6) ||| (sextet &&& 0x3F)) >>> ofNat (bits - 2)).toUInt8 :: ·)
      else base64urlDecodeFrom ((buffer <<< 6) ||| (sextet &&& 0x3F)) (bits + 6) rest := by
  rw [base64urlDecodeFrom, base64Value_base64Char]

theorem toUInt8_shiftRight {buffer : UInt32} {byte : UInt8} {shift : ℕ} (few : shift < 32)
    (same : buffer.toNat / 2 ^ shift % 256 = byte.toNat) :
    (buffer >>> ofNat shift).toUInt8 = byte := by
  rw [← UInt8.toNat_inj, toNat_toUInt8, toNat_shiftRight buffer few]
  exact same

/-- The character that carries the bits an encoder still holds at the end. -/
theorem toNat_lastSextet (few : shift < 6) :
    (buffer <<< UInt32.ofNat shift).toNat % 64 = buffer.toNat * 2 ^ shift % 64 := by
  have pushed := toNat_shift_or buffer 0 (by omega : shift < 32) (Nat.two_pow_pos shift)
  rw [UInt32.or_zero, UInt32.toNat_zero, add_zero] at pushed
  omega

/-- Between two bytes of the input the encoder holds back none, two or four bits of the last
byte, and the decoder waits with the others. -/
theorem base64urlDecodeFrom_encodeFrom (held waiting : UInt32) :
    base64urlDecodeFrom waiting 0 (base64urlEncodeFrom held 0 input) = some input ∧
      (∀ byte : UInt8, waiting.toNat % 64 = byte.toNat / 4 → held.toNat % 4 = byte.toNat % 4 →
        base64urlDecodeFrom waiting 6 (base64urlEncodeFrom held 2 input) = some (byte :: input)) ∧
      (∀ byte : UInt8, waiting.toNat % 16 = byte.toNat / 16 → held.toNat % 16 = byte.toNat % 16 →
        base64urlDecodeFrom waiting 4 (base64urlEncodeFrom held 4 input) =
          some (byte :: input)) := by
  induction input generalizing held waiting with
  | nil =>
    refine ⟨rfl, ?_, ?_⟩
    · intro byte high low
      show base64urlDecodeFrom waiting 6 [base64Char (held <<< ofNat 4)] = some [byte]
      have last := toNat_lastSextet held (by decide : 4 < 6)
      have next := toNat_pushSextet waiting (held <<< ofNat 4)
      rw [base64urlDecodeFrom_char, if_pos (by decide), base64urlDecodeFrom, Option.map_some,
        toUInt8_shiftRight (by decide)]
      omega
    · intro byte high low
      show base64urlDecodeFrom waiting 4 [base64Char (held <<< ofNat 2)] = some [byte]
      have last := toNat_lastSextet held (by decide : 2 < 6)
      have next := toNat_pushSextet waiting (held <<< ofNat 2)
      rw [base64urlDecodeFrom_char, if_pos (by decide), base64urlDecodeFrom, Option.map_some,
        toUInt8_shiftRight (by decide)]
      omega
  | cons byte input ih =>
    have pushed := toNat_pushByte held byte
    have small := byte.toNat_lt
    generalize grown : (held <<< 8) ||| byte.toUInt32 = buffer at pushed
    refine ⟨?_, ?_, ?_⟩
    · have encoded : base64urlEncodeFrom held 0 (byte :: input) =
          base64Char (buffer >>> ofNat 2) :: base64urlEncodeFrom buffer 2 input := by
        rw [← grown]
        rfl
      have first := toNat_shiftRight buffer (by decide : 2 < 32)
      have next := toNat_pushSextet waiting (buffer >>> ofNat 2)
      rw [encoded, base64urlDecodeFrom_char, if_neg (by decide)]
      exact (ih buffer _).2.1 byte (by omega) (by omega)
    · intro last high low
      have encoded : base64urlEncodeFrom held 2 (byte :: input) =
          base64Char (buffer >>> ofNat 4) :: base64urlEncodeFrom buffer 4 input := by
        rw [← grown]
        rfl
      have first := toNat_shiftRight buffer (by decide : 4 < 32)
      have next := toNat_pushSextet waiting (buffer >>> ofNat 4)
      rw [encoded, base64urlDecodeFrom_char, if_pos (by decide),
        (ih buffer _).2.2 byte (by omega) (by omega), Option.map_some,
        @toUInt8_shiftRight _ last _ (by decide) (by omega)]
    · intro last high low
      have encoded : base64urlEncodeFrom held 4 (byte :: input) =
          base64Char (buffer >>> ofNat 6) :: base64Char (buffer >>> ofNat 0) ::
            base64urlEncodeFrom buffer 0 input := by
        rw [← grown]
        rfl
      have first := toNat_shiftRight buffer (by decide : 6 < 32)
      have second := toNat_shiftRight buffer (by decide : 0 < 32)
      have next := toNat_pushSextet waiting (buffer >>> ofNat 6)
      rw [encoded, base64urlDecodeFrom_char, if_pos (by decide),
        @toUInt8_shiftRight _ last _ (by decide) (by omega)]
      generalize (waiting <<< 6) ||| ((buffer >>> ofNat 6) &&& 0x3F) = reached at next ⊢
      have after := toNat_pushSextet reached (buffer >>> ofNat 0)
      rw [base64urlDecodeFrom_char, if_pos (by decide), (ih buffer _).1,
        @toUInt8_shiftRight _ byte _ (by decide) (by omega)]
      rfl

theorem base64urlDecode_encode : base64urlDecode (base64urlEncode input) = some input :=
  (base64urlDecodeFrom_encodeFrom input 0 0).1

/-- The number that decimal text denotes. -/
theorem digitsValue_decimal : digitsValue (decimal value) = value := by
  have read : digitsValue (decimal value) = ofDigitChars 10 (toDigits 10 value) 0 := by
    rw [digitsValue, decimal, foldl_map, ofDigitChars]
    apply foldl_ext
    intro sofar char member
    have digit := Char.isDigit_iff_toNat.mp (isDigit_of_mem_toDigits (by decide) (by decide) member)
    have high : char.toNat ≤ 57 := digit.2
    have same : (ofChar char).toNat = char.toNat :=
      UInt8.toNat_ofNat_of_lt' (by simp only [UInt8.size]; omega)
    rw [same]
    rfl
  rw [read, ofDigitChars_ten_toDigits]

theorem decimal_ne_nil : decimal value ≠ [] := by
  rw [decimal, ne_eq, map_eq_nil_iff]
  exact toDigits_ne_nil

theorem decimal_all_isDigit : (decimal value).all isDigit = true :=
  all_eq_true.mpr fun byte member => decimal_isDigit value byte member

/-- Reading stops at the first byte that is not a digit. -/
theorem takeWhile_decimal {accept : UInt8 → Bool}
    (accepts : ∀ byte, isDigit byte = true → accept byte = true) {separator : UInt8}
    (rejects : accept separator = false) (rest : Octets) :
    (decimal value ++ separator :: rest).takeWhile accept = decimal value := by
  rw [takeWhile_append_of_pos fun byte member => accepts byte (decimal_isDigit value byte member),
    takeWhile_cons_of_neg (by rw [rejects]; exact Bool.false_ne_true), append_nil]

theorem readClaimField_tagged {value : Octets} (sized : value.length < 2 ^ 64) (rest : Octets) :
    readClaimField (tagged value ++ rest) = some (value, rest) := by
  have text : tagged value ++ rest = decimal value.length ++ ofChar ':' :: (value ++ rest) := by
    rw [tagged, append_assoc, cons_append]
  have accepts : ∀ byte, isDigit byte = true → (byte != ofChar ':') = true := by
    intro byte digit
    rw [bne_iff_ne]
    intro same
    rw [same] at digit
    exact absurd digit (by decide)
  have digits := takeWhile_decimal value.length accepts (bne_self_eq_false _) (value ++ rest)
  have enough : ¬ (value ++ rest).length < value.length := by
    rw [length_append]
    omega
  unfold readClaimField
  simp only [text, digits, drop_left, decimal_ne_nil, decimal_all_isDigit,
    Bool.true_eq_false, or_self, if_false, digitsValue_decimal, not_le.mpr sized, enough,
    take_left, drop_left]

theorem readClaimFields_tagged (fields : List Octets)
    (sized : ∀ field ∈ fields, field.length < 2 ^ 64) (rest : Octets) :
    readClaimFields fields.length (fields.flatMap tagged ++ rest) = some (fields, rest) := by
  induction fields with
  | nil => rfl
  | cons field fields ih =>
    have first := sized field mem_cons_self
    have later : ∀ other ∈ fields, other.length < 2 ^ 64 :=
      fun other member => sized other (mem_cons_of_mem field member)
    simp [readClaimFields, readClaimField_tagged first, ih later]

theorem takeWhile_isDigit_decimal : (decimal value).takeWhile isDigit = decimal value := by
  have whole := @takeWhile_append_of_pos _ isDigit _ [] (decimal_isDigit value)
  rw [append_nil, takeWhile_nil, append_nil] at whole
  exact whole

/-- A digit is neither a space nor a sign. -/
theorem isDigit_plain {byte : UInt8} (digit : isDigit byte = true) :
    isSpace byte = false ∧ byte ≠ ofChar '-' ∧ byte ≠ ofChar '+' := by
  simp only [isDigit, Bool.and_eq_true, decide_eq_true_eq] at digit
  refine ⟨?_, ?_, ?_⟩
  · have notBlank : byte ≠ 32 := by
      intro same
      rw [same] at digit
      exact absurd digit.1 (by decide)
    have above : ¬ byte ≤ 13 := by
      rw [UInt8.le_iff_toNat_le]
      have thirteen : (13 : UInt8).toNat = 13 := rfl
      omega
    simp [isSpace, notBlank, above]
  · intro same
    rw [same] at digit
    exact absurd digit.1 (by decide)
  · intro same
    rw [same] at digit
    exact absurd digit.1 (by decide)

theorem numericPrefix_decimal : numericPrefix (decimal value) = (false, decimal value) := by
  have whole := takeWhile_isDigit_decimal value
  have digits := decimal_isDigit value
  cases text : decimal value with
  | nil => exact absurd text (decimal_ne_nil value)
  | cons byte rest =>
    rw [text] at whole digits
    obtain ⟨notSpace, notMinus, notPlus⟩ := isDigit_plain (digits byte mem_cons_self)
    have start : (byte :: rest).dropWhile isSpace = byte :: rest :=
      dropWhile_cons_of_neg (by rw [notSpace]; exact Bool.false_ne_true)
    simp [numericPrefix, start, notMinus, notPlus, whole]

theorem numericPrefix_minus_decimal :
    numericPrefix (ofChar '-' :: decimal value) = (true, decimal value) := by
  have start : (ofChar '-' :: decimal value).dropWhile isSpace = ofChar '-' :: decimal value :=
    dropWhile_cons_of_neg (by decide)
  simp [numericPrefix, start, takeWhile_isDigit_decimal]

theorem stoul_decimal {value : ℕ}
    (bound : value < 2 ^ 64) : stoul (decimal value) = some value := by
  simp only [stoul, numericPrefix_decimal, decimal_ne_nil, if_false, digitsValue_decimal,
    not_le.mpr bound, Bool.false_eq_true]

theorem stoll_signedDecimal {value : Int} (low : -2 ^ 63 ≤ value) (high : value < 2 ^ 63) :
    stoll (signedDecimal value) = some value := by
  have inside : ¬ (value < -2 ^ 63 ∨ 2 ^ 63 ≤ value) := by omega
  unfold stoll signedDecimal
  by_cases negative : value < 0
  · have back : -(value.natAbs : Int) = value := by omega
    simp only [negative, if_true, numericPrefix_minus_decimal, digitsValue_decimal, decimal_ne_nil,
      if_false, back, inside]
  have back : (value.natAbs : Int) = value := by omega
  simp only [negative, if_false, numericPrefix_decimal, digitsValue_decimal, decimal_ne_nil,
    Bool.false_eq_true, back, inside]

/-- The claims that the source's types can hold: a 64-bit expiry, and texts whose length
is a size. -/
structure Claims.Representable (claims : Claims) : Prop where
  expiry : -2 ^ 63 ≤ claims.expiresAtMs ∧ claims.expiresAtMs < 2 ^ 63
  serverId : claims.serverId.length < 2 ^ 64
  roomId : claims.roomId.length < 2 ^ 64
  profileId : claims.profileId.length < 2 ^ 64
  roomInstanceId : claims.roomInstanceId.length < 2 ^ 64
  nonce : claims.nonce.length < 2 ^ 64

def Claims.fields (claims : Claims) : List Octets :=
  [signedDecimal claims.expiresAtMs, claims.serverId, claims.roomId, claims.profileId,
    claims.roomInstanceId, decimal claims.accessEpoch.toNat, claims.mediaKeyCommitment,
    claims.nonce]

theorem claimsPayload_eq (claims : Claims) :
    claimsPayload claims = claims.fields.flatMap tagged := by
  simp [claimsPayload, Claims.fields]

theorem length_decimal_le {value : ℕ} (bound : value < 2 ^ 64) : (decimal value).length ≤ 20 := by
  rw [decimal, length_map, length_toDigits_le_iff (by decide) (by decide)]
  exact lt_of_lt_of_le bound (by decide)

theorem Claims.Representable.sized (representable : claims.Representable)
    (commitment : validSha256Hex claims.mediaKeyCommitment = true) :
    ∀ field ∈ claims.fields, field.length < 2 ^ 64 := by
  obtain ⟨low, high⟩ := representable.expiry
  have epoch := length_decimal_le
    (lt_trans claims.accessEpoch.toNat_lt (by decide : 2 ^ 32 < 2 ^ 64))
  have expiry : (signedDecimal claims.expiresAtMs).length ≤ 21 := by
    have digits := length_decimal_le (by omega : claims.expiresAtMs.natAbs < 2 ^ 64)
    unfold signedDecimal
    split
    · rw [length_cons]
      omega
    · omega
  have digest := length_of_validSha256Hex commitment
  have serverId := representable.serverId
  have roomId := representable.roomId
  have profileId := representable.profileId
  have roomInstanceId := representable.roomInstanceId
  have nonce := representable.nonce
  simp only [Claims.fields, forall_mem_cons]
  refine ⟨?_, ?_, ?_, ?_, ?_, ?_, ?_, ?_, fun _ member => absurd member not_mem_nil⟩
  all_goals omega

theorem claimsFromPayload_claimsPayload (representable : claims.Representable)
    (epoch : claims.accessEpoch ≠ 0)
    (commitment : validSha256Hex claims.mediaKeyCommitment = true) :
    claimsFromPayload (claimsPayload claims) = .ok claims := by
  have read := readClaimFields_tagged claims.fields (representable.sized commitment) []
  rw [append_nil, ← claimsPayload_eq] at read
  have fields : readClaimFields 8 (claimsPayload claims) = some (claims.fields, []) := read
  have small := claims.accessEpoch.toNat_lt
  have nonzero : claims.accessEpoch.toNat ≠ 0 := by
    intro zero
    exact epoch (UInt32.toNat_inj.mp zero)
  have fits : ¬ (2 ^ 32 ≤ claims.accessEpoch.toNat ∨ claims.accessEpoch.toNat = 0) := by omega
  simp only [claimsFromPayload, fields, Claims.fields,
    stoll_signedDecimal representable.expiry.1 representable.expiry.2,
    stoul_decimal (by omega : claims.accessEpoch.toNat < 2 ^ 64), fits, commitment,
    Bool.true_eq_false, if_false, UInt32.ofNat_toNat]

/-- No character of either text encoding is the dot between the parts of a ticket. -/
theorem hex_no_dot : ofChar '.' ∉ hex bytes := by
  intro member
  obtain ⟨byte, -, digit⟩ := mem_flatMap.mp member
  have table : ∀ index : Fin 16, hexDigits.getD index 0 ≠ ofChar '.' := by decide
  have bound := byte.toNat_lt
  have high := table ⟨byte.toNat / 16, by omega⟩
  have low := table ⟨byte.toNat % 16, by omega⟩
  simp only [mem_cons, not_mem_nil, or_false] at digit
  rcases digit with first | second
  · exact high first.symm
  · exact low second.symm

theorem base64Char_ne_dot : base64Char sextet ≠ ofChar '.' := by
  intro same
  have value := base64Value_base64Char sextet
  rw [same] at value
  cases value

theorem drainSextets_no_dot : ofChar '.' ∉ (drainSextets buffer bits).1 := by
  fun_induction drainSextets buffer bits with
  | case1 bits rest ih =>
    intro member
    rcases mem_cons.mp member with first | later
    · exact base64Char_ne_dot _ first.symm
    · exact ih later
  | case2 bits _ => exact not_mem_nil

theorem base64urlEncodeFrom_no_dot : ofChar '.' ∉ base64urlEncodeFrom buffer bits input := by
  induction input generalizing buffer bits with
  | nil =>
    unfold base64urlEncodeFrom
    split
    · intro member
      exact base64Char_ne_dot _ (mem_singleton.mp member).symm
    · exact not_mem_nil
  | cons byte input ih =>
    intro member
    rcases mem_append.mp member with here | later
    · exact drainSextets_no_dot _ _ here
    · exact ih _ _ later

/-- Three parts without dots, the last of which is not empty, are split as they were joined. -/
theorem split_parts {version encoded signature : Octets} (first : ofChar '.' ∉ version)
    (second : ofChar '.' ∉ encoded) (third : ofChar '.' ∉ signature) (some_ : signature ≠ []) :
    split (version ++ ascii "." ++ encoded ++ ascii "." ++ signature) (ofChar '.') =
      [version, encoded, signature] := by
  have joined : version ++ ascii "." ++ encoded ++ ascii "." ++ signature =
      [ofChar '.'].intercalate [version, encoded, signature] := by
    simp only [intercalate, intersperse, flatten_cons, flatten_nil, append_nil, append_assoc]
    rfl
  have parts : (version ++ ascii "." ++ encoded ++ ascii "." ++ signature).splitOn (ofChar '.') =
      [version, encoded, signature] := by
    rw [joined]
    refine splitOn_intercalate (ofChar '.') ?_ (cons_ne_nil _ _)
    simp only [forall_mem_cons]
    exact ⟨first, second, third, fun _ member => absurd member not_mem_nil⟩
  unfold split
  simp only [parts]
  rw [if_neg]
  intro last
  exact some_ (Option.some.inj last)

/-- All that `parse_unverified` hands over; the message that was signed follows from the claims. -/
structure ValidatedToken where
  claims : Claims
  signatureHex : Octets
  signingInput : Octets
deriving DecidableEq

def validatedToken (parsed : Claims × Octets) : ValidatedToken where
  claims := parsed.1
  signatureHex := parsed.2
  signingInput := signingMessage parsed.1

theorem length_hex : (hex bytes).length = 2 * bytes.length := by
  induction bytes with
  | nil => rfl
  | cons byte bytes ih =>
    rw [hex, flatMap_cons, length_append]
    change 2 + (hex bytes).length = _
    rw [ih, length_cons]
    omega

/-- A ticket for valid claims reads back as those claims, with their signature and the message
it signs, for every secret. -/
theorem ticket_round_trip (sodium : Sodium) (claims : Claims) (secret : Octets)
    (available : sodium.initialized = true) (representable : claims.Representable)
    (epoch : claims.accessEpoch ≠ 0)
    (commitment : validSha256Hex claims.mediaKeyCommitment = true) :
    ∃ token, create sodium claims secret = some token ∧
      (parseUnverified token).map validatedToken =
        .ok ⟨claims, hex (sodium.hmacSha256 secret (signingMessage claims)),
          signingMessage claims⟩ := by
  have signed : trySign sodium claims secret =
      some (hex (sodium.hmacSha256 secret (signingMessage claims))) := by
    simp [trySign, tryHmacSha256Hex, available]
  have long : hex (sodium.hmacSha256 secret (signingMessage claims)) ≠ [] := by
    intro empty
    have size := length_hex (sodium.hmacSha256 secret (signingMessage claims))
    rw [sodium.hmacSha256_length, empty] at size
    cases size
  have created : create sodium claims secret = some (ascii "v3" ++ ascii "." ++
      base64urlEncode (claimsPayload claims) ++ ascii "." ++
      hex (sodium.hmacSha256 secret (signingMessage claims))) := by
    simp only [create, signed, commitment, if_true]
    rfl
  refine ⟨_, created, ?_⟩
  have parts := split_parts (by decide : ofChar '.' ∉ ascii "v3")
    (base64urlEncodeFrom_no_dot (claimsPayload claims) 0 0)
    (hex_no_dot (sodium.hmacSha256 secret (signingMessage claims))) long
  simp only [parseUnverified, base64urlEncode, parts, if_true]
  have decoded := base64urlDecode_encode (claimsPayload claims)
  unfold base64urlEncode at decoded
  rw [decoded]
  simp only [claimsFromPayload_claimsPayload representable epoch commitment, Except.map,
    validatedToken]

/-- Claims with the separators of the formats in their texts and the least expiry there is. -/
def awkwardClaims : Claims where
  expiresAtMs := -2 ^ 63
  serverId := ascii "a:b"
  roomId := ascii "v3."
  profileId := ascii "3:|"
  roomInstanceId := [0, 255]
  accessEpoch := 0xFFFFFFFF
  mediaKeyCommitment := replicate 64 (ofChar 'f')
  nonce := []

theorem ticket_round_trip_awkward :
    ∃ token, create .framing awkwardClaims [] = some token ∧
      (parseUnverified token).map validatedToken =
        .ok ⟨awkwardClaims,
          hex (Sodium.framing.hmacSha256 [] (signingMessage awkwardClaims)),
          signingMessage awkwardClaims⟩ :=
  ticket_round_trip .framing awkwardClaims [] rfl
    ⟨by decide, by decide, by decide, by decide, by decide, by decide⟩ (by decide) (by decide)

theorem signedDecimal_injective : Function.Injective signedDecimal := by
  intro left right same
  have minus : ∀ value rest, decimal value ≠ ofChar '-' :: rest := by
    intro value rest text
    have digit := decimal_isDigit value (ofChar '-') (by rw [text]; exact mem_cons_self)
    exact absurd digit (by decide)
  unfold signedDecimal at same
  split at same
  next negative =>
    split at same
    next negativeToo =>
      have sizes := decimal_injective (cons.inj same).2
      omega
    next => exact absurd same.symm (minus _ _)
  next positive =>
    split at same
    next => exact absurd same (minus _ _)
    next positiveToo =>
      have sizes := decimal_injective same
      omega

theorem flatMap_tagged_inj {left right : List Octets} (lengths : left.length = right.length)
    (same : left.flatMap tagged = right.flatMap tagged) : left = right := by
  induction left generalizing right with
  | nil => exact (length_eq_zero_iff.mp lengths.symm).symm
  | cons field left ih =>
    cases right with
    | nil => cases lengths
    | cons other right =>
      obtain ⟨first, rest⟩ := tagged_append_inj same
      rw [first, ih (succ.inj lengths) rest]

/-- Different claims are signed by different messages. -/
theorem signingMessage_injective : Function.Injective signingMessage := by
  intro left right same
  have payloads := append_cancel_left same
  rw [claimsPayload_eq, claimsPayload_eq] at payloads
  have sameLength : left.fields.length = right.fields.length := rfl
  have fields := flatMap_tagged_inj sameLength payloads
  simp only [Claims.fields, cons.injEq, and_true] at fields
  obtain ⟨expiry, serverId, roomId, profileId, roomInstanceId, epoch, commitment, nonce⟩ := fields
  have expiries := signedDecimal_injective expiry
  have epochs := UInt32.toNat_inj.mp (decimal_injective epoch)
  cases left
  cases right
  simp only [Claims.mk.injEq]
  exact ⟨expiries, serverId, roomId, profileId, roomInstanceId, epochs, commitment, nonce⟩

/-- The message and signature that a token presents for validation, if it can be read at all. -/
def Presents (token message signature : Octets) : Prop :=
  ∃ parsed, (parseUnverified token).map validatedToken = .ok parsed ∧
    parsed.signingInput = message ∧ parsed.signatureHex = signature

/-- The token does not present a valid signature of a message that the server never signed. -/
def Unforged (sodium : Sodium) (secret : Octets) (signed : Claims → Prop) (token : Octets) : Prop :=
  ∀ message signature, Presents token message signature →
    tryHmacSha256Hex sodium secret message = some signature →
      ∃ claims, signed claims ∧ message = signingMessage claims

/-- What an accepted token has passed. -/
theorem validateWithClaims_passed {sodium : Sodium} {nowMs : Int} {token secret serverId roomId
    profileId instanceId : Octets} {epoch : UInt32}
    (accepted : validateWithClaims sodium nowMs token secret serverId roomId profileId instanceId
      epoch = .ok claims) :
    ∃ signature, parseUnverified token = .ok (claims, signature) ∧
      trySign sodium claims secret = some signature ∧ nowMs ≤ claims.expiresAtMs ∧
      claims.serverId = serverId ∧ claims.roomId = roomId ∧ claims.profileId = profileId := by
  unfold validateWithClaims at accepted
  split at accepted
  · cases accepted
  split at accepted
  · cases accepted
  rename_i found signature parsed
  split at accepted
  · cases accepted
  rename_i live
  split at accepted
  · cases accepted
  rename_i server
  split at accepted
  · cases accepted
  rename_i room
  split at accepted
  · cases accepted
  rename_i profile
  split at accepted
  · cases accepted
  split at accepted
  · cases accepted
  split at accepted
  · cases accepted
  rename_i expected signed
  split at accepted
  next equal =>
    obtain rfl := Except.ok.inj accepted
    rw [eq_of_constantTimeEqual equal] at signed
    exact ⟨signature, parsed, signed, Int.not_lt.mp live, Decidable.not_not.mp server,
      Decidable.not_not.mp room, Decidable.not_not.mp profile⟩
  · cases accepted

/-- Different claims have different signing messages. And every text that is accepted as a token
carries claims that the server has signed, field for field, however the text encodes them, if
it presents no forged signature; they have not expired and are for the expected server, room
and profile. -/
theorem ticket_authentic (sodium : Sodium) (secret : Octets) (signed : Claims → Prop)
    (nowMs : Int) (token serverId roomId profileId instanceId : Octets) (epoch : UInt32)
    (claims : Claims) (unforged : Unforged sodium secret signed token)
    (accepted : validateWithClaims sodium nowMs token secret serverId roomId profileId instanceId
      epoch = .ok claims) :
    Function.Injective signingMessage ∧ signed claims ∧ nowMs ≤ claims.expiresAtMs ∧
      claims.serverId = serverId ∧ claims.roomId = roomId ∧ claims.profileId = profileId := by
  obtain ⟨signature, parsed, valid, passed⟩ := validateWithClaims_passed accepted
  have presented : Presents token (signingMessage claims) signature := by
    refine ⟨validatedToken (claims, signature), ?_, rfl, rfl⟩
    rw [parsed]
    rfl
  obtain ⟨original, issued, same⟩ := unforged _ signature presented valid
  refine ⟨signingMessage_injective, ?_, passed⟩
  rw [signingMessage_injective same]
  exact issued

def plainClaims : Claims where
  expiresAtMs := 10
  serverId := ascii "srv"
  roomId := ascii "jam"
  profileId := ascii "ann"
  roomInstanceId := ascii "one"
  accessEpoch := 1
  mediaKeyCommitment := replicate 64 (ofChar 'a')
  nonce := ascii "n1"

/-- The same claims with other texts for the numbers: a sign, leading zeros, a space. -/
def sloppyToken : Octets :=
  ascii "v3." ++ base64urlEncode ((["+10", "srv", "jam", "ann", "one", " 001"].map ascii ++
    [replicate 64 (ofChar 'a'), ascii "n1"]).flatMap tagged) ++ ascii "." ++
    hex (Sodium.framing.hmacSha256 (ascii "secret") (signingMessage plainClaims))

theorem ticket_authentic_sloppy :
    validateWithClaims .framing 0 sloppyToken (ascii "secret") (ascii "srv") (ascii "jam")
        (ascii "ann") [] 0 = .ok plainClaims ∧
      create .framing plainClaims (ascii "secret") ≠ some sloppyToken ∧
      plainClaims ∈ [plainClaims] := by
  have facts : (parseUnverified sloppyToken).toOption.map Prod.fst = some plainClaims ∧
      (validateWithClaims .framing 0 sloppyToken (ascii "secret") (ascii "srv") (ascii "jam")
        (ascii "ann") [] 0).toOption = some plainClaims ∧
      create .framing plainClaims (ascii "secret") ≠ some sloppyToken := by
    decide +kernel
  obtain ⟨read, passed, different⟩ := facts
  have accepted : validateWithClaims .framing 0 sloppyToken (ascii "secret") (ascii "srv")
      (ascii "jam") (ascii "ann") [] 0 = .ok plainClaims := by
    cases answer : validateWithClaims .framing 0 sloppyToken (ascii "secret") (ascii "srv")
      (ascii "jam") (ascii "ann") [] 0 with
    | error reason =>
      rw [answer] at passed
      cases passed
    | ok claims =>
      rw [answer] at passed
      rw [Option.some.inj passed]
  have unforged : Unforged .framing (ascii "secret") (· ∈ [plainClaims]) sloppyToken := by
    intro message signature presented valid
    obtain ⟨parsed, found, sameMessage, -⟩ := presented
    cases whole : parseUnverified sloppyToken with
    | error reason =>
      rw [whole] at found
      cases found
    | ok pair =>
      rw [whole] at read found
      have first : pair.1 = plainClaims := Option.some.inj read
      obtain rfl := Except.ok.inj found
      refine ⟨plainClaims, mem_cons_self, ?_⟩
      rw [← sameMessage, ← first]
      rfl
  exact ⟨accepted, different, (ticket_authentic .framing (ascii "secret") (· ∈ [plainClaims]) 0
    sloppyToken (ascii "srv") (ascii "jam") (ascii "ann") [] 0 plainClaims unforged accepted).2.1⟩

end Sesivo.JoinToken
