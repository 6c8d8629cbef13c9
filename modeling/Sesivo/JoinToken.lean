import Sesivo.Protocol
import Sesivo.Sodium

set_option autoImplicit false

/- Signed room tickets, `performer_join_token.h`: the text encodings, the
length-tagged claims payload, and signature validation. -/

namespace Sesivo.JoinToken

open Octets List

structure Claims where
  expiresAtMs : Int
  serverId : Octets
  roomId : Octets
  profileId : Octets
  roomInstanceId : Octets
  accessEpoch : UInt32
  mediaKeyCommitment : Octets
  nonce : Octets
deriving DecidableEq

def hexDigits : Octets := ascii "0123456789abcdef"

variable (bytes : Octets)

def hex : Octets :=
  bytes.flatMap fun byte =>
    [hexDigits.getD (byte.toNat / 16) 0, hexDigits.getD (byte.toNat % 16) 0]

theorem hexDigits_inj {left right : Nat} (low : left < 16) (lowToo : right < 16)
    (same : hexDigits.getD left 0 = hexDigits.getD right 0) : left = right := by
  have all : ∀ left right : Fin 16, hexDigits.getD left 0 = hexDigits.getD right 0 →
      left = right := by decide
  exact Fin.val_eq_of_eq (all ⟨left, low⟩ ⟨right, lowToo⟩ same)

theorem hex_inj {left right : Octets} (same : hex left = hex right) : left = right := by
  induction left generalizing right with
  | nil =>
    cases right with
    | nil => rfl
    | cons byte right => cases same
  | cons byte left ih =>
    cases right with
    | nil => cases same
    | cons other right =>
      simp only [hex, flatMap_cons, cons_append, nil_append, cons.injEq] at same
      obtain ⟨high, low, rest⟩ := same
      have bound := byte.toNat_lt
      have boundToo := other.toNat_lt
      have highs := hexDigits_inj (by omega) (by omega) high
      have lows := hexDigits_inj (by omega) (by omega) low
      rw [UInt8.toNat_inj.mp (by omega : byte.toNat = other.toNat), ih rest]

def base64Alphabet : Octets :=
  ascii "ABCDEFGHIJKLMNOPQRSTUVWXYZabcdefghijklmnopqrstuvwxyz0123456789-_"

def base64Char (sextet : UInt32) : UInt8 := base64Alphabet.getD (sextet &&& 0x3F).toNat 0

/-- The inner loop of the encoder: emit sextets while six bits are buffered. -/
def drainSextets (buffer : UInt32) : Nat → Octets × Nat
  | bits + 6 =>
    let rest := drainSextets buffer bits
    (base64Char (buffer >>> UInt32.ofNat bits) :: rest.1, rest.2)
  | bits => ([], bits)

def base64urlEncodeFrom (buffer : UInt32) (bits : Nat) : Octets → Octets
  | [] => if 0 < bits then [base64Char (buffer <<< UInt32.ofNat (6 - bits))] else []
  | byte :: input =>
    let next := (buffer <<< 8) ||| byte.toUInt32
    let drained := drainSextets next (bits + 8)
    drained.1 ++ base64urlEncodeFrom next drained.2 input

variable (input : Octets)

def base64urlEncode : Octets := base64urlEncodeFrom 0 0 input

variable (char : UInt8)

def base64Value : Option UInt32 :=
  if 65 ≤ char ∧ char ≤ 90 then some (char.toUInt32 - 65)
  else if 97 ≤ char ∧ char ≤ 122 then some (char.toUInt32 - 97 + 26)
  else if 48 ≤ char ∧ char ≤ 57 then some (char.toUInt32 - 48 + 52)
  else if char = 45 then some 62
  else if char = 95 then some 63
  else none

def base64urlDecodeFrom (buffer : UInt32) (bits : Nat) : Octets → Option Octets
  | [] => some []
  | char :: input =>
    match base64Value char with
    | none => none
    | some value =>
      let next := (buffer <<< 6) ||| value
      if 8 ≤ bits + 6 then
        (base64urlDecodeFrom next (bits - 2) input).map
          ((next >>> UInt32.ofNat (bits - 2)).toUInt8 :: ·)
      else base64urlDecodeFrom next (bits + 6) input

def base64urlDecode : Option Octets := base64urlDecodeFrom 0 0 input

variable (sodium : Sodium) (value : Octets)

def trySha256Hex : Option Octets :=
  if sodium.initialized then some (hex (sodium.sha256 value)) else none

def isLowerHex : Bool :=
  (48 ≤ char && char ≤ 57) || (97 ≤ char && char ≤ 102)

def validSha256Hex : Bool := value.length = 64 && value.all isLowerHex

theorem length_of_validSha256Hex {value : Octets} (valid : validSha256Hex value = true) :
    value.length = 64 := by
  simp only [validSha256Hex, Bool.and_eq_true, decide_eq_true_eq] at valid
  exact valid.1

def tryHmacSha256Hex (secret message : Octets) : Option Octets :=
  if sodium.initialized then some (hex (sodium.hmacSha256 secret message)) else none

variable (claims : Claims)

def claimsPayload : Octets :=
  tagged (signedDecimal claims.expiresAtMs) ++ tagged claims.serverId ++ tagged claims.roomId ++
    tagged claims.profileId ++ tagged claims.roomInstanceId ++
    tagged (decimal claims.accessEpoch.toNat) ++ tagged claims.mediaKeyCommitment ++
    tagged claims.nonce

/-- The number a run of decimal digits denotes. -/
def digitsValue (digits : Octets) : Nat :=
  digits.foldl (fun value digit => 10 * value + (digit.toNat - 48)) 0

variable (payload : Octets)

/-- Split one length-tagged field off the payload. -/
def readClaimField : Option (Octets × Octets) :=
  let digits := payload.takeWhile (· != ofChar ':')
  match payload.drop digits.length with
  | [] => none
  | _ :: body =>
    if digits = [] ∨ digits.all isDigit = false then none
    else if 2 ^ 64 ≤ digitsValue digits then none
    else if body.length < digitsValue digits then none
    else some (body.take (digitsValue digits), body.drop (digitsValue digits))

def readClaimFields : Nat → Octets → Option (List Octets × Octets)
  | 0, payload => some ([], payload)
  | count + 1, payload =>
    match readClaimField payload with
    | none => none
    | some (field, rest) =>
      (readClaimFields count rest).map fun later => (field :: later.1, later.2)

def isSpace : Bool := char = 32 || (9 ≤ char && char ≤ 13)

variable (text : Octets)

/-- The sign and the leading digits that the `std::sto*` conversions read after
skipping white space; whatever follows the digits is ignored. -/
def numericPrefix : Bool × Octets :=
  match text.dropWhile isSpace with
  | [] => (false, [])
  | char :: rest =>
    if char = ofChar '-' then (true, rest.takeWhile isDigit)
    else if char = ofChar '+' then (false, rest.takeWhile isDigit)
    else (false, (char :: rest).takeWhile isDigit)

def stoll : Option Int :=
  let scanned := numericPrefix text
  let value : Int := if scanned.1 then -(digitsValue scanned.2 : Int) else digitsValue scanned.2
  if scanned.2 = [] then none
  else if value < -2 ^ 63 ∨ 2 ^ 63 ≤ value then none
  else some value

/-- A minus sign negates modulo 2^64, as `strtoul` does. -/
def stoul : Option Nat :=
  let scanned := numericPrefix text
  let value := digitsValue scanned.2
  if scanned.2 = [] then none
  else if 2 ^ 64 ≤ value then none
  else some (if scanned.1 then (2 ^ 64 - value) % 2 ^ 64 else value)

def claimsFromPayload : Except String Claims :=
  match readClaimFields 8 payload with
  | some ([expiry, serverId, roomId, profileId, roomInstanceId, epoch, commitment, nonce], []) =>
    match stoll expiry with
    | none => .error "malformed expiry"
    | some expiresAtMs =>
      match stoul epoch with
      | none => .error "malformed access epoch"
      | some accessEpoch =>
        if 2 ^ 32 ≤ accessEpoch ∨ accessEpoch = 0 then .error "malformed access epoch"
        else if validSha256Hex commitment = false then
          .error "malformed media key commitment"
        else
          .ok
            { expiresAtMs := expiresAtMs
              serverId := serverId
              roomId := roomId
              profileId := profileId
              roomInstanceId := roomInstanceId
              accessEpoch := UInt32.ofNat accessEpoch
              mediaKeyCommitment := commitment
              nonce := nonce }
  | _ => .error "malformed token payload"

def signingMessage : Octets := ascii "v3|" ++ claimsPayload claims

def trySign (secret : Octets) : Option Octets :=
  tryHmacSha256Hex sodium secret (signingMessage claims)

def create (secret : Octets) : Option Octets :=
  match trySign sodium claims secret with
  | none => none
  | some signature =>
    if validSha256Hex claims.mediaKeyCommitment then
      some (ascii "v3." ++ base64urlEncode (claimsPayload claims) ++ ascii "." ++ signature)
    else none

/-- Reading lines with `std::getline` drops an empty part after the last delimiter. -/
def split (delimiter : UInt8) : List Octets :=
  let parts := value.splitOn delimiter
  if parts.getLast? = some [] then parts.dropLast else parts

def constantTimeEqual (left right : Octets) : Bool :=
  left.length = right.length &&
    (zipWith (· ^^^ ·) left right).foldl (· ||| ·) 0 = 0

theorem foldl_or_eq_zero (start : UInt8)
    (zero : bytes.foldl (· ||| ·) start = 0) : start = 0 ∧ ∀ byte ∈ bytes, byte = 0 := by
  induction bytes generalizing start with
  | nil => exact ⟨zero, by simp⟩
  | cons byte bytes ih =>
    obtain ⟨both, rest⟩ := ih _ zero
    obtain ⟨first, second⟩ := UInt8.or_eq_zero_iff.mp both
    refine ⟨first, ?_⟩
    intro other member
    rcases mem_cons.mp member with rfl | later
    · exact second
    · exact rest other later

theorem constantTimeEqual_self : constantTimeEqual bytes bytes = true := by
  have zero : (zipWith (· ^^^ ·) bytes bytes).foldl (· ||| ·) 0 = 0 := by
    induction bytes with
    | nil => rfl
    | cons byte bytes ih => simpa using ih
  simp only [constantTimeEqual, zero, decide_true, Bool.and_self]

theorem eq_of_constantTimeEqual {left right : Octets}
    (equal : constantTimeEqual left right = true) : left = right := by
  simp only [constantTimeEqual, Bool.and_eq_true, decide_eq_true_eq] at equal
  obtain ⟨length, zero⟩ := equal
  have zeros := (foldl_or_eq_zero _ 0 zero).2
  refine ext_getElem length ?_
  intro index inside insideToo
  have both : index < (zipWith (· ^^^ ·) left right).length := by
    rw [length_zipWith]
    omega
  have pair := zeros _ (getElem_mem both)
  rw [getElem_zipWith] at pair
  exact UInt8.xor_eq_zero_iff.mp pair

def parseUnverified (token : Octets) : Except String (Claims × Octets) :=
  match split token (ofChar '.') with
  | [version, encoded, signature] =>
    if version = ascii "v3" then
      match base64urlDecode encoded with
      | none => .error "malformed token payload"
      | some payload => (claimsFromPayload payload).map fun claims => (claims, signature)
    else .error "malformed token"
  | _ => .error "malformed token"

def validateWithClaims (nowMs : Int) (token secret expectedServerId
    expectedRoomId expectedProfileId expectedRoomInstanceId : Octets)
    (expectedAccessEpoch : UInt32) : Except String Claims :=
  if secret = [] then .error "join secret not configured"
  else
    match parseUnverified token with
    | .error reason => .error reason
    | .ok (claims, signature) =>
      if claims.expiresAtMs < nowMs then .error "expired token"
      else if claims.serverId ≠ expectedServerId then .error "wrong server id"
      else if claims.roomId ≠ expectedRoomId then .error "wrong room id"
      else if claims.profileId ≠ expectedProfileId then .error "wrong profile id"
      else if expectedRoomInstanceId ≠ [] ∧ claims.roomInstanceId ≠ expectedRoomInstanceId then
        .error "wrong room instance"
      else if expectedAccessEpoch ≠ 0 ∧ claims.accessEpoch ≠ expectedAccessEpoch then
        .error "wrong room access epoch"
      else
        match trySign sodium claims secret with
        | none => .error "crypto unavailable"
        | some expected =>
          if constantTimeEqual expected signature then .ok claims
          else .error "invalid signature"

end Sesivo.JoinToken
