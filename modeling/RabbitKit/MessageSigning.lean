import RabbitKit.OrderedDict
import Mathlib.Algebra.Order.Field.Rat
import Mathlib.Algebra.Order.Group.Unbundled.Abs

/-! # Signed messages and the nonce cache

`SigningMiddleware` adds three headers to an outgoing message: a signing time, a nonce and an HMAC
over both, the routing metadata and the body. On receipt it recomputes the HMAC for every accepted
key, compares the signing time with the wall clock and records the nonce in a cache with a time to
live on the monotonic clock.

The HMAC and the conversions between floats, header values and text are parameters.
-/

namespace RabbitKit

inductive SigningAlgorithm
  | hmacSha256
  | hmacSha512
  deriving DecidableEq

/-- A header value, as far as verification tells values apart. -/
inductive HeaderValue
  | text (value : String)
  | bytes (value : List UInt8)
  | other (repr : String)
  deriving DecidableEq

inductive ParsedFloat (τ : Type)
  | invalid
  | nonFinite
  | finite (value : τ)
  deriving DecidableEq

/-- `τ` are the finite floats.  Reading back the text of a float gives the float,
and that text is a decimal numeral. -/
structure SigningPrimitives (τ : Type) where
  hexdigest : SigningAlgorithm → List UInt8 → List UInt8 → String
  value : τ → ℚ
  text : τ → String
  float : HeaderValue → ParsedFloat τ
  str : HeaderValue → String
  float_text : ∀ timestamp, float (.text (text timestamp)) = .finite timestamp
  str_text : ∀ value, str (.text value) = value
  text_noColon : ∀ timestamp, ':' ∉ (text timestamp).toList

def timestampHeader : String := "x-rabbitkit-sign-timestamp"

def nonceHeader : String := "x-rabbitkit-sign-nonce"

structure SigningConfig where
  secretKey : List UInt8
  algorithm : SigningAlgorithm := .hmacSha256
  headerName : String := "x-rabbitkit-signature"
  rejectUnsigned : Bool := true
  rejectInvalid : Bool := true
  maxSkew : ℚ := 60
  requireFreshness : Bool := true
  previousKeys : List (List UInt8) := []
  secretKey_long : 32 ≤ secretKey.length
  previousKeys_long : ∀ key ∈ previousKeys, 32 ≤ key.length := by simp
  maxSkew_pos : 0 < maxSkew := by decide
  headerName_ne : headerName ≠ timestampHeader ∧ headerName ≠ nonceHeader := by decide

/-- Signing uses the first of these; verification accepts any. -/
def SigningConfig.acceptedKeys (config : SigningConfig) : List (List UInt8) :=
  config.secretKey :: config.previousKeys

def SigningConfig.zeroKey : SigningConfig where
  secretKey := List.replicate 32 0
  secretKey_long := by simp

structure SignedFields (τ : Type) where
  timestamp : τ
  nonce : String
  exchange : String
  routingKey : String
  contentEncoding : Option String
  replyTo : Option String
  body : List UInt8
  deriving DecidableEq

def encode (text : String) : List UInt8 :=
  text.toUTF8.data.toList

def orEmpty (text : Option String) : String := text.getD ""

@[simp]
theorem orEmpty_some (text : String) : orEmpty (some text) = text := rfl

/-- `_canonical_route`. -/
def canonicalRoute (exchange routingKey : String) (contentEncoding replyTo : Option String) :
    List UInt8 :=
  encode (exchange ++ "\x00" ++ routingKey ++ "\x00" ++ orEmpty contentEncoding ++ "\x00" ++
    orEmpty replyTo ++ "\x00")

namespace SigningPrimitives

variable {τ : Type} (p : SigningPrimitives τ) (config : SigningConfig)

def signedPayload (fields : SignedFields τ) : List UInt8 :=
  encode (p.text fields.timestamp ++ ":" ++ fields.nonce ++ ":") ++
    canonicalRoute fields.exchange fields.routingKey fields.contentEncoding fields.replyTo ++
    fields.body

/-- `_compute_fresh_signature`. -/
def computeFreshSignature (fields : SignedFields τ) : String :=
  p.hexdigest config.algorithm config.secretKey (p.signedPayload fields)

/-- `_const_time_eq`. -/
def constTimeEq (expected : String) (signature : List UInt8) : Bool :=
  encode expected = signature

/-- Whether one of the accepted keys yields the signature. -/
def verifyPayload (payload signature : List UInt8) : Bool :=
  config.acceptedKeys.any fun key =>
    constTimeEq (p.hexdigest config.algorithm key payload) signature

/-- Verification of a legacy signature, which covers the body only. -/
def verifySignature (body signature : List UInt8) : Bool :=
  p.verifyPayload config body signature

/-- `_verify_fresh_signature`. -/
def verifyFreshSignature (fields : SignedFields τ) (signature : List UInt8) : Bool :=
  p.verifyPayload config (p.signedPayload fields) signature

end SigningPrimitives

structure NonceCache where
  entries : OrderedDict String ℚ := .empty
  maxEntries : Nat := 100000
  maxEntries_pos : 0 < maxEntries := by decide

namespace NonceCache

/-- Expired nonces are dropped. -/
def reclaim (cache : NonceCache) (now : ℚ) : NonceCache :=
  { cache with
    entries := cache.entries.eraseAll
      ((cache.entries.entries.filter fun entry => entry.2 ≤ now).map Prod.fst) }

/-- The nonce is entered as a new one. -/
def record (cache : NonceCache) (nonce : String) (expiry : ℚ) : NonceCache × Bool :=
  ({ cache with entries := cache.entries.set nonce expiry }, true)

/-- Whether a nonce is seen for the first time; a live entry is never evicted. -/
def seen (cache : NonceCache) (now : ℚ) (nonce : String) (ttl : ℚ) : NonceCache × Bool :=
  let expiry := now + ttl
  if (cache.entries.get? nonce).any (now < ·) then (cache, false)
  else if cache.entries.size < cache.maxEntries then cache.record nonce expiry
  else
    let reclaimed := cache.reclaim now
    if reclaimed.entries.size < reclaimed.maxEntries then reclaimed.record nonce expiry
    else (reclaimed, false)

end NonceCache

inductive InvalidSignature
  | missing (headerName : String)
  | notText
  | badTimestamp
  | nonFinite
  | skewed (skew maxSkew : ℚ)
  | unverified
  | replay
  | notFresh
  deriving DecidableEq

def InvalidSignature.text (oneDecimal plain : ℚ → String) : InvalidSignature → String
  | missing headerName => "Message has no " ++ headerName ++ " header"
  | notText => "signature header is not a string/bytes"
  | badTimestamp => "Invalid signature timestamp header"
  | nonFinite => "non-finite timestamp"
  | skewed skew maxSkew =>
    "Signature timestamp outside max_skew (" ++ oneDecimal skew ++ "s > " ++ plain maxSkew ++
      "s)"
  | unverified => "Message signature verification failed"
  | replay => "Replay detected: duplicate nonce"
  | notFresh => "Missing freshness headers (require_freshness=True)"

/-- Which of its `return` statements the hook left through. -/
inductive Admission
  | unsigned
  | verified
  | redelivery
  | unverified
  | notFresh
  | legacy
  deriving DecidableEq

structure SignableMessage where
  headers : OrderedDict String HeaderValue := .empty
  body : List UInt8
  exchange : String := ""
  routingKey : String := ""
  contentEncoding : Option String := none
  replyTo : Option String := none
  redelivered : Bool := false

def SignableMessage.fields {τ : Type} (message : SignableMessage) (timestamp : τ)
    (nonce : String) : SignedFields τ where
  timestamp := timestamp
  nonce := nonce
  exchange := message.exchange
  routingKey := message.routingKey
  contentEncoding := message.contentEncoding
  replyTo := message.replyTo
  body := message.body

def HeaderValue.signatureBytes : HeaderValue → Option (List UInt8)
  | .text value => some (encode value)
  | .bytes value => some value
  | .other _ => none

namespace SigningPrimitives

variable {τ : Type} (p : SigningPrimitives τ) (config : SigningConfig)

/-- `_sign_envelope`. -/
def signEnvelope (timestamp : τ) (nonce : String) (message : SignableMessage) :
    SignableMessage :=
  { message with
    headers :=
      ((message.headers.set config.headerName
          (.text (p.computeFreshSignature config (message.fields timestamp nonce)))).set
        timestampHeader (.text (p.text timestamp))).set
      nonceHeader (.text nonce) }

/-- `on_receive` of a message with a timestamp and a nonce. -/
def receiveFresh (now monotonic : ℚ) (cache : NonceCache) (message : SignableMessage)
    (signature : List UInt8) (rawTimestamp : HeaderValue) (nonce : String) :
    NonceCache × Except InvalidSignature Admission :=
  match p.float rawTimestamp with
  | .invalid => (cache, .error .badTimestamp)
  | .nonFinite => (cache, .error .nonFinite)
  | .finite timestamp =>
    let skew := |now - p.value timestamp|
    if config.maxSkew < skew then (cache, .error (.skewed skew config.maxSkew))
    else if p.verifyFreshSignature config (message.fields timestamp nonce) signature then
      let (recorded, first) := cache.seen monotonic nonce (config.maxSkew * 2)
      (recorded,
        if first then .ok .verified
        else if message.redelivered then .ok .redelivery
        else .error .replay)
    else (cache, if config.rejectInvalid then .error .unverified else .ok .unverified)

/-- `on_receive` of a message without them. -/
def receiveLegacy (message : SignableMessage) (signature : List UInt8) :
    Except InvalidSignature Admission :=
  if config.requireFreshness then
    if config.rejectInvalid then .error .notFresh else .ok .notFresh
  else if config.rejectInvalid ∧ ¬ p.verifySignature config message.body signature then
    .error .unverified
  else .ok .legacy

/-- `on_receive`. -/
def onReceive (now monotonic : ℚ) (cache : NonceCache) (message : SignableMessage) :
    NonceCache × Except InvalidSignature Admission :=
  match message.headers.get? config.headerName with
  | none =>
    (cache,
      if config.rejectUnsigned then .error (.missing config.headerName) else .ok .unsigned)
  | some header =>
    match header.signatureBytes with
    | none => (cache, .error .notText)
    | some signature =>
      match message.headers.get? timestampHeader, message.headers.get? nonceHeader with
      | some rawTimestamp, some nonce =>
        p.receiveFresh config now monotonic cache message signature rawTimestamp
          (p.str nonce)
      | _, _ => (cache, p.receiveLegacy config message signature)

def atEpoch : SigningPrimitives Unit where
  hexdigest _ _ message := String.ofList (message.map Char.ofUInt8)
  value _ := 0
  text _ := "0.0"
  float header := if header = .text "0.0" then .finite () else .invalid
  str
    | .text value => value
    | .bytes _ => ""
    | .other repr => repr
  float_text _ := rfl
  str_text _ := rfl
  text_noColon _ := by decide

end SigningPrimitives
end RabbitKit
