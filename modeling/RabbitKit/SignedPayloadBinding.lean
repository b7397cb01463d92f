import RabbitKit.DelimitedText
import RabbitKit.MessageSigning

/-! # What a fresh signature binds

The signed byte string is a text followed by the body.  The text starts with the
signing time and the nonce, each ended by a colon, and goes on with four fields
each ended by NUL.  Neither delimiter is escaped or refused inside a field and
the body may hold text, so some messages share their signed bytes with others;
`Unambiguous` describes exactly the messages that do not.
-/

namespace RabbitKit

open DelimitedText SignedFields List

/-- The same signed fields, where a missing field counts as an empty one. -/
structure SameFields {τ : Type} (x y : SignedFields τ) : Prop where
  timestamp : x.timestamp = y.timestamp
  nonce : x.nonce = y.nonce
  exchange : x.exchange = y.exchange
  routingKey : x.routingKey = y.routingKey
  contentEncoding : orEmpty x.contentEncoding = orEmpty y.contentEncoding
  replyTo : orEmpty x.replyTo = orEmpty y.replyTo
  body : x.body = y.body

namespace SignedFields

variable {τ : Type}

def route (fields : SignedFields τ) : List (List Char) :=
  [fields.exchange.toList, fields.routingKey.toList, (orEmpty fields.contentEncoding).toList,
    (orEmpty fields.replyTo).toList]

/-- No delimiter occurs where it could be taken for another field's end, and no
start of the body reads as text ending in NUL. -/
structure Unambiguous (fields : SignedFields τ) : Prop where
  nonce : ':' ∉ fields.nonce.toList
  exchange : ':' ∉ fields.exchange.toList
  route : ∀ field ∈ fields.route, '\x00' ∉ field
  body : ¬ ∃ text rest, fields.body = encode (text ++ "\x00") ++ rest

end SignedFields

theorem encode_eq_flatMap (text : String) :
    encode text = text.toList.flatMap String.utf8EncodeChar := by
  rw [encode, String.toUTF8_eq_toByteArray, ← String.utf8Encode_toList]
  simp [utf8Encode]

namespace SigningPrimitives

variable {τ : Type} {p : SigningPrimitives τ} {x y : SignedFields τ}

theorem text_injective : Function.Injective p.text := by
  intro first second same
  have parsed := p.float_text first
  rw [same, p.float_text] at parsed
  cases parsed
  rfl

def heading (p : SigningPrimitives τ) (fields : SignedFields τ) : List Char :=
  (p.text fields.timestamp).toList ++ ':' ::
    (fields.nonce.toList ++ ':' :: terminated '\x00' fields.route)

theorem signedPayload_eq (fields : SignedFields τ) : p.signedPayload fields =
      (p.heading fields).flatMap String.utf8EncodeChar ++ fields.body := by
  simp [signedPayload, canonicalRoute, heading, route, encode_eq_flatMap,
    String.toList_append, append_assoc]

/-- Moving the end of the heading into the body leaves the signed bytes alone. -/
theorem signedPayload_eq_of_heading (more : List Char) (longer : p.heading x = p.heading y ++ more)
    (moved : y.body = more.flatMap String.utf8EncodeChar ++ x.body) :
    p.signedPayload y = p.signedPayload x := by
  simp [signedPayload_eq, longer, moved, append_assoc]

theorem getLast?_heading (fields : SignedFields τ) : (p.heading fields).getLast? = some '\x00' := by
  have nonempty : fields.route ≠ [] := by simp [route]
  have last : (terminated '\x00' fields.route).getLast? = some '\x00' :=
    getLast?_terminated nonempty
  simp [heading, getLast?_append, getLast?_cons, last]

theorem heading_split {more : List Char} (longer : p.heading x = p.heading y ++ more) :
    y.timestamp = x.timestamp ∧ x.nonce.toList ++ ':' :: terminated '\x00' x.route =
        y.nonce.toList ++ ':' :: (terminated '\x00' y.route ++ more) := by
  have same : (p.text x.timestamp).toList ++ ':' ::
        (x.nonce.toList ++ ':' :: terminated '\x00' x.route) =
      (p.text y.timestamp).toList ++ ':' ::
        (y.nonce.toList ++ ':' :: (terminated '\x00' y.route ++ more)) := by
    simpa [heading, append_assoc] using longer
  obtain ⟨texts, rest⟩ := split_unique (p.text_noColon _) (p.text_noColon _) same
  exact ⟨text_injective (String.toList_inj.mp texts), rest.symm⟩

theorem heading_eq_of_unambiguous (clear : x.Unambiguous) {more : List Char}
    (longer : p.heading x = p.heading y ++ more) :
    more = [] ∧ y.timestamp = x.timestamp ∧ y.nonce = x.nonce ∧ y.route = x.route := by
  have sameLength : y.route.length = x.route.length := rfl
  have nonempty : x.route ≠ [] := by simp [route]
  obtain ⟨timestamps, rest⟩ := heading_split longer
  rcases split_at_first clear.nonce rest with ⟨nonces, routes⟩ | ⟨between, _, routes⟩
  · have inside : terminated '\x00' x.route =
        [] ++ (terminated '\x00' y.route ++ more) := routes.symm
    obtain ⟨_, rfl, free⟩ := terminated_inside clear.route nonempty sameLength inside
    have same : terminated '\x00' y.route = terminated '\x00' x.route := by simpa using routes
    exact ⟨rfl, timestamps, String.toList_inj.mp nonces, terminated_injective free clear.route same⟩
  · exfalso
    have inside : terminated '\x00' x.route =
        (between ++ [':']) ++ (terminated '\x00' y.route ++ more) := by
      simpa [append_assoc] using routes
    obtain ⟨free, _, routeFree⟩ := terminated_inside clear.route nonempty sameLength inside
    have exchanges : x.exchange.toList ++ '\x00' :: terminated '\x00' x.route.tail =
        (between ++ ':' :: y.exchange.toList) ++ '\x00' ::
          (terminated '\x00' y.route.tail ++ more) := by
      simpa [route, append_assoc] using routes
    have noNul : '\x00' ∉ between ++ ':' :: y.exchange.toList := by
      have inExchange : '\x00' ∉ y.exchange.toList := routeFree _ (by simp [route])
      have inBetween : '\x00' ∉ between := fun member => free (mem_append_left _ member)
      simp [inExchange, inBetween]
    have exchangeFree : '\x00' ∉ x.exchange.toList := clear.route _ (by simp [route])
    have equal := (split_unique exchangeFree noNul exchanges).1
    exact clear.exchange (equal ▸ by simp)

theorem sameFields_of_unambiguous (clear : x.Unambiguous)
    (same : p.signedPayload y = p.signedPayload x) : SameFields y x := by
  rw [signedPayload_eq, signedPayload_eq] at same
  have shorter : ∃ more, p.heading x = p.heading y ++ more ∧
      y.body = more.flatMap String.utf8EncodeChar ++ x.body := by
    rcases utf8_isPrefixCode.split same with split | ⟨more, longer, bodies⟩
    · exact split
    · rcases eq_nil_or_concat more with rfl | ⟨text, last, rfl⟩
      · exact ⟨[], by simpa using longer.symm, by simpa using bodies.symm⟩
      · exfalso
        have ends := getLast?_heading (p := p) y
        rw [longer, concat_eq_append, ← append_assoc, getLast?_concat] at ends
        cases ends
        refine clear.body ⟨String.ofList text, y.body, ?_⟩
        simpa [encode_eq_flatMap] using bodies
  obtain ⟨more, longer, bodies⟩ := shorter
  obtain ⟨rfl, timestamps, nonces, routes⟩ := heading_eq_of_unambiguous clear longer
  simp only [route, cons.injEq, String.toList_inj, and_true] at routes
  exact ⟨timestamps, nonces, routes.1, routes.2.1, routes.2.2.1, routes.2.2.2,
    by simpa using bodies⟩

theorem exists_split {text : String} {delimiter : Char} (member : delimiter ∈ text.toList) :
    ∃ before after : String, text.toList = before.toList ++ delimiter :: after.toList ∧
      before ≠ text ∧ after ≠ text := by
  obtain ⟨before, after, split⟩ := append_of_mem member
  refine ⟨.ofList before, .ofList after, by simpa using split, ?_, ?_⟩
  · rintro rfl
    simp at split
  · rintro rfl
    have lengths := congrArg length split
    simp at lengths
    omega

section Binding

variable (binds : ∀ y, p.signedPayload y = p.signedPayload x → SameFields y x)
include binds

theorem nonce_noColon_of_binds : ':' ∉ x.nonce.toList := by
  intro member
  obtain ⟨before, after, split, shorter, _⟩ := exists_split member
  have same := binds { x with nonce := before, exchange := after ++ ":" ++ x.exchange }
    (signedPayload_eq_of_heading [] (by simp [heading, route, split]) rfl)
  exact shorter same.nonce

theorem exchange_noColon_of_binds : ':' ∉ x.exchange.toList := by
  intro member
  obtain ⟨before, after, split, _, shorter⟩ := exists_split member
  have same := binds { x with nonce := x.nonce ++ ":" ++ before, exchange := after }
    (signedPayload_eq_of_heading [] (by simp [heading, route, split]) rfl)
  exact shorter same.exchange

theorem sameFields_of_moved (text : String) (moved : y.body = encode (text ++ "\x00") ++ x.body)
    (longer : p.heading x = p.heading y ++ (text.toList ++ ['\x00'])) : SameFields y x :=
  binds y (signedPayload_eq_of_heading _ longer (by simp [moved, encode_eq_flatMap]))

/-- A NUL inside a field ends it early; the fields after it move up and the
reply-to field becomes a part of the body. -/
theorem route_noNul_of_binds : ∀ field ∈ x.route, '\x00' ∉ field := by
  intro field inRoute member
  simp only [route, mem_cons, not_mem_nil, or_false] at inRoute
  rcases inRoute with rfl | rfl | rfl | rfl <;>
    obtain ⟨before, after, split, shorter, _⟩ := exists_split member
  · have same := sameFields_of_moved binds (y := { x with
        exchange := before
        routingKey := after
        contentEncoding := some x.routingKey
        replyTo := some (orEmpty x.contentEncoding)
        body := encode (orEmpty x.replyTo ++ "\x00") ++ x.body })
      (orEmpty x.replyTo) rfl (by simp [heading, route, split])
    exact shorter same.exchange
  · have same := sameFields_of_moved binds (y := { x with
        routingKey := before
        contentEncoding := some after
        replyTo := some (orEmpty x.contentEncoding)
        body := encode (orEmpty x.replyTo ++ "\x00") ++ x.body })
      (orEmpty x.replyTo) rfl (by simp [heading, route, split])
    exact shorter same.routingKey
  · have same := sameFields_of_moved binds (y := { x with
        contentEncoding := some before
        replyTo := some after
        body := encode (orEmpty x.replyTo ++ "\x00") ++ x.body })
      (orEmpty x.replyTo) rfl (by simp [heading, route, split])
    exact shorter same.contentEncoding
  · have same := sameFields_of_moved binds (y := { x with
        replyTo := some before
        body := encode (after ++ "\x00") ++ x.body })
      after rfl (by simp [heading, route, split])
    exact shorter same.replyTo

/-- Text at the start of the body that ends in NUL can be read as the reply-to
field, with the exchange and the routing key taken together as one. -/
theorem body_noText_of_binds : ¬ ∃ text rest, x.body = encode (text ++ "\x00") ++ rest := by
  rintro ⟨text, rest, split⟩
  have same := binds { x with
      exchange := x.exchange ++ "\x00" ++ x.routingKey
      routingKey := orEmpty x.contentEncoding
      contentEncoding := some (orEmpty x.replyTo)
      replyTo := some text
      body := rest }
    (signedPayload_eq_of_heading (text.toList ++ ['\x00'])
      (by simp [heading, route]) (by simp [split, encode_eq_flatMap])).symm
  have lengths := congrArg (fun name => name.toList.length) same.exchange
  simp at lengths

end Binding

theorem encode_injective : Function.Injective encode := by
  intro first second same
  have arrays : first.toUTF8.data = second.toUTF8.data := Array.toList_inj.mp same
  have bytes : first.toUTF8 = second.toUTF8 := ByteArray.ext arrays
  exact String.toByteArray_inj.mp bytes

/-- No two byte strings have the same HMAC, under one key or two. -/
def CollisionFree (p : SigningPrimitives τ) : Prop :=
  ∀ algorithm key key' message message',
    p.hexdigest algorithm key message = p.hexdigest algorithm key' message' → message = message'

theorem verifyFreshSignature_iff (collisionFree : p.CollisionFree) (config : SigningConfig) :
    p.verifyFreshSignature config y (encode (p.computeFreshSignature config x)) = true ↔
      p.signedPayload y = p.signedPayload x := by
  simp only [verifyFreshSignature, verifyPayload, constTimeEq, any_eq_true, decide_eq_true_eq]
  constructor
  · rintro ⟨key, _, digests⟩
    exact collisionFree _ _ _ _ _ (encode_injective digests)
  · intro same
    exact ⟨config.secretKey, by simp [SigningConfig.acceptedKeys], by
      rw [computeFreshSignature, same]⟩

theorem binds_iff_unambiguous :
    (∀ y, p.signedPayload y = p.signedPayload x → SameFields y x) ↔ x.Unambiguous :=
  ⟨fun binds => ⟨nonce_noColon_of_binds binds, exchange_noColon_of_binds binds,
      route_noNul_of_binds binds, body_noText_of_binds binds⟩,
    fun clear _ => sameFields_of_unambiguous clear⟩

/-- The signed bytes of a message, and with them its signature, determine the
signed fields exactly when the message is unambiguous. -/
theorem freshSignature_binds_iff (collisionFree : p.CollisionFree) (config : SigningConfig)
    (x : SignedFields τ) :
    ((∀ y, p.signedPayload y = p.signedPayload x → SameFields y x) ↔ x.Unambiguous) ∧
    ((∀ y, p.verifyFreshSignature config y (encode (p.computeFreshSignature config x)) = true →
      SameFields y x) ↔ x.Unambiguous) := by
  refine ⟨binds_iff_unambiguous, ?_⟩
  simp only [verifyFreshSignature_iff collisionFree]
  exact binds_iff_unambiguous

theorem atEpoch_collisionFree : atEpoch.CollisionFree := by
  intro _ _ _ message message' same
  have characters : message.map Char.ofUInt8 = message'.map Char.ofUInt8 := by
    simpa [atEpoch] using congrArg String.toList same
  refine map_injective_iff.mpr ?_ characters
  intro first second equal
  exact UInt8.toUInt32_inj.mp (congrArg Char.val equal)

theorem freshSignature_binds_order : SignedFields.Unambiguous
        (⟨(), "n1", "orders", "created", none, none, [1, 2]⟩ : SignedFields Unit) ∧
      ∀ y, atEpoch.verifyFreshSignature .zeroKey y (encode (atEpoch.computeFreshSignature .zeroKey
            ⟨(), "n1", "orders", "created", none, none, [1, 2]⟩)) = true →
        SameFields y ⟨(), "n1", "orders", "created", none, none, [1, 2]⟩ := by
  have clear : SignedFields.Unambiguous
      (⟨(), "n1", "orders", "created", none, none, [1, 2]⟩ : SignedFields Unit) := by
    refine ⟨by decide, by decide, by decide, ?_⟩
    rintro ⟨text, rest, split⟩
    have nul : (0 : UInt8) ∈ encode (text ++ "\x00") := by
      simp [encode_eq_flatMap, String.utf8EncodeChar]
    have inBody : (0 : UInt8) ∈ [(1 : UInt8), 2] :=
      (congrArg ((0 : UInt8) ∈ ·) split).mpr (mem_append_left _ nul)
    exact absurd inBody (by decide)
  exact ⟨clear, (freshSignature_binds_iff atEpoch_collisionFree .zeroKey _).2.mpr clear⟩

/-- A message signed for the exchange `tenant:orders` verifies under another
nonce as a message for the exchange `orders`. -/
theorem freshSignature_moves_colon :
    ∃ x y : SignedFields Unit, atEpoch.signedPayload y = atEpoch.signedPayload x ∧
      x.nonce = "n1" ∧ x.exchange = "tenant:orders" ∧ y.nonce = "n1:tenant" ∧
      y.exchange = "orders" ∧ ¬ SameFields y x := by
  refine ⟨⟨(), "n1", "tenant:orders", "created", none, none, []⟩,
    ⟨(), "n1:tenant", "orders", "created", none, none, []⟩, ?_, rfl, rfl, rfl, rfl, ?_⟩
  · exact signedPayload_eq_of_heading [] (by decide) rfl
  · intro same
    exact absurd same.nonce (by decide)

end SigningPrimitives
end RabbitKit
