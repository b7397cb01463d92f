import RabbitKit.NonceReplay

/-! # Compressed message bodies

`CompressionMiddleware` reads gzip members with `zlib.decompressobj` and zstandard frames with a
`stream_reader`, one after the other until the input is used up.  At the end of an input that
stops inside a member or frame the one raises, and the other returns nothing more.  A format is a
parameter: what its reader returns chunk by chunk, and which bytes are a complete member or frame
with which content.
-/

namespace RabbitKit

open List Nat

/-- How the reading of a member or frame ends: with its last byte and what
follows it, with the input, or with an exception of the library. -/
inductive ReadEnd
  | complete (unused : List UInt8)
  | exhausted
  | corrupt

/-- A complete member at the front of the input is read to its end, unless the library refuses
it, as `max_window_size` makes it do. -/
structure Codec where
  IsMember : List UInt8 → List UInt8 → Prop
  chunks : List UInt8 → List (List UInt8)
  ended : List UInt8 → ReadEnd
  complete_member : ∀ {input unused}, ended input = .complete unused →
    ∃ member, member ≠ [] ∧ input = member ++ unused ∧ IsMember member (chunks input).flatten
  member_complete : ∀ {member content}, IsMember member content → ∀ rest,
    ended (member ++ rest) = .complete rest ∨ ended (member ++ rest) = .corrupt

inductive DecompressError
  | tooLarge | truncated | corrupt | window
  deriving DecidableEq

/-- The chunks are added to the output, which is compared with the limit each time. -/
def takeChunks (limit : Nat) (out : List UInt8) :
    List (List UInt8) → Except DecompressError (List UInt8)
  | [] => .ok out
  | chunk :: rest =>
    if limit < (out ++ chunk).length then .error .tooLarge
    else takeChunks limit (out ++ chunk) rest

namespace Codec

variable (codec : Codec) (limit : Nat)

/-- The loops of the two streaming readers; `cutOff` is what becomes of the output when the input
ends inside a member. -/
def readStream (cutOff : List UInt8 → Except DecompressError (List UInt8))
    (remaining out : List UInt8) : Except DecompressError (List UInt8) :=
  if remaining = [] then .ok out
  else
    match takeChunks limit out (codec.chunks remaining) with
    | .error refusal => .error refusal
    | .ok out =>
      match _ended : codec.ended remaining with
      | .complete unused => readStream cutOff unused out
      | .exhausted => cutOff out
      | .corrupt => .error .corrupt
termination_by remaining.length
decreasing_by
  obtain ⟨member, nonempty, rfl, _⟩ := codec.complete_member _ended
  simpa [length_pos_iff] using nonempty

/-- The data is a sequence of complete members, with these contents. -/
def Decodes (data out : List UInt8) : Prop :=
  ∃ members : List (List UInt8 × List UInt8), (∀ entry ∈ members, codec.IsMember entry.1 entry.2) ∧
    data = (members.map Prod.fst).flatten ∧ out = (members.map Prod.snd).flatten

/-- The data ends inside a member, after any number of complete ones; `out` is what can be read
of it. -/
inductive CutOff : (data out : List UInt8) → Prop
  | inside {data} : data ≠ [] → codec.ended data = .exhausted →
    CutOff data (codec.chunks data).flatten
  | after {data unused out} : codec.ended data = .complete unused → CutOff unused out →
    CutOff data ((codec.chunks data).flatten ++ out)

/-- The data is one member or frame with this content. -/
def Reads (data content : List UInt8) : Prop :=
  codec.ended data = .complete [] ∧ (codec.chunks data).flatten = content

end Codec

inductive CompressionAlgorithm
  | gzip | zstd

/-- `zstdReader` is the `stream_reader` of a `ZstdDecompressor` with this `max_window_size`, if the
library takes that size: it takes zero, for its own default, and from 1024 to 2^31. -/
structure CompressionMiddleware where
  gzip : Codec
  zstdReader : Nat → Option Codec
  gzipCompress : List UInt8 → List UInt8
  zstdCompress : List UInt8 → List UInt8
  algorithm : CompressionAlgorithm
  threshold : Nat
  maxDecompressedSize : Nat

namespace CompressionMiddleware

variable (middleware : CompressionMiddleware)

/-- `compress`. -/
def compress (data : List UInt8) : List UInt8 × Option String :=
  if data.length < middleware.threshold then (data, none)
  else
    match middleware.algorithm with
    | .gzip => (middleware.gzipCompress data, some "gzip")
    | .zstd => (middleware.zstdCompress data, some "zstd")

/-- `_decompress_gzip_streaming`. -/
def decompressGzipStreaming (data : List UInt8) : Except DecompressError (List UInt8) :=
  middleware.gzip.readStream middleware.maxDecompressedSize (fun _ => .error .truncated) data []

/-- `_decompress_zstd_streaming`: `read` returns nothing more at the end of the input, wherever
that is. -/
def decompressZstdStreaming (data : List UInt8) : Except DecompressError (List UInt8) :=
  match middleware.zstdReader middleware.maxDecompressedSize with
  | none => .error .window
  | some codec => codec.readStream middleware.maxDecompressedSize .ok data []

/-- `decompress`. -/
def decompress (data : List UInt8) : Option String → Except DecompressError (List UInt8)
  | none => .ok data
  | some "gzip" => middleware.decompressGzipStreaming data
  | some "zstd" => middleware.decompressZstdStreaming data
  | some _ => .ok data

/-- `transform_envelope`. -/
def transformEnvelope (envelope : SignableMessage) : SignableMessage :=
  match middleware.compress envelope.body with
  | (compressed, some encoding) =>
    { envelope with body := compressed, contentEncoding := some encoding }
  | (_, none) => envelope

/-- `on_receive`, up to the new body. -/
def onReceive (message : SignableMessage) : Except DecompressError (List UInt8) :=
  if orEmpty message.contentEncoding = "" then .ok message.body
  else middleware.decompress message.body message.contentEncoding

/-- What is compressed is read back by the library, by zstandard with a window that the body
fits. -/
structure Inverse : Prop where
  gzip : ∀ body, middleware.gzip.Reads (middleware.gzipCompress body) body
  zstd : ∀ limit, ∀ codec ∈ middleware.zstdReader limit, ∀ body : List UInt8,
    body.length ≤ limit → codec.Reads (middleware.zstdCompress body) body

end CompressionMiddleware

open Codec CompressionMiddleware

variable {codec : Codec} {limit : Nat} {data out result : List UInt8}

theorem takeChunks_eq (chunks : List (List UInt8)) (small : out.length ≤ limit) :
    takeChunks limit out chunks =
      if (out ++ chunks.flatten).length ≤ limit then .ok (out ++ chunks.flatten)
      else .error .tooLarge := by
  induction chunks generalizing out with
  | nil => simp [takeChunks, small]
  | cons chunk rest ih =>
    unfold takeChunks
    split
    next large =>
      rw [if_neg]
      simp only [flatten_cons, length_append] at large ⊢
      omega
    next fits =>
      rw [ih (not_lt.mp fits), flatten_cons, append_assoc]

theorem takeChunks_ok {chunks : List (List UInt8)} (small : out.length ≤ limit)
    (taken : takeChunks limit out chunks = .ok result) :
    result = out ++ chunks.flatten ∧ result.length ≤ limit := by
  rw [takeChunks_eq chunks small] at taken
  split at taken
  next fits =>
    cases taken
    exact ⟨rfl, fits⟩
  · cases taken

theorem Codec.CutOff.not_decodes (cut : codec.CutOff data out) (content : List UInt8) :
    ¬ codec.Decodes data content := by
  rintro ⟨members, complete, whole, -⟩
  induction cut generalizing members with
  | inside nonempty ended =>
    cases members with
    | nil => exact nonempty whole
    | cons first members =>
      have read := codec.member_complete (complete first (by simp)) (members.map Prod.fst).flatten
      rw [map_cons, flatten_cons] at whole
      simp [← whole, ended] at read
  | after ended cut ih =>
    cases members with
    | nil =>
      obtain ⟨member, nonempty, first, _⟩ := codec.complete_member ended
      simp_all
    | cons first members =>
      have read := codec.member_complete (complete first (by simp)) (members.map Prod.fst).flatten
      rw [map_cons, flatten_cons] at whole
      rw [← whole, ended] at read
      rcases read with same | corrupt
      · cases same
        exact ih members (fun entry later => complete entry (by simp [later])) rfl
      · cases corrupt

variable {cutOff : List UInt8 → Except DecompressError (List UInt8)}

theorem Codec.CutOff.readStream_eq {content : List UInt8} (cut : codec.CutOff data content)
    (small : (out ++ content).length ≤ limit) :
    codec.readStream limit cutOff data out = cutOff (out ++ content) := by
  induction cut generalizing out with
  | inside nonempty ended =>
    rw [readStream, if_neg nonempty, takeChunks_eq _ (by simp at small; omega), if_pos small]
    dsimp only
    split <;> simp_all
  | @after data unused content ended cut ih =>
    have nonempty : data ≠ [] := by
      obtain ⟨member, nonempty, rfl, _⟩ := codec.complete_member ended
      simp [nonempty]
    rw [← append_assoc] at small ⊢
    have fits : (out ++ (codec.chunks data).flatten).length ≤ limit := by
      rw [length_append] at small
      omega
    rw [readStream, if_neg nonempty, takeChunks_eq _ (by simp at fits; omega), if_pos fits]
    dsimp only
    split
    next same =>
      cases ended.symm.trans same
      exact ih small
    all_goals
      next other => cases ended.symm.trans other

theorem Codec.readStream_ok (small : out.length ≤ limit)
    (read : codec.readStream limit cutOff data out = .ok result) :
    ∃ content, (out ++ content).length ≤ limit ∧
      (codec.Decodes data content ∧ result = out ++ content ∨
        codec.CutOff data content ∧ cutOff (out ++ content) = .ok result) := by
  fun_induction codec.readStream limit cutOff data out with
  | case1 out =>
    cases read
    exact ⟨[], by simpa using small, .inl ⟨⟨[], by simp⟩, by simp⟩⟩
  | case2 | case5 => cases read
  | case3 data out nonempty middle taken unused ended ih =>
    obtain ⟨rfl, fits⟩ := takeChunks_ok small taken
    obtain ⟨content, bounded, whole | cut⟩ := ih fits read
    · obtain ⟨⟨members, complete, rfl, rfl⟩, rfl⟩ := whole
      obtain ⟨member, _, whole, isMember⟩ := codec.complete_member ended
      refine ⟨_, by simpa using bounded, .inl
        ⟨⟨(member, (codec.chunks data).flatten) :: members, ?_, ?_, rfl⟩, by simp⟩⟩
      · exact forall_mem_cons.mpr ⟨isMember, complete⟩
      · rw [whole, map_cons, flatten_cons]
    · rw [append_assoc] at bounded cut
      exact ⟨_, bounded, .inr ⟨.after ended cut.1, cut.2⟩⟩
  | case4 data out nonempty middle taken ended =>
    obtain ⟨rfl, fits⟩ := takeChunks_ok small taken
    exact ⟨_, fits, .inr ⟨.inside nonempty ended, read⟩⟩

variable {middleware : CompressionMiddleware}

/-- A body that is decompressed was read to its last byte: with gzip always, and with zstandard
exactly when it does not end inside a frame with an output within the limit. -/
theorem decompress_whole :
    (∀ result, middleware.decompress data (some "gzip") = .ok result →
      result.length ≤ middleware.maxDecompressedSize ∧ middleware.gzip.Decodes data result) ∧
    ∀ codec ∈ middleware.zstdReader middleware.maxDecompressedSize,
      ((∀ result, middleware.decompress data (some "zstd") = .ok result →
        result.length ≤ middleware.maxDecompressedSize ∧ codec.Decodes data result) ↔
      ∀ out, codec.CutOff data out → middleware.maxDecompressedSize < out.length) := by
  refine ⟨fun result read => ?_, fun codec made => ⟨fun claim out cut => ?_, fun whole result
    read => ?_⟩⟩
  · obtain ⟨content, small, ⟨decodes, rfl⟩ | ⟨_, truncated⟩⟩ := readStream_ok (zero_le _) read
    · exact ⟨small, decodes⟩
    · cases truncated
  · by_contra! fits
    have read : middleware.decompress data (some "zstd") = .ok out := by
      simp only [decompress, decompressZstdStreaming, Option.mem_def.mp made]
      exact cut.readStream_eq fits
    exact cut.not_decodes out (claim out read).2
  · simp only [decompress, decompressZstdStreaming, Option.mem_def.mp made] at read
    obtain ⟨content, small, ⟨decodes, rfl⟩ | ⟨cut, _⟩⟩ := readStream_ok (zero_le _) read
    · exact ⟨small, decodes⟩
    · exact absurd (whole content cut) (not_lt.mpr small)

/-- A format in which each byte of the content follows a one, and a zero ends the frame. -/
def escape : List UInt8 → List UInt8
  | [] => [0]
  | byte :: content => 1 :: byte :: escape content

def unescape : List UInt8 → List UInt8
  | 1 :: byte :: data => byte :: unescape data
  | _ => []

def escapeEnd : List UInt8 → ReadEnd
  | 0 :: unused => .complete unused
  | 1 :: _ :: data => escapeEnd data
  | [] | [1] => .exhausted
  | _ => .corrupt

theorem escapeEnd_escape (content rest : List UInt8) :
    escapeEnd (escape content ++ rest) = .complete rest := by
  induction content with
  | nil => rfl
  | cons byte content ih => exact ih

theorem unescape_escape (content : List UInt8) : unescape (escape content) = content := by
  induction content with
  | nil => rfl
  | cons byte content ih => exact congrArg (byte :: ·) ih

theorem eq_escape_of_complete {unused : List UInt8} (ended : escapeEnd data = .complete unused) :
    data = escape (unescape data) ++ unused := by
  fun_induction escapeEnd data with
  | case1 =>
    cases ended
    rfl
  | case2 byte data ih => simpa [unescape, escape] using ih ended
  | case3 | case4 | case5 => cases ended

def Codec.escaped : Codec where
  IsMember member content := member = escape content
  chunks data := [unescape data]
  ended := escapeEnd
  complete_member ended :=
    ⟨_, by cases unescape _ <;> simp [escape], eq_escape_of_complete ended, by simp⟩
  member_complete := by
    rintro _ content rfl rest
    exact .inl (escapeEnd_escape content rest)

def escaping : CompressionMiddleware where
  gzip := .escaped
  zstdReader limit := if limit = 0 ∨ 1024 ≤ limit ∧ limit ≤ 2 ^ 31 then some .escaped else none
  gzipCompress := escape
  zstdCompress := escape
  algorithm := .zstd
  threshold := 1
  maxDecompressedSize := 1024

/-- The second frame is cut off, and what there is of it is returned. -/
theorem decompress_cut_off : escaping.decompress [1, 7, 0, 1, 8] (some "zstd") = .ok [7, 8] ∧
    ∀ content, ¬ escaped.Decodes [1, 7, 0, 1, 8] content := by
  have cut : escaped.CutOff [1, 7, 0, 1, 8] [7, 8] := .after rfl (.inside (by decide) rfl)
  exact ⟨cut.readStream_eq (by decide), cut.not_decodes⟩

variable {compressed : List UInt8}

theorem Codec.Reads.readStream_eq (reads : codec.Reads compressed data)
    (small : data.length ≤ limit) : codec.readStream limit cutOff compressed [] = .ok data := by
  have nonempty : compressed ≠ [] := by
    obtain ⟨member, nonempty, whole, _⟩ := codec.complete_member reads.1
    simpa [whole] using nonempty
  have last : codec.readStream limit cutOff [] data = .ok data := by
    rw [readStream, if_pos rfl]
  rw [readStream, if_neg nonempty, takeChunks_eq _ (zero_le _)]
  simp only [reads.2, nil_append, if_pos small]
  split
  next ended =>
    cases reads.1.symm.trans ended
    exact last
  all_goals
    next ended => cases reads.1.symm.trans ended

/-- Bodies are compressed with gzip, or with zstandard and a limit that it takes for a window. -/
def CompressionMiddleware.Usable (middleware : CompressionMiddleware) : Prop :=
  match middleware.algorithm with
  | .gzip => True
  | .zstd => (middleware.zstdReader middleware.maxDecompressedSize).isSome = true

theorem onReceive_transformEnvelope (inverse : middleware.Inverse) (usable : middleware.Usable)
    {envelope : SignableMessage} (plain : envelope.contentEncoding = none)
    (small : envelope.body.length ≤ middleware.maxDecompressedSize) :
    middleware.onReceive (middleware.transformEnvelope envelope) = .ok envelope.body := by
  unfold transformEnvelope compress
  split_ifs
  · simp [onReceive, plain, orEmpty]
  · cases chosen : middleware.algorithm with
    | gzip => exact (inverse.gzip _).readStream_eq small
    | zstd =>
      simp only [Usable, chosen] at usable
      obtain ⟨codec, made⟩ := Option.isSome_iff_exists.mp usable
      have read : codec.readStream middleware.maxDecompressedSize .ok
          (middleware.zstdCompress envelope.body) [] = .ok envelope.body :=
        (inverse.zstd _ codec made _ small).readStream_eq small
      simpa [onReceive, orEmpty, decompress, decompressZstdStreaming, made] using read

open SigningPrimitives

/-- A body that was compressed and signed is verified and read back, as long as the
message arrives within the allowed skew and its nonce is new to the receiver. -/
theorem compressed_signed_roundTrip (inverse : middleware.Inverse) (usable : middleware.Usable)
    {τ : Type}
    (p : SigningPrimitives τ) (config : SigningConfig) {envelope : SignableMessage}
    (plain : envelope.contentEncoding = none)
    (small : envelope.body.length ≤ middleware.maxDecompressedSize)
    {timestamp : τ} {nonce : String} {now monotonic : ℚ} {cache : NonceCache}
    (timely : |now - p.value timestamp| ≤ config.maxSkew)
    (unseen : (cache.seen monotonic nonce (config.maxSkew * 2)).2 = true) :
    (p.onReceive config now monotonic cache
        (p.signEnvelope config timestamp nonce (middleware.transformEnvelope envelope))).2 =
      .ok .verified ∧
    middleware.onReceive (p.signEnvelope config timestamp nonce
      (middleware.transformEnvelope envelope)) = .ok envelope.body ∧
    (envelope.body.length < middleware.threshold →
      (middleware.transformEnvelope envelope).body = envelope.body) := by
  refine ⟨?_, onReceive_transformEnvelope inverse usable plain small, fun short => ?_⟩
  · rw [onReceive_of_signedAs (signedAs_signEnvelope timestamp nonce _), if_neg (not_lt.mpr timely)]
    simp [nonceVerdict, unseen]
  · simp [transformEnvelope, compress, short]

theorem escaping_inverse : escaping.Inverse := by
  have reads (body : List UInt8) : escaped.Reads (escape body) body :=
    ⟨by simpa [escaped] using escapeEnd_escape body [],
      by simpa [escaped] using unescape_escape body⟩
  refine ⟨reads, fun limit codec made body _ => ?_⟩
  obtain ⟨_, rfl⟩ : _ ∧ escaped = codec := by simpa [escaping] using made
  exact reads body

def sentSeven : SignableMessage :=
  atEpoch.signEnvelope .zeroKey () "n1" (escaping.transformEnvelope { body := [7] })

theorem compressed_signed_roundTrip_prompt :
    (atEpoch.onReceive .zeroKey 1 0 {} sentSeven).2 = .ok .verified ∧
      escaping.onReceive sentSeven = .ok [7] := by
  have plain : ({ body := [7] } : SignableMessage).contentEncoding = none := rfl
  have timely : |1 - atEpoch.value ()| ≤ SigningConfig.zeroKey.maxSkew := by
    norm_num [atEpoch, SigningConfig.zeroKey]
  have unseen : (NonceCache.seen {} 0 "n1" (SigningConfig.zeroKey.maxSkew * 2)).2 = true := by
    decide
  obtain ⟨verified, read, _⟩ := compressed_signed_roundTrip escaping_inverse rfl atEpoch .zeroKey
    plain (by decide) timely unseen
  exact ⟨verified, read⟩

/-- A message that arrives after the allowed skew is refused. -/
theorem compressed_signed_late :
    ∃ skew, (atEpoch.onReceive .zeroKey 61 0 {} sentSeven).2 = .error (.skewed skew 60) := by
  have late : SigningConfig.zeroKey.maxSkew < |61 - atEpoch.value ()| := by
    norm_num [atEpoch, SigningConfig.zeroKey]
  rw [sentSeven, onReceive_of_signedAs (signedAs_signEnvelope () "n1" _), if_pos late]
  exact ⟨_, rfl⟩

end RabbitKit
