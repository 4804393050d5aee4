import XClone.Js.ReferenceNode
import XClone.Identity.UseCases

/-!
# XClone.Identity.RefreshTokenFactory — `RandomRefreshTokenFactory`

A refresh token is 32 random bytes as base64url, and what is stored of it is the hex of
its SHA-256. Draws that differ give tokens that differ, and tokens the digest tells apart
give hashes that differ.
-/

namespace XClone.Identity

open Js

/-- `TOKEN_BYTES`. -/
def tokenBytes : ℕ := 32

/-- What `randomBytes(TOKEN_BYTES)` returns. -/
structure RandomBytes where
  bytes : Bytes
  length : bytes.length = tokenBytes
deriving DecidableEq

/-- The two hexadecimal digits of a byte. -/
def hexByte (b : UInt8) : JsString :=
  [Reference.hexDigit (b.toNat / 16), Reference.hexDigit (b.toNat % 16)]

/-- `digest('hex')`. -/
def hex (bytes : Bytes) : JsString := bytes.flatMap hexByte

/-- `RandomRefreshTokenFactory`, over the SHA-256 of `node:crypto`. -/
structure RandomRefreshTokenFactory where
  sha256 : Bytes → Bytes

namespace RandomRefreshTokenFactory

variable (factory : RandomRefreshTokenFactory)

/-- `hash(token)`. -/
def hash (token : JsString) : JsString := hex (factory.sha256 (utf8 token))

/-- `create()`, from the bytes it drew. -/
def create (drawn : RandomBytes) : RefreshToken :=
  let token := base64url drawn.bytes
  { token, hash := factory.hash token }

/-- The digest tells these tokens apart. -/
def TellsApart (tokens : List JsString) : Prop :=
  ∀ token ∈ tokens, ∀ token' ∈ tokens,
    factory.sha256 (utf8 token) = factory.sha256 (utf8 token') → token = token'

end RandomRefreshTokenFactory

/-! ## Texts that differ -/

theorem hexByte_injective {b b' : UInt8} (h : hexByte b = hexByte b') : b = b' := by
  have hlt := b.toNat_lt
  have hlt' := b'.toNat_lt
  rcases List.cons.inj h with ⟨hhigh, hlow⟩
  have hhigh' := congrArg Reference.hexValue hhigh
  have hlow' := congrArg Reference.hexValue (List.cons.inj hlow).1
  rw [Reference.hexValue_hexDigit (by omega), Reference.hexValue_hexDigit (by omega)] at hhigh'
  rw [Reference.hexValue_hexDigit (by omega), Reference.hexValue_hexDigit (by omega)] at hlow'
  apply UInt8.toNat_inj.mp
  omega

theorem hex_injective {bytes bytes' : Bytes} (h : hex bytes = hex bytes') : bytes = bytes' := by
  induction bytes generalizing bytes' with
  | nil =>
    cases bytes' with
    | nil => rfl
    | cons b' rest' => cases h
  | cons b rest ih =>
    cases bytes' with
    | nil => cases h
    | cons b' rest' =>
      -- two digits each, then the rest
      have hsplit : hexByte b ++ hex rest = hexByte b' ++ hex rest' := h
      rcases List.append_inj hsplit rfl with ⟨hbyte, hrest⟩
      rw [hexByte_injective hbyte, ih hrest]

theorem base64url_injective {bytes bytes' : Bytes} (h : base64url bytes = base64url bytes') :
    bytes = bytes' := by
  rw [← Reference.decodeBase64url_base64url bytes, h, Reference.decodeBase64url_base64url]

namespace RandomRefreshTokenFactory

variable {factory : RandomRefreshTokenFactory}

/-- One token, one draw. -/
theorem create_token_injective {drawn drawn' : RandomBytes}
    (h : (factory.create drawn).token = (factory.create drawn').token) : drawn = drawn' := by
  cases drawn
  cases drawn'
  cases base64url_injective h
  rfl

/-- What is stored of different draws differs. -/
theorem hashes_nodup {draws : List RandomBytes} (hdraws : draws.Nodup)
    (hapart : factory.TellsApart (draws.map fun drawn => (factory.create drawn).token)) :
    (draws.map fun drawn => (factory.create drawn).hash).Nodup := by
  rw [List.nodup_map_iff_inj_on hdraws]
  intro drawn hdrawn drawn' hdrawn' hhash
  apply @create_token_injective factory
  apply hapart _ (List.mem_map.mpr ⟨drawn, hdrawn, rfl⟩) _ (List.mem_map.mpr ⟨drawn', hdrawn', rfl⟩)
  exact hex_injective hhash

end RandomRefreshTokenFactory

end XClone.Identity
