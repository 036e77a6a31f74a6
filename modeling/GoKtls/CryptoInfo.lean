import GoKtls.Basic

/-! # Crypto-info records handed to `setsockopt(SOL_TLS, ...)`

The three cipher families of ktls_cipher_linux.go:13-42 as `CipherProfile`s,
the Go structs `kTLSCryptoInfoAESGCM128`, `kTLSCryptoInfoAESGCM256` and
`kTLSCryptoInfoCHACHA20POLY1305` as one `CryptoInfo` indexed by the
profile, whose fields carry their array lengths, and the bytes the
encoders pass to the kernel: the struct's memory, fields in declaration
order with `uint16`s little-endian (amd64, arm64).

`CryptoInfo.bytes_length`: the blob has the closed-form size
`kTLSCryptoInfoSize`, which is also Go's `unsafe.Sizeof` for the three
structs (`sizeof_eq`), so the encoders' padding assertion never fires.
`decode_bytes`: every field is read back from the blob. -/
set_option autoImplicit false
namespace GoKtls

/-- The `kTLS_CIPHER_*` constants of one cipher family. -/
structure CipherProfile where
  cipherType : UInt16
  ivSize : Nat
  keySize : Nat
  saltSize : Nat
  tagSize : Nat
  recSeqSize : Nat
  deriving DecidableEq, Repr

/-- `kTLS_CIPHER_AES_GCM_128` and its `_IV_SIZE`, `_KEY_SIZE`, `_SALT_SIZE`,
`_TAG_SIZE`, `_REC_SEQ_SIZE`. -/
def kTLS_CIPHER_AES_GCM_128 : CipherProfile := ⟨51, 8, 16, 4, 16, 8⟩
def kTLS_CIPHER_AES_GCM_256 : CipherProfile := ⟨52, 8, 32, 4, 16, 8⟩
def kTLS_CIPHER_CHACHA20_POLY1305 : CipherProfile := ⟨54, 12, 32, 0, 16, 8⟩

/-- `kTLSCryptoInfoSize_*`: `2 + 2 + IV + KEY + SALT + REC_SEQ`. -/
def kTLSCryptoInfoSize (p : CipherProfile) : Nat :=
  2 + 2 + p.ivSize + p.keySize + p.saltSize + p.recSeqSize

/-- `unsafe.Sizeof` of the struct: two `uint16`s, then byte arrays (alignment
one, so no padding between fields), rounded up to the struct's alignment 2. -/
def sizeof (p : CipherProfile) : Nat :=
  let raw := 2 + 2 + p.ivSize + p.keySize + p.saltSize + p.recSeqSize
  raw + raw % 2

theorem sizeof_eq : sizeof kTLS_CIPHER_AES_GCM_128 = kTLSCryptoInfoSize kTLS_CIPHER_AES_GCM_128 ∧
    sizeof kTLS_CIPHER_AES_GCM_256 = kTLSCryptoInfoSize kTLS_CIPHER_AES_GCM_256 ∧
    sizeof kTLS_CIPHER_CHACHA20_POLY1305 = kTLSCryptoInfoSize kTLS_CIPHER_CHACHA20_POLY1305 := by
  decide

/-- `kTLSCryptoInfo` followed by the family's four byte arrays. -/
structure CryptoInfo (p : CipherProfile) where
  version : UInt16
  cipherType : UInt16
  iv : Bytes
  key : Bytes
  salt : Bytes
  recSeq : Bytes
  iv_length : iv.length = p.ivSize
  key_length : key.length = p.keySize
  salt_length : salt.length = p.saltSize
  recSeq_length : recSeq.length = p.recSeqSize

def u16le (x : UInt16) : Bytes := [(x.toNat % 256).toUInt8, (x.toNat / 256).toUInt8]

def decodeU16le (lo hi : UInt8) : UInt16 := (lo.toNat + 256 * hi.toNat).toUInt16

theorem decodeU16le_u16le (x : UInt16) :
    decodeU16le ((x.toNat % 256).toUInt8) ((x.toNat / 256).toUInt8) = x := by
  apply UInt16.toNat.inj
  have hx : x.toNat < 65536 := x.toNat_lt_size
  have h8 : UInt8.size = 256 := rfl
  have h16 : UInt16.size = 65536 := rfl
  simp only [decodeU16le, Nat.toUInt16, Nat.toUInt8]
  rw [UInt8.toNat_ofNat_of_lt (by omega), UInt8.toNat_ofNat_of_lt (by omega),
    UInt16.toNat_ofNat_of_lt (by omega)]
  omega

namespace CryptoInfo

variable {p : CipherProfile}

/-- The memory of the struct, as `(*[size]byte)(unsafe.Pointer(&cryptoInfo))[:]`
reads it. -/
def bytes (c : CryptoInfo p) : Bytes :=
  u16le c.version ++ u16le c.cipherType ++ c.iv ++ c.key ++ c.salt ++ c.recSeq

theorem bytes_length (c : CryptoInfo p) : c.bytes.length = kTLSCryptoInfoSize p := by
  simp only [bytes, u16le, List.length_append, List.length_cons, List.length_nil, c.iv_length,
    c.key_length, c.salt_length, c.recSeq_length, kTLSCryptoInfoSize]

end CryptoInfo

/-- The fields of a blob, cut at the offsets of the struct. -/
structure Fields where
  version : UInt16
  cipherType : UInt16
  iv : Bytes
  key : Bytes
  salt : Bytes
  recSeq : Bytes
  deriving DecidableEq, Repr

def decode (p : CipherProfile) : Bytes → Fields
  | v0 :: v1 :: t0 :: t1 :: rest =>
    let afterIv := rest.drop p.ivSize
    let afterKey := afterIv.drop p.keySize
    { version := decodeU16le v0 v1
      cipherType := decodeU16le t0 t1
      iv := rest.take p.ivSize
      key := afterIv.take p.keySize
      salt := afterKey.take p.saltSize
      recSeq := (afterKey.drop p.saltSize).take p.recSeqSize }
  | _ => ⟨0, 0, [], [], [], []⟩

theorem decode_bytes {p : CipherProfile} (c : CryptoInfo p) :
    decode p c.bytes = ⟨c.version, c.cipherType, c.iv, c.key, c.salt, c.recSeq⟩ := by
  obtain ⟨v, t, iv, key, salt, seq, hiv, hkey, hsalt, hseq⟩ := c
  simp only [CryptoInfo.bytes, u16le, List.cons_append, List.nil_append, List.append_assoc, decode,
    ← hiv, ← hkey, ← hsalt, ← hseq, List.drop_left, List.take_left, List.take_length,
    decodeU16le_u16le]

end GoKtls
