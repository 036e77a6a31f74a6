import GoKtls.CryptoInfo

/-! # The cipher wire encoders

`ktlsEnableAES128GCM`, `ktlsEnableAES256GCM` and
`ktlsEnableCHACHA20POLY1305` (ktls_cipher_linux.go:208-421) check the
lengths of key, IV and sequence, copy them into the family's crypto-info
struct and, inside `rwc.Control`, bind the `tls` ULP (unless `skip`) and
hand the struct to `setsockopt(SOL_TLS, opt, ...)`.

A socket is the list of `setsockopt` calls it has received and the kernel's
answer to the `i`-th of them; `rwc.Control` fails without running its
callback once the descriptor is closed.

The AES-GCM-128 encoder differs from the other two in one place: when the
ULP bind fails it only logs, and goes on to the `SOL_TLS` call
(`ulpLoggedThenCryptoInfo` against `ulpThenCryptoInfo`). -/
set_option autoImplicit false
namespace GoKtls

/-- One `setsockopt` call: `syscall.SetsockoptString` or `syscall.SetsockoptInt`. -/
inductive SockOpt where
  | str (level opt : Nat) (value : Bytes)
  | int (level opt : Nat) (value : Int)
  deriving DecidableEq, Repr

/-- The descriptor of a `*net.TCPConn`. -/
structure Socket where
  closed : Bool
  /-- The `setsockopt` calls received so far, oldest first. -/
  calls : List SockOpt
  /-- The kernel's answer to the `i`-th call, `none` for success. -/
  answer : Nat → Option Errno

/-- `s` after the calls `new`. -/
def Socket.after (s : Socket) (new : List SockOpt) : Socket := { s with calls := s.calls ++ new }

@[simp] theorem Socket.after_nil (s : Socket) : s.after [] = s := by simp [Socket.after]

theorem Socket.after_after (s : Socket) (a b : List SockOpt) : (s.after a).after b = s.after (a ++ b) := by
  simp [Socket.after]

def setsockopt (o : SockOpt) : StateM Socket (Option Error) :=
  modifyGet fun s => ((s.answer s.calls.length).map .errno, s.after [o])

/-- `err = rwc.Control(f); if err == nil { err = err0 }`, where the callback
`f` returns its `err0`. -/
def rawControl (f : StateM Socket (Option Error)) : StateM Socket (Option Error) := do
  if (← get).closed then pure (some (.poll .closing)) else f

/-- `syscall.SetsockoptString(fd, syscall.SOL_TCP, TCP_ULP, "tls")`. -/
def ulpTls : SockOpt := .str SOL_TCP TCP_ULP [116, 108, 115]

theorem setsockopt_run (o : SockOpt) (s : Socket) :
    (setsockopt o).run s = ((s.answer s.calls.length).map .errno, s.after [o]) := rfl

theorem rawControl_run (f : StateM Socket (Option Error)) (s : Socket) :
    (rawControl f).run s = if s.closed then (some (.poll .closing), s) else f.run s := by
  obtain ⟨closed, calls, answer⟩ := s
  cases closed <;> rfl

/-! ## Length checks -/

def lengthError (what : String) (desired actual : Nat) : Error :=
  .errorf ("kTLS: wrong " ++ what ++ " length, desired: " ++ toString desired ++ ", actual: " ++
    toString actual)

def sizeError (desired actual : Nat) : Error :=
  .errorf ("kTLS: wrong cryptoInfo size, desired: " ++ toString desired ++ ", actual: " ++
    toString actual)

def checkLength (what : String) (desired actual : Nat) : Option Error :=
  if actual ≠ desired then some (lengthError what desired actual) else none

/-- ktls_cipher_linux.go:209-234 and 285-310: key, then IV (salt only under
TLS 1.2, salt and IV under any other version), then sequence. -/
def aesGcmCheck (p : CipherProfile) (version : UInt16) (key iv seq : Bytes) : Option Error :=
  checkLength "key" p.keySize key.length <|>
  checkLength "iv" (if version = VersionTLS12 then p.saltSize else p.saltSize + p.ivSize) iv.length <|>
  checkLength "seq" p.recSeqSize seq.length

/-- ktls_cipher_linux.go:363-374. -/
def chachaCheck (key iv seq : Bytes) : Option Error :=
  checkLength "key" kTLS_CIPHER_CHACHA20_POLY1305.keySize key.length <|>
  checkLength "iv" kTLS_CIPHER_CHACHA20_POLY1305.ivSize iv.length <|>
  checkLength "seq" kTLS_CIPHER_CHACHA20_POLY1305.recSeqSize seq.length

theorem checkLength_eq_none (what : String) (desired actual : Nat) :
    checkLength what desired actual = none ↔ actual = desired := by
  simp [checkLength]

theorem checkLength_some {what : String} {desired actual : Nat} {e : Error}
    (h : checkLength what desired actual = some e) : e = lengthError what desired actual := by
  unfold checkLength at h
  split at h <;> simp_all

theorem orElse_eq_none {a b : Option Error} : (a <|> b) = none ↔ a = none ∧ b = none := by
  cases a <;> simp [HOrElse.hOrElse, OrElse.orElse, Option.orElse]

theorem orElse_some {a b : Option Error} {e : Error} (h : (a <|> b) = some e) :
    a = some e ∨ b = some e := by
  cases a <;> simp_all [HOrElse.hOrElse, OrElse.orElse, Option.orElse]

/-- Every error of a length check is a length error. -/
theorem aesGcmCheck_some {p : CipherProfile} {version : UInt16} {key iv seq : Bytes} {e : Error}
    (h : aesGcmCheck p version key iv seq = some e) :
    ∃ what desired actual, e = lengthError what desired actual := by
  rcases orElse_some h with h | h
  · exact ⟨_, _, _, checkLength_some h⟩
  rcases orElse_some h with h | h <;> exact ⟨_, _, _, checkLength_some h⟩

theorem chachaCheck_some {key iv seq : Bytes} {e : Error} (h : chachaCheck key iv seq = some e) :
    ∃ what desired actual, e = lengthError what desired actual := by
  rcases orElse_some h with h | h
  · exact ⟨_, _, _, checkLength_some h⟩
  rcases orElse_some h with h | h <;> exact ⟨_, _, _, checkLength_some h⟩

theorem aesGcmCheck_eq_none (p : CipherProfile) (version : UInt16) (key iv seq : Bytes) :
    aesGcmCheck p version key iv seq = none ↔ key.length = p.keySize ∧
      iv.length = (if version = VersionTLS12 then p.saltSize else p.saltSize + p.ivSize) ∧
      seq.length = p.recSeqSize := by
  simp only [aesGcmCheck, orElse_eq_none, checkLength_eq_none]

theorem chachaCheck_eq_none (key iv seq : Bytes) :
    chachaCheck key iv seq = none ↔ key.length = 32 ∧ iv.length = 12 ∧ seq.length = 8 := by
  simp only [chachaCheck, orElse_eq_none, checkLength_eq_none]; rfl

/-- A key of the wrong length is reported first, whatever the IV and sequence. -/
theorem chachaCheck_key {key : Bytes} (h : key.length ≠ 32) (iv seq : Bytes) :
    chachaCheck key iv seq = some (lengthError "key" 32 key.length) := by
  simp [chachaCheck, checkLength, h, kTLS_CIPHER_CHACHA20_POLY1305, HOrElse.hOrElse, OrElse.orElse,
    Option.orElse]

/-! ## The crypto-info structs the encoders fill -/

/-- ktls_cipher_linux.go:236-250 (and 312-326): `copy` of `key`, of
`iv[:SALT]` into the salt, of `iv[SALT:]` into the IV field and of `seq`
into `recSeq`.  After `aesGcmCheck` the two slices are in range
(`aesGcmCheck_slices`), so Go's slices are the `take` and `drop` here. -/
def aesGcmCryptoInfo (p : CipherProfile) (version : UInt16) (key iv seq : Bytes) : CryptoInfo p where
  version := version
  cipherType := p.cipherType
  iv := copyInto p.ivSize (iv.drop p.saltSize)
  key := copyInto p.keySize key
  salt := copyInto p.saltSize (iv.take p.saltSize)
  recSeq := copyInto p.recSeqSize seq
  iv_length := copyInto_length _ _
  key_length := copyInto_length _ _
  salt_length := copyInto_length _ _
  recSeq_length := copyInto_length _ _

/-- ktls_cipher_linux.go:376-387: the salt array has size zero and is not
copied; the whole `iv` goes to the IV field. -/
def chachaCryptoInfo (version : UInt16) (key iv seq : Bytes) :
    CryptoInfo kTLS_CIPHER_CHACHA20_POLY1305 where
  version := version
  cipherType := kTLS_CIPHER_CHACHA20_POLY1305.cipherType
  iv := copyInto 12 iv
  key := copyInto 32 key
  salt := []
  recSeq := copyInto 8 seq
  iv_length := copyInto_length _ _
  key_length := copyInto_length _ _
  salt_length := rfl
  recSeq_length := copyInto_length _ _

theorem aesGcmCheck_slices {p : CipherProfile} {version : UInt16} {key iv seq : Bytes}
    (h : aesGcmCheck p version key iv seq = none) :
    sliceTo iv p.saltSize = some (iv.take p.saltSize) ∧
      sliceFrom iv p.saltSize = some (iv.drop p.saltSize) := by
  have hiv := ((aesGcmCheck_eq_none p version key iv seq).mp h).2.1
  have : p.saltSize ≤ iv.length := by split at hiv <;> omega
  simp [sliceTo, sliceFrom]; omega

/-! ## The encoders -/

/-- The `rwc.Control` callback of ktlsEnableAES256GCM and
ktlsEnableCHACHA20POLY1305: a failed ULP bind ends the callback. -/
def ulpThenCryptoInfo (opt : Nat) (skip : Bool) (blob : Bytes) : StateM Socket (Option Error) := do
  if !skip then
    let err0 ← setsockopt ulpTls
    if err0.isSome then return err0
  setsockopt (.str SOL_TLS opt blob)

/-- The `rwc.Control` callback of ktlsEnableAES128GCM: a failed ULP bind is
only logged. -/
def ulpLoggedThenCryptoInfo (opt : Nat) (skip : Bool) (blob : Bytes) :
    StateM Socket (Option Error) := do
  if !skip then
    let _ ← setsockopt ulpTls
  setsockopt (.str SOL_TLS opt blob)

/-- The body of the two AES-GCM encoders around their `rwc.Control` callback. -/
def aesGcmEnable (callback : Nat → Bool → Bytes → StateM Socket (Option Error)) (p : CipherProfile)
    (version : UInt16) (opt : Nat) (skip : Bool) (key iv seq : Bytes) : StateM Socket (Option Error) :=
  match aesGcmCheck p version key iv seq with
  | some e => pure (some e)
  | none =>
    let cryptoInfo := aesGcmCryptoInfo p version key iv seq
    if sizeof p ≠ kTLSCryptoInfoSize p then pure (some (sizeError (kTLSCryptoInfoSize p) (sizeof p)))
    else rawControl (callback opt skip cryptoInfo.bytes)

def ktlsEnableAES128GCM : UInt16 → Nat → Bool → Bytes → Bytes → Bytes → StateM Socket (Option Error) :=
  aesGcmEnable ulpLoggedThenCryptoInfo kTLS_CIPHER_AES_GCM_128

def ktlsEnableAES256GCM : UInt16 → Nat → Bool → Bytes → Bytes → Bytes → StateM Socket (Option Error) :=
  aesGcmEnable ulpThenCryptoInfo kTLS_CIPHER_AES_GCM_256

def ktlsEnableCHACHA20POLY1305 (version : UInt16) (opt : Nat) (skip : Bool) (key iv seq : Bytes) :
    StateM Socket (Option Error) :=
  match chachaCheck key iv seq with
  | some e => pure (some e)
  | none =>
    let cryptoInfo := chachaCryptoInfo version key iv seq
    if sizeof kTLS_CIPHER_CHACHA20_POLY1305 ≠ kTLSCryptoInfoSize kTLS_CIPHER_CHACHA20_POLY1305 then
      pure (some (sizeError (kTLSCryptoInfoSize kTLS_CIPHER_CHACHA20_POLY1305)
        (sizeof kTLS_CIPHER_CHACHA20_POLY1305)))
    else rawControl (ulpThenCryptoInfo opt skip cryptoInfo.bytes)

theorem ulpThenCryptoInfo_run (opt : Nat) (skip : Bool) (blob : Bytes) (s : Socket) :
    (ulpThenCryptoInfo opt skip blob).run s =
      if skip then (setsockopt (.str SOL_TLS opt blob)).run s
      else match s.answer s.calls.length with
        | some e => (some (.errno e), s.after [ulpTls])
        | none => (setsockopt (.str SOL_TLS opt blob)).run (s.after [ulpTls]) := by
  cases skip
  · cases h : s.answer s.calls.length <;> simp [ulpThenCryptoInfo, setsockopt_run, h]
  · rfl

theorem ulpLoggedThenCryptoInfo_run (opt : Nat) (skip : Bool) (blob : Bytes) (s : Socket) :
    (ulpLoggedThenCryptoInfo opt skip blob).run s =
      (setsockopt (.str SOL_TLS opt blob)).run (if skip then s else s.after [ulpTls]) := by
  cases skip <;> rfl

/-- The run appends a non-empty list of calls, each the ULP bind or
`setsockopt(SOL_TLS, opt, blob)`. -/
def Configures (opt : Nat) (blob : Bytes) (m : StateM Socket (Option Error)) : Prop :=
  ∀ s, ∃ new, (m.run s).2 = s.after new ∧ new ≠ [] ∧
    ∀ o ∈ new, o = ulpTls ∨ o = .str SOL_TLS opt blob

theorem ulpThenCryptoInfo_configures (opt : Nat) (skip : Bool) (blob : Bytes) :
    Configures opt blob (ulpThenCryptoInfo opt skip blob) := by
  intro s
  rw [ulpThenCryptoInfo_run]
  cases skip
  · cases s.answer s.calls.length
    · exact ⟨[ulpTls, .str SOL_TLS opt blob], by simp [setsockopt_run, Socket.after_after], by simp,
        by simp⟩
    · exact ⟨[ulpTls], rfl, by simp, by simp⟩
  · exact ⟨[.str SOL_TLS opt blob], rfl, by simp, by simp⟩

theorem ulpLoggedThenCryptoInfo_configures (opt : Nat) (skip : Bool) (blob : Bytes) :
    Configures opt blob (ulpLoggedThenCryptoInfo opt skip blob) := by
  intro s
  rw [ulpLoggedThenCryptoInfo_run]
  cases skip
  · exact ⟨[ulpTls, .str SOL_TLS opt blob], by simp [setsockopt_run, Socket.after_after], by simp,
      by simp⟩
  · exact ⟨[.str SOL_TLS opt blob], rfl, by simp, by simp⟩


/-! ## The three encoders side by side -/

inductive Family where
  | aesGcm128
  | aesGcm256
  | chacha20Poly1305
  deriving DecidableEq, Repr

namespace Family

def profile : Family → CipherProfile
  | aesGcm128 => kTLS_CIPHER_AES_GCM_128
  | aesGcm256 => kTLS_CIPHER_AES_GCM_256
  | chacha20Poly1305 => kTLS_CIPHER_CHACHA20_POLY1305

def enable : Family → UInt16 → Nat → Bool → Bytes → Bytes → Bytes → StateM Socket (Option Error)
  | aesGcm128 => ktlsEnableAES128GCM
  | aesGcm256 => ktlsEnableAES256GCM
  | chacha20Poly1305 => ktlsEnableCHACHA20POLY1305

def check (f : Family) (version : UInt16) (key iv seq : Bytes) : Option Error :=
  match f with
  | chacha20Poly1305 => chachaCheck key iv seq
  | f => aesGcmCheck f.profile version key iv seq

def callback : Family → Nat → Bool → Bytes → StateM Socket (Option Error)
  | aesGcm128 => ulpLoggedThenCryptoInfo
  | _ => ulpThenCryptoInfo

/-- The bytes the encoder hands to `setsockopt(SOL_TLS, ...)`. -/
def blob (f : Family) (version : UInt16) (key iv seq : Bytes) : Bytes :=
  match f with
  | chacha20Poly1305 => (chachaCryptoInfo version key iv seq).bytes
  | f => (aesGcmCryptoInfo f.profile version key iv seq).bytes

/-- The IV length a family requires: the salt under TLS 1.2, salt and IV
under TLS 1.3 (AES-GCM), 12 bytes for ChaCha20-Poly1305. -/
def ivLength : Family → UInt16 → Nat
  | chacha20Poly1305, _ => 12
  | f, v => if v = VersionTLS12 then f.profile.saltSize else f.profile.saltSize + f.profile.ivSize

def LengthsOk (f : Family) (version : UInt16) (key iv seq : Bytes) : Prop :=
  key.length = f.profile.keySize ∧ iv.length = f.ivLength version ∧ seq.length = 8

instance (f : Family) (version : UInt16) (key iv seq : Bytes) :
    Decidable (f.LengthsOk version key iv seq) :=
  inferInstanceAs (Decidable (_ ∧ _ ∧ _))

theorem enable_run (f : Family) (version : UInt16) (opt : Nat) (skip : Bool) (key iv seq : Bytes)
    (s : Socket) : (f.enable version opt skip key iv seq).run s =
      match f.check version key iv seq with
      | some e => (some e, s)
      | none => (rawControl (f.callback opt skip (f.blob version key iv seq))).run s := by
  cases f
  all_goals
    simp only [enable, check, callback, blob, profile, ktlsEnableAES128GCM, ktlsEnableAES256GCM,
      ktlsEnableCHACHA20POLY1305, aesGcmEnable]
    split <;> simp_all [sizeof_eq]

theorem check_eq_none (f : Family) (version : UInt16) (key iv seq : Bytes) :
    f.check version key iv seq = none ↔ f.LengthsOk version key iv seq := by
  cases f <;> simp only [check, LengthsOk, ivLength, aesGcmCheck_eq_none, chachaCheck_eq_none] <;> rfl

theorem check_some {f : Family} {version : UInt16} {key iv seq : Bytes} {e : Error}
    (h : f.check version key iv seq = some e) :
    ∃ what desired actual, e = lengthError what desired actual := by
  cases f
  · exact aesGcmCheck_some h
  · exact aesGcmCheck_some h
  · exact chachaCheck_some h

theorem callback_configures (f : Family) (opt : Nat) (skip : Bool) (blob : Bytes) :
    Configures opt blob (f.callback opt skip blob) := by
  cases f
  · exact ulpLoggedThenCryptoInfo_configures opt skip blob
  · exact ulpThenCryptoInfo_configures opt skip blob
  · exact ulpThenCryptoInfo_configures opt skip blob

theorem blob_length (f : Family) (version : UInt16) (key iv seq : Bytes) :
    (f.blob version key iv seq).length = kTLSCryptoInfoSize f.profile := by
  cases f <;> exact CryptoInfo.bytes_length _

theorem aesGcmCryptoInfo_fields (p : CipherProfile) (version : UInt16) (key iv seq : Bytes)
    (hkey : key.length = p.keySize)
    (hiv : iv.length = if version = VersionTLS12 then p.saltSize else p.saltSize + p.ivSize)
    (hseq : seq.length = p.recSeqSize) :
    let c := aesGcmCryptoInfo p version key iv seq
    c.key = key ∧ c.salt = iv.take p.saltSize ∧ c.recSeq = seq ∧
      (version ≠ VersionTLS12 → c.iv = iv.drop p.saltSize) := by
  have hsalt : p.saltSize ≤ iv.length := by split at hiv <;> omega
  refine ⟨copyInto_eq_self hkey, copyInto_eq_self (by simp; omega), copyInto_eq_self hseq,
    fun hv => copyInto_eq_self ?_⟩
  simp only [hv, if_false] at hiv
  simp only [List.length_drop]; omega

/-- The fields of the blob: version, cipher type, key, salt `iv[:S]`,
sequence, and the IV field `iv[S:]` under TLS 1.3 and for ChaCha20-Poly1305. -/
theorem decode_blob (f : Family) (version : UInt16) (key iv seq : Bytes)
    (h : f.LengthsOk version key iv seq) :
    let d := decode f.profile (f.blob version key iv seq)
    d.version = version ∧ d.cipherType = f.profile.cipherType ∧ d.key = key ∧
      d.salt = iv.take f.profile.saltSize ∧ d.recSeq = seq ∧
      (version = VersionTLS13 ∨ f = chacha20Poly1305 → d.iv = iv.drop f.profile.saltSize) := by
  obtain ⟨hkey, hiv, hseq⟩ := h
  have v13 : version = VersionTLS13 → version ≠ VersionTLS12 := by rintro rfl; decide
  cases f
  case chacha20Poly1305 =>
    have hkey : key.length = 32 := hkey
    have hiv : iv.length = 12 := hiv
    simp [blob, decode_bytes, chachaCryptoInfo, profile, copyInto_eq_self hkey,
      copyInto_eq_self hiv, copyInto_eq_self hseq, kTLS_CIPHER_CHACHA20_POLY1305]
  all_goals
    obtain ⟨fk, fs, fr, fi⟩ := aesGcmCryptoInfo_fields _ version key iv seq hkey hiv hseq
    simp only [blob, decode_bytes, fk, fs, fr, true_and]
    exact ⟨rfl, rfl, fun h => fi (v13 (by simpa using h))⟩

theorem enable_of_not_lengthsOk {f : Family} {version : UInt16} {key iv seq : Bytes}
    (h : ¬ f.LengthsOk version key iv seq) (opt : Nat) (skip : Bool) (s : Socket) :
    ∃ e, (f.enable version opt skip key iv seq).run s = (some e, s) ∧
      ∃ what desired actual, e = lengthError what desired actual := by
  rw [enable_run]
  cases hc : f.check version key iv seq with
  | none => exact absurd ((f.check_eq_none version key iv seq).mp hc) h
  | some e => exact ⟨e, rfl, check_some hc⟩

theorem enable_of_lengthsOk {f : Family} {version : UInt16} {key iv seq : Bytes}
    (h : f.LengthsOk version key iv seq) (opt : Nat) (skip : Bool) (s : Socket) :
    (f.enable version opt skip key iv seq).run s =
      (rawControl (f.callback opt skip (f.blob version key iv seq))).run s := by
  rw [enable_run, (f.check_eq_none version key iv seq).mpr h]

end Family

/-- The contract of the three encoders: a `setsockopt` call is issued exactly
when key, IV and sequence have the family's lengths and the descriptor is
open; wrong lengths give a length error and leave the socket untouched; and
every `SOL_TLS` call carries a blob of the closed-form size whose fields are
the version, the cipher type, the key, the salt `iv[:S]`, the sequence and,
under TLS 1.3 and for ChaCha20-Poly1305, the IV field `iv[S:]`. -/
theorem encoder_calls_iff_lengths_and_open (f : Family) (version : UInt16) (opt : Nat)
    (skip : Bool) (key iv seq : Bytes) (s : Socket) :
    let r := (f.enable version opt skip key iv seq).run s
    (r.2.calls ≠ s.calls ↔ f.LengthsOk version key iv seq ∧ s.closed = false) ∧
    (¬ f.LengthsOk version key iv seq →
      r.2 = s ∧ ∃ what desired actual, r.1 = some (lengthError what desired actual)) ∧
    (f.LengthsOk version key iv seq → s.closed = true → r = (some (.poll .closing), s)) ∧
    (∀ blob, SockOpt.str SOL_TLS opt blob ∈ r.2.calls.drop s.calls.length →
      blob.length = kTLSCryptoInfoSize f.profile ∧
      let d := decode f.profile blob
      d.version = version ∧ d.cipherType = f.profile.cipherType ∧ d.key = key ∧
        d.salt = iv.take f.profile.saltSize ∧ d.recSeq = seq ∧
        (version = VersionTLS13 ∨ f = .chacha20Poly1305 → d.iv = iv.drop f.profile.saltSize)) := by
  intro r
  by_cases hok : f.LengthsOk version key iv seq
  · have hr : r = (rawControl (f.callback opt skip (f.blob version key iv seq))).run s :=
      Family.enable_of_lengthsOk hok opt skip s
    cases hcl : s.closed
    · obtain ⟨new, hs, hne, hmem⟩ := f.callback_configures opt skip (f.blob version key iv seq) s
      rw [rawControl_run, hcl, if_neg (by decide)] at hr
      have hr2 : r.2 = s.after new := by rw [hr]; exact hs
      simp only [hr2, Socket.after, ne_eq, List.append_right_eq_self, hne, not_false_eq_true,
        hok, and_self, not_true_eq_false, false_implies, reduceCtorEq, imp_self, true_and,
        List.drop_left]
      intro blob hb
      rcases hmem _ hb with h | h
      · simp [ulpTls, SOL_TCP, SOL_TLS] at h
      · cases h
        exact ⟨f.blob_length version key iv seq, f.decode_blob version key iv seq hok⟩
    · rw [rawControl_run, hcl, if_pos rfl] at hr
      simp [hr, hok]
  · obtain ⟨e, he, hlen⟩ := Family.enable_of_not_lengthsOk hok opt skip s
    have hr : r = (some e, s) := he
    simp only [hr, ne_eq, not_true_eq_false, hok, false_and, iff_false, not_false_eq_true,
      true_and, Option.some.injEq, IsEmpty.forall_iff, false_implies, List.drop_length,
      List.not_mem_nil, implies_true, and_true]
    exact fun _ => hlen

theorem encoder_issues_no_call_on_closed_socket :
    Family.aesGcm128.LengthsOk VersionTLS12 (List.replicate 16 0) (List.replicate 4 0)
        (List.replicate 8 0) ∧
      ((Family.aesGcm128.enable VersionTLS12 TLS_TX false (List.replicate 16 0)
        (List.replicate 4 0) (List.replicate 8 0)).run ⟨true, [], fun _ => none⟩).2.calls = [] := by
  decide

/-! ## What a successful encoder leaves on the socket -/

/-- The kernel accepted the call `o`: it is one of the socket's calls and its
answer was success. -/
def Socket.Accepted (s : Socket) (o : SockOpt) : Prop :=
  ∃ i, s.calls[i]? = some o ∧ s.answer i = none

theorem Socket.Accepted.after {s : Socket} {o : SockOpt} (h : s.Accepted o) (new : List SockOpt) :
    (s.after new).Accepted o := by
  obtain ⟨i, hi, ha⟩ := h
  exact ⟨i, by rw [Socket.after, List.getElem?_append_left (List.getElem?_eq_some_iff.mp hi).1, hi], ha⟩

theorem Socket.accepted_of_answer {s : Socket} (o : SockOpt) (h : s.answer s.calls.length = none) :
    (s.after [o]).Accepted o :=
  ⟨s.calls.length, List.getElem?_concat_length _ _, h⟩

/-- A setsockopt that returns no error was accepted. -/
theorem setsockopt_accepted {o : SockOpt} {s : Socket} (h : ((setsockopt o).run s).1 = none) :
    ((setsockopt o).run s).2.Accepted o := by
  rw [setsockopt_run] at h ⊢
  exact Socket.accepted_of_answer o (Option.map_eq_none'.mp h)

theorem callback_accepted (f : Family) (opt : Nat) (skip : Bool) (blob : Bytes) (s : Socket)
    (h : ((f.callback opt skip blob).run s).1 = none) :
    ((f.callback opt skip blob).run s).2.Accepted (.str SOL_TLS opt blob) := by
  cases f
  case aesGcm128 =>
    simp only [Family.callback, ulpLoggedThenCryptoInfo_run] at h ⊢
    exact setsockopt_accepted h
  all_goals
    simp only [Family.callback, ulpThenCryptoInfo_run] at h ⊢
    cases skip
    · cases ha : s.answer s.calls.length
      · simp only [ha, Bool.false_eq_true, if_false] at h ⊢
        exact setsockopt_accepted h
      · simp [ha] at h
    · exact setsockopt_accepted h

/-- An encoder that returns no error has had its crypto info accepted by the
kernel. -/
theorem enable_accepted {f : Family} {version : UInt16} {opt : Nat} {skip : Bool} {key iv seq : Bytes}
    {s : Socket} (h : ((f.enable version opt skip key iv seq).run s).1 = none) :
    ((f.enable version opt skip key iv seq).run s).2.Accepted (.str SOL_TLS opt (f.blob version key iv seq)) := by
  rw [Family.enable_run] at h ⊢
  cases hc : f.check version key iv seq
  · simp only [hc, rawControl_run] at h ⊢
    cases hcl : s.closed
    · simp only [hcl, Bool.false_eq_true, if_false] at h ⊢
      exact callback_accepted f opt skip _ s h
    · simp [hcl] at h
  · simp [hc] at h

/-- An encoder only appends calls to the socket. -/
theorem enable_after (f : Family) (version : UInt16) (opt : Nat) (skip : Bool) (key iv seq : Bytes)
    (s : Socket) : ∃ new, ((f.enable version opt skip key iv seq).run s).2 = s.after new := by
  rw [Family.enable_run]
  split
  · exact ⟨[], (Socket.after_nil s).symm⟩
  · rw [rawControl_run]
    split
    · exact ⟨[], (Socket.after_nil s).symm⟩
    · obtain ⟨new, h, -⟩ := Family.callback_configures f opt skip _ s
      exact ⟨new, h⟩

theorem rawControl_setsockopt_after (o : SockOpt) (s : Socket) :
    ∃ new, ((rawControl (setsockopt o)).run s).2 = s.after new := by
  rw [rawControl_run]
  split
  · exact ⟨[], (Socket.after_nil s).symm⟩
  · exact ⟨[o], rfl⟩

/-! ## The calls an encoder makes -/

/-- The ULP bind a callback makes first, unless `skip`. -/
def ulpCalls (skip : Bool) : List SockOpt := if skip then [] else [ulpTls]

/-- Whatever the kernel answers, a callback makes the ULP bind (unless
`skip`) and then the `SOL_TLS` call, stopping early only on a failure. -/
theorem callback_calls (f : Family) (opt : Nat) (skip : Bool) (blob : Bytes) (s : Socket) :
    ∃ new, ((f.callback opt skip blob).run s).2 = s.after new ∧
      new <+: ulpCalls skip ++ [.str SOL_TLS opt blob] ∧
      (((f.callback opt skip blob).run s).1 = none → new = ulpCalls skip ++ [.str SOL_TLS opt blob]) := by
  have full (t : Socket) (pre : List SockOpt) (ht : t = s.after pre) :
      ∃ new, ((setsockopt (.str SOL_TLS opt blob)).run t).2 = s.after new ∧
        new <+: pre ++ [.str SOL_TLS opt blob] ∧
        (((setsockopt (.str SOL_TLS opt blob)).run t).1 = none → new = pre ++ [.str SOL_TLS opt blob]) :=
    ⟨pre ++ [.str SOL_TLS opt blob], by rw [setsockopt_run, ht, Socket.after_after], List.prefix_refl _,
      fun _ => rfl⟩
  cases skip
  · cases f
    case aesGcm128 =>
      rw [Family.callback, ulpLoggedThenCryptoInfo_run]
      exact full _ [ulpTls] rfl
    all_goals
      simp only [Family.callback]
      rw [ulpThenCryptoInfo_run, if_neg Bool.false_ne_true]
      cases h : s.answer s.calls.length
      · exact full _ [ulpTls] rfl
      · exact ⟨[ulpTls], rfl, List.prefix_append _ _, nofun⟩
  · cases f
    case aesGcm128 =>
      rw [Family.callback, ulpLoggedThenCryptoInfo_run]
      exact full _ [] (Socket.after_nil s).symm
    all_goals
      simp only [Family.callback]
      rw [ulpThenCryptoInfo_run, if_pos rfl]
      exact full _ [] (Socket.after_nil s).symm

/-- An encoder makes no call or a prefix of its callback's calls; when it
returns nil it made them all, on an open descriptor. -/
theorem Family.enable_calls (f : Family) (version : UInt16) (opt : Nat) (skip : Bool) (key iv seq : Bytes)
    (s : Socket) :
    ∃ new, ((f.enable version opt skip key iv seq).run s).2 = s.after new ∧
      new <+: ulpCalls skip ++ [.str SOL_TLS opt (f.blob version key iv seq)] ∧
      (((f.enable version opt skip key iv seq).run s).1 = none →
        new = ulpCalls skip ++ [.str SOL_TLS opt (f.blob version key iv seq)] ∧ s.closed = false) := by
  rw [enable_run]
  cases f.check version key iv seq with
  | some e => exact ⟨[], (Socket.after_nil s).symm, List.nil_prefix, nofun⟩
  | none =>
    dsimp only
    rw [rawControl_run]
    cases hc : s.closed
    · obtain ⟨new, hs, hp, hok⟩ := callback_calls f opt skip (f.blob version key iv seq) s
      exact ⟨new, hs, hp, fun h => ⟨hok h, rfl⟩⟩
    · exact ⟨[], (Socket.after_nil s).symm, List.nil_prefix, nofun⟩

/-! ## On a kernel that accepts every call -/

/-- An open descriptor whose kernel accepts every `setsockopt`. -/
def Socket.Accepting (s : Socket) : Prop := s.closed = false ∧ ∀ i, s.answer i = none

theorem Socket.Accepting.after {s : Socket} (h : s.Accepting) (new : List SockOpt) :
    (s.after new).Accepting := h

theorem setsockopt_accepting {s : Socket} (h : s.Accepting) (o : SockOpt) :
    (setsockopt o).run s = (none, s.after [o]) := by
  rw [setsockopt_run, h.2]; rfl

theorem callback_accepting (f : Family) (opt : Nat) (skip : Bool) (blob : Bytes) {s : Socket}
    (h : s.Accepting) : ∃ new, (f.callback opt skip blob).run s = (none, s.after new) := by
  have bound : ∃ new, (setsockopt (.str SOL_TLS opt blob)).run (s.after [ulpTls]) = (none, s.after new) :=
    ⟨[ulpTls, .str SOL_TLS opt blob], by rw [setsockopt_accepting (h.after _), Socket.after_after]; rfl⟩
  cases f
  case aesGcm128 =>
    rw [Family.callback, ulpLoggedThenCryptoInfo_run]
    cases skip
    · exact bound
    · exact ⟨_, setsockopt_accepting h _⟩
  all_goals
    simp only [Family.callback]
    rw [ulpThenCryptoInfo_run]
    cases skip
    · rw [if_neg Bool.false_ne_true, h.2]; exact bound
    · exact ⟨_, setsockopt_accepting h _⟩

/-- With the family's lengths, an encoder on an accepting kernel returns no
error. -/
theorem Family.enable_accepting (f : Family) (version : UInt16) (opt : Nat) (skip : Bool)
    {key iv seq : Bytes} (hok : f.LengthsOk version key iv seq) {s : Socket} (h : s.Accepting) :
    ∃ new, (f.enable version opt skip key iv seq).run s = (none, s.after new) := by
  rw [Family.enable_of_lengthsOk hok, rawControl_run, h.1, if_neg Bool.false_ne_true]
  exact callback_accepting f opt skip _ h

/-! ## Explicit nonces under TLS 1.2

Under TLS 1.2 the AES-GCM encoders check that `iv` holds only the 4-byte
salt, so `iv[SALT:]` is empty and the blob's 8-byte IV field stays zero.
The kernel sends that field, read big-endian, as the explicit nonce of its
first record and adds one per record; the TLS package's record layer used
the sequence numbers `0, ..., s-1` as explicit nonces under the same key
before the hand-over. -/

/-- Big-endian value of a byte string. -/
def beValue (bs : Bytes) : Nat := bs.foldl (fun n b => n * 256 + b.toNat) 0

/-- Modelled from the spec: the explicit nonce of the `k`-th record the
kernel seals after `TLS_TX` (the kernel's TX record counter, outside src/),
the blob's IV field read big-endian plus `k`, modulo `2^64`. -/
def kernelExplicitNonce (ivField : Bytes) (k : Nat) : Nat := (beValue ivField + k) % 2 ^ 64

/-- Modelled from the spec: the explicit nonces of the records the TLS
package's record layer (outside src/) sealed before the hand-over, its
sequence numbers below `c.out.seq`. -/
def userExplicitNonces (seq : Bytes) : List Nat := List.range (beValue seq)

theorem tls12_ivField_zero (f : Family) (hf : f ≠ .chacha20Poly1305) (key iv seq : Bytes)
    (h : f.LengthsOk VersionTLS12 key iv seq) :
    (decode f.profile (f.blob VersionTLS12 key iv seq)).iv = List.replicate 8 0 := by
  obtain ⟨-, hiv, -⟩ := h
  cases f
  case chacha20Poly1305 => exact absurd rfl hf
  all_goals
    have hdrop : iv.drop 4 = [] := List.drop_eq_nil_of_le (by simp [hiv, Family.ivLength]; rfl)
    simp only [Family.blob, decode_bytes, aesGcmCryptoInfo, Family.profile]
    change copyInto 8 (iv.drop 4) = _
    rw [hdrop, copyInto_nil]

/-- Under TLS 1.2 the kernel's first explicit nonce is one the record layer
already used, whenever at least one record was sealed before the hand-over. -/
theorem tls12_first_kernel_nonce_reused (f : Family) (hf : f ≠ .chacha20Poly1305)
    (key iv seq : Bytes) (h : f.LengthsOk VersionTLS12 key iv seq) (hs : 0 < beValue seq) :
    kernelExplicitNonce (decode f.profile (f.blob VersionTLS12 key iv seq)).iv 0 ∈
      userExplicitNonces seq := by
  have zero : beValue (List.replicate 8 0) = 0 := by decide
  simp only [tls12_ivField_zero f hf key iv seq h, kernelExplicitNonce, zero, userExplicitNonces,
    List.mem_range]
  omega

/-- AES-256-GCM with one record sealed before the hand-over. -/
theorem aes256_tls12_first_kernel_nonce_reused :
    kernelExplicitNonce (decode Family.aesGcm256.profile (Family.aesGcm256.blob VersionTLS12
        (List.replicate 32 7) [1, 2, 3, 4] [0, 0, 0, 0, 0, 0, 0, 1])).iv 0 ∈
      userExplicitNonces [0, 0, 0, 0, 0, 0, 0, 1] :=
  tls12_first_kernel_nonce_reused .aesGcm256 (by decide) _ _ _ (by decide) (by decide)

theorem aes128_tls12_tx_reuses_nonce_zero :
    ((ktlsEnableAES128GCM VersionTLS12 TLS_TX false (List.replicate 16 7) [1, 2, 3, 4]
        [0, 0, 0, 0, 0, 0, 0, 1]).run ⟨false, [], fun _ => none⟩).2.calls =
      [ulpTls, .str SOL_TLS TLS_TX (Family.aesGcm128.blob VersionTLS12 (List.replicate 16 7)
        [1, 2, 3, 4] [0, 0, 0, 0, 0, 0, 0, 1])] ∧
    kernelExplicitNonce (decode kTLS_CIPHER_AES_GCM_128 (Family.aesGcm128.blob VersionTLS12
        (List.replicate 16 7) [1, 2, 3, 4] [0, 0, 0, 0, 0, 0, 0, 1])).iv 0 ∈
      userExplicitNonces [0, 0, 0, 0, 0, 0, 0, 1] := by
  decide

end GoKtls
