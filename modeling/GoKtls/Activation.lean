import GoKtls.Capability
import GoKtls.Encoder

/-! # Offload activation

`enableKernelTLS` (ktls_linux.go:338-384) maps the negotiated cipher suite
to an encoder and a capability gate, and `ktlsEnableAES` /
`ktlsEnableCHACHA20` (ktls_cipher_linux.go:96-206) run that encoder for
TX with `(outKey, outIV, c.out.seq)` and then for RX with
`(inKey, inIV, c.in.seq)`, setting `*clientCipher` and `*serverCipher` to
the `kTLSCipher` placeholder after each success.  Only a successful TX call
sets `ulpEnabled`, so RX binds the ULP itself whenever TX was skipped.

`enableKernelTLS_markers_sound`: a direction's marker is set only after the
kernel accepted that direction's crypto info, built from its own key, IV and
sequence number.  `enableKernelTLS_configures_after_failed_ulp`: with an
AES-128-GCM suite a failed ULP bind does not stop the `SOL_TLS` call.
`enableKernelTLS_offloads`: on a kernel that accepts every call, a supported
suite with well-sized keys offloads TX, and RX exactly when the RX gates
allow it.  `enableKernelTLS_rx_key_mismatch`: with an RX key of the wrong
length the AES and ChaCha20 paths part ways.
`offload_needs_kernel_release`: after `init`, a cipher slot changes only on
a host whose release reaches that direction's threshold.
`enableKernelTLS_call_order`: whatever the kernel answers, the calls on the
socket are a prefix of one reference sequence, with at most one ULP bind
call, made first. -/
set_option autoImplicit false
namespace GoKtls

/-- A direction's record-layer cipher: a user-space AEAD, or `kTLSCipher{}`,
the placeholder that tells the record layer to skip wrapping (ktls.go:5-6). -/
inductive Cipher where
  | software
  | kTLS
  deriving DecidableEq, Repr

/-- What one activation reads and writes besides its arguments: the socket
behind `c.conn`, the two sequence numbers, and the cipher slots. -/
structure Activation where
  /-- `c.conn.(*net.TCPConn)` succeeds. -/
  isTCP : Bool
  sock : Socket
  /-- `c.out.seq` and `c.in.seq`. -/
  outSeq : Bytes
  inSeq : Bytes
  /-- `*clientCipher` and `*serverCipher`. -/
  clientCipher : Cipher
  serverCipher : Cipher

/-- Run a socket computation on the activation's socket. -/
def onSocket {α : Type} (m : StateM Socket α) : StateM Activation α := fun a =>
  let r := m.run a.sock
  (r.1, { a with sock := r.2 })

/-- ktls_cipher_linux.go:423-447; the result is ignored by its callers. -/
def ktlsEnableTxZerocopySendfile (caps : Capabilities) : StateM Socket (Option Error) :=
  if !caps.kTLSSupportZEROCOPY then pure none
  else rawControl (setsockopt (.int SOL_TLS TLS_TX_ZEROCOPY_RO 1))

/-- ktls_cipher_linux.go:449-473; the result is ignored by its callers. -/
def ktlsEnableRxExpectNoPad (caps : Capabilities) : StateM Socket (Option Error) :=
  if !caps.kTLSSupportNOPAD then pure none
  else rawControl (setsockopt (.int SOL_TLS TLS_RX_EXPECT_NO_PAD 1))

/-- The TX half of ktlsEnableAES and ktlsEnableCHACHA20 (lines 109-127 and
165-180): `(error, ulpEnabled)`.  `keyOk` is ktlsEnableAES's
`len(outKey) == keyLen`; ktlsEnableCHACHA20 has no such test. -/
def enableTx (caps : Capabilities) (f : Family) (keyOk : Bytes → Bool) (version : UInt16)
    (outKey outIV : Bytes) : StateM Activation (Option Error × Bool) := fun a =>
  if keyOk outKey && a.isTCP then
    match (onSocket (f.enable version TLS_TX false outKey outIV a.outSeq)).run a with
    | (some e, a) => ((some e, false), a)
    | (none, a) =>
      let a := { a with clientCipher := .kTLS }
      ((none, true), ((onSocket (ktlsEnableTxZerocopySendfile caps)).run a).2)
  else ((none, false), a)

/-- The RX half (lines 133-153 and 186-203). -/
def enableRx (caps : Capabilities) (f : Family) (keyOk : Bytes → Bool) (version : UInt16)
    (ulpEnabled : Bool) (inKey inIV : Bytes) : StateM Activation (Option Error) := fun a =>
  if keyOk inKey && a.isTCP then
    match (onSocket (f.enable version TLS_RX ulpEnabled inKey inIV a.inSeq)).run a with
    | (some e, a) => (some e, a)
    | (none, a) =>
      let a := { a with serverCipher := .kTLS }
      if version = VersionTLS13 then (none, ((onSocket (ktlsEnableRxExpectNoPad caps)).run a).2)
      else (none, a)
  else (none, a)

/-- The body shared by ktlsEnableAES and ktlsEnableCHACHA20: TX, then RX
unless RX (or TLS 1.3 RX) is unsupported. -/
def enableDirections (caps : Capabilities) (f : Family) (keyOk : Bytes → Bool) (version : UInt16)
    (inKey outKey inIV outIV : Bytes) : StateM Activation (Option Error) := fun a =>
  if !caps.kTLSSupportTX then (none, a)
  else
    match (enableTx caps f keyOk version outKey outIV).run a with
    | ((some e, _), a) => (some e, a)
    | ((none, ulpEnabled), a) =>
      if !caps.kTLSSupportRX || (version == VersionTLS13 && !caps.kTLSSupportTLS13RX) then (none, a)
      else (enableRx caps f keyOk version ulpEnabled inKey inIV).run a

/-- ktls_cipher_linux.go:96-156, with the encoder `enableFunc` as a family. -/
def ktlsEnableAES (caps : Capabilities) (version : UInt16) (enableFunc : Family) (keyLen : Nat)
    (inKey outKey inIV outIV : Bytes) : StateM Activation (Option Error) :=
  enableDirections caps enableFunc (fun key => key.length == keyLen) version inKey outKey inIV outIV

/-- ktls_cipher_linux.go:158-206. -/
def ktlsEnableCHACHA20 (caps : Capabilities) (version : UInt16) (inKey outKey inIV outIV : Bytes) :
    StateM Activation (Option Error) :=
  enableDirections caps .chacha20Poly1305 (fun _ => true) version inKey outKey inIV outIV

/-! ## Cipher suites -/

/-- Modelled from the spec: the cipher-suite identifiers of the TLS package
(its `cipher_suites.go`, not under src/), with their registry values. -/
def TLS_RSA_WITH_AES_128_GCM_SHA256 : UInt16 := 0x009c
def TLS_RSA_WITH_AES_256_GCM_SHA384 : UInt16 := 0x009d
def TLS_ECDHE_ECDSA_WITH_AES_128_GCM_SHA256 : UInt16 := 0xc02b
def TLS_ECDHE_ECDSA_WITH_AES_256_GCM_SHA384 : UInt16 := 0xc02c
def TLS_ECDHE_RSA_WITH_AES_128_GCM_SHA256 : UInt16 := 0xc02f
def TLS_ECDHE_RSA_WITH_AES_256_GCM_SHA384 : UInt16 := 0xc030
def TLS_ECDHE_RSA_WITH_CHACHA20_POLY1305_SHA256 : UInt16 := 0xcca8
def TLS_ECDHE_ECDSA_WITH_CHACHA20_POLY1305_SHA256 : UInt16 := 0xcca9
def TLS_AES_128_GCM_SHA256 : UInt16 := 0x1301
def TLS_AES_256_GCM_SHA384 : UInt16 := 0x1302
def TLS_CHACHA20_POLY1305_SHA256 : UInt16 := 0x1303

/-- ktls_linux.go:338-384. -/
def enableKernelTLS (caps : Capabilities) (cipherSuiteID : UInt16) (inKey outKey inIV outIV : Bytes) :
    StateM Activation (Option Error) := fun a =>
  if !caps.kTLSSupport then (none, a)
  else if cipherSuiteID ∈ [TLS_ECDHE_RSA_WITH_AES_128_GCM_SHA256,
      TLS_ECDHE_ECDSA_WITH_AES_128_GCM_SHA256, TLS_RSA_WITH_AES_128_GCM_SHA256] then
    if !caps.kTLSSupportAESGCM128 then (none, a)
    else (ktlsEnableAES caps VersionTLS12 .aesGcm128 16 inKey outKey inIV outIV).run a
  else if cipherSuiteID ∈ [TLS_ECDHE_RSA_WITH_AES_256_GCM_SHA384,
      TLS_ECDHE_ECDSA_WITH_AES_256_GCM_SHA384, TLS_RSA_WITH_AES_256_GCM_SHA384] then
    if !caps.kTLSSupportAESGCM256 then (none, a)
    else (ktlsEnableAES caps VersionTLS12 .aesGcm256 32 inKey outKey inIV outIV).run a
  else if cipherSuiteID ∈ [TLS_ECDHE_RSA_WITH_CHACHA20_POLY1305_SHA256,
      TLS_ECDHE_ECDSA_WITH_CHACHA20_POLY1305_SHA256] then
    if !caps.kTLSSupportCHACHA20POLY1305 then (none, a)
    else (ktlsEnableCHACHA20 caps VersionTLS12 inKey outKey inIV outIV).run a
  else if cipherSuiteID = TLS_AES_128_GCM_SHA256 then
    if !caps.kTLSSupportAESGCM128 || !caps.kTLSSupportTLS13TX then (none, a)
    else (ktlsEnableAES caps VersionTLS13 .aesGcm128 16 inKey outKey inIV outIV).run a
  else if cipherSuiteID = TLS_AES_256_GCM_SHA384 then
    if !caps.kTLSSupportAESGCM256 || !caps.kTLSSupportTLS13TX then (none, a)
    else (ktlsEnableAES caps VersionTLS13 .aesGcm256 32 inKey outKey inIV outIV).run a
  else if cipherSuiteID = TLS_CHACHA20_POLY1305_SHA256 then
    if !caps.kTLSSupportCHACHA20POLY1305 || !caps.kTLSSupportTLS13TX then (none, a)
    else (ktlsEnableCHACHA20 caps VersionTLS13 inKey outKey inIV outIV).run a
  else (none, a)

/-- With an AES-128-GCM suite, a failed ULP bind (the first call, answered
`EEXIST`) is followed by the `SOL_TLS` `TLS_TX` call, whose failure is then
returned. -/
theorem enableKernelTLS_configures_after_failed_ulp :
    let a : Activation := ⟨true, ⟨false, [], fun i => if i = 0 then some ⟨17⟩ else some ⟨92⟩⟩,
      List.replicate 8 0, List.replicate 8 0, .software, .software⟩
    let r := (enableKernelTLS (capabilitiesAt 5 15) TLS_RSA_WITH_AES_128_GCM_SHA256
      (List.replicate 16 1) (List.replicate 16 2) [1, 2, 3, 4] [5, 6, 7, 8]).run a
    r.1 = some (.errno ⟨92⟩) ∧ r.2.sock.calls = [ulpTls, .str SOL_TLS TLS_TX
      (Family.aesGcm128.blob VersionTLS12 (List.replicate 16 2) [5, 6, 7, 8] (List.replicate 8 0))] := by
  decide

/-! ## The offload markers are set only after the kernel accepted -/

/-- Each direction's marker is set only once the kernel has accepted, for that
direction, a crypto info built from that direction's own key, IV and
sequence number. -/
structure MarkersSound (inKey outKey inIV outIV : Bytes) (a : Activation) : Prop where
  tx : a.clientCipher = .kTLS → ∃ (f : Family) (version : UInt16),
    a.sock.Accepted (.str SOL_TLS TLS_TX (f.blob version outKey outIV a.outSeq))
  rx : a.serverCipher = .kTLS → ∃ (f : Family) (version : UInt16),
    a.sock.Accepted (.str SOL_TLS TLS_RX (f.blob version inKey inIV a.inSeq))

section
variable {inKey outKey inIV outIV : Bytes} {a : Activation}

theorem MarkersSound.after (h : MarkersSound inKey outKey inIV outIV a) (new : List SockOpt) :
    MarkersSound inKey outKey inIV outIV { a with sock := a.sock.after new } :=
  ⟨fun hc => (h.tx hc).imp fun _ => .imp fun _ hs => hs.after new,
   fun hc => (h.rx hc).imp fun _ => .imp fun _ hs => hs.after new⟩

theorem MarkersSound.onSocket_after (h : MarkersSound inKey outKey inIV outIV a)
    {α : Type} (m : StateM Socket α) (hm : ∃ new, (m.run a.sock).2 = a.sock.after new) :
    MarkersSound inKey outKey inIV outIV ((onSocket m).run a).2 := by
  obtain ⟨new, hnew⟩ := hm
  show MarkersSound inKey outKey inIV outIV { a with sock := (m.run a.sock).2 }
  rw [hnew]
  exact h.after new

theorem ktlsEnableTxZerocopySendfile_after (caps : Capabilities) (s : Socket) :
    ∃ new, ((ktlsEnableTxZerocopySendfile caps).run s).2 = s.after new := by
  unfold ktlsEnableTxZerocopySendfile
  split
  · exact ⟨[], (Socket.after_nil s).symm⟩
  · exact rawControl_setsockopt_after _ s

theorem ktlsEnableRxExpectNoPad_after (caps : Capabilities) (s : Socket) :
    ∃ new, ((ktlsEnableRxExpectNoPad caps).run s).2 = s.after new := by
  unfold ktlsEnableRxExpectNoPad
  split
  · exact ⟨[], (Socket.after_nil s).symm⟩
  · exact rawControl_setsockopt_after _ s

theorem MarkersSound.ite {c : Prop} [Decidable c] {x y : Option Error × Activation}
    (hx : MarkersSound inKey outKey inIV outIV x.2) (hy : MarkersSound inKey outKey inIV outIV y.2) :
    MarkersSound inKey outKey inIV outIV (if c then x else y).2 := by
  split
  · exact hx
  · exact hy

theorem enableTx_sound (caps : Capabilities) (f : Family) (keyOk : Bytes → Bool) (version : UInt16)
    (h : MarkersSound inKey outKey inIV outIV a) :
    MarkersSound inKey outKey inIV outIV ((enableTx caps f keyOk version outKey outIV).run a).2 := by
  simp only [enableTx, StateT.run]
  split
  · obtain ⟨new, hnew⟩ := enable_after f version TLS_TX false outKey outIV a.outSeq a.sock
    have hacc := @enable_accepted f version TLS_TX false outKey outIV a.outSeq a.sock
    generalize hr : (f.enable version TLS_TX false outKey outIV a.outSeq).run a.sock = r at hnew hacc
    have ho : onSocket (f.enable version TLS_TX false outKey outIV a.outSeq) a =
        (r.1, { a with sock := r.2 }) := by rw [← hr]; rfl
    obtain ⟨err, s'⟩ := r
    simp only at hnew hacc
    subst hnew
    rw [ho]
    cases err with
    | some e => exact h.after new
    | none =>
      refine MarkersSound.onSocket_after ⟨fun _ => ⟨f, version, hacc rfl⟩, fun hc => ?_⟩ _
        (ktlsEnableTxZerocopySendfile_after caps _)
      exact (h.rx hc).imp fun _ => .imp fun _ hs => hs.after new
  · exact h

theorem enableRx_sound (caps : Capabilities) (f : Family) (keyOk : Bytes → Bool) (version : UInt16)
    (ulpEnabled : Bool) (h : MarkersSound inKey outKey inIV outIV a) :
    MarkersSound inKey outKey inIV outIV ((enableRx caps f keyOk version ulpEnabled inKey inIV).run a).2 := by
  simp only [enableRx, StateT.run]
  split
  · obtain ⟨new, hnew⟩ := enable_after f version TLS_RX ulpEnabled inKey inIV a.inSeq a.sock
    have hacc := @enable_accepted f version TLS_RX ulpEnabled inKey inIV a.inSeq a.sock
    generalize hr : (f.enable version TLS_RX ulpEnabled inKey inIV a.inSeq).run a.sock = r at hnew hacc
    have ho : onSocket (f.enable version TLS_RX ulpEnabled inKey inIV a.inSeq) a =
        (r.1, { a with sock := r.2 }) := by rw [← hr]; rfl
    obtain ⟨err, s'⟩ := r
    simp only at hnew hacc
    subst hnew
    rw [ho]
    cases err with
    | some e => exact h.after new
    | none =>
      have h₁ : MarkersSound inKey outKey inIV outIV
          { a with sock := a.sock.after new, serverCipher := .kTLS } :=
        ⟨fun hc => (h.tx hc).imp fun _ => .imp fun _ hs => hs.after new,
         fun _ => ⟨f, version, hacc rfl⟩⟩
      dsimp only
      split
      · exact h₁.onSocket_after _ (ktlsEnableRxExpectNoPad_after caps _)
      · exact h₁
  · exact h

theorem enableDirections_sound (caps : Capabilities) (f : Family) (keyOk : Bytes → Bool)
    (version : UInt16) (h : MarkersSound inKey outKey inIV outIV a) :
    MarkersSound inKey outKey inIV outIV
      ((enableDirections caps f keyOk version inKey outKey inIV outIV).run a).2 := by
  simp only [enableDirections, StateT.run]
  split
  · exact h
  · have h₁ : MarkersSound inKey outKey inIV outIV (enableTx caps f keyOk version outKey outIV a).2 :=
      enableTx_sound caps f keyOk version h
    generalize enableTx caps f keyOk version outKey outIV a = r at h₁ ⊢
    obtain ⟨⟨err, ulpEnabled⟩, a'⟩ := r
    cases err with
    | some e => exact h₁
    | none =>
      simp only
      split
      · exact h₁
      · exact enableRx_sound caps f keyOk version ulpEnabled h₁

/-- A connection with no direction offloaded. -/
theorem markersSound_software (isTCP : Bool) (sock : Socket) (outSeq inSeq : Bytes) :
    MarkersSound inKey outKey inIV outIV ⟨isTCP, sock, outSeq, inSeq, .software, .software⟩ :=
  ⟨nofun, nofun⟩

/-- Whatever the capabilities, the suite, the keys and the kernel's answers,
`enableKernelTLS` keeps the markers sound: a direction is marked offloaded
only after the kernel accepted that direction's crypto info, built from its
own key, IV and sequence number. -/
theorem enableKernelTLS_markers_sound (caps : Capabilities) (cipherSuiteID : UInt16)
    (h : MarkersSound inKey outKey inIV outIV a) :
    MarkersSound inKey outKey inIV outIV
      ((enableKernelTLS caps cipherSuiteID inKey outKey inIV outIV).run a).2 := by
  have aes (version : UInt16) (f : Family) (keyLen : Nat) : MarkersSound inKey outKey inIV outIV
      ((ktlsEnableAES caps version f keyLen inKey outKey inIV outIV).run a).2 :=
    enableDirections_sound caps f _ version h
  have chacha (version : UInt16) : MarkersSound inKey outKey inIV outIV
      ((ktlsEnableCHACHA20 caps version inKey outKey inIV outIV).run a).2 :=
    enableDirections_sound caps .chacha20Poly1305 _ version h
  show MarkersSound inKey outKey inIV outIV (enableKernelTLS caps cipherSuiteID inKey outKey inIV outIV a).2
  simp only [enableKernelTLS]
  refine MarkersSound.ite h (.ite (.ite h (aes _ _ _)) (.ite (.ite h (aes _ _ _)) (.ite (.ite h (chacha _))
    (.ite (.ite h (aes _ _ _)) (.ite (.ite h (aes _ _ _)) (.ite (.ite h (chacha _)) h))))))

/-- From a connection with no direction offloaded, on kernel 6.1 with a TLS 1.3 suite. -/
theorem enableKernelTLS_markers_sound_on_6_1 :
    MarkersSound (List.replicate 16 1) (List.replicate 16 2) (List.replicate 12 3) (List.replicate 12 4)
      ((enableKernelTLS (capabilitiesAt 6 1) TLS_AES_128_GCM_SHA256 (List.replicate 16 1)
        (List.replicate 16 2) (List.replicate 12 3) (List.replicate 12 4)).run
          ⟨true, ⟨false, [], fun _ => none⟩, [], [], .software, .software⟩).2 :=
  enableKernelTLS_markers_sound (capabilitiesAt 6 1) TLS_AES_128_GCM_SHA256
    (markersSound_software true _ _ _)

end

/-! ## The suite table

The switch of enableKernelTLS as a table: each case's suites, the encoder
family and the TLS version it passes, and its capability gate. -/

/-- The cases of ktls_linux.go:342-382: each suite with the encoder family and
the TLS version it is enabled with. -/
def kTLSSuites : List (UInt16 × Family × UInt16) :=
  [(TLS_ECDHE_RSA_WITH_AES_128_GCM_SHA256, .aesGcm128, VersionTLS12),
   (TLS_ECDHE_ECDSA_WITH_AES_128_GCM_SHA256, .aesGcm128, VersionTLS12),
   (TLS_RSA_WITH_AES_128_GCM_SHA256, .aesGcm128, VersionTLS12),
   (TLS_ECDHE_RSA_WITH_AES_256_GCM_SHA384, .aesGcm256, VersionTLS12),
   (TLS_ECDHE_ECDSA_WITH_AES_256_GCM_SHA384, .aesGcm256, VersionTLS12),
   (TLS_RSA_WITH_AES_256_GCM_SHA384, .aesGcm256, VersionTLS12),
   (TLS_ECDHE_RSA_WITH_CHACHA20_POLY1305_SHA256, .chacha20Poly1305, VersionTLS12),
   (TLS_ECDHE_ECDSA_WITH_CHACHA20_POLY1305_SHA256, .chacha20Poly1305, VersionTLS12),
   (TLS_AES_128_GCM_SHA256, .aesGcm128, VersionTLS13),
   (TLS_AES_256_GCM_SHA384, .aesGcm256, VersionTLS13),
   (TLS_CHACHA20_POLY1305_SHA256, .chacha20Poly1305, VersionTLS13)]

/-- The gate of a case: kTLS support, the family's flag and, for a TLS 1.3
suite, `kTLSSupportTLS13TX`. -/
def Capabilities.supports (caps : Capabilities) (f : Family) (v : UInt16) : Bool :=
  caps.kTLSSupport &&
    (match f with
      | .aesGcm128 => caps.kTLSSupportAESGCM128
      | .aesGcm256 => caps.kTLSSupportAESGCM256
      | .chacha20Poly1305 => caps.kTLSSupportCHACHA20POLY1305) &&
    (v != VersionTLS13 || caps.kTLSSupportTLS13TX)

/-- The key test of a case: `len(key) == keyLen` in ktlsEnableAES (16 and 32
as enableKernelTLS passes them), none in ktlsEnableCHACHA20. -/
def Family.keyOk : Family → Bytes → Bool
  | .chacha20Poly1305 => fun _ => true
  | f => fun key => key.length == f.profile.keySize

theorem Family.keyOk_of_lengthsOk {f : Family} {version : UInt16} {key iv seq : Bytes}
    (h : f.LengthsOk version key iv seq) : f.keyOk key = true := by
  cases f <;> simp [Family.keyOk, h.1]

/-- Under its gate, each case of enableKernelTLS runs ktlsEnableAES or
ktlsEnableCHACHA20, the shared body `enableDirections`, with its family and
version. -/
theorem enableKernelTLS_of_supports {id : UInt16} {f : Family} {v : UInt16}
    (hmem : (id, f, v) ∈ kTLSSuites) {caps : Capabilities} (hsup : caps.supports f v = true)
    (inKey outKey inIV outIV : Bytes) (a : Activation) :
    (enableKernelTLS caps id inKey outKey inIV outIV).run a =
      (enableDirections caps f f.keyOk v inKey outKey inIV outIV).run a := by
  simp only [kTLSSuites, List.mem_cons, Prod.mk.injEq, List.mem_singleton, List.not_mem_nil,
    or_false] at hmem
  rcases hmem with h | h | h | h | h | h | h | h | h | h | h <;> obtain ⟨rfl, rfl, rfl⟩ := h <;>
    simp_all [Capabilities.supports, enableKernelTLS, StateT.run, ktlsEnableAES, ktlsEnableCHACHA20,
      Family.keyOk, Family.profile, kTLS_CIPHER_AES_GCM_128, kTLS_CIPHER_AES_GCM_256,
      TLS_ECDHE_RSA_WITH_AES_128_GCM_SHA256, TLS_ECDHE_ECDSA_WITH_AES_128_GCM_SHA256,
      TLS_RSA_WITH_AES_128_GCM_SHA256, TLS_ECDHE_RSA_WITH_AES_256_GCM_SHA384,
      TLS_ECDHE_ECDSA_WITH_AES_256_GCM_SHA384, TLS_RSA_WITH_AES_256_GCM_SHA384,
      TLS_ECDHE_RSA_WITH_CHACHA20_POLY1305_SHA256, TLS_ECDHE_ECDSA_WITH_CHACHA20_POLY1305_SHA256,
      TLS_AES_128_GCM_SHA256, TLS_AES_256_GCM_SHA384, TLS_CHACHA20_POLY1305_SHA256,
      VersionTLS12, VersionTLS13]

/-- What enableKernelTLS can do: return nil with the activation unchanged, or
run the shared body of a supported case. -/
theorem enableKernelTLS_cases (caps : Capabilities) (cipherSuiteID : UInt16) (inKey outKey inIV outIV : Bytes)
    (a : Activation) :
    (enableKernelTLS caps cipherSuiteID inKey outKey inIV outIV).run a = (none, a) ∨
      ∃ f v, (cipherSuiteID, f, v) ∈ kTLSSuites ∧ caps.supports f v = true ∧
        (enableKernelTLS caps cipherSuiteID inKey outKey inIV outIV).run a =
          (enableDirections caps f f.keyOk v inKey outKey inIV outIV).run a := by
  let P : Option Error × Activation → Prop := fun r => r = (none, a) ∨
    ∃ f v, (cipherSuiteID, f, v) ∈ kTLSSuites ∧ caps.supports f v = true ∧
      r = (enableDirections caps f f.keyOk v inKey outKey inIV outIV).run a
  have unchanged : P (none, a) := .inl rfl
  have suite (f : Family) (v : UInt16) (hm : (cipherSuiteID, f, v) ∈ kTLSSuites)
      (hs : caps.supports f v = true) :
      P ((enableDirections caps f f.keyOk v inKey outKey inIV outIV).run a) :=
    .inr ⟨f, v, hm, hs, rfl⟩
  have v12 : VersionTLS12 ≠ VersionTLS13 := by decide
  show P (enableKernelTLS caps cipherSuiteID inKey outKey inIV outIV a)
  refine iteInduction (fun _ => unchanged) fun hk => ?_
  refine iteInduction (fun hm => iteInduction (fun _ => unchanged) fun hg =>
    suite .aesGcm128 VersionTLS12 ?_
      (by simp at hk hg; simp [Capabilities.supports, hk, hg, v12])) fun _ => ?_
  · simp only [List.mem_cons, List.mem_singleton, List.not_mem_nil, or_false] at hm
    rcases hm with rfl | rfl | rfl <;> decide
  refine iteInduction (fun hm => iteInduction (fun _ => unchanged) fun hg =>
    suite .aesGcm256 VersionTLS12 ?_
      (by simp at hk hg; simp [Capabilities.supports, hk, hg, v12])) fun _ => ?_
  · simp only [List.mem_cons, List.mem_singleton, List.not_mem_nil, or_false] at hm
    rcases hm with rfl | rfl | rfl <;> decide
  refine iteInduction (fun hm => iteInduction (fun _ => unchanged) fun hg =>
    suite .chacha20Poly1305 VersionTLS12 ?_
      (by simp at hk hg; simp [Capabilities.supports, hk, hg, v12])) fun _ => ?_
  · simp only [List.mem_cons, List.mem_singleton, List.not_mem_nil, or_false] at hm
    rcases hm with rfl | rfl <;> decide
  refine iteInduction (fun hm => iteInduction (fun _ => unchanged) fun hg =>
    suite .aesGcm128 VersionTLS13 (by rw [hm]; decide)
      (by simp at hk hg; simp [Capabilities.supports, hk, hg, v12])) fun _ => ?_
  refine iteInduction (fun hm => iteInduction (fun _ => unchanged) fun hg =>
    suite .aesGcm256 VersionTLS13 (by rw [hm]; decide)
      (by simp at hk hg; simp [Capabilities.supports, hk, hg, v12])) fun _ => ?_
  exact iteInduction (fun hm => iteInduction (fun _ => unchanged) fun hg =>
    suite .chacha20Poly1305 VersionTLS13 (by rw [hm]; decide)
      (by simp at hk hg; simp [Capabilities.supports, hk, hg, v12]))
    fun _ => unchanged

/-- The three TLS 1.3 suites are the cases enabled with `VersionTLS13`. -/
theorem kTLSSuites_tls13 : ∀ p ∈ kTLSSuites,
    p.1 = TLS_AES_128_GCM_SHA256 ∨ p.1 = TLS_AES_256_GCM_SHA384 ∨ p.1 = TLS_CHACHA20_POLY1305_SHA256 →
      p.2.2 = VersionTLS13 := by
  decide

theorem Capabilities.supports_kTLSSupport {caps : Capabilities} {f : Family} {v : UInt16}
    (h : caps.supports f v = true) : caps.kTLSSupport = true := by
  simp only [Capabilities.supports, Bool.and_eq_true] at h
  exact h.1.1


/-! ## On a kernel that accepts every call

With a TCP connection, keys, IVs and sequence numbers of the suite's lengths,
and a kernel that answers every call with success, the suite table of
`enableKernelTLS` reaches its encoder and the run is fixed: TX is offloaded,
and RX too unless the capability gate holds it back. -/

section
variable (caps : Capabilities) {f : Family} {keyOk : Bytes → Bool} {version : UInt16} {a : Activation}

theorem onSocket_run {α : Type} (m : StateM Socket α) (a : Activation) :
    (onSocket m).run a = ((m.run a.sock).1, { a with sock := (m.run a.sock).2 }) := rfl

theorem enableTx_accepting {outKey outIV : Bytes} (hk : keyOk outKey = true) (htcp : a.isTCP = true)
    (hs : a.sock.Accepting) (hok : f.LengthsOk version outKey outIV a.outSeq) :
    ∃ new, (enableTx caps f keyOk version outKey outIV).run a =
      ((none, true), { a with sock := a.sock.after new, clientCipher := .kTLS }) := by
  obtain ⟨new, hnew⟩ := f.enable_accepting version TLS_TX false hok hs
  obtain ⟨new', hzc⟩ := ktlsEnableTxZerocopySendfile_after caps (a.sock.after new)
  have hon : (onSocket (f.enable version TLS_TX false outKey outIV a.outSeq)).run a =
      (none, { a with sock := a.sock.after new }) := by rw [onSocket_run, hnew]
  refine ⟨new ++ new', ?_⟩
  show (if keyOk outKey && a.isTCP then _ else _) = _
  rw [if_pos (by rw [hk, htcp]; rfl), hon]
  dsimp only
  rw [onSocket_run, hzc, Socket.after_after]

theorem enableRx_accepting (ulpEnabled : Bool) {inKey inIV : Bytes} (hk : keyOk inKey = true)
    (htcp : a.isTCP = true) (hs : a.sock.Accepting) (hok : f.LengthsOk version inKey inIV a.inSeq) :
    ∃ new, (enableRx caps f keyOk version ulpEnabled inKey inIV).run a =
      (none, { a with sock := a.sock.after new, serverCipher := .kTLS }) := by
  obtain ⟨new, hnew⟩ := f.enable_accepting version TLS_RX ulpEnabled hok hs
  obtain ⟨new', hnp⟩ := ktlsEnableRxExpectNoPad_after caps (a.sock.after new)
  have hon : (onSocket (f.enable version TLS_RX ulpEnabled inKey inIV a.inSeq)).run a =
      (none, { a with sock := a.sock.after new }) := by rw [onSocket_run, hnew]
  refine ⟨if version = VersionTLS13 then new ++ new' else new, ?_⟩
  show (if keyOk inKey && a.isTCP then _ else _) = _
  rw [if_pos (by rw [hk, htcp]; rfl), hon]
  dsimp only
  split_ifs
  · rw [onSocket_run, hnp, Socket.after_after]
  · rfl

theorem enableDirections_accepting {inKey outKey inIV outIV : Bytes} (htx : caps.kTLSSupportTX = true)
    (hkO : keyOk outKey = true) (hkI : keyOk inKey = true) (htcp : a.isTCP = true)
    (hs : a.sock.Accepting) (hout : f.LengthsOk version outKey outIV a.outSeq)
    (hin : f.LengthsOk version inKey inIV a.inSeq) :
    ∃ new, (enableDirections caps f keyOk version inKey outKey inIV outIV).run a =
      (none, { a with
        sock := a.sock.after new, clientCipher := .kTLS,
        serverCipher := if !caps.kTLSSupportRX || (version == VersionTLS13 && !caps.kTLSSupportTLS13RX)
          then a.serverCipher else .kTLS }) := by
  obtain ⟨n₁, htxr⟩ := enableTx_accepting caps hkO htcp hs hout
  obtain ⟨n₂, hrxr⟩ := @enableRx_accepting caps f keyOk version
    { a with sock := a.sock.after n₁, clientCipher := .kTLS } true inKey inIV hkI htcp (hs.after n₁) hin
  refine ⟨if !caps.kTLSSupportRX || (version == VersionTLS13 && !caps.kTLSSupportTLS13RX) then n₁
    else n₁ ++ n₂, ?_⟩
  show (if !caps.kTLSSupportTX then _ else _) = _
  rw [if_neg (by rw [htx]; decide), htxr]
  dsimp only
  split_ifs
  · rfl
  · rw [hrxr, Socket.after_after]
end

/-- On a TCP connection whose kernel accepts every call, with key material of
the suite's lengths, every supported suite is offloaded: `enableKernelTLS`
returns nil, marks TX offloaded, and marks RX offloaded exactly when the
kernel supports RX (and TLS 1.3 RX for a TLS 1.3 suite), leaving the RX slot
as it was otherwise. -/
theorem enableKernelTLS_offloads {id : UInt16} {f : Family} {v : UInt16} (hmem : (id, f, v) ∈ kTLSSuites)
    {caps : Capabilities} (hsup : caps.supports f v = true) (htx : caps.kTLSSupportTX = true)
    {inKey outKey inIV outIV : Bytes} {a : Activation} (htcp : a.isTCP = true) (hs : a.sock.Accepting)
    (hout : f.LengthsOk v outKey outIV a.outSeq) (hin : f.LengthsOk v inKey inIV a.inSeq) :
    let r := (enableKernelTLS caps id inKey outKey inIV outIV).run a
    r.1 = none ∧ r.2.clientCipher = .kTLS ∧
      r.2.serverCipher = if caps.kTLSSupportRX = true ∧ (v = VersionTLS13 → caps.kTLSSupportTLS13RX = true)
        then .kTLS else a.serverCipher := by
  obtain ⟨new, h⟩ := enableDirections_accepting caps htx (Family.keyOk_of_lengthsOk hout)
    (Family.keyOk_of_lengthsOk hin) htcp hs hout hin
  rw [enableKernelTLS_of_supports hmem hsup, h]
  refine ⟨rfl, rfl, ?_⟩
  dsimp only
  by_cases hrx : caps.kTLSSupportRX = true <;> by_cases hv : v = VersionTLS13 <;>
    by_cases h13 : caps.kTLSSupportTLS13RX = true <;> simp [hrx, hv, h13]

/-- TLS 1.3 AES-128-GCM on kernel 6.1: both directions offloaded. -/
theorem enableKernelTLS_offloads_tls13_on_6_1 :
    let a : Activation := ⟨true, ⟨false, [], fun _ => none⟩, List.replicate 8 0, List.replicate 8 0,
      .software, .software⟩
    let r := (enableKernelTLS (capabilitiesAt 6 1) TLS_AES_128_GCM_SHA256 (List.replicate 16 1)
      (List.replicate 16 2) (List.replicate 12 3) (List.replicate 12 4)).run a
    r.1 = none ∧ r.2.clientCipher = .kTLS ∧
      r.2.serverCipher = if (capabilitiesAt 6 1).kTLSSupportRX = true ∧
        (VersionTLS13 = VersionTLS13 → (capabilitiesAt 6 1).kTLSSupportTLS13RX = true)
        then .kTLS else a.serverCipher :=
  @enableKernelTLS_offloads TLS_AES_128_GCM_SHA256 .aesGcm128 VersionTLS13 (by decide) (capabilitiesAt 6 1)
    (by decide) (by decide) (List.replicate 16 1) (List.replicate 16 2) (List.replicate 12 3)
    (List.replicate 12 4) _ rfl ⟨rfl, fun _ => rfl⟩ (by decide) (by decide)

/-- An RX key the suite's test rejects leaves the activation as it was. -/
theorem enableRx_skip (caps : Capabilities) (f : Family) (version : UInt16) {keyOk : Bytes → Bool}
    {ulpEnabled : Bool} {inKey inIV : Bytes} (hk : keyOk inKey = false) {a : Activation} :
    (enableRx caps f keyOk version ulpEnabled inKey inIV).run a = (none, a) := by
  show (if keyOk inKey && a.isTCP then _ else _) = _
  rw [hk, Bool.false_and, if_neg Bool.false_ne_true]

/-- An RX key the suite's test passes but the encoder's check rejects: the
check's error, with the activation as it was. -/
theorem enableRx_of_check (caps : Capabilities) {f : Family} {version : UInt16} {keyOk : Bytes → Bool}
    {ulpEnabled : Bool} {inKey inIV : Bytes} (hk : keyOk inKey = true) {a : Activation}
    (htcp : a.isTCP = true) {e : Error} (hc : f.check version inKey inIV a.inSeq = some e) :
    (enableRx caps f keyOk version ulpEnabled inKey inIV).run a = (some e, a) := by
  show (if keyOk inKey && a.isTCP then _ else _) = _
  rw [if_pos (by rw [hk, htcp]; rfl), onSocket_run, Family.enable_run, hc]

/-- Where ktlsEnableAES and ktlsEnableCHACHA20 differ: with an RX key of the
wrong length, an AES-GCM suite skips RX (ktlsEnableAES tests `len(inKey)`)
and returns nil, while a ChaCha20-Poly1305 suite, which has no such test,
reaches the encoder and returns its length error; either way TX is already
offloaded and RX is not. -/
theorem enableKernelTLS_rx_key_mismatch {id : UInt16} {f : Family} {v : UInt16}
    (hmem : (id, f, v) ∈ kTLSSuites) {caps : Capabilities} (hsup : caps.supports f v = true)
    (htx : caps.kTLSSupportTX = true) (hrx : caps.kTLSSupportRX = true)
    (h13 : v = VersionTLS13 → caps.kTLSSupportTLS13RX = true)
    {inKey outKey inIV outIV : Bytes} {a : Activation} (htcp : a.isTCP = true) (hs : a.sock.Accepting)
    (hout : f.LengthsOk v outKey outIV a.outSeq) (hkey : inKey.length ≠ f.profile.keySize) :
    let r := (enableKernelTLS caps id inKey outKey inIV outIV).run a
    r.2.clientCipher = .kTLS ∧ r.2.serverCipher = a.serverCipher ∧
      r.1 = if f = .chacha20Poly1305 then some (lengthError "key" 32 inKey.length) else none := by
  obtain ⟨n₁, htxr⟩ := enableTx_accepting caps (Family.keyOk_of_lengthsOk hout) htcp hs hout
  have hgate : (!caps.kTLSSupportRX || (v == VersionTLS13 && !caps.kTLSSupportTLS13RX)) = false := by
    by_cases hv : v = VersionTLS13
    · simp [hrx, h13 hv]
    · simp [hrx, hv]
  have hdir : (enableDirections caps f f.keyOk v inKey outKey inIV outIV).run a =
      (enableRx caps f f.keyOk v true inKey inIV).run
        { a with sock := a.sock.after n₁, clientCipher := .kTLS } := by
    show (if !caps.kTLSSupportTX then _ else _) = _
    rw [if_neg (by rw [htx]; decide), htxr]
    dsimp only
    rw [if_neg (by rw [hgate]; decide)]
  rw [enableKernelTLS_of_supports hmem hsup, hdir]
  cases f
  case chacha20Poly1305 =>
    rw [enableRx_of_check caps (f := .chacha20Poly1305) rfl
      (a := { a with sock := a.sock.after n₁, clientCipher := .kTLS }) htcp (chachaCheck_key hkey _ _)]
    exact ⟨rfl, rfl, rfl⟩
  all_goals
    rw [enableRx_skip caps _ _ (by simpa [Family.keyOk] using hkey)]
    exact ⟨rfl, rfl, rfl⟩

/-- ChaCha20-Poly1305 under TLS 1.2 on kernel 6.1, with a 16-byte RX key: TX
offloaded, RX left in software, and the encoder's key-length error returned. -/
theorem enableKernelTLS_rx_key_mismatch_chacha :
    let a : Activation := ⟨true, ⟨false, [], fun _ => none⟩, List.replicate 8 0, List.replicate 8 0,
      .software, .software⟩
    let r := (enableKernelTLS (capabilitiesAt 6 1) TLS_ECDHE_RSA_WITH_CHACHA20_POLY1305_SHA256
      (List.replicate 16 1) (List.replicate 32 2) (List.replicate 12 3) (List.replicate 12 4)).run a
    r.2.clientCipher = .kTLS ∧ r.2.serverCipher = a.serverCipher ∧
      r.1 = if Family.chacha20Poly1305 = .chacha20Poly1305
        then some (lengthError "key" 32 (List.replicate 16 (1 : UInt8)).length) else none :=
  @enableKernelTLS_rx_key_mismatch TLS_ECDHE_RSA_WITH_CHACHA20_POLY1305_SHA256 .chacha20Poly1305
    VersionTLS12 (by decide) (capabilitiesAt 6 1) (by decide) (by decide) (by decide) (by decide)
    (List.replicate 16 1) (List.replicate 32 2) (List.replicate 12 3) (List.replicate 12 4) _ rfl
    ⟨rfl, fun _ => rfl⟩ (by decide) (by decide)

/-! ## The order of the calls on the socket

Whatever the kernel answers, the calls of an activation are a prefix of one
reference sequence: the ULP bind, TX's crypto info and zero-copy option,
RX's crypto info and no-pad option, with TX's part absent when TX was
skipped. -/

theorem ktlsEnableTxZerocopySendfile_calls (caps : Capabilities) {s : Socket} (h : s.closed = false) :
    ((ktlsEnableTxZerocopySendfile caps).run s).2 =
      s.after (if caps.kTLSSupportZEROCOPY then [.int SOL_TLS TLS_TX_ZEROCOPY_RO 1] else []) := by
  unfold ktlsEnableTxZerocopySendfile
  cases caps.kTLSSupportZEROCOPY
  · exact (Socket.after_nil s).symm
  · rw [if_neg (by decide), rawControl_run, h, if_neg Bool.false_ne_true, setsockopt_run]; rfl

theorem ktlsEnableRxExpectNoPad_calls (caps : Capabilities) {s : Socket} (h : s.closed = false) :
    ((ktlsEnableRxExpectNoPad caps).run s).2 =
      s.after (if caps.kTLSSupportNOPAD then [.int SOL_TLS TLS_RX_EXPECT_NO_PAD 1] else []) := by
  unfold ktlsEnableRxExpectNoPad
  cases caps.kTLSSupportNOPAD
  · exact (Socket.after_nil s).symm
  · rw [if_neg (by decide), rawControl_run, h, if_neg Bool.false_ne_true, setsockopt_run]; rfl


/-- The calls of TX after the ULP bind when the kernel accepts them: the
crypto info from the TX key, IV and sequence, then the zero-copy option
where the kernel has it. -/
def txCalls (caps : Capabilities) (f : Family) (version : UInt16) (key iv seq : Bytes) : List SockOpt :=
  .str SOL_TLS TLS_TX (f.blob version key iv seq) ::
    if caps.kTLSSupportZEROCOPY then [.int SOL_TLS TLS_TX_ZEROCOPY_RO 1] else []

/-- The calls of RX after the ULP bind: the crypto info from the RX key, IV
and sequence, then, under TLS 1.3, the no-pad option where the kernel has it. -/
def rxCalls (caps : Capabilities) (f : Family) (version : UInt16) (key iv seq : Bytes) : List SockOpt :=
  .str SOL_TLS TLS_RX (f.blob version key iv seq) ::
    if version = VersionTLS13 ∧ caps.kTLSSupportNOPAD = true then [.int SOL_TLS TLS_RX_EXPECT_NO_PAD 1]
    else []

/-- What TX can do to the activation: offload with every call made, skip
with none, or fail after a prefix of the bind and the crypto-info call; only
the socket and the TX slot change. -/
theorem enableTx_calls (caps : Capabilities) (f : Family) (keyOk : Bytes → Bool) (version : UInt16)
    (outKey outIV : Bytes) (a : Activation) :
    let r := (enableTx caps f keyOk version outKey outIV).run a
    ∃ new, r.2 = { a with sock := a.sock.after new, clientCipher := r.2.clientCipher } ∧
      ((r.1 = (none, true) ∧ new = ulpTls :: txCalls caps f version outKey outIV a.outSeq) ∨
        (r.1 = (none, false) ∧ new = []) ∨
        (∃ e, r.1 = (some e, false) ∧
          new <+: ulpTls :: txCalls caps f version outKey outIV a.outSeq)) := by
  obtain ⟨new, hs, hp, hok⟩ := f.enable_calls version TLS_TX false outKey outIV a.outSeq a.sock
  simp only [StateT.run] at hs hp hok
  simp only [enableTx, StateT.run, onSocket]
  split
  · generalize f.enable version TLS_TX false outKey outIV a.outSeq a.sock = r at hs hp hok
    obtain ⟨_ | e, s⟩ := r <;> dsimp only at hs hok ⊢ <;> subst hs
    · obtain ⟨rfl, hcl⟩ := hok rfl
      have hz := ktlsEnableTxZerocopySendfile_calls caps
        (s := a.sock.after (ulpCalls false ++
          [.str SOL_TLS TLS_TX (f.blob version outKey outIV a.outSeq)])) hcl
      simp only [StateT.run] at hz
      refine ⟨ulpTls :: txCalls caps f version outKey outIV a.outSeq, ?_, .inl ⟨rfl, rfl⟩⟩
      rw [hz, Socket.after_after]
      rfl
    · refine ⟨new, rfl, .inr (.inr ⟨e, rfl, hp.trans ?_⟩)⟩
      exact ⟨_, rfl⟩
  · exact ⟨[], by rw [Socket.after_nil], .inr (.inl ⟨rfl, rfl⟩)⟩


/-- RX makes a prefix of the bind (unless TX made it) and its own calls. -/
theorem enableRx_calls (caps : Capabilities) (f : Family) (keyOk : Bytes → Bool) (version : UInt16)
    (ulpEnabled : Bool) (inKey inIV : Bytes) (a : Activation) :
    ∃ new, ((enableRx caps f keyOk version ulpEnabled inKey inIV).run a).2.sock = a.sock.after new ∧
      new <+: ulpCalls ulpEnabled ++ rxCalls caps f version inKey inIV a.inSeq := by
  have split_rx : ulpCalls ulpEnabled ++ rxCalls caps f version inKey inIV a.inSeq =
      ulpCalls ulpEnabled ++ [.str SOL_TLS TLS_RX (f.blob version inKey inIV a.inSeq)] ++
        (if version = VersionTLS13 ∧ caps.kTLSSupportNOPAD = true then
          [.int SOL_TLS TLS_RX_EXPECT_NO_PAD 1] else []) := List.append_cons _ _ _
  obtain ⟨new, hs, hp, hok⟩ := f.enable_calls version TLS_RX ulpEnabled inKey inIV a.inSeq a.sock
  simp only [StateT.run] at hs hp hok
  simp only [enableRx, StateT.run, onSocket]
  rw [split_rx]
  split
  · generalize f.enable version TLS_RX ulpEnabled inKey inIV a.inSeq a.sock = r at hs hp hok
    obtain ⟨_ | e, s⟩ := r <;> dsimp only at hs hok ⊢ <;> subst hs
    · obtain ⟨rfl, hcl⟩ := hok rfl
      split
      · rename_i hv
        have hn := ktlsEnableRxExpectNoPad_calls caps (s := a.sock.after (ulpCalls ulpEnabled ++
          [.str SOL_TLS TLS_RX (f.blob version inKey inIV a.inSeq)])) hcl
        simp only [StateT.run] at hn
        refine ⟨_, by rw [hn, Socket.after_after], ?_⟩
        cases caps.kTLSSupportNOPAD <;> simp [hv]
      · exact ⟨_, rfl, List.prefix_append _ _⟩
    · exact ⟨new, rfl, hp.trans (List.prefix_append _ _)⟩
  · exact ⟨[], by rw [Socket.after_nil], List.nil_prefix⟩

/-- The shared body makes a prefix of the bind, TX's calls and RX's calls,
or, when TX was skipped, of the bind and RX's calls. -/
theorem enableDirections_calls (caps : Capabilities) (f : Family) (keyOk : Bytes → Bool) (version : UInt16)
    (inKey outKey inIV outIV : Bytes) (a : Activation) :
    ∃ new, ((enableDirections caps f keyOk version inKey outKey inIV outIV).run a).2.sock =
        a.sock.after new ∧
      (new <+: ulpTls :: (txCalls caps f version outKey outIV a.outSeq ++
          rxCalls caps f version inKey inIV a.inSeq) ∨
        new <+: ulpTls :: rxCalls caps f version inKey inIV a.inSeq) := by
  obtain ⟨n₁, h₁, hcase⟩ := enableTx_calls caps f keyOk version outKey outIV a
  simp only [StateT.run] at h₁ hcase
  simp only [enableDirections, StateT.run]
  split
  · exact ⟨[], by rw [Socket.after_nil], .inl List.nil_prefix⟩
  generalize enableTx caps f keyOk version outKey outIV a = r at h₁ hcase
  obtain ⟨r₁, a₁⟩ := r
  dsimp only at h₁ hcase ⊢
  have hs₁ : a₁.sock = a.sock.after n₁ := by rw [h₁]
  have hi₁ : a₁.inSeq = a.inSeq := by rw [h₁]
  rcases hcase with ⟨rfl, rfl⟩ | ⟨rfl, rfl⟩ | ⟨e, rfl, hp⟩
  · dsimp only
    split
    · exact ⟨_, hs₁, .inl ⟨_, rfl⟩⟩
    · obtain ⟨n₂, h₂, hp₂⟩ := enableRx_calls caps f keyOk version true inKey inIV a₁
      simp only [StateT.run] at h₂
      refine ⟨_, by rw [h₂, hs₁, Socket.after_after], .inl ?_⟩
      rw [hi₁] at hp₂
      exact (List.prefix_append_right_inj _).mpr hp₂
  · dsimp only
    split
    · exact ⟨[], hs₁, .inl List.nil_prefix⟩
    · obtain ⟨n₂, h₂, hp₂⟩ := enableRx_calls caps f keyOk version false inKey inIV a₁
      simp only [StateT.run] at h₂
      rw [hi₁] at hp₂
      exact ⟨n₂, by rw [h₂, hs₁, Socket.after_nil], .inr hp₂⟩
  · exact ⟨n₁, hs₁, .inl (hp.trans ⟨_, rfl⟩)⟩

/-- Whatever the capabilities, the suite, the keys and the kernel's answers,
enableKernelTLS makes no call, or, for a case of its switch, a prefix of:
the ULP bind, TX's crypto info and zero-copy option, RX's crypto info and
no-pad option; or, when TX was skipped, of the bind and RX's calls.  So the
ULP bind call is made at most once and before any `SOL_TLS` call (whether
the kernel accepted it or not), each crypto info is built from its own
direction's key, IV and sequence, and each option follows its direction's
crypto info. -/
theorem enableKernelTLS_call_order (caps : Capabilities) (cipherSuiteID : UInt16)
    (inKey outKey inIV outIV : Bytes) (a : Activation) :
    ∃ new, ((enableKernelTLS caps cipherSuiteID inKey outKey inIV outIV).run a).2.sock =
        a.sock.after new ∧
      (new = [] ∨ ∃ f v, (cipherSuiteID, f, v) ∈ kTLSSuites ∧
        (new <+: ulpTls :: (txCalls caps f v outKey outIV a.outSeq ++ rxCalls caps f v inKey inIV a.inSeq) ∨
          new <+: ulpTls :: rxCalls caps f v inKey inIV a.inSeq)) := by
  rcases enableKernelTLS_cases caps cipherSuiteID inKey outKey inIV outIV a with h | ⟨f, v, hm, -, h⟩
  · rw [h]
    exact ⟨[], (Socket.after_nil _).symm, .inl rfl⟩
  · obtain ⟨new, hs, hp⟩ := enableDirections_calls caps f f.keyOk v inKey outKey inIV outIV a
    rw [h]
    exact ⟨new, hs, .inr ⟨f, v, hm, hp⟩⟩

/-! ## A marker needs the flags init sets

Whatever the kernel answers, a run of enableKernelTLS changes a cipher slot
only under that direction's flags; with the flags of `init`, only on a host
whose release, as init parsed it, reaches the direction's threshold. -/

/-- TX leaves the RX slot alone. -/
theorem enableTx_serverCipher (caps : Capabilities) (f : Family) (keyOk : Bytes → Bool) (version : UInt16)
    (outKey outIV : Bytes) (a : Activation) :
    ((enableTx caps f keyOk version outKey outIV).run a).2.serverCipher = a.serverCipher := by
  obtain ⟨new, h, -⟩ := enableTx_calls caps f keyOk version outKey outIV a
  rw [h]

/-- The slots a run of the shared body may change, with the flags each change
needs. -/
structure Gated (caps : Capabilities) (version : UInt16) (a a' : Activation) : Prop where
  tx : a'.clientCipher = a.clientCipher ∨ caps.kTLSSupportTX = true
  rx : a'.serverCipher = a.serverCipher ∨
    caps.kTLSSupportRX = true ∧ (version = VersionTLS13 → caps.kTLSSupportTLS13RX = true)

theorem enableDirections_gated (caps : Capabilities) (f : Family) (keyOk : Bytes → Bool) (version : UInt16)
    (inKey outKey inIV outIV : Bytes) (a : Activation) :
    Gated caps version a ((enableDirections caps f keyOk version inKey outKey inIV outIV).run a).2 := by
  have hs : (enableTx caps f keyOk version outKey outIV a).2.serverCipher = a.serverCipher :=
    enableTx_serverCipher caps f keyOk version outKey outIV a
  simp only [enableDirections, StateT.run]
  split
  · exact ⟨.inl rfl, .inl rfl⟩
  rename_i htx
  have htx : caps.kTLSSupportTX = true := by simpa using htx
  generalize enableTx caps f keyOk version outKey outIV a = r at hs ⊢
  obtain ⟨⟨_ | e, ulpEnabled⟩, a₁⟩ := r
  · dsimp only
    split
    · exact ⟨.inr htx, .inl hs⟩
    · rename_i hrx
      simp only [Bool.or_eq_true, Bool.not_eq_true', Bool.and_eq_true, beq_iff_eq, not_or, not_and,
        Bool.not_eq_false] at hrx
      exact ⟨.inr htx, .inr ⟨hrx.1, hrx.2⟩⟩
  · exact ⟨.inr htx, .inl hs⟩

/-- Whatever the kernel answers, enableKernelTLS changes the TX slot only
under `kTLSSupport` and `kTLSSupportTX`, and the RX slot only under
`kTLSSupport` and `kTLSSupportRX`, and `kTLSSupportTLS13RX` for a TLS 1.3
suite. -/
theorem enableKernelTLS_gated (caps : Capabilities) (cipherSuiteID : UInt16) (inKey outKey inIV outIV : Bytes)
    (a : Activation) :
    let a' := ((enableKernelTLS caps cipherSuiteID inKey outKey inIV outIV).run a).2
    (a'.clientCipher = a.clientCipher ∨ caps.kTLSSupport = true ∧ caps.kTLSSupportTX = true) ∧
    (a'.serverCipher = a.serverCipher ∨ caps.kTLSSupport = true ∧ caps.kTLSSupportRX = true ∧
      (cipherSuiteID = TLS_AES_128_GCM_SHA256 ∨ cipherSuiteID = TLS_AES_256_GCM_SHA384 ∨
        cipherSuiteID = TLS_CHACHA20_POLY1305_SHA256 → caps.kTLSSupportTLS13RX = true)) := by
  rcases enableKernelTLS_cases caps cipherSuiteID inKey outKey inIV outIV a with h | ⟨f, v, hm, hs, h⟩
  · dsimp only
    rw [h]
    exact ⟨.inl rfl, .inl rfl⟩
  · have hk := Capabilities.supports_kTLSSupport hs
    obtain ⟨gtx, grx⟩ := enableDirections_gated caps f f.keyOk v inKey outKey inIV outIV a
    dsimp only
    rw [h]
    exact ⟨gtx.imp_right (⟨hk, ·⟩),
      grx.imp_right fun ⟨hrx, h13⟩ => ⟨hk, hrx, fun hid => h13 (kTLSSuites_tls13 _ hm hid)⟩⟩

/-- On every host, for every suite, key material and kernel answer: after
`init` returns, enableKernelTLS marks TX offloaded only if `uname` gave a
release that parsed as at least 4.13, and RX only if it parsed as at least
4.17, with a major version above 5 for a TLS 1.3 suite. -/
theorem offload_needs_kernel_release {host : Host} {caps : Capabilities} (hinit : init host = .returned caps)
    (cipherSuiteID : UInt16) (inKey outKey inIV outIV : Bytes) (a : Activation) :
    let a' := ((enableKernelTLS caps cipherSuiteID inKey outKey inIV outIV).run a).2
    (a'.clientCipher ≠ a.clientCipher → ∃ u major minor, host.uname = some u ∧
        parseRelease (cutAtNul u.release) = .parsed major minor ∧ VersionLE (4, 13) (major, minor)) ∧
    (a'.serverCipher ≠ a.serverCipher → ∃ u major minor, host.uname = some u ∧
        parseRelease (cutAtNul u.release) = .parsed major minor ∧ VersionLE (4, 17) (major, minor) ∧
        (cipherSuiteID = TLS_AES_128_GCM_SHA256 ∨ cipherSuiteID = TLS_AES_256_GCM_SHA384 ∨
          cipherSuiteID = TLS_CHACHA20_POLY1305_SHA256 → 5 < major)) := by
  obtain ⟨gtx, grx⟩ := enableKernelTLS_gated caps cipherSuiteID inKey outKey inIV outIV a
  rcases init_returned hinit with rfl | rfl | ⟨u, major, minor, hu, hp, rfl⟩
  · exact ⟨fun hne => absurd (gtx.resolve_right fun h => Bool.false_ne_true h.1) hne,
      fun hne => absurd (grx.resolve_right fun h => Bool.false_ne_true h.1) hne⟩
  · exact ⟨fun hne => absurd (gtx.resolve_right fun h => Bool.false_ne_true h.2) hne,
      fun hne => absurd (grx.resolve_right fun h => Bool.false_ne_true h.2.1) hne⟩
  · refine ⟨fun hne => ⟨u, major, minor, hu, hp, versionLE_of_atLeast (gtx.resolve_left hne).2⟩,
      fun hne => ?_⟩
    obtain ⟨-, hrx, h13⟩ := grx.resolve_left hne
    exact ⟨u, major, minor, hu, hp, versionLE_of_atLeast hrx, fun hid => of_decide_eq_true (h13 hid)⟩

/-- Release 5.15.0 with a TLS 1.3 suite. -/
theorem offload_needs_kernel_release_on_5_15 :
    let host : Host := ⟨true, true, some ⟨[53, 46, 49, 53, 46, 48] ++ List.replicate 59 0, by decide⟩⟩
    let a : Activation := ⟨true, ⟨false, [], fun _ => none⟩, List.replicate 8 0, List.replicate 8 0,
      .software, .software⟩
    let a' := ((enableKernelTLS (capabilitiesAt 5 15) TLS_AES_128_GCM_SHA256 (List.replicate 16 1)
      (List.replicate 16 2) (List.replicate 12 3) (List.replicate 12 4)).run a).2
    init host = .returned (capabilitiesAt 5 15) ∧
    (a'.clientCipher ≠ a.clientCipher → ∃ u major minor, host.uname = some u ∧
        parseRelease (cutAtNul u.release) = .parsed major minor ∧ VersionLE (4, 13) (major, minor)) ∧
    (a'.serverCipher ≠ a.serverCipher → ∃ u major minor, host.uname = some u ∧
        parseRelease (cutAtNul u.release) = .parsed major minor ∧ VersionLE (4, 17) (major, minor) ∧
        (TLS_AES_128_GCM_SHA256 = TLS_AES_128_GCM_SHA256 ∨
          TLS_AES_128_GCM_SHA256 = TLS_AES_256_GCM_SHA384 ∨
          TLS_AES_128_GCM_SHA256 = TLS_CHACHA20_POLY1305_SHA256 → 5 < major)) :=
  ⟨by decide, @offload_needs_kernel_release
    ⟨true, true, some ⟨[53, 46, 49, 53, 46, 48] ++ List.replicate 59 0, by decide⟩⟩
    (capabilitiesAt 5 15)
    (by decide) TLS_AES_128_GCM_SHA256 (List.replicate 16 1) (List.replicate 16 2) (List.replicate 12 3)
    (List.replicate 12 4) ⟨true, ⟨false, [], fun _ => none⟩, List.replicate 8 0, List.replicate 8 0,
      .software, .software⟩⟩

end GoKtls
