import GoKtls.Activation
import GoKtls.SpliceSchedule
import GoKtls.MappedFile

/-! # The connection's data paths

`ReadFrom` (ktls_linux.go:144-149) copies its source to the raw socket
`c.conn`, and `WriteTo` (lines 298-326) offers a `*LimitedWriter` over an
`*os.File` to `spliceToFile` on `c.conn`, then falls back to
`io.Copy(w, c.conn)`.  Neither looks at the ciphers.  After
`enableKernelTLS` on a host without the `tls` module no direction is
offloaded, and `ReadFrom` still writes its plaintext to the socket
(`readFrom_bypasses_record_layer`).

The two file strategies agree on what a successful transfer writes and
returns, but only `spliceToFile` moves the file's offset
(`transfers_agree_but_for_offset`). -/
set_option autoImplicit false
namespace GoKtls

/-- What the data paths of a `Conn` read and change: the record layer's two
ciphers, the bytes written to `c.conn` and those waiting on it. -/
structure Conn where
  /-- `c.out.cipher`. -/
  outCipher : Cipher
  /-- `c.in.cipher`. -/
  inCipher : Cipher
  rawOut : Bytes
  rawIn : Bytes
  deriving DecidableEq, Repr

/-- The connection once the handshake has installed the ciphers an
activation left: `*clientCipher` is the TX slot, `*serverCipher` the RX one. -/
def Activation.conn (a : Activation) (rawIn : Bytes) : Conn :=
  ⟨a.clientCipher, a.serverCipher, [], rawIn⟩

/-- ktls_linux.go:328-331. -/
def Conn.isKTLSTXEnabled (c : Conn) : Bool := c.outCipher == .kTLS

/-- ktls_linux.go:333-336. -/
def Conn.isKTLSRXEnabled (c : Conn) : Bool := c.inCipher == .kTLS

/-- ktls_linux.go:144-149: after the handshake, `io.Copy(c.conn, r)`. -/
def Conn.readFrom (c : Conn) (handshakeErr : Option Error) (r : Bytes) : (Int × Option Error) × Conn :=
  match handshakeErr with
  | some e => ((0, some e), c)
  | none => ((r.length, none), { c with rawOut := c.rawOut ++ r })

/-- The writers `WriteTo` tells apart. -/
inductive Writer where
  /-- A `*LimitedWriter` whose `W` is an `*os.File`, with `N` bytes left. -/
  | limitedFile (n : Int) (file : FileState)
  | other

/-- What reached the writer. -/
inductive Delivery where
  /-- `spliceToFile` handled the transfer. -/
  | spliced (t : Transfer)
  /-- `io.Copy(w, c.conn)` gave `w` these bytes. -/
  | copied (data : Bytes)

/-- ktls_linux.go:298-326, with the splice run given `fuel` steps: `ready`
and `env` are `spliceToFile`'s. -/
def Conn.writeTo (c : Conn) (handshakeErr : Option Error) (ready : Bool) (env : SpliceEnv)
    (fuel : Nat) (w : Writer) : Option ((Int × Option Error) × Delivery) :=
  match handshakeErr with
  | some e => some ((0, some e), .copied [])
  | none =>
    let copy := some (((c.rawIn.length : Int), none), .copied c.rawIn)
    match w with
    | .limitedFile n file =>
      (spliceToFile ready env n c.rawIn file fuel).bind fun t =>
        if t.handled then some ((t.written, t.err), .spliced t) else copy
    | .other => copy

/-- On a host without the `tls` module, whatever the suite, keys and socket,
activation returns no error and offloads nothing; `ReadFrom` then writes its
plaintext source straight to `c.conn`, and `WriteTo` hands the writer the
socket's bytes (the peer's records) as data. -/
theorem readFrom_bypasses_record_layer (isTCP : Bool) (sock : Socket) (outSeq inSeq : Bytes)
    (cipherSuiteID : UInt16) (inKey outKey inIV outIV rawIn src : Bytes) :
    let r := (enableKernelTLS {} cipherSuiteID inKey outKey inIV outIV).run
      ⟨isTCP, sock, outSeq, inSeq, .software, .software⟩
    r.1 = none ∧ (r.2.conn rawIn).isKTLSTXEnabled = false ∧
      ((r.2.conn rawIn).readFrom none src).2.rawOut = src ∧
      (r.2.conn rawIn).isKTLSRXEnabled = false ∧
      (r.2.conn rawIn).writeTo none true alwaysReady 0 .other =
        some (((rawIn.length : Int), none), .copied rawIn) := by
  simp [enableKernelTLS, StateT.run, Activation.conn, Conn.isKTLSTXEnabled, Conn.isKTLSRXEnabled,
    Conn.readFrom, Conn.writeTo]

/-! ## The two file strategies -/

/-- When no socket splice would block, two transfers of `remain` bytes that
both succeed return `remain`, leave `S[remain:]` unread and leave the same
content, `S[0:remain]` written at the offset, but `spliceToFile` moves the
file's offset past them and `writeToFile` does not. -/
theorem transfers_agree_but_for_offset {env : SpliceEnv} (hsock : ∀ i, env.sock i ≠ .errno EAGAIN)
    {calls : FileCalls} {reads : Nat → ReadAnswer} {remain : Int} {S : Bytes} {file : FileState}
    {fuel₁ fuel₂ : Nat} {t₁ t₂ : Transfer}
    (h₁ : spliceToFile true env remain S file fuel₁ = some t₁) (he₁ : t₁.err = none)
    (h₂ : writeToFile calls reads remain S file fuel₂ = some (.returned t₂))
    (hh₂ : t₂.handled = true) (he₂ : t₂.err = none) :
    t₁.written = remain ∧ t₂.written = remain ∧
      t₁.unread = S.drop remain.toNat ∧ t₂.unread = S.drop remain.toNat ∧
      t₁.file.content = writeAt file.content file.pos (S.take remain.toNat) ∧
      t₂.file.content = writeAt file.content file.pos (S.take remain.toNat) ∧
      t₁.file.pos = file.pos + remain.toNat ∧ t₂.file.pos = file.pos := by
  obtain ⟨rfl, hr, h64, hS⟩ := writeToFile_ok h₂ hh₂ he₂
  obtain ⟨rfl, -⟩ := spliceToFile_ok hsock hr h64 S file h₁ he₁
  refine ⟨rfl, rfl, rfl, rfl, rfl, rfl, ?_, rfl⟩
  simp only [FileState.write, List.length_take]
  omega

/-- Two bytes of a ready stream into an empty file. -/
theorem transfers_agree_on_two_bytes :
    let t₁ : Transfer := ⟨2, none, true, ⟨[7, 8], 2⟩, []⟩
    let t₂ : Transfer := ⟨2, none, true, ⟨[7, 8], 0⟩, []⟩
    spliceToFile true alwaysReady 2 [7, 8] ⟨[], 0⟩ 5 = some t₁ ∧
      writeToFile ⟨none, none, none, none⟩ (fun _ => .ok 4194304) 2 [7, 8] ⟨[], 0⟩ 1 =
        some (.returned t₂) ∧
      (t₁.written = 2 ∧ t₂.written = 2 ∧
        t₁.unread = [7, 8].drop (2 : Int).toNat ∧ t₂.unread = [7, 8].drop (2 : Int).toNat ∧
        t₁.file.content = writeAt [] 0 ([7, 8].take (2 : Int).toNat) ∧
        t₂.file.content = writeAt [] 0 ([7, 8].take (2 : Int).toNat) ∧
        t₁.file.pos = 0 + (2 : Int).toNat ∧ t₂.file.pos = 0) := by
  intro t₁ t₂
  have h₁ : spliceToFile true alwaysReady 2 [7, 8] ⟨[], 0⟩ 5 = some t₁ := by decide
  have h₂ : writeToFile ⟨none, none, none, none⟩ (fun _ => .ok 4194304) 2 [7, 8] ⟨[], 0⟩ 1 =
      some (.returned t₂) := by decide
  exact ⟨h₁, h₂, transfers_agree_but_for_offset (fun _ => by simp [alwaysReady]) h₁ rfl h₂ rfl rfl⟩

/-- Two bytes into an empty file: both strategies succeed with the same
content, but the offsets end at 2 and at 0. -/
theorem transfers_leave_different_offsets :
    spliceToFile true alwaysReady 2 [7, 8] ⟨[], 0⟩ 5 = some ⟨2, none, true, ⟨[7, 8], 2⟩, []⟩ ∧
    writeToFile ⟨none, none, none, none⟩ (fun _ => .ok 4194304) 2 [7, 8] ⟨[], 0⟩ 1 =
      some (.returned ⟨2, none, true, ⟨[7, 8], 0⟩, []⟩) := by
  decide

end GoKtls
