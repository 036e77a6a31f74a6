import GoKtls.Basic

/-! # The capability matrix probed by `init`

`init` (ktls_linux.go:59-142) reads the kernel release from `uname`, cuts
it into a major and a minor numeral with `strings.Index`,
`strings.TrimLeft` and `strconv.Atoi`, and compares the two numbers with
the threshold table `capabilitiesAt`, which is monotone in the
(major, minor) order (`capabilitiesAt_mono`).

`strings.TrimLeft` takes a cutset, not a prefix: with the cutset
`majorRelease + "."` it strips every leading byte that is a digit of the
major numeral or a dot, so the minor numeral survives only when its first
digit does not occur in the major one (`parseRelease_standard`).
Otherwise the minor numeral is cut short or vanishes, and on every
release `d.d.p` whose patch part has no further dot (`6.6.0`, `4.4.0-210`)
the second slice expression panics (`parseRelease_repeated_major`).
`init_standard_release` and `init_panics_on_repeated_major` carry the two
to `init` on a NUL-padded `uname` release field.

Whatever the host, the flags `init` leaves when it returns satisfy the
implications the nested thresholds make hold (`init_consistent`). -/
set_option autoImplicit false
namespace GoKtls

/-- The process-wide flags of ktls_linux.go:33-57. -/
structure Capabilities where
  kTLSSupport : Bool := false
  kTLSSupportTX : Bool := false
  kTLSSupportRX : Bool := false
  kTLSSupportAESGCM128 : Bool := false
  kTLSSupportAESGCM256 : Bool := false
  kTLSSupportCHACHA20POLY1305 : Bool := false
  kTLSSupportTLS13TX : Bool := false
  kTLSSupportTLS13RX : Bool := false
  kTLSSupportZEROCOPY : Bool := false
  kTLSSupportNOPAD : Bool := false
  deriving DecidableEq, Repr

namespace Strings

/-- Offset of the first occurrence of `sep`. -/
def find? (sep : Bytes) : Bytes → Option Nat
  | [] => if sep.isEmpty then some 0 else none
  | b :: s => if sep.isPrefixOf (b :: s) then some 0 else (find? sep s).map (· + 1)

/-- `strings.Index`: the byte offset of the first `sep` in `s`, or `-1`. -/
def index (s sep : Bytes) : Int :=
  match find? sep s with
  | some i => i
  | none => -1

/-- `strings.TrimLeft(s, cutset)` on Go's byte path (`trimLeftByte`,
`trimLeftASCII`), taken for every cutset of bytes below `0x80`.  A cutset
with a byte `≥ 0x80` is trimmed rune by rune in Go (`trimLeftUnicode`);
that path is not modelled and gives `none`. -/
def trimLeft (s cutset : Bytes) : Option Bytes :=
  if cutset.all (·.toNat < 0x80) then some (s.dropWhile cutset.contains) else none

end Strings

namespace Strconv

def isDigit (b : UInt8) : Bool := 48 ≤ b.toNat && b.toNat ≤ 57

/-- The value of a string of decimal digits. -/
def digitsValue (ds : Bytes) : Nat := ds.foldl (fun n d => n * 10 + (d.toNat - 48)) 0

/-- `strconv.Atoi` on a 64-bit `int`: an optional sign, then a non-empty run
of decimal digits, with a range error outside `[-2^63, 2^63)`.  Both of
Go's paths (the short fast path and `ParseInt`) accept exactly these. -/
def atoi (s : Bytes) : Option Int :=
  let digits := if s.head? = some 45 ∨ s.head? = some 43 then s.drop 1 else s
  if digits = [] ∨ ¬ digits.all isDigit then none
  else
    let v : Int := if s.head? = some 45 then -(digitsValue digits : Int) else digitsValue digits
    if -2 ^ 63 ≤ v ∧ v < 2 ^ 63 then some v else none

end Strconv

/-- How the release parsing of `init` ends. -/
inductive ReleaseParse where
  /-- A slice expression was out of range: Go panics inside `init`. -/
  | panicked
  /-- `strings.TrimLeft` got a non-ASCII cutset (not modelled). -/
  | runeCutset
  /-- `strconv.Atoi` failed; `init` returns. -/
  | failed
  | parsed (major minor : Int)
  deriving DecidableEq, Repr

/-- ktls_linux.go:79-86: the release string up to its first NUL byte. -/
def cutAtNul (field : Bytes) : Bytes :=
  let i := Strings.index field [0]
  if i ≠ -1 then field.take i.toNat else field

/-- ktls_linux.go:87-99 on the NUL-free release string. -/
def parseRelease (release : Bytes) : ReleaseParse :=
  match sliceTo release (Strings.index release [46]) with
  | none => .panicked
  | some majorRelease =>
    match Strings.trimLeft release (majorRelease ++ [46]) with
    | none => .runeCutset
    | some minorRelease =>
      match sliceTo minorRelease (Strings.index minorRelease [46]) with
      | none => .panicked
      | some minorRelease =>
        match Strconv.atoi majorRelease with
        | none => .failed
        | some major =>
          match Strconv.atoi minorRelease with
          | none => .failed
          | some minor => .parsed major minor

/-- One threshold of ktls_linux.go:103-123: `(major == M && minor >= m) || major > M`. -/
def atLeast (major minor M m : Int) : Bool := (major == M && decide (m ≤ minor)) || decide (M < major)

/-- ktls_linux.go:103-128. -/
def capabilitiesAt (major minor : Int) : Capabilities where
  kTLSSupport := true
  kTLSSupportTX := atLeast major minor 4 13
  kTLSSupportAESGCM128 := atLeast major minor 4 13
  kTLSSupportRX := atLeast major minor 4 17
  kTLSSupportAESGCM256 := atLeast major minor 5 1
  kTLSSupportTLS13TX := atLeast major minor 5 1
  kTLSSupportCHACHA20POLY1305 := atLeast major minor 5 11
  kTLSSupportZEROCOPY := atLeast major minor 5 19
  kTLSSupportTLS13RX := decide (5 < major)
  kTLSSupportNOPAD := decide (5 < major)

/-- What `init` reads from the host. -/
structure Utsname where
  release : Bytes
  release_length : release.length = 65

structure Host where
  /-- `os.Stat("/sys/module/tls")` succeeds. -/
  tlsModule : Bool
  /-- `kTLSEnabled` of ktls.go. -/
  kTLSEnabled : Bool
  /-- `none` when `unix.Uname` fails. -/
  uname : Option Utsname

inductive InitOutcome where
  | panicked
  | runeCutset
  | returned (caps : Capabilities)
  deriving DecidableEq, Repr

/-- `init` of ktls_linux.go: every early return leaves the flags set so far. -/
def init (host : Host) : InitOutcome :=
  if !host.tlsModule then .returned {}
  else
    let kTLSSupport := true && host.kTLSEnabled
    if !kTLSSupport then .returned {}
    else
      match host.uname with
      | none => .returned { kTLSSupport := true }
      | some u =>
        match parseRelease (cutAtNul u.release) with
        | .panicked => .panicked
        | .runeCutset => .runeCutset
        | .failed => .returned { kTLSSupport := true }
        | .parsed major minor => .returned (capabilitiesAt major minor)

/-! ## Monotonicity of the threshold table -/

/-- The (major, minor) order of kernel releases. -/
def VersionLE (a b : Int × Int) : Prop := a.1 < b.1 ∨ (a.1 = b.1 ∧ a.2 ≤ b.2)

/-- Every flag set in `c` is set in `d`. -/
def Capabilities.Le (c d : Capabilities) : Prop :=
  (c.kTLSSupport → d.kTLSSupport) ∧ (c.kTLSSupportTX → d.kTLSSupportTX) ∧
  (c.kTLSSupportRX → d.kTLSSupportRX) ∧ (c.kTLSSupportAESGCM128 → d.kTLSSupportAESGCM128) ∧
  (c.kTLSSupportAESGCM256 → d.kTLSSupportAESGCM256) ∧
  (c.kTLSSupportCHACHA20POLY1305 → d.kTLSSupportCHACHA20POLY1305) ∧
  (c.kTLSSupportTLS13TX → d.kTLSSupportTLS13TX) ∧ (c.kTLSSupportTLS13RX → d.kTLSSupportTLS13RX) ∧
  (c.kTLSSupportZEROCOPY → d.kTLSSupportZEROCOPY) ∧ (c.kTLSSupportNOPAD → d.kTLSSupportNOPAD)

theorem atLeast_mono {a b : Int × Int} (h : VersionLE a b) (M m : Int)
    (ha : atLeast a.1 a.2 M m = true) : atLeast b.1 b.2 M m = true := by
  simp only [atLeast, Bool.or_eq_true, Bool.and_eq_true, beq_iff_eq, decide_eq_true_eq] at ha ⊢
  unfold VersionLE at h
  omega

theorem capabilitiesAt_mono {a b : Int × Int} (h : VersionLE a b) :
    (capabilitiesAt a.1 a.2).Le (capabilitiesAt b.1 b.2) := by
  have major : 5 < a.1 → 5 < b.1 := by unfold VersionLE at h; omega
  simp only [Capabilities.Le, capabilitiesAt, decide_eq_true_eq]
  exact ⟨id, atLeast_mono h 4 13, atLeast_mono h 4 17, atLeast_mono h 4 13, atLeast_mono h 5 1,
    atLeast_mono h 5 11, atLeast_mono h 5 1, major, atLeast_mono h 5 19, major⟩

/-- From release 5.15 to 6.1. -/
theorem capabilitiesAt_mono_5_15_to_6_1 :
    VersionLE (5, 15) (6, 1) ∧ (capabilitiesAt 5 15).Le (capabilitiesAt 6 1) :=
  have h : VersionLE (5, 15) (6, 1) := by unfold VersionLE; decide
  ⟨h, capabilitiesAt_mono h⟩

/-! ## The flags init leaves are consistent -/

/-- The implications between the flags that hold after every `init` that
returns: each flag's release threshold lies at or above those of the flags
it implies, and two flags share each of three thresholds. -/
structure Capabilities.Consistent (c : Capabilities) : Prop where
  tx_aes128 : c.kTLSSupportTX = c.kTLSSupportAESGCM128
  support_of_tx : c.kTLSSupportTX = true → c.kTLSSupport = true
  tx_of_rx : c.kTLSSupportRX = true → c.kTLSSupportTX = true
  aes256_tls13tx : c.kTLSSupportAESGCM256 = c.kTLSSupportTLS13TX
  rx_of_aes256 : c.kTLSSupportAESGCM256 = true → c.kTLSSupportRX = true
  aes256_of_chacha : c.kTLSSupportCHACHA20POLY1305 = true → c.kTLSSupportAESGCM256 = true
  chacha_of_zerocopy : c.kTLSSupportZEROCOPY = true → c.kTLSSupportCHACHA20POLY1305 = true
  tls13rx_nopad : c.kTLSSupportTLS13RX = c.kTLSSupportNOPAD
  zerocopy_of_tls13rx : c.kTLSSupportTLS13RX = true → c.kTLSSupportZEROCOPY = true

/-- A threshold passed is passed for every lower threshold. -/
theorem atLeast_of_le {major minor M m M' m' : Int} (h : VersionLE (M', m') (M, m))
    (ha : atLeast major minor M m = true) : atLeast major minor M' m' = true := by
  simp only [atLeast, Bool.or_eq_true, Bool.and_eq_true, beq_iff_eq, decide_eq_true_eq] at ha ⊢
  unfold VersionLE at h
  omega

/-- A threshold passed: the release is at or above it. -/
theorem versionLE_of_atLeast {major minor M m : Int} (h : atLeast major minor M m = true) :
    VersionLE (M, m) (major, minor) := by
  simp only [atLeast, Bool.or_eq_true, Bool.and_eq_true, beq_iff_eq, decide_eq_true_eq] at h
  unfold VersionLE
  omega

theorem capabilitiesAt_consistent (major minor : Int) : (capabilitiesAt major minor).Consistent where
  tx_aes128 := rfl
  support_of_tx _ := rfl
  tx_of_rx := atLeast_of_le (.inr ⟨rfl, by decide⟩)
  aes256_tls13tx := rfl
  rx_of_aes256 := atLeast_of_le (.inl (by decide))
  aes256_of_chacha := atLeast_of_le (.inr ⟨rfl, by decide⟩)
  chacha_of_zerocopy := atLeast_of_le (.inr ⟨rfl, by decide⟩)
  tls13rx_nopad := rfl
  zerocopy_of_tls13rx h := by
    simp only [capabilitiesAt, atLeast, decide_eq_true_eq, Bool.or_eq_true] at h ⊢
    exact .inr h

/-- What `init` can leave when it returns: no flag, `kTLSSupport` alone
(`uname` or `Atoi` failed), or the table at the parsed release. -/
theorem init_returned {host : Host} {caps : Capabilities} (h : init host = .returned caps) :
    caps = {} ∨ caps = { kTLSSupport := true } ∨ ∃ u major minor, host.uname = some u ∧
      parseRelease (cutAtNul u.release) = .parsed major minor ∧ caps = capabilitiesAt major minor := by
  simp only [init] at h
  split_ifs at h
  · exact .inl (InitOutcome.returned.inj h).symm
  · exact .inl (InitOutcome.returned.inj h).symm
  split at h
  · exact .inr (.inl (InitOutcome.returned.inj h).symm)
  rename_i u _
  split at h <;> try cases h
  · exact .inr (.inl rfl)
  · exact .inr (.inr ⟨u, _, _, ‹_›, ‹_›, rfl⟩)

/-- Whatever the host, the flags `init` leaves when it returns are
consistent: RX only with TX, AES-256-GCM exactly with TLS 1.3 TX and only
with RX, ChaCha20-Poly1305 only with AES-256-GCM, zero-copy sendfile only
with ChaCha20-Poly1305, TLS 1.3 RX exactly with no-pad and only with
zero-copy sendfile. -/
theorem init_consistent {host : Host} {caps : Capabilities} (h : init host = .returned caps) :
    caps.Consistent := by
  rcases init_returned h with rfl | rfl | ⟨u, major, minor, -, -, rfl⟩
  · exact ⟨rfl, nofun, nofun, rfl, nofun, nofun, nofun, rfl, nofun⟩
  · exact ⟨rfl, nofun, nofun, rfl, nofun, nofun, nofun, rfl, nofun⟩
  · exact capabilitiesAt_consistent major minor

/-- Release 5.15.0. -/
theorem init_consistent_on_5_15 :
    init ⟨true, true, some ⟨[53, 46, 49, 53, 46, 48] ++ List.replicate 59 0, by decide⟩⟩ =
      .returned (capabilitiesAt 5 15) ∧ (capabilitiesAt 5 15).Consistent :=
  ⟨by decide, @init_consistent
    ⟨true, true, some ⟨[53, 46, 49, 53, 46, 48] ++ List.replicate 59 0, by decide⟩⟩
    (capabilitiesAt 5 15) (by decide)⟩

/-! ## Index, TrimLeft and Atoi on release strings -/

namespace Strings

theorem find?_single (b : UInt8) (ys : Bytes) :
    ∀ xs : Bytes, b ∉ xs → find? [b] (xs ++ b :: ys) = some xs.length := by
  intro xs
  induction xs with
  | nil => intro _; simp [find?, List.isPrefixOf]
  | cons x xs ih =>
    intro hx
    have hne : b ≠ x := fun e => hx (e ▸ List.mem_cons_self _ _)
    simp [find?, List.isPrefixOf, hne, ih (fun h => hx (List.mem_cons_of_mem _ h))]

theorem find?_single_none (b : UInt8) : ∀ xs : Bytes, b ∉ xs → find? [b] xs = none := by
  intro xs
  induction xs with
  | nil => intro _; simp [find?]
  | cons x xs ih =>
    intro hx
    have hne : b ≠ x := fun e => hx (e ▸ List.mem_cons_self _ _)
    simp [find?, List.isPrefixOf, hne, ih (fun h => hx (List.mem_cons_of_mem _ h))]

theorem index_single (b : UInt8) (xs ys : Bytes) (h : b ∉ xs) :
    index (xs ++ b :: ys) [b] = xs.length := by
  simp [index, find?_single b ys xs h]

theorem index_single_none (b : UInt8) (xs : Bytes) (h : b ∉ xs) : index xs [b] = -1 := by
  simp [index, find?_single_none b xs h]

end Strings

theorem sliceTo_append (xs ys : Bytes) : sliceTo (xs ++ ys) xs.length = some xs := by
  rw [sliceTo, if_pos ⟨Int.ofNat_nonneg _, by simp only [List.length_append]; omega⟩]
  simp

theorem sliceTo_neg_one (s : Bytes) : sliceTo s (-1) = none := by simp [sliceTo]

namespace Strconv

theorem ne_of_isDigit {b c : UInt8} (hb : isDigit b = true) (hc : isDigit c = false) : b ≠ c := by
  rintro rfl; simp_all

theorem not_mem_of_all_isDigit (c : UInt8) (hc : isDigit c = false) {ds : Bytes}
    (h : ds.all isDigit = true) : c ∉ ds := fun hm => by
  simp only [List.all_eq_true] at h
  simp_all

theorem atoi_digits (ds : Bytes) (hne : ds ≠ []) (hd : ds.all isDigit = true)
    (hv : digitsValue ds < 2 ^ 63) : atoi ds = some ((digitsValue ds : Nat) : Int) := by
  obtain ⟨d, t, rfl⟩ := List.exists_cons_of_ne_nil hne
  have hdd : isDigit d = true := by simp_all
  have h45 : d ≠ 45 := ne_of_isDigit hdd (by decide)
  have h43 : d ≠ 43 := ne_of_isDigit hdd (by decide)
  simp [atoi, h45, h43, hd]
  omega

end Strconv

theorem cutAtNul_append (release pad : Bytes) (h : (0 : UInt8) ∉ release) :
    cutAtNul (release ++ 0 :: pad) = release := by
  simp [cutAtNul, Strings.index_single 0 release pad h]

theorem trimLeft_digits (M m rest : Bytes) (hM : M.all Strconv.isDigit = true)
    (hm : m ≠ [] ∧ m.all Strconv.isDigit = true) (hhead : ∀ d ∈ m.head?, d ∉ M) :
    Strings.trimLeft (M ++ 46 :: (m ++ rest)) (M ++ [46]) = some (m ++ rest) := by
  obtain ⟨d, t, rfl⟩ := List.exists_cons_of_ne_nil hm.1
  have hd : Strconv.isDigit d = true := by simp_all
  have hascii : (M ++ [46]).all (·.toNat < 0x80) = true := by
    simp only [List.all_append, List.all_cons, List.all_nil, Bool.and_true, Bool.and_eq_true,
      List.all_eq_true, decide_eq_true_eq] at hM ⊢
    refine ⟨fun b hb => ?_, by decide⟩
    have := hM b hb
    simp only [Strconv.isDigit, Bool.and_eq_true, decide_eq_true_eq] at this
    omega
  have hdrop : (M ++ 46 :: (d :: t ++ rest)).dropWhile (M ++ [46]).contains = d :: t ++ rest := by
    rw [show M ++ 46 :: (d :: t ++ rest) = (M ++ [46]) ++ (d :: t ++ rest) by simp,
      List.dropWhile_append_of_pos (by simp)]
    have hd46 : d ≠ 46 := Strconv.ne_of_isDigit hd (by decide)
    simp [List.dropWhile_cons, hd46, hhead d rfl]
  rw [Strings.trimLeft, if_pos hascii, hdrop]

/-- The parse is right on a release `M.m.rest` whose minor numeral does not
start with a digit of the major one. -/
theorem parseRelease_standard (M m rest : Bytes)
    (hM : M ≠ [] ∧ M.all Strconv.isDigit = true) (hm : m ≠ [] ∧ m.all Strconv.isDigit = true)
    (hbound : Strconv.digitsValue M < 2 ^ 63 ∧ Strconv.digitsValue m < 2 ^ 63)
    (hhead : ∀ d ∈ m.head?, d ∉ M) :
    parseRelease (M ++ 46 :: (m ++ 46 :: rest)) =
      .parsed (Strconv.digitsValue M) (Strconv.digitsValue m) := by
  have dotM : (46 : UInt8) ∉ M := Strconv.not_mem_of_all_isDigit 46 (by decide) hM.2
  have dotm : (46 : UInt8) ∉ m := Strconv.not_mem_of_all_isDigit 46 (by decide) hm.2
  simp only [parseRelease, Strings.index_single 46 _ _ dotM, sliceTo_append,
    trimLeft_digits M m (46 :: rest) hM.2 hm hhead, Strings.index_single 46 _ _ dotm,
    Strconv.atoi_digits M hM.1 hM.2 hbound.1, Strconv.atoi_digits m hm.1 hm.2 hbound.2]

/-- On a host with the `tls` module and kTLS enabled, whose `uname` release
is `M.m.rest` and then NUL padding, with a minor numeral that does not start
with a digit of the major one, `init` sets the flags of the threshold table
at release `(M, m)`. -/
theorem init_standard_release (M m rest pad : Bytes)
    (hM : M ≠ [] ∧ M.all Strconv.isDigit = true) (hm : m ≠ [] ∧ m.all Strconv.isDigit = true)
    (hbound : Strconv.digitsValue M < 2 ^ 63 ∧ Strconv.digitsValue m < 2 ^ 63)
    (hhead : ∀ d ∈ m.head?, d ∉ M) (hrest : (0 : UInt8) ∉ rest) (u : Utsname)
    (hu : u.release = M ++ 46 :: (m ++ 46 :: rest) ++ 0 :: pad) :
    init ⟨true, true, some u⟩ =
      .returned (capabilitiesAt (Strconv.digitsValue M) (Strconv.digitsValue m)) := by
  have hnul : (0 : UInt8) ∉ M ++ 46 :: (m ++ 46 :: rest) := by
    simp only [List.mem_append, List.mem_cons, not_or]
    exact ⟨Strconv.not_mem_of_all_isDigit 0 (by decide) hM.2, by decide,
      Strconv.not_mem_of_all_isDigit 0 (by decide) hm.2, by decide, hrest⟩
  simp only [init, hu, cutAtNul_append _ _ hnul, parseRelease_standard M m rest hM hm hbound hhead]
  rfl

/-- Release 6.1.0. -/
theorem init_on_release_6_1_0 :
    init ⟨true, true, some ⟨[54, 46, 49, 46, 48] ++ 0 :: List.replicate 59 0, by decide⟩⟩ =
      .returned (capabilitiesAt (Strconv.digitsValue [54]) (Strconv.digitsValue [49])) :=
  init_standard_release [54] [49] [48] (List.replicate 59 0) (by decide) (by decide) (by decide)
    (by decide) (by decide) _ rfl

/-- On a release `d.d.p` with no dot in `p`, `strings.TrimLeft` strips the
minor numeral with the major one and the second slice expression panics. -/
theorem parseRelease_repeated_major (d : UInt8) (p : Bytes) (hd : Strconv.isDigit d = true)
    (hp : (46 : UInt8) ∉ p) : parseRelease ([d, 46, d, 46] ++ p) = .panicked := by
  have d46 : d ≠ 46 := Strconv.ne_of_isDigit hd (by decide)
  have hascii : ([d] ++ [46]).all (·.toNat < 0x80) = true := by
    simp only [Strconv.isDigit, Bool.and_eq_true, decide_eq_true_eq] at hd
    simp only [List.singleton_append, List.all_cons, List.all_nil, Bool.and_true, Bool.and_eq_true,
      decide_eq_true_eq]
    exact ⟨by omega, by decide⟩
  have dots : (46 : UInt8) ∉ ([d] ++ 46 :: d :: 46 :: p).dropWhile ([d] ++ [46]).contains := fun h =>
    hp ((List.dropWhile_suffix _).subset (by simpa [List.dropWhile_cons, d46] using h))
  rw [parseRelease, show [d, 46, d, 46] ++ p = [d] ++ 46 :: (d :: 46 :: p) from rfl,
    Strings.index_single 46 _ _ (by simp [d46.symm])]
  simp only [sliceTo_append, Strings.trimLeft, if_pos hascii, Strings.index_single_none 46 _ dots,
    sliceTo_neg_one]

/-- On a host with the `tls` module and kTLS enabled, `init` panics on every
release `d.d.p` whose patch part has no dot. -/
theorem init_panics_on_repeated_major (d : UInt8) (p pad : Bytes) (hd : Strconv.isDigit d = true)
    (hp : (46 : UInt8) ∉ p) (hrest : (0 : UInt8) ∉ p) (u : Utsname)
    (hu : u.release = [d, 46, d, 46] ++ p ++ 0 :: pad) : init ⟨true, true, some u⟩ = .panicked := by
  have hnul : (0 : UInt8) ∉ [d, 46, d, 46] ++ p := by
    have d0 : d ≠ 0 := Strconv.ne_of_isDigit hd (by decide)
    simp only [List.mem_append, List.mem_cons, List.mem_singleton, not_or, List.not_mem_nil]
    exact ⟨⟨d0.symm, by decide, d0.symm, by decide, not_false⟩, hrest⟩
  simp only [init, hu, cutAtNul_append _ _ hnul, parseRelease_repeated_major d p hd hp]
  rfl

/-- Release 5.5.10. -/
theorem init_panics_on_release_5_5_10 :
    init ⟨true, true, some ⟨[53, 46, 53, 46, 49, 48] ++ 0 :: List.replicate 58 0, by decide⟩⟩ =
      .panicked :=
  init_panics_on_repeated_major 53 [49, 48] (List.replicate 58 0) (by decide) (by decide) (by decide)
    _ rfl

theorem init_panics_on_release_6_6_0 :
    init ⟨true, true, some ⟨[54, 46, 54, 46, 48] ++ List.replicate 60 0, by decide⟩⟩ = .panicked := by
  decide

end GoKtls
