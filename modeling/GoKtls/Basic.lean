import Mathlib

/-! # Go-level vocabulary of the kTLS package

Byte strings, the error values the package produces or forwards, Go's slice
expressions and `copy`, and the socket-option constants of `ktls_linux.go`.

A Go `error` is one of: a `syscall.Errno`, `io.EOF`, the two errors the
runtime poller returns while a descriptor is parked (closed descriptor,
expired deadline), or an `fmt.Errorf` value, kept here with its rendered
text so that a statement about a message is a statement about the code. -/
set_option autoImplicit false
namespace GoKtls

/-- A Go byte slice or string: Go strings are byte sequences. -/
abbrev Bytes := List UInt8

/-- A `syscall.Errno`. -/
structure Errno where
  code : Nat
  deriving DecidableEq, Repr

def EAGAIN : Errno := ⟨11⟩
def ENOMEM : Errno := ⟨12⟩
def EOVERFLOW : Errno := ⟨75⟩

/-- Errors of `internal/poll` for a parked descriptor: `ErrNetClosing` and
`ErrDeadlineExceeded`. -/
inductive PollError where
  | closing
  | deadlineExceeded
  deriving DecidableEq, Repr

inductive Error where
  | errno (e : Errno)
  | eof
  | poll (p : PollError)
  | errorf (text : String)
  deriving DecidableEq, Repr

/-- `errnoErr`: `0` is no error, every other code is boxed as itself. -/
def errnoErr (e : Errno) : Option Error :=
  if e.code = 0 then none else some (.errno e)

/-- A Go slice expression `s[:i]`, `none` where Go panics. -/
def sliceTo (s : Bytes) (i : Int) : Option Bytes :=
  if 0 ≤ i ∧ i ≤ s.length then some (s.take i.toNat) else none

/-- A Go slice expression `s[i:]`, `none` where Go panics. -/
def sliceFrom (s : Bytes) (i : Int) : Option Bytes :=
  if 0 ≤ i ∧ i ≤ s.length then some (s.drop i.toNat) else none

/-- `copy(dst[:], src)` into a zeroed `[n]byte` array: the first
`min n (len src)` bytes of `src`, zeros after them. -/
def copyInto (n : Nat) (src : Bytes) : Bytes :=
  src.take n ++ List.replicate (n - src.length) 0

@[simp] theorem copyInto_length (n : Nat) (src : Bytes) : (copyInto n src).length = n := by
  simp only [copyInto, List.length_append, List.length_take, List.length_replicate]
  omega

theorem copyInto_of_length (src : Bytes) : copyInto src.length src = src := by
  simp [copyInto]

theorem copyInto_eq_self {n : Nat} {src : Bytes} (h : src.length = n) : copyInto n src = src := by
  subst h; exact copyInto_of_length src

theorem copyInto_nil (n : Nat) : copyInto n [] = List.replicate n 0 := by
  simp [copyInto]

/-! ## Go's `int64`

An `int64` is an `Int` in `[-2^63, 2^63)`; `+=` and `-=` on one take the
exact result back into that range. -/

/-- Go's `int64` arithmetic: the exact result taken back into `[-2^63, 2^63)`. -/
def wrapInt64 (x : Int) : Int := (x + 2 ^ 63) % 2 ^ 64 - 2 ^ 63

/-- The exact result whenever it fits. -/
theorem wrapInt64_of_mem {x : Int} (h0 : -2 ^ 63 ≤ x) (h : x < 2 ^ 63) : wrapInt64 x = x := by
  unfold wrapInt64; omega

theorem wrapInt64_of_ge {x : Int} (h0 : 2 ^ 63 ≤ x) (h : x < 2 ^ 63 + 2 ^ 64) :
    wrapInt64 x = x - 2 ^ 64 := by
  unfold wrapInt64; omega

/-- Wrapping never raises a value at or above `-2^63`. -/
theorem wrapInt64_le {x : Int} (h0 : -2 ^ 63 ≤ x) : wrapInt64 x ≤ x := by
  unfold wrapInt64; omega

/-! ## Constants of `ktls_linux.go` -/

def TCP_ULP : Nat := 31
def SOL_TLS : Nat := 282
/-- `syscall.SOL_TCP`. -/
def SOL_TCP : Nat := 6

def TLS_TX : Nat := 1
def TLS_RX : Nat := 2
def TLS_TX_ZEROCOPY_RO : Nat := 3
def TLS_RX_EXPECT_NO_PAD : Nat := 4

def TLS_SET_RECORD_TYPE : Nat := 1
def TLS_GET_RECORD_TYPE : Nat := 2

/-- `VersionTLS12` and `VersionTLS13` of the TLS package. -/
def VersionTLS12 : UInt16 := 0x0303
def VersionTLS13 : UInt16 := 0x0304

end GoKtls
