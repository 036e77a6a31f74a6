import GoKtls.File

/-! # The mapped-file transfer

`writeToFile` (ktls_linux.go:151-206) extends the file to `offset + remain`,
maps it, and reads the stream straight into the mapping through a window of
at most `maxBufferSize` bytes that slides forward with the reads.  Nothing
in it moves the file's offset.

The loop is a step machine over its Go variables (`loopBody`).  Along every
run the window is `[start, min (start + maxBufferSize) remain)` before each
read (`Window`), and the mapping holds, at the offset, the bytes the reads
returned (`Filled`).  Once the file is mapped, a run whose successful reads
each return a byte ends within `remain` reads, with those bytes in place.

Go's `end += n` is `int64` arithmetic, kept as such (`wrapInt64`): it could
wrap only with `remain` within `maxBufferSize` of `2^63`, and then the next
slice would panic.  The kernel never maps a file that long
(`mmapLengthError`), so on every length it maps the slices stay in bounds
and the loop returns without a panic. -/
set_option autoImplicit false
namespace GoKtls

/-- `maxBufferSize`, 4 MiB. -/
def maxBufferSize : Int := 4 * 1024 * 1024

/-- A Go call that panics or returns. -/
inductive Outcome (α : Type) where
  | panicked
  | returned (a : α)
  deriving DecidableEq, Repr

/-- One `c.Read` into the window: `ok k` returns at most `k` bytes and no
error, `fail k e` at most `k` bytes and `e`. -/
inductive ReadAnswer where
  | ok (k : Nat)
  | fail (k : Nat) (e : Error)
  deriving DecidableEq, Repr

def ReadAnswer.count : ReadAnswer → Nat
  | .ok k => k
  | .fail k _ => k

def ReadAnswer.err : ReadAnswer → Option Error
  | .ok _ => none
  | .fail _ e => some e

/-- The variables of the loop of lines 187-202 at the top of an iteration:
the reads made so far `i`, `start`, `end` (`stop`), the file's bytes seen
through the mapping, and the stream the reads take their bytes from. -/
structure LoopVars where
  i : Nat
  start : Nat
  stop : Int
  content : Bytes
  stream : Bytes
  deriving DecidableEq, Repr

/-- The loop's variables on entry (lines 183-186). -/
def loopEntry (content stream : Bytes) : LoopVars := ⟨0, 0, maxBufferSize, content, stream⟩

/-- `end` after `if end > remain { end = remain }`. -/
def LoopVars.cappedStop (remain : Nat) (v : LoopVars) : Int :=
  if v.stop > remain then remain else v.stop

/-- The count `n` of `c.Read(bytes[start:end])`: the answer's, at most the
slice's length and what the stream holds. -/
def LoopVars.readCount (reads : Nat → ReadAnswer) (remain : Nat) (v : LoopVars) : Nat :=
  min (reads v.i).count (min ((v.cappedStop remain).toNat - v.start) v.stream.length)

/-- An iteration ends the loop with an outcome or goes round again. -/
inductive LoopStep where
  | next (v : LoopVars)
  | exit (o : Outcome Transfer)
  deriving DecidableEq, Repr

/-- One iteration of lines 188-202: the slice `bytes[start:end]` panics when
`end < start`, and the read writes its bytes at `offset + start`. -/
def loopBody (reads : Nat → ReadAnswer) (remain offset : Nat) (v : LoopVars) : LoopStep :=
  let stop := v.cappedStop remain
  if stop < v.start then .exit .panicked
  else
    let n := v.readCount reads remain
    let content := writeAt v.content (offset + v.start) (v.stream.take n)
    match (reads v.i).err with
    | some e => .exit (.returned ⟨v.start + n, some e, true, ⟨content, offset⟩, v.stream.drop n⟩)
    | none =>
      if v.start + n ≥ remain then
        .exit (.returned ⟨remain, none, true, ⟨content, offset⟩, v.stream.drop n⟩)
      else .next ⟨v.i + 1, v.start + n, wrapInt64 (stop + n), content, v.stream.drop n⟩

/-- The loop with `fuel` iterations left. -/
def readLoop (reads : Nat → ReadAnswer) (remain offset : Nat) :
    Nat → LoopVars → Option (Outcome Transfer)
  | 0, _ => none
  | fuel + 1, v =>
    match loopBody reads remain offset v with
    | .exit o => some o
    | .next v' => readLoop reads remain offset fuel v'

/-- The answers to `f.Seek`, `f.Stat`, `f.Truncate` and `unix.Mmap`.  The
kernel answers `unix.Mmap` with an error whenever `mmapLengthError` gives
one for the mapping's length. -/
structure FileCalls where
  seek : Option Errno
  stat : Option Errno
  truncate : Option Errno
  mmap : Option Errno

/-- Lines 165-171: `f.Truncate(size)` on a file shorter than `size`. -/
def extendTo (c : Bytes) (size : Nat) : Bytes :=
  if c.length < size then truncateTo c size else c

/-- ktls_linux.go:153-206 with `fuel` iterations.  `f.Seek(0, io.SeekCurrent)`
gives the file's offset and `f.Stat()` its length.  When `offset + remain`
overflows `int64` the sum is negative: nothing is truncated and `unix.Mmap`
refuses the length. -/
def writeToFile (calls : FileCalls) (reads : Nat → ReadAnswer) (remain : Int) (stream : Bytes)
    (file : FileState) (fuel : Nat) : Option (Outcome Transfer) :=
  let size := file.pos + remain.toNat
  let unhandled (f : FileState) : Option (Outcome Transfer) :=
    some (.returned ⟨0, none, false, f, stream⟩)
  if remain ≤ 0 ∨ calls.seek.isSome ∨ calls.stat.isSome ∨ 2 ^ 63 ≤ size then unhandled file
  else if file.content.length < size ∧ calls.truncate.isSome then unhandled file
  else
    let content := extendTo file.content size
    if calls.mmap.isSome then unhandled ⟨content, file.pos⟩
    else readLoop reads remain.toNat file.pos fuel (loopEntry content stream)

/-! ## What the kernel maps

`unix.Mmap` is `mmap(2)`, outside src/: the length `writeToFile` asks for is
`offset + remain`, and the kernel refuses a length it cannot hold before it
looks at anything else. -/

/-- Linux's `PAGE_ALIGN` with 4 KiB pages. -/
def pageAlign (len : Nat) : Nat := (len + 4095) / 4096 * 4096

/-- The largest `TASK_SIZE` of a 64-bit process on amd64 (five-level paging,
`2^56 - 4096`) and arm64 (52-bit addresses, `2^52`). -/
def taskSizeMax : Nat := 2 ^ 56 - 4096

/-- `MAX_LFS_FILESIZE` on 64-bit Linux, `LLONG_MAX`. -/
def maxLFSFileSize : Nat := 2 ^ 63 - 1

/-- Modelled from the kernel (`do_mmap`, mm/mmap.c), not from src/: the
error a mapping of `len` bytes of a file gets from its length alone.  The
page-aligned length must fit the address space (`ENOMEM`) and, for a file,
`MAX_LFS_FILESIZE` (`EOVERFLOW`). -/
def mmapLengthError (len : Nat) : Option Errno :=
  if taskSizeMax < pageAlign len then some ENOMEM
  else if maxLFSFileSize < pageAlign len then some EOVERFLOW
  else none

/-- A length the kernel maps leaves room for a whole window below `2^63`. -/
theorem add_maxBufferSize_le_of_mapped {len : Nat} (h : mmapLengthError len = none) :
    len + 4194304 ≤ 2 ^ 63 := by
  unfold mmapLengthError at h
  split_ifs at h with h1
  unfold taskSizeMax pageAlign at h1
  omega

/-! ## One iteration -/

section
variable {reads : Nat → ReadAnswer} {remain offset : Nat}

theorem cappedStop_le (v : LoopVars) : v.cappedStop remain ≤ remain := by
  unfold LoopVars.cappedStop; split <;> omega

theorem readCount_le (v : LoopVars) :
    v.readCount reads remain ≤ (v.cappedStop remain).toNat - v.start ∧
      v.readCount reads remain ≤ v.stream.length := by
  unfold LoopVars.readCount; omega

/-- What one iteration can do: panic on `end < start`, or read `n` bytes
into the mapping and then leave with the read's error, leave once `start`
reaches `remain`, or go round with both bounds moved by `n`. -/
theorem loopBody_cases (v : LoopVars) :
    let stop := v.cappedStop remain
    let n := v.readCount reads remain
    let content := writeAt v.content (offset + v.start) (v.stream.take n)
    (stop < v.start ∧ loopBody reads remain offset v = .exit .panicked) ∨
    (v.start ≤ stop ∧ ∃ e, (reads v.i).err = some e ∧ loopBody reads remain offset v =
      .exit (.returned ⟨v.start + n, some e, true, ⟨content, offset⟩, v.stream.drop n⟩)) ∨
    (v.start ≤ stop ∧ (reads v.i).err = none ∧ remain ≤ v.start + n ∧
      loopBody reads remain offset v =
        .exit (.returned ⟨remain, none, true, ⟨content, offset⟩, v.stream.drop n⟩)) ∨
    (v.start ≤ stop ∧ (reads v.i).err = none ∧ v.start + n < remain ∧
      loopBody reads remain offset v =
        .next ⟨v.i + 1, v.start + n, wrapInt64 (stop + n), content, v.stream.drop n⟩) := by
  intro stop n content
  by_cases hp : stop < v.start
  · exact .inl ⟨hp, by simp only [loopBody, stop] at hp ⊢; rw [if_pos hp]⟩
  have hle : v.start ≤ stop := by omega
  cases he : (reads v.i).err with
  | some e => exact .inr (.inl ⟨hle, e, rfl, by simp only [loopBody, stop] at hp ⊢; rw [if_neg hp, he]⟩)
  | none =>
    by_cases hd : remain ≤ v.start + n
    · exact .inr (.inr (.inl ⟨hle, rfl, hd, by
        simp only [loopBody, stop, n] at hp hd ⊢; rw [if_neg hp, he, if_pos hd]⟩))
    · exact .inr (.inr (.inr ⟨hle, rfl, by omega, by
        simp only [loopBody, stop, n] at hp hd ⊢; rw [if_neg hp, he, if_neg hd]⟩))


theorem loopBody_next {v v' : LoopVars} (h : loopBody reads remain offset v = .next v') :
    (reads v.i).err = none ∧ v.start ≤ v.cappedStop remain ∧
      v.start + v.readCount reads remain < remain ∧
      v' = ⟨v.i + 1, v.start + v.readCount reads remain,
        wrapInt64 (v.cappedStop remain + v.readCount reads remain),
        writeAt v.content (offset + v.start) (v.stream.take (v.readCount reads remain)),
        v.stream.drop (v.readCount reads remain)⟩ := by
  rcases @loopBody_cases reads remain offset v with ⟨-, h'⟩ | ⟨-, e, -, h'⟩ | ⟨-, -, -, h'⟩ |
      ⟨hs, he, hr, h'⟩
  all_goals rw [h] at h'; cases h'
  exact ⟨he, hs, hr, rfl⟩


theorem loopBody_panicked {v : LoopVars} (h : loopBody reads remain offset v = .exit .panicked) :
    v.cappedStop remain < v.start := by
  rcases @loopBody_cases reads remain offset v with ⟨hp, -⟩ | ⟨-, e, -, h'⟩ | ⟨-, -, -, h'⟩ |
      ⟨-, -, -, h'⟩
  · exact hp
  all_goals rw [h] at h'; cases h'


end

/-! ## Runs -/

/-- The loop heads a run reaches from `v₀`. -/
inductive LoopReach (reads : Nat → ReadAnswer) (remain offset : Nat) (v₀ : LoopVars) :
    LoopVars → Prop
  | init : LoopReach reads remain offset v₀ v₀
  | tail {v v' : LoopVars} : LoopReach reads remain offset v₀ v →
      loopBody reads remain offset v = .next v' → LoopReach reads remain offset v₀ v'

section
variable {reads : Nat → ReadAnswer} {remain offset : Nat} {v₀ : LoopVars}

/-- Every outcome of a run is the exit of an iteration at a head it reaches. -/
theorem readLoop_exit {o : Outcome Transfer} :
    ∀ (fuel : Nat) (v : LoopVars), LoopReach reads remain offset v₀ v →
      readLoop reads remain offset fuel v = some o →
      ∃ u, LoopReach reads remain offset v₀ u ∧ loopBody reads remain offset u = .exit o := by
  intro fuel
  induction fuel with
  | zero => intro v _ h; cases h
  | succ fuel ih =>
    intro v hv h
    simp only [readLoop] at h
    split at h
    case h_1 o' hb => cases h; exact ⟨v, hv, hb⟩
    case h_2 v' hb => exact ih v' (.tail hv hb) h

theorem readLoop_add_fuel {o : Outcome Transfer} :
    ∀ (fuel k : Nat) (v : LoopVars), readLoop reads remain offset fuel v = some o →
      readLoop reads remain offset (fuel + k) v = some o := by
  intro fuel
  induction fuel with
  | zero => intro k v h; cases h
  | succ fuel ih =>
    intro k v h
    rw [Nat.add_right_comm]
    simp only [readLoop] at h ⊢
    split at h
    case h_1 => exact h
    case h_2 v' _ => exact ih k v' h

/-! ## What the reads leave in the mapping -/

/-- At a head reached from `loopEntry c S`: the reads so far returned no
error and took `S[0:start]`, which the mapping holds at `offset`. -/
structure Filled (reads : Nat → ReadAnswer) (offset : Nat) (c S : Bytes) (v : LoopVars) : Prop where
  start_le : v.start ≤ S.length
  stream : v.stream = S.drop v.start
  content : v.content = writeAt c offset (S.take v.start)
  ok_before : ∀ j < v.i, (reads j).err = none

variable {c S : Bytes}

theorem filled_entry : Filled reads offset c S (loopEntry c S) :=
  ⟨Nat.zero_le _, rfl, by simp [loopEntry], fun _ h => absurd h (Nat.not_lt_zero _)⟩

/-- Reading `n` more bytes of the stream writes them after those already in
place. -/
theorem Filled.read {v : LoopVars} (h : Filled reads offset c S v) {n : Nat}
    (hn : n ≤ v.stream.length) :
    v.start + n ≤ S.length ∧
      writeAt v.content (offset + v.start) (v.stream.take n) = writeAt c offset (S.take (v.start + n)) ∧
      v.stream.drop n = S.drop (v.start + n) := by
  rw [h.stream, List.length_drop] at hn
  have := h.start_le
  have hl : (S.take v.start).length = v.start := List.length_take_of_le h.start_le
  have happ := writeAt_append c offset (S.take v.start) ((S.drop v.start).take n)
  rw [hl, ← List.take_add] at happ
  refine ⟨by omega, by rw [h.content, h.stream, happ], ?_⟩
  rw [h.stream, List.drop_drop, Nat.add_comm]

theorem Filled.next {v v' : LoopVars} (h : Filled reads offset c S v)
    (hb : loopBody reads remain offset v = .next v') : Filled reads offset c S v' := by
  obtain ⟨he, -, -, rfl⟩ := loopBody_next hb
  obtain ⟨hle, hc, hs⟩ := h.read (readCount_le v).2
  refine ⟨hle, hs, hc, fun j hj => ?_⟩
  rcases Nat.lt_succ_iff_lt_or_eq.mp hj with hj | rfl
  · exact h.ok_before j hj
  · exact he

theorem filled_reach {v : LoopVars} (hv : LoopReach reads remain offset (loopEntry c S) v) :
    Filled reads offset c S v := by
  induction hv with
  | init => exact filled_entry
  | tail _ hb ih => exact ih.next hb

/-- A return after the reads took `S[0:w]`, at most `remain` bytes: the
mapping holds them at `offset` and the rest of `S` is unread; with no error
`w = remain`, and an error is the first read's that failed. -/
def Delivered (reads : Nat → ReadAnswer) (remain offset : Nat) (c S : Bytes) (t : Transfer) : Prop :=
  ∃ w : Nat, w ≤ remain ∧ w ≤ S.length ∧
    t = ⟨w, t.err, true, ⟨writeAt c offset (S.take w), offset⟩, S.drop w⟩ ∧
    (t.err = none → w = remain) ∧
    ∀ e, t.err = some e → ∃ j, (reads j).err = some e ∧ ∀ k < j, (reads k).err = none

theorem Filled.exit {v : LoopVars} (h : Filled reads offset c S v) {t : Transfer}
    (hb : loopBody reads remain offset v = .exit (.returned t)) :
    Delivered reads remain offset c S t := by
  have hn := @readCount_le reads remain v
  have hcap := @cappedStop_le remain v
  obtain ⟨hle, hc, hs⟩ := h.read hn.2
  rcases @loopBody_cases reads remain offset v with ⟨-, h'⟩ | ⟨hst, e, he, h'⟩ | ⟨hst, he, hr, h'⟩ |
      ⟨-, -, -, h'⟩
  all_goals rw [hb] at h'; cases h'
  · refine ⟨_, by omega, hle, ?_, fun h => ?_, fun e' he' => ?_⟩
    · rw [hc, hs]; rfl
    · cases h
    · cases he'
      exact ⟨v.i, he, h.ok_before⟩
  · have hw : v.start + v.readCount reads remain = remain := by omega
    refine ⟨remain, Nat.le_refl _, by omega, by rw [hc, hs, hw], fun _ => rfl, fun _ h => ?_⟩
    cases h

/-- Every return of a run from `loopEntry c S` delivers what the reads took. -/
theorem readLoop_returned {fuel : Nat} {t : Transfer}
    (h : readLoop reads remain offset fuel (loopEntry c S) = some (.returned t)) :
    Delivered reads remain offset c S t := by
  obtain ⟨u, hu, hb⟩ := readLoop_exit fuel _ .init h
  exact (filled_reach hu).exit hb

end

/-! ## The window -/

/-- The window at a loop head: `start` has not reached `remain`, and Go's
`end` is the `int64` wrap of an exact end between
`min (start + maxBufferSize) remain` and `start + maxBufferSize`. -/
structure Window (remain : Nat) (v : LoopVars) : Prop where
  start_lt : v.start < remain
  exact : ∃ e : Int, min (v.start + maxBufferSize) remain ≤ e ∧ e ≤ v.start + maxBufferSize ∧
    v.stop = wrapInt64 e

section
variable {reads : Nat → ReadAnswer} {remain offset : Nat} (hR : remain < 2 ^ 63)
include hR

theorem window_entry (hr : 0 < remain) (c S : Bytes) : Window remain (loopEntry c S) :=
  ⟨hr, maxBufferSize, by simp only [loopEntry, maxBufferSize]; omega, by simp [loopEntry],
    (wrapInt64_of_mem (x := maxBufferSize) (by decide) (by decide)).symm⟩

/-- In the window, `end` after the cap is `min (start + maxBufferSize) remain`,
unless the exact end has passed `2^63`: then Go's `end` is negative, which
only a `remain` within `maxBufferSize` of `2^63` allows. -/
theorem Window.cappedStop_eq {v : LoopVars} (h : Window remain v) :
    v.cappedStop remain = min (v.start + maxBufferSize) remain ∨
      (v.stop < 0 ∧ 2 ^ 63 < remain + maxBufferSize) := by
  obtain ⟨e, h1, h2, h3⟩ := h.exact
  have hM : maxBufferSize = 4194304 := rfl
  have := h.start_lt
  by_cases he : e < 2 ^ 63
  · rw [wrapInt64_of_mem (by omega) he] at h3
    left
    unfold LoopVars.cappedStop
    split <;> omega
  · rw [wrapInt64_of_ge (by omega) (by omega)] at h3
    right
    omega

/-- An iteration that reads: `end` after the cap is
`min (start + maxBufferSize) remain`. -/
theorem Window.cappedStop_of_read {v : LoopVars} (h : Window remain v)
    (hs : (v.start : Int) ≤ v.cappedStop remain) :
    v.cappedStop remain = min (v.start + maxBufferSize) remain := by
  rcases h.cappedStop_eq hR with hc | ⟨hneg, -⟩
  · exact hc
  · unfold LoopVars.cappedStop at hs; split at hs <;> omega

/-- A slice that does not panic is `bytes[start:end]` with
`end - start = min maxBufferSize (remain - start)`: in bounds, not empty, at
most 4 MiB. -/
theorem Window.slice {v : LoopVars} (h : Window remain v) (hs : (v.start : Int) ≤ v.cappedStop remain) :
    v.start < v.cappedStop remain ∧ v.cappedStop remain ≤ remain ∧
      v.cappedStop remain - v.start = min maxBufferSize (remain - v.start) := by
  have hM : maxBufferSize = 4194304 := rfl
  have := h.start_lt
  rw [h.cappedStop_of_read hR hs]
  omega

/-- The slice panics only when `remain` is within `maxBufferSize` of `2^63`. -/
theorem Window.panicked {v : LoopVars} (h : Window remain v)
    (hb : loopBody reads remain offset v = .exit .panicked) : 2 ^ 63 < remain + maxBufferSize := by
  have hp := loopBody_panicked hb
  have hM : maxBufferSize = 4194304 := rfl
  have := h.start_lt
  rcases h.cappedStop_eq hR with hc | ⟨-, h63⟩
  · rw [hc] at hp; omega
  · exact h63

/-- The exact `end + n` of an iteration that goes round stays below
`remain + maxBufferSize`, and the next head is in the window again. -/
theorem Window.next {v v' : LoopVars} (h : Window remain v)
    (hb : loopBody reads remain offset v = .next v') :
    v.cappedStop remain + v.readCount reads remain < remain + maxBufferSize ∧
      v'.stop = wrapInt64 (v.cappedStop remain + v.readCount reads remain) ∧ Window remain v' := by
  obtain ⟨-, hs, hr, rfl⟩ := loopBody_next hb
  have hn := (@readCount_le reads remain v).1
  have hM : maxBufferSize = 4194304 := rfl
  have := h.start_lt
  have hc := h.cappedStop_of_read hR hs
  rw [hc] at hn ⊢
  refine ⟨by omega, rfl, ?_, _, ?_, ?_, rfl⟩ <;> dsimp only <;> omega

theorem window_reach (hr : 0 < remain) {c S : Bytes} {v : LoopVars}
    (hv : LoopReach reads remain offset (loopEntry c S) v) : Window remain v := by
  induction hv with
  | init => exact window_entry hR hr c S
  | tail _ hb ih => exact (ih.next hR hb).2.2

end

/-! ## The loop ends -/

/-- Every read a run from `v₀` makes that returns no error returns at least
one byte. -/
def ReadsProgress (reads : Nat → ReadAnswer) (remain offset : Nat) (v₀ : LoopVars) : Prop :=
  ∀ v, LoopReach reads remain offset v₀ v → (v.start : Int) ≤ v.cappedStop remain →
    (reads v.i).err = none → 0 < v.readCount reads remain

section
variable {reads : Nat → ReadAnswer} {remain offset : Nat} {c S : Bytes}

theorem ReadsProgress.start_lt {v₀ : LoopVars} (hp : ReadsProgress reads remain offset v₀)
    {v v' : LoopVars} (hv : LoopReach reads remain offset v₀ v)
    (hb : loopBody reads remain offset v = .next v') : v.start < v'.start := by
  obtain ⟨he, hs, -, rfl⟩ := loopBody_next hb
  have := hp v hv hs he
  dsimp only
  omega

variable (hR : remain < 2 ^ 63) (hr : 0 < remain)
include hR hr

theorem readLoop_ends_of_reach (hp : ReadsProgress reads remain offset (loopEntry c S)) :
    ∀ (fuel : Nat) (v : LoopVars), LoopReach reads remain offset (loopEntry c S) v →
      remain - v.start ≤ fuel → ∃ o, readLoop reads remain offset fuel v = some o := by
  intro fuel
  induction fuel with
  | zero => intro v hv h; have := (window_reach hR hr hv).start_lt; omega
  | succ fuel ih =>
    intro v hv h
    simp only [readLoop]
    split
    case h_1 o _ => exact ⟨o, rfl⟩
    case h_2 v' hb => exact ih v' (.tail hv hb) (by have := hp.start_lt hv hb; omega)

/-- With every successful read returning a byte, `start` grows at each
iteration and the loop ends within `remain` of them; it panics only when
`remain` is within `maxBufferSize` of `2^63`. -/
theorem readLoop_ends (hp : ReadsProgress reads remain offset (loopEntry c S)) {fuel : Nat}
    (hf : remain ≤ fuel) :
    ∃ o, readLoop reads remain offset fuel (loopEntry c S) = some o ∧
      (o = .panicked → 2 ^ 63 < remain + maxBufferSize) := by
  obtain ⟨o, ho⟩ := readLoop_ends_of_reach hR hr hp remain _ .init (Nat.sub_le _ _)
  refine ⟨o, by rw [← Nat.add_sub_cancel' hf]; exact readLoop_add_fuel _ _ _ ho, ?_⟩
  rintro rfl
  obtain ⟨u, hu, hb⟩ := readLoop_exit remain _ .init ho
  exact (window_reach hR hr hu).panicked hR hb

/-- At every head a run reaches: a slice that does not panic is
`bytes[start:end]` with `0 ≤ start < end ≤ remain` and
`end - start = min maxBufferSize (remain - start)`; a panic needs `remain`
within `maxBufferSize` of `2^63`; and when `remain + maxBufferSize ≤ 2^63`,
`end += n` does not overflow. -/
theorem readLoop_window {v : LoopVars} (hv : LoopReach reads remain offset (loopEntry c S) v) :
    ((v.start : Int) ≤ v.cappedStop remain → v.start < v.cappedStop remain ∧
      v.cappedStop remain ≤ remain ∧
      v.cappedStop remain - v.start = min maxBufferSize (remain - v.start)) ∧
    (loopBody reads remain offset v = .exit .panicked → 2 ^ 63 < remain + maxBufferSize) ∧
    ∀ v', loopBody reads remain offset v = .next v' → remain + maxBufferSize ≤ 2 ^ 63 →
      v.cappedStop remain + v.readCount reads remain < 2 ^ 63 ∧
      v'.stop = v.cappedStop remain + v.readCount reads remain := by
  have hw := window_reach hR hr hv
  refine ⟨hw.slice hR, hw.panicked hR, fun v' hb hM => ?_⟩
  obtain ⟨hlt, hstop, -⟩ := hw.next hR hb
  have hs := (loopBody_next hb).2.1
  refine ⟨by omega, by rw [hstop, wrapInt64_of_mem (by omega) (by omega)]⟩

end

/-- At the first head of a two-byte transfer whose reads return whole windows. -/
theorem readLoop_window_at_entry :
    let v := loopEntry [] [7, 8]
    ((v.start : Int) ≤ v.cappedStop 2 → v.start < v.cappedStop 2 ∧ v.cappedStop 2 ≤ (2 : Nat) ∧
      v.cappedStop 2 - v.start = min maxBufferSize ((2 : Nat) - v.start)) ∧
    (loopBody (fun _ => .ok 4194304) 2 0 v = .exit .panicked → 2 ^ 63 < (2 : Nat) + maxBufferSize) ∧
    ∀ v', loopBody (fun _ => .ok 4194304) 2 0 v = .next v' → (2 : Nat) + maxBufferSize ≤ 2 ^ 63 →
      v.cappedStop 2 + v.readCount (fun _ => .ok 4194304) 2 < 2 ^ 63 ∧
      v'.stop = v.cappedStop 2 + v.readCount (fun _ => .ok 4194304) 2 :=
  readLoop_window (by decide) (by decide) .init

/-- On a length the kernel maps, at every head a run reaches the slice
`bytes[start:end]` has `0 ≤ start < end ≤ remain` and
`end - start = min maxBufferSize (remain - start)`, and `end += n` stays
below `2^63`; when every read that returns no error returns a byte, `start`
grows at every iteration and the loop returns within `remain` reads. -/
theorem readLoop_in_bounds {reads : Nat → ReadAnswer} {remain offset : Nat} {c S : Bytes}
    (hr : 0 < remain) (hmap : mmapLengthError (offset + remain) = none) :
    (∀ v, LoopReach reads remain offset (loopEntry c S) v →
      v.start < v.cappedStop remain ∧ v.cappedStop remain ≤ remain ∧
      v.cappedStop remain - v.start = min maxBufferSize (remain - v.start) ∧
      ∀ v', loopBody reads remain offset v = .next v' →
        v.cappedStop remain + v.readCount reads remain < 2 ^ 63 ∧
        v'.stop = v.cappedStop remain + v.readCount reads remain) ∧
    (ReadsProgress reads remain offset (loopEntry c S) →
      (∀ v v', LoopReach reads remain offset (loopEntry c S) v →
        loopBody reads remain offset v = .next v' → v.start < v'.start) ∧
      ∃ t, readLoop reads remain offset remain (loopEntry c S) = some (.returned t)) := by
  have hlen := add_maxBufferSize_le_of_mapped hmap
  have hM : maxBufferSize = 4194304 := rfl
  have hR : remain < 2 ^ 63 := by omega
  refine ⟨fun v hv => ?_, fun hp => ⟨fun v v' hv hb => hp.start_lt hv hb, ?_⟩⟩
  · have hw := window_reach hR hr hv
    have hc : v.cappedStop remain = min (v.start + maxBufferSize) remain := by
      rcases hw.cappedStop_eq hR with hc | ⟨-, h63⟩
      · exact hc
      · omega
    have hs : (v.start : Int) ≤ v.cappedStop remain := by have := hw.start_lt; omega
    obtain ⟨h1, h2, h3⟩ := hw.slice hR hs
    refine ⟨h1, h2, h3, fun v' hb => ?_⟩
    obtain ⟨hlt, hstop, -⟩ := hw.next hR hb
    exact ⟨by omega, by rw [hstop, wrapInt64_of_mem (by omega) (by omega)]⟩
  · obtain ⟨o, ho, hpan⟩ := readLoop_ends hR hr hp (Nat.le_refl remain)
    cases o with
    | panicked => have := hpan rfl; omega
    | returned t => exact ⟨t, ho⟩

/-- A two-byte transfer at offset 0 whose reads return whole windows. -/
theorem readLoop_in_bounds_two_bytes :
    (∀ v, LoopReach (fun _ => .ok 4194304) 2 0 (loopEntry [] [7, 8]) v →
      v.start < v.cappedStop 2 ∧ v.cappedStop 2 ≤ (2 : Nat) ∧
      v.cappedStop 2 - v.start = min maxBufferSize ((2 : Nat) - v.start) ∧
      ∀ v', loopBody (fun _ => .ok 4194304) 2 0 v = .next v' →
        v.cappedStop 2 + v.readCount (fun _ => .ok 4194304) 2 < 2 ^ 63 ∧
        v'.stop = v.cappedStop 2 + v.readCount (fun _ => .ok 4194304) 2) ∧
    (ReadsProgress (fun _ => .ok 4194304) 2 0 (loopEntry [] [7, 8]) →
      (∀ v v', LoopReach (fun _ => .ok 4194304) 2 0 (loopEntry [] [7, 8]) v →
        loopBody (fun _ => .ok 4194304) 2 0 v = .next v' → v.start < v'.start) ∧
      ∃ t, readLoop (fun _ => .ok 4194304) 2 0 2 (loopEntry [] [7, 8]) = some (.returned t)) :=
  readLoop_in_bounds (by decide) (by decide)

theorem length_extendTo (c : Bytes) (size : Nat) : (extendTo c size).length = max c.length size := by
  unfold extendTo
  split
  · simp only [truncateTo, List.length_append, List.length_take, List.length_replicate]; omega
  · omega

theorem getD_extendTo (c : Bytes) (size i : Nat) : (extendTo c size).getD i 0 = c.getD i 0 := by
  unfold extendTo
  split
  · exact getD_truncateTo (by omega) i
  · rfl

theorem writeAt_extendTo (c : Bytes) (off : Nat) {d : Bytes} (hd : d ≠ []) :
    writeAt (extendTo c (off + d.length)) off d = writeAt c off d := by
  unfold extendTo
  split
  · exact writeAt_truncateTo c off hd ‹_›
  · rfl

/-- A handled transfer that returns no error wrote exactly `S[0:remain]` at
the file's offset, which stays where it was. -/
theorem writeToFile_ok {calls : FileCalls} {reads : Nat → ReadAnswer} {remain : Int} {S : Bytes}
    {file : FileState} {fuel : Nat} {t : Transfer}
    (h : writeToFile calls reads remain S file fuel = some (.returned t)) (hh : t.handled = true)
    (herr : t.err = none) :
    t = ⟨remain, none, true, ⟨writeAt file.content file.pos (S.take remain.toNat), file.pos⟩,
      S.drop remain.toNat⟩ ∧ 0 < remain ∧ remain < 2 ^ 63 ∧ remain ≤ S.length := by
  simp only [writeToFile] at h
  split_ifs at h with h1 h2 h3 <;> try (cases h; cases hh)
  have hr : 0 < remain := by omega
  obtain ⟨w, -, hwS, ht, hw, -⟩ := readLoop_returned h
  obtain rfl := hw herr
  have hl : (S.take remain.toNat).length = remain.toNat := List.length_take_of_le (by omega)
  have hext := writeAt_extendTo file.content file.pos
    (List.ne_nil_of_length_pos (by rw [hl]; omega))
  rw [hl] at hext
  refine ⟨?_, hr, by omega, by omega⟩
  rw [ht, herr, hext, Int.toNat_of_nonneg (Int.le_of_lt hr)]

/-- Once the file is mapped: every file call succeeds and `offset + remain`
fits in `int64`. -/
theorem writeToFile_of_mapped (reads : Nat → ReadAnswer) {remain : Int} (S : Bytes)
    (file : FileState) (fuel : Nat) (hr : 0 < remain) (hmap : file.pos + remain.toNat < 2 ^ 63) :
    writeToFile ⟨none, none, none, none⟩ reads remain S file fuel =
      readLoop reads remain.toNat file.pos fuel
        (loopEntry (extendTo file.content (file.pos + remain.toNat)) S) := by
  simp only [writeToFile, Option.isSome_none, Bool.false_eq_true, false_or, and_false, if_false]
  rw [if_neg (by omega)]

/-- What a handled transfer of `remain` bytes into `file` leaves, once the
reads have taken `S[0:w]`: `w = remain` with no error, or the count up to
and including the first failed read, with that read's error; the file holds
`S[0:w]` at `[offset, offset + w)`, is `max size (offset + remain)` bytes
long and keeps its old bytes outside `[offset, offset + remain)`, and the
offset does not move. -/
def MappedDelivery (reads : Nat → ReadAnswer) (remain : Int) (S : Bytes) (file : FileState)
    (t : Transfer) : Prop :=
  ∃ w : Nat, t.written = w ∧ w ≤ remain ∧ w ≤ S.length ∧
    t.handled = true ∧ (t.err = none → w = remain) ∧
    (∀ e, t.err = some e → ∃ j, (reads j).err = some e ∧ ∀ k < j, (reads k).err = none) ∧
    t.unread = S.drop w ∧ t.file.pos = file.pos ∧
    (t.file.content.drop file.pos).take w = S.take w ∧
    t.file.content.length = max file.content.length (file.pos + remain.toNat) ∧
    ∀ i, i < file.pos ∨ file.pos + remain.toNat ≤ i →
      t.file.content.getD i 0 = file.content.getD i 0

/-- Every return of a mapped run delivers what its reads took. -/
theorem writeToFile_mapped_delivery (reads : Nat → ReadAnswer) {remain : Int} (S : Bytes)
    (file : FileState) (hr : 0 < remain) (hmap : file.pos + remain.toNat < 2 ^ 63) {fuel : Nat}
    {t : Transfer} (ho : writeToFile ⟨none, none, none, none⟩ reads remain S file fuel = some (.returned t)) :
    MappedDelivery reads remain S file t := by
  rw [writeToFile_of_mapped reads S file fuel hr hmap] at ho
  obtain ⟨w, hwR, hwS, ht, hnone, hfirst⟩ := readLoop_returned ho
  have hl : (S.take w).length = w := List.length_take_of_le hwS
  have hext := length_extendTo file.content (file.pos + remain.toNat)
  rw [ht]
  refine ⟨w, rfl, by omega, hwS, rfl, fun h => by rw [hnone h]; omega, hfirst, rfl, rfl,
    by have := writeAt_drop_take (extendTo file.content (file.pos + remain.toNat)) file.pos (S.take w)
       rwa [hl] at this, ?_, fun i hi => ?_⟩
  · by_cases hd : S.take w = []
    · rw [hd, writeAt_nil, hext]
    · rw [length_writeAt _ _ hd, hext, hl]; omega
  · rw [getD_writeAt _ _ _ (by omega), getD_extendTo]

end GoKtls
