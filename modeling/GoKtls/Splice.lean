import GoKtls.File

/-! # The splice bridge

`spliceToFile` (ktls_linux.go:208-286) moves `remain` bytes from the
offloaded socket into a file through a pipe.  Inside `sc.Read`'s callback it
splices socket to pipe, at most `maxSpliceSize` bytes at a time, then inside
`fsc.Write`'s callback splices pipe to file until the chunk is written
(label `bump`); a socket splice that would block returns false and parks the
callback on the poller.  The kernel picks each splice's count, so the run is
a step machine over the Go variables, driven by an environment that answers
every splice and every wake-up.

`remain` and `written` are Go `int64`s, and the loop's `-=` and `+=` on
them wrap (`wrapInt64`).  Along every run `written + remain` keeps its
initial value modulo `2^64` (`spliceRun_conserves`) and the file receives
the bytes taken from the socket in stream order, the rest waiting in the
pipe (`spliceRun_flow`).  What goes wrong is the count: `unix.Splice`
reports a failure as `-1`, which the loop subtracts from `remain` and adds
to `written` (`spliceToFile_overreads_after_eagain`,
`spliceToFile_reports_negative_written`), and once the peer has closed every
splice moves nothing, forever (`spliceToFile_spins_at_eof`), although a run
in which every splice makes progress returns (`spliceToFile_returns`). -/
set_option autoImplicit false
namespace GoKtls

/-- `maxSpliceSize`, `4 << 20`. -/
def maxSpliceSize : Int := 4194304

/-- The kernel's answer to one `splice(2)`: `moved k` moves at most `k`
bytes (what the pipe has room for, what is ready), `errno e` fails with `e`. -/
inductive SpliceAnswer where
  | moved (k : Nat)
  | errno (e : Errno)
  deriving DecidableEq, Repr

/-- The `size_t` the kernel reads for Go's `int(n)`. -/
def spliceLen (n : Int) : Nat := (n % 2 ^ 64).toNat

/-- What `unix.Splice` returns, with the bytes it moved and those it left. -/
structure Spliced where
  n : Int
  err : Option Error
  moved : Bytes
  rest : Bytes

/-- `unix.Splice` from `src` with length `len`.  A zero length returns 0
before anything is looked at (fs/splice.c); a failure comes back as `-1`
with its errno boxed. -/
def splice (a : SpliceAnswer) (len : Int) (src : Bytes) : Spliced :=
  if spliceLen len = 0 then ⟨0, none, [], src⟩
  else match a with
    | .moved k =>
      let t := min k (min (spliceLen len) src.length)
      ⟨t, none, src.take t, src.drop t⟩
    | .errno e => ⟨-1, some (.errno e), [], src⟩

theorem splice_moved_append_rest (a : SpliceAnswer) (len : Int) (src : Bytes) :
    (splice a len src).moved ++ (splice a len src).rest = src := by
  unfold splice
  split
  · rfl
  · cases a <;> simp

theorem splice_of_spliceLen_zero {len : Int} (h : spliceLen len = 0) (a : SpliceAnswer)
    (src : Bytes) : splice a len src = ⟨0, none, [], src⟩ := by
  simp [splice, h]

/-- Where the run is in the source. -/
inductive SplicePc where
  /-- `sc.Read` is entered: its lock and deadline check. -/
  | read
  /-- The head of the callback's `for` loop. -/
  | loop
  /-- `fsc.Write` is entered. -/
  | write
  /-- Label `bump`. -/
  | bump
  /-- The callback returned false: parked until the poller wakes. -/
  | parked
  /-- `sc.Read` returned `rerr`. -/
  | returned (rerr : Option Error)
  deriving DecidableEq, Repr

/-- The Go variables of `spliceToFile`, the bytes on the socket, in the pipe
and in the file, and how many answers of each kind were used. -/
structure SpliceState where
  pc : SplicePc
  remain : Int
  written : Int
  n : Int
  err : Option Error
  /-- The stream bytes not yet taken from the socket. -/
  sock : Bytes
  pipe : Bytes
  file : FileState
  sockCalls : Nat
  fileCalls : Nat
  wakes : Nat
  deriving DecidableEq, Repr

/-- Everything the kernel and the runtime decide during one run. -/
structure SpliceEnv where
  /-- `sc.Read`'s lock and deadline check. -/
  readPrep : Option PollError
  /-- `fsc.Write`'s lock check. -/
  writePrep : Option PollError
  /-- The answer to the `i`-th socket-to-pipe splice. -/
  sock : Nat → SpliceAnswer
  /-- The answer to the `i`-th pipe-to-file splice. -/
  file : Nat → SpliceAnswer
  /-- The `i`-th wake-up of the parked callback: `some` if the poller fails. -/
  wake : Nat → Option PollError

section
variable (env : SpliceEnv)

/-- The loop head (lines 232-249): splice socket to pipe, then park on
`EAGAIN`, leave on any other error, or go on to `fsc.Write`.  `remain -= n`
and `written += n` are `int64` arithmetic. -/
def SpliceState.fromSocket (s : SpliceState) : SpliceState :=
  let r := splice (env.sock s.sockCalls) (min maxSpliceSize s.remain) s.sock
  let s := { s with
    n := r.n, err := r.err, sock := r.rest, pipe := s.pipe ++ r.moved,
    remain := wrapInt64 (s.remain - r.n), written := wrapInt64 (s.written + r.n),
    sockCalls := s.sockCalls + 1 }
  if r.err = some (.errno EAGAIN) then { s with err := none, pc := .parked }
  else if r.err.isSome then { s with pc := .returned none }
  else { s with pc := .write }

/-- Label `bump` (lines 255-264 and 266-271): splice pipe to file, retry the
rest of the chunk on a short count, then leave or go back to the loop head. -/
def SpliceState.toFile (s : SpliceState) : SpliceState :=
  let r := splice (env.file s.fileCalls) s.n s.pipe
  let s := { s with
    err := r.err, pipe := r.rest, file := s.file.write r.moved,
    fileCalls := s.fileCalls + 1 }
  if r.err.isSome then { s with pc := .returned none }
  else if r.n < s.n then { s with n := s.n - r.n, pc := .bump }
  else if s.remain ≤ 0 then { s with pc := .returned none }
  else { s with pc := .loop }

def spliceStep (s : SpliceState) : SpliceState :=
  match s.pc with
  | .read =>
    match env.readPrep with
    | some p => { s with pc := .returned (some (.poll p)) }
    | none => { s with pc := .loop }
  | .loop => s.fromSocket env
  | .write =>
    match env.writePrep with
    | some p => { s with err := some (.poll p), pc := .returned none }
    | none => { s with pc := .bump }
  | .bump => s.toFile env
  | .parked =>
    match env.wake s.wakes with
    | some p => { s with wakes := s.wakes + 1, pc := .returned (some (.poll p)) }
    | none => { s with wakes := s.wakes + 1, pc := .loop }
  | .returned _ => s

/-- `fuel` steps of the run. -/
def spliceRun : Nat → SpliceState → SpliceState
  | 0, s => s
  | k + 1, s => spliceRun k (spliceStep env s)

end

/-- The state on entry to `sc.Read`. -/
def spliceInit (remain : Int) (sock : Bytes) (file : FileState) : SpliceState :=
  ⟨.read, remain, 0, maxSpliceSize, none, sock, [], file, 0, 0, 0⟩

/-- Lines 283-286, once `sc.Read` has returned. -/
def SpliceState.result (s : SpliceState) : Option Transfer :=
  match s.pc with
  | .returned rerr => some ⟨s.written, if s.err.isNone then rerr else s.err, true, s.file, s.sock⟩
  | _ => none

/-- ktls_linux.go:210-286 after `fuel` steps, `none` while still running.
`ready` is that `c.conn` is a `*net.TCPConn` and that both `SyscallConn`
calls and `unix.Pipe` succeed; otherwise the transfer is not handled. -/
def spliceToFile (ready : Bool) (env : SpliceEnv) (remain : Int) (sock : Bytes) (file : FileState)
    (fuel : Nat) : Option Transfer :=
  if !ready then some ⟨0, none, false, file, sock⟩
  else (spliceRun env fuel (spliceInit remain sock file)).result

/-! ## What one step does to the bytes and the counts -/

section
variable {env : SpliceEnv} {s : SpliceState}

/-- The loop head as one update: the socket splice's effect, then where
control goes. -/
theorem fromSocket_eq (env : SpliceEnv) (s : SpliceState) :
    let r := splice (env.sock s.sockCalls) (min maxSpliceSize s.remain) s.sock
    s.fromSocket env = { s with
      n := r.n, sock := r.rest, pipe := s.pipe ++ r.moved, remain := wrapInt64 (s.remain - r.n),
      written := wrapInt64 (s.written + r.n), sockCalls := s.sockCalls + 1,
      err := if r.err = some (.errno EAGAIN) then none else r.err,
      pc := if r.err = some (.errno EAGAIN) then .parked
        else if r.err.isSome then .returned none else .write } := by
  simp only [SpliceState.fromSocket]
  split_ifs <;> rfl

/-- Label `bump` as one update. -/
theorem toFile_eq (env : SpliceEnv) (s : SpliceState) :
    let r := splice (env.file s.fileCalls) s.n s.pipe
    s.toFile env = { s with
      err := r.err, pipe := r.rest, file := s.file.write r.moved, fileCalls := s.fileCalls + 1,
      n := if r.err.isNone ∧ r.n < s.n then s.n - r.n else s.n,
      pc := if r.err.isSome then .returned none else if r.n < s.n then .bump
        else if s.remain ≤ 0 then .returned none else .loop } := by
  simp only [SpliceState.toFile]
  generalize splice (env.file s.fileCalls) s.n s.pipe = r
  rcases r with ⟨n, _ | e, moved, rest⟩
  · by_cases hn : n < s.n <;> simp only [hn, Option.isSome_none, Option.isNone_none,
      Bool.false_eq_true, if_false, if_true, and_self, and_false]
    split_ifs <;> rfl
  · rfl

/-- Every step leaves the bytes and counts alone, or splices from the
socket into the pipe, or from the pipe into the file. -/
theorem spliceStep_cases (env : SpliceEnv) (s : SpliceState) :
    let t := spliceStep env s
    (t.remain = s.remain ∧ t.written = s.written ∧ t.sock = s.sock ∧ t.pipe = s.pipe ∧
      t.file = s.file) ∨
    (∃ r : Spliced, r.moved ++ r.rest = s.sock ∧ t.remain = wrapInt64 (s.remain - r.n) ∧
      t.written = wrapInt64 (s.written + r.n) ∧ t.sock = r.rest ∧ t.pipe = s.pipe ++ r.moved ∧
      t.file = s.file) ∨
    (∃ r : Spliced, r.moved ++ r.rest = s.pipe ∧ t.remain = s.remain ∧ t.written = s.written ∧
      t.sock = s.sock ∧ t.pipe = r.rest ∧ t.file = s.file.write r.moved) := by
  intro t
  unfold t spliceStep
  split
  case h_2 =>
    refine .inr (.inl ⟨_, splice_moved_append_rest (env.sock s.sockCalls)
      (min maxSpliceSize s.remain) s.sock, ?_⟩)
    rw [fromSocket_eq]
    exact ⟨rfl, rfl, rfl, rfl, rfl⟩
  case h_4 =>
    refine .inr (.inr ⟨_, splice_moved_append_rest (env.file s.fileCalls) s.n s.pipe, ?_⟩)
    rw [toFile_eq]
    exact ⟨rfl, rfl, rfl, rfl, rfl⟩
  all_goals (try split) <;> exact .inl ⟨rfl, rfl, rfl, rfl, rfl⟩

theorem spliceStep_conserves (env : SpliceEnv) (s : SpliceState) :
    wrapInt64 ((spliceStep env s).written + (spliceStep env s).remain) =
      wrapInt64 (s.written + s.remain) := by
  rcases spliceStep_cases env s with ⟨h₁, h₂, -⟩ | ⟨r, -, h₁, h₂, -⟩ | ⟨r, -, h₁, h₂, -⟩
  · rw [h₁, h₂]
  · rw [h₁, h₂]; unfold wrapInt64; omega
  · rw [h₁, h₂]

/-- `written + remain` keeps its value modulo `2^64` in every state of every
run: `int64` arithmetic conserves it up to the wrap. -/
theorem spliceRun_conserves (env : SpliceEnv) :
    ∀ (fuel : Nat) (s : SpliceState),
      wrapInt64 ((spliceRun env fuel s).written + (spliceRun env fuel s).remain) =
        wrapInt64 (s.written + s.remain) := by
  intro fuel
  induction fuel with
  | zero => intro s; rfl
  | succ k ih => intro s; rw [spliceRun, ih, spliceStep_conserves]

/-- Only the loop head splices from the socket. -/
theorem spliceStep_sockCalls_le (env : SpliceEnv) (s : SpliceState) :
    s.sockCalls ≤ (spliceStep env s).sockCalls := by
  unfold spliceStep
  split
  case h_2 => rw [fromSocket_eq]; exact Nat.le_succ _
  case h_4 => rw [toFile_eq]
  all_goals (try split) <;> exact Nat.le_refl _

theorem spliceRun_sockCalls_le (env : SpliceEnv) :
    ∀ (fuel : Nat) (s : SpliceState), s.sockCalls ≤ (spliceRun env fuel s).sockCalls := by
  intro fuel
  induction fuel with
  | zero => exact fun s => Nat.le_refl _
  | succ k ih => exact fun s => Nat.le_trans (spliceStep_sockCalls_le env s) (ih _)

/-- The file is `file₀` with the bytes `w` written at its offset, and `w`,
then the pipe, then the unread stream, are the stream `S`. -/
def Flow (file₀ : FileState) (S : Bytes) (s : SpliceState) : Prop :=
  ∃ w, s.file = file₀.write w ∧ w ++ s.pipe ++ s.sock = S

theorem spliceStep_flow {file₀ : FileState} {S : Bytes} (h : Flow file₀ S s) :
    Flow file₀ S (spliceStep env s) := by
  obtain ⟨w, hf, hS⟩ := h
  rcases spliceStep_cases env s with ⟨-, -, h₃, h₄, h₅⟩ | ⟨r, hr, -, -, h₃, h₄, h₅⟩ |
      ⟨r, hr, -, -, h₃, h₄, h₅⟩
  · exact ⟨w, by rw [h₅, hf], by rw [h₃, h₄, hS]⟩
  · exact ⟨w, by rw [h₅, hf], by rw [h₃, h₄, ← hS, ← hr]; simp⟩
  · exact ⟨w ++ r.moved, by rw [h₅, hf, FileState.write_write],
      by rw [h₃, h₄, ← hS, ← hr]; simp⟩

/-- No byte is lost, duplicated or reordered: every state of a run from
`spliceInit` has written to the file, at its offset, a prefix of the
stream, the next bytes waiting in the pipe and the rest on the socket. -/
theorem spliceRun_flow (env : SpliceEnv) (remain : Int) (S : Bytes) (file : FileState)
    (fuel : Nat) : Flow file S (spliceRun env fuel (spliceInit remain S file)) := by
  suffices ∀ k s, Flow file S s → Flow file S (spliceRun env k s) from
    this fuel _ ⟨[], by simp [spliceInit], by simp [spliceInit]⟩
  intro k
  induction k with
  | zero => exact fun s h => h
  | succ k ih => exact fun s h => ih _ (spliceStep_flow h)

end

/-! ## The lengths and counts of one splice -/

theorem spliceLen_of_nonneg {n : Int} (h0 : 0 ≤ n) (h : n < 2 ^ 64) : spliceLen n = n.toNat := by
  rw [spliceLen, Int.emod_eq_of_lt h0 h]

/-- A length the loop passes, between zero and `maxSpliceSize`, reaches the
kernel unchanged. -/
theorem spliceLen_cast {n : Int} (h0 : 0 ≤ n) (h : n ≤ maxSpliceSize) : (spliceLen n : Int) = n := by
  rw [spliceLen_of_nonneg h0 (Int.lt_of_le_of_lt h (by decide)), Int.toNat_of_nonneg h0]

/-- A count within the loop head's splice length is within `maxSpliceSize`
and `remain`. -/
theorem le_of_le_spliceLen_min {t : Nat} {r : Int} (hr : 0 ≤ r)
    (ht : t ≤ spliceLen (min maxSpliceSize r)) : (t : Int) ≤ maxSpliceSize ∧ (t : Int) ≤ r := by
  rw [← Int.le_min, ← spliceLen_cast (Int.le_min.mpr ⟨by decide, hr⟩) (Int.min_le_left _ _)]
  exact Int.ofNat_le.mpr ht

/-- A splice moves a prefix of `src`, at most `len` bytes, with no error, or
fails with the answer's errno. -/
theorem splice_cases (a : SpliceAnswer) (len : Int) (src : Bytes) :
    (∃ t, t ≤ spliceLen len ∧ t ≤ src.length ∧
      splice a len src = ⟨t, none, src.take t, src.drop t⟩) ∨
    (∃ e, a = .errno e ∧ splice a len src = ⟨-1, some (.errno e), [], src⟩) := by
  unfold splice
  split
  · exact .inl ⟨0, by omega, by omega, by simp⟩
  · cases a with
    | moved k => exact .inl ⟨_, by omega, by omega, rfl⟩
    | errno e => exact .inr ⟨e, rfl, rfl⟩

/-- A splice answered with at least one byte, asked for at least one byte of
a source that holds them, moves between one and `len` bytes. -/
theorem splice_moved_progress (len : Int) {k : Nat} (src : Bytes) (hk : 0 < k)
    (h0 : 0 < spliceLen len) (hsrc : spliceLen len ≤ src.length) :
    ∃ t, 0 < t ∧ t ≤ spliceLen len ∧ splice (.moved k) len src = ⟨t, none, src.take t, src.drop t⟩ := by
  refine ⟨min k (spliceLen len), by omega, Nat.min_le_right _ _, ?_⟩
  rw [splice, if_neg (by omega), Nat.min_eq_left hsrc]

/-! ## Termination when every splice makes progress -/

/-- Decreases at every step of a run that makes progress: a round from the
loop head lowers `remain` by at least one byte, and each retry of `bump`
lowers `n`. -/
def spliceMeasure (s : SpliceState) : Nat :=
  match s.pc with
  | .read | .parked => 4 * s.remain.toNat + 2
  | .loop => 4 * s.remain.toNat + 1
  | .write => 4 * s.remain.toNat + s.n.toNat + 3
  | .bump => 4 * s.remain.toNat + s.n.toNat + 2
  | .returned _ => 0

/-- Each socket splice moves at least one byte or fails without blocking. -/
def SockProgress (env : SpliceEnv) : Prop :=
  ∀ i, (∃ k, 0 < k ∧ env.sock i = .moved k) ∨ ∃ e, e ≠ EAGAIN ∧ env.sock i = .errno e

/-- Each pipe-to-file splice moves at least one byte or fails. -/
def FileProgress (env : SpliceEnv) : Prop :=
  ∀ i, (∃ k, 0 < k ∧ env.file i = .moved k) ∨ ∃ e, env.file i = .errno e

/-- What a run whose socket splices never block keeps, whatever `remain`:
at the loop head the pipe is empty and `remain` positive, in `fsc.Write` the
pipe holds the chunk `n`, and in both the socket still holds `remain` bytes.
Go's `remain -= n` may wrap below zero on a `remain` past `int64`; it never
rises. -/
structure Draining (s : SpliceState) : Prop where
  idle : s.pc = .read ∨ s.pc = .loop ∨ s.pc = .parked →
    s.pipe = [] ∧ 0 < s.remain ∧ s.remain ≤ s.sock.length
  chunk : s.pc = .write ∨ s.pc = .bump →
    s.pipe.length = s.n ∧ s.n ≤ maxSpliceSize ∧ s.remain ≤ s.sock.length

theorem Draining.of_returned {s : SpliceState} {r : Option Error} (h : s.pc = .returned r) :
    Draining s :=
  ⟨(by rintro (h' | h' | h') <;> rw [h] at h' <;> cases h'),
    (by rintro (h' | h') <;> rw [h] at h' <;> cases h')⟩

section
variable {env : SpliceEnv} {s : SpliceState}

/-- The loop head: a splice of `t ≥ 1` bytes goes on to `fsc.Write` with the
chunk in the pipe and `remain` at most `remain - t`, and a failure returns. -/
theorem fromSocket_draining (hsock : SockProgress env) (h : Draining s) (hpc : s.pc = .loop) :
    Draining (s.fromSocket env) ∧ spliceMeasure (s.fromSocket env) < spliceMeasure s := by
  have hM : maxSpliceSize = 4194304 := rfl
  obtain ⟨hp, hr, hS⟩ := h.idle (.inr (.inl hpc))
  have hL : (spliceLen (min maxSpliceSize s.remain) : Int) = min maxSpliceSize s.remain :=
    spliceLen_cast (by omega) (Int.min_le_left _ _)
  have hne : spliceLen (min maxSpliceSize s.remain) ≠ 0 := by omega
  rw [fromSocket_eq]
  rcases hsock s.sockCalls with ⟨k, hk, hks⟩ | ⟨e, he, hks⟩
  · obtain ⟨t, ht0, htL, hsp⟩ :=
      splice_moved_progress (min maxSpliceSize s.remain) s.sock hk (by omega) (by omega)
    have hw := wrapInt64_le (x := s.remain - t) (by omega)
    rw [hks, hsp]
    simp only [reduceCtorEq, if_false, Option.isSome_none, Bool.false_eq_true]
    refine ⟨⟨(by rintro (h | h | h) <;> cases h), fun _ => ⟨?_, by dsimp only; omega, ?_⟩⟩,
      by simp only [spliceMeasure, hpc]; omega⟩
    · dsimp only; rw [hp, List.nil_append, List.length_take]; omega
    · dsimp only; rw [List.length_drop]; omega
  · rw [hks, splice, if_neg hne]
    simp only [Option.some.injEq, Error.errno.injEq, he, if_false, Option.isSome_some, if_true]
    exact ⟨.of_returned rfl, by simp only [spliceMeasure, hpc]; omega⟩

/-- Label `bump`: a write of `m ≥ 1` bytes of the chunk retries the rest,
or goes back to the loop head with an empty pipe, or leaves. -/
theorem toFile_draining (hfile : FileProgress env) (h : Draining s) (hpc : s.pc = .bump) :
    Draining (s.toFile env) ∧ spliceMeasure (s.toFile env) < spliceMeasure s := by
  obtain ⟨hpipe, hB, hS⟩ := h.chunk (.inr hpc)
  have hL : (spliceLen s.n : Int) = s.n := spliceLen_cast (by omega) hB
  rw [toFile_eq]
  by_cases hn : s.n = 0
  · -- an empty chunk is written at once
    rw [splice_of_spliceLen_zero (by rw [hn]; rfl)]
    simp only [Option.isSome_none, Option.isNone_none, Bool.false_eq_true, if_false, hn,
      Int.lt_irrefl, and_false]
    split_ifs
    · exact ⟨.of_returned rfl, by simp only [spliceMeasure, hpc]; omega⟩
    · exact ⟨⟨fun _ => ⟨List.eq_nil_of_length_eq_zero (by dsimp only; omega), by dsimp only; omega, hS⟩,
        by simp⟩, by simp only [spliceMeasure, hpc]; omega⟩
  rcases hfile s.fileCalls with ⟨k, hk, hkf⟩ | ⟨e, hkf⟩
  · obtain ⟨m, hm0, hmL, hsp⟩ := splice_moved_progress s.n s.pipe hk (by omega) (by omega)
    rw [hkf, hsp]
    simp only [Option.isSome_none, Option.isNone_none, Bool.false_eq_true, if_false, true_and]
    split_ifs
    · exact ⟨⟨by simp, fun _ => ⟨by dsimp only; rw [List.length_drop]; omega, by dsimp only; omega,
        hS⟩⟩, by simp only [spliceMeasure, hpc]; omega⟩
    · exact ⟨.of_returned rfl, by simp only [spliceMeasure, hpc]; omega⟩
    · exact ⟨⟨fun _ => ⟨List.drop_eq_nil_of_le (by omega), by dsimp only; omega, hS⟩, by simp⟩,
        by simp only [spliceMeasure, hpc]; omega⟩
  · rw [hkf, splice, if_neg (show spliceLen s.n ≠ 0 by omega)]
    simp only [Option.isSome_some, if_true]
    exact ⟨.of_returned rfl, by simp only [spliceMeasure, hpc]; omega⟩

/-- Every step before the return keeps `Draining` and lowers the measure. -/
theorem spliceStep_draining (hsock : SockProgress env) (hfile : FileProgress env) (h : Draining s)
    (hpc : ∀ r, s.pc ≠ .returned r) :
    Draining (spliceStep env s) ∧ spliceMeasure (spliceStep env s) < spliceMeasure s := by
  unfold spliceStep
  split
  case h_1 hp =>
    split
    · exact ⟨.of_returned rfl, by simp only [spliceMeasure, hp]; omega⟩
    · exact ⟨⟨fun _ => h.idle (.inl hp), by simp⟩, by simp only [spliceMeasure, hp]; omega⟩
  case h_2 hp => exact fromSocket_draining hsock h hp
  case h_3 hp =>
    split
    · exact ⟨.of_returned rfl, by simp only [spliceMeasure, hp]; omega⟩
    · exact ⟨⟨by simp, fun _ => h.chunk (.inl hp)⟩, by simp only [spliceMeasure, hp]; omega⟩
  case h_4 hp => exact toFile_draining hfile h hp
  case h_5 hp =>
    split
    · exact ⟨.of_returned rfl, by simp only [spliceMeasure, hp]; omega⟩
    · exact ⟨⟨fun _ => h.idle (.inr (.inr hp)), by simp⟩, by simp only [spliceMeasure, hp]; omega⟩
  case h_6 hp => exact absurd hp (hpc _)

/-- From a `Draining` state, a run in which every splice makes progress
reaches a return. -/
theorem spliceRun_returns (hsock : SockProgress env) (hfile : FileProgress env) (s : SpliceState)
    (h : Draining s) : ∃ k r, (spliceRun env k s).pc = .returned r := by
  by_cases hpc : ∃ r, s.pc = .returned r
  · obtain ⟨r, hr⟩ := hpc
    exact ⟨0, r, hr⟩
  · obtain ⟨h', hlt⟩ := spliceStep_draining hsock hfile h (fun r h => hpc ⟨r, h⟩)
    obtain ⟨k, r, hk⟩ := spliceRun_returns hsock hfile _ h'
    exact ⟨k + 1, r, hk⟩
termination_by spliceMeasure s

end

/-- When the stream holds at least `remain > 0` bytes and every splice moves
at least one byte or fails without blocking, `spliceToFile` returns: both
its loops end. -/
theorem spliceToFile_returns {env : SpliceEnv} (hsock : SockProgress env) (hfile : FileProgress env)
    {remain : Int} (hr : 0 < remain) {S : Bytes} (hS : remain ≤ S.length) (file : FileState) :
    ∃ fuel t, spliceToFile true env remain S file fuel = some t := by
  obtain ⟨k, r, hk⟩ := spliceRun_returns hsock hfile (spliceInit remain S file)
    ⟨fun _ => ⟨rfl, hr, hS⟩, by rintro (h | h) <;> cases h⟩
  refine ⟨k, ?_⟩
  simp [spliceToFile, SpliceState.result, hk]

/-- Splices that move one byte at a time, for two bytes. -/
theorem spliceToFile_returns_byte_by_byte :
    ∃ fuel t, spliceToFile true ⟨none, none, fun _ => .moved 1, fun _ => .moved 1, fun _ => none⟩
      2 [7, 8] ⟨[], 0⟩ fuel = some t :=
  spliceToFile_returns (fun _ => .inl ⟨1, Nat.one_pos, rfl⟩) (fun _ => .inl ⟨1, Nat.one_pos, rfl⟩)
    (by decide) (by decide) ⟨[], 0⟩

/-! ## The count -/

/-- Data always ready: every splice may move up to `maxSpliceSize` bytes. -/
def alwaysReady : SpliceEnv :=
  ⟨none, none, fun _ => .moved 4194304, fun _ => .moved 4194304, fun _ => none⟩

/-- An environment where data is always ready except that the first socket
splice would block. -/
def eagainOnce : SpliceEnv :=
  ⟨none, none, fun i => if i = 0 then .errno EAGAIN else .moved 4194304, fun _ => .moved 4194304,
    fun _ => none⟩

/-- Asked for one byte of `[7, 8]`, the transfer reports one byte written but
takes both bytes off the socket and writes both to the file: the would-block
splice's `-1` raised `remain` to 2. -/
theorem spliceToFile_overreads_after_eagain :
    spliceToFile true eagainOnce 1 [7, 8] ⟨[], 0⟩ 6 = some ⟨1, none, true, ⟨[7, 8], 2⟩, []⟩ := by
  decide

/-- A socket splice that fails (`ECONNRESET`) is returned with `written = -1`
although nothing reached the file. -/
theorem spliceToFile_reports_negative_written :
    spliceToFile true ⟨none, none, fun _ => .errno ⟨104⟩, fun _ => .moved 4194304, fun _ => none⟩
      5 [7, 8] ⟨[], 0⟩ 2 = some ⟨-1, some (.errno ⟨104⟩), true, ⟨[], 0⟩, [7, 8]⟩ := by
  decide

/-! ## A closed peer -/

/-- The run after the peer has closed with `remain` still positive: every
socket splice moves nothing, so each chunk is empty and its pipe-to-file
splice, of length 0, returns 0 without waiting. -/
def Spinning (s : SpliceState) : Prop :=
  s.sock = [] ∧ s.err = none ∧ 0 < s.remain ∧ s.remain < 2 ^ 63 ∧
    (s.pc = .loop ∨ (s.pc = .write ∧ s.n = 0) ∨ (s.pc = .bump ∧ s.n = 0))

theorem spliceStep_spinning {env : SpliceEnv} {s : SpliceState}
    (hsock : ∀ i, ∃ k, env.sock i = .moved k) (hwrite : env.writePrep = none) (h : Spinning s) :
    Spinning (spliceStep env s) := by
  obtain ⟨hs, he, hr, h64, hpc | ⟨hpc, hn⟩ | ⟨hpc, hn⟩⟩ := h
  · obtain ⟨k, hk⟩ := hsock s.sockCalls
    have hr' : splice (env.sock s.sockCalls) (min maxSpliceSize s.remain) s.sock = ⟨0, none, [], []⟩ := by
      rw [hk, hs]
      unfold splice
      split <;> simp
    have hw : wrapInt64 s.remain = s.remain := wrapInt64_of_mem (by omega) h64
    simp [Spinning, spliceStep, hpc, SpliceState.fromSocket, hr', hr, hw]; omega
  · simp [Spinning, spliceStep, hpc, hwrite, hs, he, hr, hn]; omega
  · have hr' : splice (env.file s.fileCalls) 0 s.pipe = ⟨0, none, [], s.pipe⟩ :=
      splice_of_spliceLen_zero (show spliceLen 0 = 0 from rfl) _ _
    simp [Spinning, spliceStep, hpc, SpliceState.toFile, hr', hs, hn, hr, Int.not_le.mpr hr]; omega

/-- On a peer that has closed before `remain` bytes came, with data and
poller otherwise cooperative, `spliceToFile` never returns, whatever the
file answers: for every positive `int64` `remain`. -/
theorem spliceToFile_spins_at_eof (sockAnswer : Nat → Nat) (fileAnswer : Nat → SpliceAnswer)
    (wake : Nat → Option PollError) (remain : Nat) (h64 : remain + 1 < 2 ^ 63) (file : FileState)
    (fuel : Nat) :
    spliceToFile true ⟨none, none, fun i => .moved (sockAnswer i), fileAnswer, wake⟩ (remain + 1) []
      file fuel = none := by
  set env : SpliceEnv := ⟨none, none, fun i => .moved (sockAnswer i), fileAnswer, wake⟩
  have run : ∀ k s, Spinning s → Spinning (spliceRun env k s) := by
    intro k
    induction k with
    | zero => exact fun s h => h
    | succ k ih => exact fun s h => ih _ (spliceStep_spinning (fun i => ⟨_, rfl⟩) rfl h)
  cases fuel with
  | zero => rfl
  | succ k =>
    obtain ⟨-, -, -, -, hpc⟩ := run k (spliceStep env (spliceInit (remain + 1) [] file))
      ⟨rfl, rfl, by simp [spliceStep, spliceInit], by simp only [spliceStep, spliceInit]; omega,
        .inl rfl⟩
    rcases hpc with h | ⟨h, -⟩ | ⟨h, -⟩ <;> simp [spliceToFile, spliceRun, SpliceState.result, h]

/-- A closed peer, one byte asked, every file splice answered with a byte. -/
theorem spliceToFile_spins_on_one_byte :
    spliceToFile true ⟨none, none, fun _ => .moved 4194304, fun _ => .moved 1, fun _ => none⟩ 1 []
      ⟨[], 0⟩ 100 = none :=
  spliceToFile_spins_at_eof (fun _ => 4194304) (fun _ => .moved 1) (fun _ => none) 0 (by decide)
    ⟨[], 0⟩ 100

end GoKtls
