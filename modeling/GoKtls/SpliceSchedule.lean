import GoKtls.Splice

/-! # The splice bridge under every schedule

The runs of `spliceToFile` in which the kernel may answer any socket splice
with a would-block (`EAGAIN`) or another failure, and the poller may fail
at any wake-up.  A failed socket splice comes back as `-1`, which the loop
subtracts from `remain` and adds to `written`: each would-block raises
`remain` by one, and these are `int64`s, so past `2^63 - 1` Go's `remain`
wraps to `-2^63`.

`Tally` holds in every state of a run from `spliceInit` with `0 < remain`
while `remain` plus the would-block answers met stays below `2^63`:
`written` is then the number of bytes taken off the socket minus the failed
socket splices, and `written + remain` is the initial `remain`.  At every
return the file has received the bytes taken, in stream order, but for the
chunk a failed transfer leaves in the pipe; a return with no error reports
`remain` although it has taken `remain + e` bytes off the socket and written
them all, `e` the number of would-block answers.  Without would-block
answers that is the transfer the caller asked for (`spliceToFile_ok`). -/
set_option autoImplicit false
namespace GoKtls

/-- A socket splice that fails: `unix.Splice` reports it as `-1`. -/
def SpliceAnswer.failed : SpliceAnswer → Bool
  | .moved _ => false
  | .errno _ => true

/-- A socket splice that would block. -/
def SpliceAnswer.wouldBlock (a : SpliceAnswer) : Bool := decide (a = .errno EAGAIN)

@[simp] theorem SpliceAnswer.failed_moved (k : Nat) : (SpliceAnswer.moved k).failed = false := rfl
@[simp] theorem SpliceAnswer.failed_errno (e : Errno) : (SpliceAnswer.errno e).failed = true := rfl
@[simp] theorem SpliceAnswer.wouldBlock_moved (k : Nat) : (SpliceAnswer.moved k).wouldBlock = false := rfl

@[simp] theorem SpliceAnswer.wouldBlock_errno (e : Errno) :
    (SpliceAnswer.errno e).wouldBlock = decide (e = EAGAIN) := by
  simp [SpliceAnswer.wouldBlock]

/-- How many of the first `k` socket splices the kernel answered with `p`. -/
def sockCount (p : SpliceAnswer → Bool) (env : SpliceEnv) : Nat → Nat
  | 0 => 0
  | k + 1 => sockCount p env k + if p (env.sock k) then 1 else 0

theorem sockCount_succ (p : SpliceAnswer → Bool) (env : SpliceEnv) (k : Nat) :
    sockCount p env (k + 1) = sockCount p env k + if p (env.sock k) then 1 else 0 := rfl

theorem sockCount_mono (p : SpliceAnswer → Bool) (env : SpliceEnv) {a b : Nat} (h : a ≤ b) :
    sockCount p env a ≤ sockCount p env b := by
  induction b, h using Nat.le_induction with
  | base => exact Nat.le_refl _
  | succ b _ ih => rw [sockCount_succ]; omega

theorem sockCount_wouldBlock_eq_zero {env : SpliceEnv} (hsock : ∀ i, env.sock i ≠ .errno EAGAIN) :
    ∀ k, sockCount SpliceAnswer.wouldBlock env k = 0 := by
  intro k
  induction k with
  | zero => rfl
  | succ k ih =>
    have : (env.sock k).wouldBlock = false := by simp [SpliceAnswer.wouldBlock, hsock k]
    rw [sockCount_succ, ih, this]; rfl

/-- A splice of non-zero length consults the kernel's answer. -/
theorem splice_moved_of_ne {len : Int} (hne : spliceLen len ≠ 0) (k : Nat) (src : Bytes) :
    splice (.moved k) len src =
      ⟨((min k (min (spliceLen len) src.length) : Nat) : Int), none,
        src.take (min k (min (spliceLen len) src.length)),
        src.drop (min k (min (spliceLen len) src.length))⟩ := by
  rw [splice, if_neg hne]

theorem splice_errno_of_ne {len : Int} (hne : spliceLen len ≠ 0) (e : Errno) (src : Bytes) :
    splice (.errno e) len src = ⟨-1, some (.errno e), [], src⟩ := by
  rw [splice, if_neg hne]

/-- What holds in every state of a run from `spliceInit remain S file` with
`0 < remain`, whatever the kernel and the poller answer, while `remain`
plus the would-block answers met stays below `2^63`. -/
structure Tally (env : SpliceEnv) (remain : Int) (S : Bytes) (s : SpliceState) : Prop where
  /-- `written` is the number of bytes taken off the socket, minus one per
  failed socket splice. -/
  taken : s.written + sockCount SpliceAnswer.failed env s.sockCalls + s.sock.length = S.length
  sock_le : s.sock.length ≤ S.length
  /-- While no error is pending, every failed socket splice would have
  blocked, and `written + remain` is the initial `remain`. -/
  wouldBlocks : s.err = none →
    sockCount SpliceAnswer.failed env s.sockCalls = sockCount SpliceAnswer.wouldBlock env s.sockCalls
  conserves : s.err = none → s.written + s.remain = remain
  /-- At the loop head the pipe is empty and `remain` positive, so the next
  socket splice has a non-zero length. -/
  idle : s.pc = .read ∨ s.pc = .loop ∨ s.pc = .parked → s.pipe = [] ∧ 0 < s.remain ∧ s.err = none
  /-- In `fsc.Write` the pipe holds the rest of the chunk, `n` bytes. -/
  chunk : s.pc = .write ∨ s.pc = .bump → s.pipe.length = s.n ∧ 0 ≤ s.remain ∧ s.err = none
  finished : s.pc = .returned none → s.err = none → s.remain = 0 ∧ s.pipe = []

section
variable {env : SpliceEnv} {remain : Int} {S : Bytes} {s : SpliceState}

theorem tally_init (hr : 0 < remain) (file : FileState) :
    Tally env remain S (spliceInit remain S file) :=
  ⟨by simp [spliceInit, sockCount], Nat.le_refl _, fun _ => rfl, fun _ => Int.zero_add remain,
    fun _ => ⟨rfl, hr, rfl⟩, (by rintro (h | h) <;> cases h), fun h => by cases h⟩

/-- A step that only moves the program counter keeps `Tally` when the state
meets the new place's conditions. -/
theorem Tally.jump (h : Tally env remain S s) (q : SplicePc) (w : Nat)
    (hidle : q = .read ∨ q = .loop ∨ q = .parked → s.pipe = [] ∧ 0 < s.remain ∧ s.err = none)
    (hchunk : q = .write ∨ q = .bump → s.pipe.length = s.n ∧ 0 ≤ s.remain ∧ s.err = none)
    (hfin : q = .returned none → s.err = none → s.remain = 0 ∧ s.pipe = []) :
    Tally env remain S { s with pc := q, wakes := w } :=
  ⟨h.taken, h.sock_le, h.wouldBlocks, h.conserves, hidle, hchunk, hfin⟩

/-- The loop head: a splice of `t` bytes, a would-block, or a failure; each
moves `written` and the count of failures together, and below the bound
neither `int64` wraps. -/
theorem fromSocket_tally (hr : 0 < remain) (h : Tally env remain S s) (hpc : s.pc = .loop)
    (hb : remain + sockCount SpliceAnswer.wouldBlock env (s.sockCalls + 1) < 2 ^ 63) :
    Tally env remain S (s.fromSocket env) := by
  obtain ⟨hp, hpos, he⟩ := h.idle (.inr (.inl hpc))
  have hS := h.taken
  have hle := h.sock_le
  have hW := h.wouldBlocks he
  have hC := h.conserves he
  have hmono := sockCount_mono SpliceAnswer.wouldBlock env (Nat.le_add_right s.sockCalls 1)
  -- each failure so far lowered `written` by one and raised `remain` by one
  have hlo : -(sockCount SpliceAnswer.wouldBlock env s.sockCalls : Int) ≤ s.written := by omega
  have hhi : s.remain ≤ remain + sockCount SpliceAnswer.wouldBlock env s.sockCalls := by omega
  have hL : (spliceLen (min maxSpliceSize s.remain) : Int) = min maxSpliceSize s.remain :=
    spliceLen_cast (Int.le_min.mpr ⟨by decide, Int.le_of_lt hpos⟩) (Int.min_le_left _ _)
  have hne : spliceLen (min maxSpliceSize s.remain) ≠ 0 := by
    have : (0 : Int) < min maxSpliceSize s.remain := lt_min (by decide) hpos
    omega
  rw [fromSocket_eq]
  cases ha : env.sock s.sockCalls with
  | moved k =>
    rw [splice_moved_of_ne hne]
    have htL : min k (min (spliceLen (min maxSpliceSize s.remain)) s.sock.length) ≤
        spliceLen (min maxSpliceSize s.remain) := Nat.le_trans (Nat.min_le_right _ _) (Nat.min_le_left _ _)
    have hts : min k (min (spliceLen (min maxSpliceSize s.remain)) s.sock.length) ≤ s.sock.length :=
      Nat.le_trans (Nat.min_le_right _ _) (Nat.min_le_right _ _)
    generalize min k (min (spliceLen (min maxSpliceSize s.remain)) s.sock.length) = t at htL hts ⊢
    have htr := le_of_le_spliceLen_min (Int.le_of_lt hpos) htL
    have hfl : sockCount SpliceAnswer.failed env (s.sockCalls + 1) =
        sockCount SpliceAnswer.failed env s.sockCalls := by
      rw [sockCount_succ, ha, SpliceAnswer.failed_moved, if_neg Bool.false_ne_true, Nat.add_zero]
    have hwb : sockCount SpliceAnswer.wouldBlock env (s.sockCalls + 1) =
        sockCount SpliceAnswer.wouldBlock env s.sockCalls := by
      rw [sockCount_succ, ha, SpliceAnswer.wouldBlock_moved, if_neg Bool.false_ne_true, Nat.add_zero]
    rw [wrapInt64_of_mem (x := s.remain - t) (by omega) (by omega),
      wrapInt64_of_mem (x := s.written + t) (by omega) (by omega)]
    simp only [reduceCtorEq, if_false, Option.isSome_none, Bool.false_eq_true]
    refine ⟨?_, ?_, fun _ => ?_, fun _ => by dsimp only; omega, (by rintro (h | h | h) <;> cases h),
      fun _ => ⟨?_, by dsimp only; omega, rfl⟩, fun h => by cases h⟩
    · dsimp only; rw [hfl, List.length_drop]; omega
    · dsimp only; rw [List.length_drop]; omega
    · dsimp only; rw [hfl, hwb, hW]
    · dsimp only; rw [hp, List.nil_append, List.length_take]; omega
  | errno e =>
    rw [splice_errno_of_ne hne]
    have hfl : sockCount SpliceAnswer.failed env (s.sockCalls + 1) =
        sockCount SpliceAnswer.failed env s.sockCalls + 1 := by
      rw [sockCount_succ, ha, SpliceAnswer.failed_errno, if_pos rfl]
    rw [wrapInt64_of_mem (x := s.written + -1) (by omega) (by omega)]
    by_cases hb' : e = EAGAIN
    · -- would block: parked, with `remain` one higher
      subst hb'
      have hwb : sockCount SpliceAnswer.wouldBlock env (s.sockCalls + 1) =
          sockCount SpliceAnswer.wouldBlock env s.sockCalls + 1 := by
        rw [sockCount_succ, ha, SpliceAnswer.wouldBlock_errno]; rfl
      rw [wrapInt64_of_mem (x := s.remain - -1) (by omega) (by omega)]
      simp only [if_true]
      refine ⟨?_, hle, fun _ => ?_, fun _ => by dsimp only; omega,
        fun _ => ⟨?_, (by dsimp only; omega), rfl⟩, (by rintro (h | h) <;> cases h), fun h => by cases h⟩
      · dsimp only; rw [hfl]; omega
      · dsimp only; rw [hfl, hwb, hW]
      · dsimp only; rw [hp]; rfl
    · -- any other failure returns with it
      simp only [Option.some.injEq, Error.errno.injEq, hb', if_false, Option.isSome_some, if_true]
      refine ⟨?_, hle, (fun h => by cases h), (fun h => by cases h), (by rintro (h | h | h) <;> cases h),
        (by rintro (h | h) <;> cases h), fun _ h => by cases h⟩
      dsimp only; rw [hfl]; omega

/-- Label `bump`: the counts do not move; the chunk shrinks, or the loop
goes round with an empty pipe, or leaves. -/
theorem toFile_tally (h : Tally env remain S s) (hpc : s.pc = .bump) :
    Tally env remain S (s.toFile env) := by
  obtain ⟨hp, h0, he⟩ := h.chunk (.inr hpc)
  have hW := h.wouldBlocks he
  have hC := h.conserves he
  rw [toFile_eq]
  rcases splice_cases (env.file s.fileCalls) s.n s.pipe with ⟨t, -, htp, hsp⟩ | ⟨e, -, hsp⟩
  · simp only [hsp, Option.isSome_none, Option.isNone_none, Bool.false_eq_true, if_false, true_and]
    have hd : ((s.pipe.drop t).length : Int) = s.n - t := by rw [List.length_drop]; omega
    split_ifs with h1 h2
    · exact ⟨h.taken, h.sock_le, fun _ => hW, fun _ => hC, (by rintro (h | h | h) <;> cases h),
        fun _ => ⟨hd, h0, rfl⟩, fun h => by cases h⟩
    · exact ⟨h.taken, h.sock_le, fun _ => hW, fun _ => hC, (by rintro (h | h | h) <;> cases h),
        (by rintro (h | h) <;> cases h),
        fun _ _ => ⟨by dsimp only; omega, List.drop_eq_nil_of_le (by omega)⟩⟩
    · exact ⟨h.taken, h.sock_le, fun _ => hW, fun _ => hC,
        fun _ => ⟨List.drop_eq_nil_of_le (by omega), by dsimp only; omega, rfl⟩,
        (by rintro (h | h) <;> cases h), fun h => by cases h⟩
  · simp only [hsp, Option.isSome_some, if_true]
    exact ⟨h.taken, h.sock_le, (fun h => by cases h), (fun h => by cases h),
      (by rintro (h | h | h) <;> cases h), (by rintro (h | h) <;> cases h), fun _ h => by cases h⟩

theorem fromSocket_sockCalls (env : SpliceEnv) (s : SpliceState) :
    (s.fromSocket env).sockCalls = s.sockCalls + 1 := by
  rw [fromSocket_eq]

theorem spliceStep_tally (hr : 0 < remain) (h : Tally env remain S s)
    (hb : remain + sockCount SpliceAnswer.wouldBlock env (spliceStep env s).sockCalls < 2 ^ 63) :
    Tally env remain S (spliceStep env s) := by
  unfold spliceStep at hb ⊢
  split
  case h_1 hpc =>
    split
    · exact h.jump _ s.wakes (by rintro (h | h | h) <;> cases h) (by rintro (h | h) <;> cases h)
        (fun h => by cases h)
    · exact h.jump _ s.wakes (fun _ => h.idle (.inl hpc)) (by rintro (h | h) <;> cases h)
        (fun h => by cases h)
  case h_2 hpc =>
    simp only [hpc, fromSocket_sockCalls] at hb
    exact fromSocket_tally hr h hpc hb
  case h_3 hpc =>
    split
    · exact ⟨h.taken, h.sock_le, (fun h => by cases h), (fun h => by cases h),
        (by rintro (h | h | h) <;> cases h), (by rintro (h | h) <;> cases h), fun _ h => by cases h⟩
    · exact h.jump _ s.wakes (by rintro (h | h | h) <;> cases h) (fun _ => h.chunk (.inl hpc))
        (fun h => by cases h)
  case h_4 hpc => exact toFile_tally h hpc
  case h_5 hpc =>
    split
    · exact h.jump _ _ (by rintro (h | h | h) <;> cases h) (by rintro (h | h) <;> cases h)
        (fun h => by cases h)
    · exact h.jump _ _ (fun _ => h.idle (.inr (.inr hpc))) (by rintro (h | h) <;> cases h)
        (fun h => by cases h)
  case h_6 => exact h

/-- `Tally` holds along a run as long as the bound holds at its end: the
would-block count only grows. -/
theorem spliceRun_tally (hr : 0 < remain) :
    ∀ (fuel : Nat) (s : SpliceState), Tally env remain S s →
      remain + sockCount SpliceAnswer.wouldBlock env (spliceRun env fuel s).sockCalls < 2 ^ 63 →
      Tally env remain S (spliceRun env fuel s) := by
  intro fuel
  induction fuel with
  | zero => exact fun s h _ => h
  | succ k ih =>
    intro s h hb
    rw [spliceRun] at hb ⊢
    have hmono := sockCount_mono SpliceAnswer.wouldBlock env
      (spliceRun_sockCalls_le env k (spliceStep env s))
    exact ih _ (spliceStep_tally hr h (by omega)) hb

/-- What `sc.Read`'s return gives back. -/
theorem SpliceState.result_some {t : Transfer} (h : s.result = some t) :
    ∃ rerr, s.pc = .returned rerr ∧
      t = ⟨s.written, if s.err.isNone then rerr else s.err, true, s.file, s.sock⟩ := by
  unfold SpliceState.result at h
  split at h
  case h_1 rerr hpc => cases h; exact ⟨rerr, hpc, rfl⟩
  case h_2 => cases h

/-- A return with no error comes from label `bump` with the whole chunk
written and nothing left to take. -/
theorem Tally.ok_of_result (h : Tally env remain S s) {t : Transfer} (hres : s.result = some t)
    (herr : t.err = none) : s.err = none ∧ s.remain = 0 ∧ s.pipe = [] ∧
      t = ⟨s.written, none, true, s.file, s.sock⟩ := by
  obtain ⟨rerr, hpc, rfl⟩ := SpliceState.result_some hres
  obtain ⟨hse, rfl⟩ : s.err = none ∧ rerr = none := by
    cases hs : s.err <;> simp_all
  obtain ⟨hrem, hp⟩ := h.finished hpc hse
  exact ⟨hse, hrem, hp, by rw [hse]; rfl⟩

/-- A return with no error from a state where `Tally` and `Flow` hold
reports `remain`, and has taken and written `remain + e` bytes, `e` the
would-block answers met. -/
theorem Tally.transfer_ok (hr : 0 < remain) (h : Tally env remain S s) {file : FileState} (hf : Flow file S s)
    {t : Transfer} (hres : s.result = some t) (herr : t.err = none) :
    remain.toNat + sockCount SpliceAnswer.wouldBlock env s.sockCalls ≤ S.length ∧
      t = ⟨remain, none, true,
        file.write (S.take (remain.toNat + sockCount SpliceAnswer.wouldBlock env s.sockCalls)),
        S.drop (remain.toNat + sockCount SpliceAnswer.wouldBlock env s.sockCalls)⟩ := by
  obtain ⟨w, hfw, hw⟩ := hf
  obtain ⟨hse, hrem, hp, rfl⟩ := h.ok_of_result hres herr
  have hT := h.taken
  rw [h.wouldBlocks hse] at hT
  have hC := h.conserves hse
  rw [hp, List.append_nil] at hw
  have hwl : w.length = remain.toNat + sockCount SpliceAnswer.wouldBlock env s.sockCalls := by
    rw [← hw, List.length_append] at hT; omega
  refine ⟨by rw [← hw, List.length_append]; omega, ?_⟩
  rw [hfw, ← hw, ← hwl, List.take_left, List.drop_left]
  congr 1; omega

end

/-- When no socket splice would block, a transfer of an `int64` `remain > 0`
that returns no error has written exactly `S[0:remain]` at the file's
offset, moving it past them, and left `S[remain:]` on the socket. -/
theorem spliceToFile_ok {env : SpliceEnv} (hsock : ∀ i, env.sock i ≠ .errno EAGAIN) {remain : Int}
    (hr : 0 < remain) (h64 : remain < 2 ^ 63) (S : Bytes) (file : FileState) {fuel : Nat}
    {t : Transfer} (h : spliceToFile true env remain S file fuel = some t) (herr : t.err = none) :
    t = ⟨remain, none, true, file.write (S.take remain.toNat), S.drop remain.toNat⟩ ∧
      remain ≤ S.length := by
  have h0 := sockCount_wouldBlock_eq_zero hsock
  simp only [spliceToFile, Bool.not_true, Bool.false_eq_true, if_false] at h
  have hT := (spliceRun_tally hr fuel _ (tally_init hr file) (by rw [h0]; omega)).transfer_ok hr
    (spliceRun_flow env remain S file fuel) h herr
  rw [h0, Nat.add_zero] at hT
  exact ⟨hT.2, by omega⟩

/-- Whatever the kernel and the poller answer, at every return of a transfer
of `remain > 0` bytes in which `remain` plus the would-block answers met
stays below `2^63`: the file has received at its offset a prefix `w` of the
stream, the next bytes `lost` were taken off the socket into the pipe and
are dropped with it, and the rest is left unread; `written` is the number
of bytes taken, `w ++ lost`, minus the number of failed socket splices; and
with no error nothing is lost and `written = remain`. -/
theorem spliceRun_accounts (env : SpliceEnv) {remain : Int} (hr : 0 < remain) (S : Bytes)
    (file : FileState) (fuel : Nat) {t : Transfer}
    (h : (spliceRun env fuel (spliceInit remain S file)).result = some t)
    (h64 : remain + sockCount SpliceAnswer.wouldBlock env
      (spliceRun env fuel (spliceInit remain S file)).sockCalls < 2 ^ 63) :
    ∃ w lost, t.file = file.write w ∧ w ++ lost ++ t.unread = S ∧
      t.written + sockCount SpliceAnswer.failed env (spliceRun env fuel (spliceInit remain S file)).sockCalls =
        (w ++ lost).length ∧
      (t.err = none → lost = [] ∧ t.written = remain) := by
  have hc := spliceRun_tally hr fuel _ (tally_init hr file) h64
  obtain ⟨w, hf, hw⟩ := spliceRun_flow env remain S file fuel
  generalize spliceRun env fuel (spliceInit remain S file) = s at hc hf hw h ⊢
  obtain ⟨rerr, -, rfl⟩ := SpliceState.result_some h
  refine ⟨w, s.pipe, hf, hw, ?_, fun herr => ?_⟩
  · have := hc.taken
    rw [← hw, List.length_append, List.length_append] at this
    simp only [List.length_append]
    omega
  · obtain ⟨hse, hrem, hp, ht⟩ := hc.ok_of_result h herr
    have := hc.conserves hse
    exact ⟨hp, by rw [ht]; dsimp only; omega⟩

/-- The would-block answer of `spliceToFile_overreads_after_eagain`: one
byte reported, two taken and written, and the failed splice's `-1` makes up
the difference. -/
theorem spliceRun_accounts_overread :
    let t : Transfer := ⟨1, none, true, ⟨[7, 8], 2⟩, []⟩
    (spliceRun eagainOnce 6 (spliceInit 1 [7, 8] ⟨[], 0⟩)).result = some t ∧
      ∃ w lost, t.file = (⟨[], 0⟩ : FileState).write w ∧ w ++ lost ++ t.unread = [7, 8] ∧
        t.written + sockCount SpliceAnswer.failed eagainOnce
          (spliceRun eagainOnce 6 (spliceInit 1 [7, 8] ⟨[], 0⟩)).sockCalls = (w ++ lost).length ∧
        (t.err = none → lost = [] ∧ t.written = 1) := by
  intro t
  have h : (spliceRun eagainOnce 6 (spliceInit 1 [7, 8] ⟨[], 0⟩)).result = some t := by decide
  exact ⟨h, spliceRun_accounts eagainOnce (by decide) [7, 8] ⟨[], 0⟩ 6 h (by decide)⟩

/-- A transfer of `remain > 0` bytes that returns no error, with `remain`
plus the would-block answers it met below `2^63`, reports `remain` but has
taken `remain + e` bytes off the socket, `e` the number of would-block
answers, and written all of them to the file at its offset: each
would-block is counted as `-1` and raises `remain` by one. -/
theorem spliceRun_ok_after_wouldBlocks (env : SpliceEnv) {remain : Int} (hr : 0 < remain)
    (S : Bytes) (file : FileState) (fuel : Nat) {t : Transfer}
    (h : (spliceRun env fuel (spliceInit remain S file)).result = some t) (herr : t.err = none)
    (h64 : remain + sockCount SpliceAnswer.wouldBlock env
      (spliceRun env fuel (spliceInit remain S file)).sockCalls < 2 ^ 63) :
    let e := sockCount SpliceAnswer.wouldBlock env (spliceRun env fuel (spliceInit remain S file)).sockCalls
    remain.toNat + e ≤ S.length ∧
      t = ⟨remain, none, true, file.write (S.take (remain.toNat + e)), S.drop (remain.toNat + e)⟩ :=
  (spliceRun_tally hr fuel _ (tally_init hr file) h64).transfer_ok hr
    (spliceRun_flow env remain S file fuel) h herr

/-- The same run: one would-block answer, two bytes taken and written for the
one byte asked. -/
theorem spliceRun_ok_after_one_wouldBlock :
    let t : Transfer := ⟨1, none, true, ⟨[7, 8], 2⟩, []⟩
    let e := sockCount SpliceAnswer.wouldBlock eagainOnce
      (spliceRun eagainOnce 6 (spliceInit 1 [7, 8] ⟨[], 0⟩)).sockCalls
    (spliceRun eagainOnce 6 (spliceInit 1 [7, 8] ⟨[], 0⟩)).result = some t ∧ t.err = none ∧
      (1 : Int).toNat + e ≤ [7, 8].length ∧
      t = ⟨1, none, true, (⟨[], 0⟩ : FileState).write ([7, 8].take ((1 : Int).toNat + e)),
        [7, 8].drop ((1 : Int).toNat + e)⟩ := by
  intro t e
  have h : (spliceRun eagainOnce 6 (spliceInit 1 [7, 8] ⟨[], 0⟩)).result = some t := by decide
  exact ⟨h, rfl, spliceRun_ok_after_wouldBlocks eagainOnce (by decide) [7, 8] ⟨[], 0⟩ 6 h rfl
    (by decide)⟩

/-- The bound is needed: with `remain = 2^63 - 1` one would-block answer
raises Go's `remain` past the largest `int64`, to `-2^63`, and once the peer
has closed the transfer returns no error with `written = -1`. -/
example : spliceToFile true ⟨none, none, fun i => if i = 0 then .errno EAGAIN else .moved 4194304,
    fun _ => .moved 4194304, fun _ => none⟩ (2 ^ 63 - 1) [] ⟨[], 0⟩ 6 =
    some ⟨-1, none, true, ⟨[], 0⟩, []⟩ := by
  decide

end GoKtls
