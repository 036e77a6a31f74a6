import GoKtls.Basic

/-! # Record-type I/O on an offloaded socket

`ktlsReadRecord` (ktls_linux.go:386-450) receives one record with
`recvmsg`, asking for a one-byte control message with the record type;
`ktlsReadDataFromRecord` (452-471) passes application data through, maps a
`close_notify` alert to `io.EOF` and everything else to an error;
`ktlsSendCtrlMessage` (515-558) sends a buffer tagged with a record type.
All three park on the runtime poller while the kernel answers `EAGAIN`.

`ktlsReadDataFromRecord_spec`: on every return the count lies in
`[0, len(b)]`, is positive only for an application-data record tagged
`(SOL_TLS, TLS_GET_RECORD_TYPE)`, whose payload is then in `b[0:n]`, and the
error is `io.EOF` exactly for a zero-length read or a close-notify alert.
The send path has no counterpart of the read path's `n == -1` fix: a failed
`sendmsg` is reported with the count `-1`
(`ktlsSendCtrlMessage_returns_minus_one`).

Would-block answers the poller wakes from leave no trace: both paths
return what they return without them (`recordIO_ignores_retries`). -/
set_option autoImplicit false
namespace GoKtls

/-- Modelled from the spec: the record types and the close-notify alert of
the TLS package (its `common.go` and `alert.go`, not under src/), with the
values of the TLS record protocol. -/
def recordTypeAlert : UInt8 := 21
def recordTypeApplicationData : UInt8 := 23
def alertCloseNotify : UInt8 := 0

/-- `rwc.Read(f)` and `rwc.Write(f)` (internal/poll `RawRead`, `RawWrite`):
unless the lock or deadline check `prep` fails first, `f` sees the kernel's
answers in turn until one is `done`; after each other answer the poller
wakes the goroutine or fails.  The result is the last answer `f` saw and
the poller's error; `none` while the goroutine is still parked. -/
def rawLoop {α : Type} (done : α → Bool) (prep : Option PollError) (answers : List α)
    (wakes : List (Option PollError)) : Option (Option α × Option PollError) :=
  match prep with
  | some p => some (none, some p)
  | none => go answers wakes
where
  go : List α → List (Option PollError) → Option (Option α × Option PollError)
    | [], _ => none
    | a :: as, ws =>
      if done a then some (some a, none)
      else
        match ws with
        | [] => none
        | some p :: _ => some (some a, some p)
        | none :: ws => go as ws

/-- The kernel's answer to one `recvmsg`: an errno (count `-1`), or a record
payload with the control message's level, type and record-type byte. -/
inductive Recv where
  | errno (e : Errno)
  | received (payload : Bytes) (level type : Nat) (recType : UInt8)
  deriving DecidableEq, Repr

/-- `recvmsg` into `b`: `(n, err)` as `unix.Syscall` reports them. -/
def Recv.result (b : Bytes) : Recv → Int × Option Error
  | .errno e => (-1, errnoErr e)
  | .received payload _ _ _ => ((min payload.length b.length : Nat), none)

/-- The callback of ktlsReadRecord returns false on `EAGAIN` only. -/
def Recv.done : Recv → Bool
  | .errno e => e ≠ EAGAIN
  | .received _ _ _ _ => true

/-- `b` after the kernel wrote `n` payload bytes into it. -/
def Recv.fill (b : Bytes) : Recv → Bytes
  | .errno _ => b
  | .received payload _ _ _ => payload.take b.length ++ b.drop payload.length

structure ReadRecord where
  typ : UInt8
  n : Int
  err : Option Error
  /-- `b` after the call. -/
  buf : Bytes
  deriving DecidableEq, Repr

/-- ktls_linux.go:421-449: what ktlsReadRecord returns once the poller loop
has ended on the answer `last` (`none` if the callback never ran, when `n`
is still 0 and `err` nil) with its own error `err0`.  The callback has
turned a zero-length read into `io.EOF`. -/
def readRecordResult (b : Bytes) (last : Option Recv) (err0 : Option PollError) : ReadRecord :=
  let (n, err) : Int × Option Error :=
    match last with
    | none => (0, none)
    | some r =>
      let (n, err) := r.result b
      (n, if err.isNone ∧ n = 0 then some .eof else err)
  let buf := match last with
    | none => b
    | some r => r.fill b
  match (if err0.isSome then err0.map .poll else err) with
  | some e => ⟨0, if n = -1 then 0 else n, some e, buf⟩
  | none =>
    if n < 0 then ⟨0, 0, some (.errorf ("unknown size received: " ++ toString n)), buf⟩
    else if n = 0 then ⟨0, 0, none, buf⟩
    else
      match last with
      | some (.received _ level type recType) =>
        if level ≠ SOL_TLS then ⟨0, 0, some (.errorf ("unsupported cmsg level: " ++ toString level)), buf⟩
        else if type ≠ TLS_GET_RECORD_TYPE then
          ⟨0, 0, some (.errorf ("unsupported cmsg type: " ++ toString type)), buf⟩
        else ⟨recType, n, none, buf⟩
      | _ => ⟨0, 0, none, buf⟩

/-- ktls_linux.go:386-450.  Go panics at `&b[0]` on an empty `b`; every
statement below is about a non-empty one. -/
def ktlsReadRecord (b : Bytes) (prep : Option PollError) (answers : List Recv)
    (wakes : List (Option PollError)) : Option ReadRecord :=
  (rawLoop Recv.done prep answers wakes).map fun (last, err0) => readRecordResult b last err0

/-- ktls_linux.go:454-470 on the record read: `(n, err)` and `b`. -/
def dataFromRecord (r : ReadRecord) : Int × Option Error × Bytes :=
  match r.err with
  | some e => (r.n, some e, r.buf)
  | none =>
    if r.typ = recordTypeAlert then
      if r.n < 2 then (0, some (.errorf "ktls alert payload too short"), r.buf)
      else if r.buf.getD 1 0 = alertCloseNotify then (0, some .eof, r.buf)
      else (0, some (.errorf ("unsupported ktls alert type: " ++ toString (r.buf.getD 0 0))), r.buf)
    else if r.typ = recordTypeApplicationData then (r.n, none, r.buf)
    else (0, some (.errorf ("unsupported ktls record type: " ++ toString r.typ)), r.buf)

/-- ktls_linux.go:452-471. -/
def ktlsReadDataFromRecord (b : Bytes) (prep : Option PollError) (answers : List Recv)
    (wakes : List (Option PollError)) : Option (Int × Option Error × Bytes) :=
  (ktlsReadRecord b prep answers wakes).map dataFromRecord

/-! ## Every return of the read path -/

theorem rawLoop_go_ends {α : Type} (done : α → Bool) :
    ∀ (as : List α) (ws : List (Option PollError)) (last : Option α) (err0 : Option PollError),
      rawLoop.go done as ws = some (last, err0) →
        (err0 = none ∧ ∃ a, last = some a ∧ done a = true) ∨
          (∃ p, err0 = some p ∧ ∃ a, last = some a ∧ done a = false) := by
  intro as
  induction as with
  | nil => intro ws last err0 h; simp [rawLoop.go] at h
  | cons a as ih =>
    intro ws last err0 h
    simp only [rawLoop.go] at h
    split at h
    · cases h; exact .inl ⟨rfl, a, rfl, ‹_›⟩
    · split at h
      · cases h
      · cases h; exact .inr ⟨_, rfl, a, rfl, by simpa using ‹¬done a = true›⟩
      · exact ih _ _ _ h

/-- The poller loop ends on a done answer, or with the poller's error after
one that was not done, or before the callback ran. -/
theorem rawLoop_ends {α : Type} {done : α → Bool} {prep : Option PollError} {as : List α}
    {ws : List (Option PollError)} {last : Option α} {err0 : Option PollError}
    (h : rawLoop done prep as ws = some (last, err0)) :
    (err0 = none ∧ ∃ a, last = some a ∧ done a = true) ∨
      (∃ p, err0 = some p ∧ ∀ a, last = some a → done a = false) := by
  unfold rawLoop at h
  split at h
  · cases h; exact .inr ⟨_, rfl, fun a h => by cases h⟩
  · rcases rawLoop_go_ends done as ws last err0 h with h | ⟨p, hp, a, rfl, ha⟩
    · exact .inl h
    · exact .inr ⟨p, hp, fun b hb => by cases hb; exact ha⟩

/-! ## Retries leave no trace -/

/-- An answer that is not done, followed by a wake-up without error, changes
nothing wherever it stands before the loop ends: the callback runs again as
if it had not been answered. -/
theorem rawLoop_go_retry {α : Type} (done : α → Bool) {a : α} (ha : done a = false)
    (as : List α) (ws : List (Option PollError)) :
    ∀ (xs : List α) (ys : List (Option PollError)), xs.length = ys.length →
      rawLoop.go done (xs ++ a :: as) (ys ++ none :: ws) = rawLoop.go done (xs ++ as) (ys ++ ws)
  | [], [], _ => by simp only [List.nil_append, rawLoop.go, ha, Bool.false_eq_true, if_false]
  | x :: xs, y :: ys, h => by
    rw [List.cons_append, List.cons_append, List.cons_append, List.cons_append]
    cases y <;> simp only [rawLoop.go, rawLoop_go_retry done ha as ws xs ys (Nat.succ.inj h)]

/-- `k` such answers, each followed by a wake-up, anywhere before the loop ends. -/
theorem rawLoop_retry {α : Type} (done : α → Bool) {a : α} (ha : done a = false)
    (prep : Option PollError) {xs : List α} {ys : List (Option PollError)} (h : xs.length = ys.length)
    (k : Nat) (as : List α) (ws : List (Option PollError)) :
    rawLoop done prep (xs ++ List.replicate k a ++ as) (ys ++ List.replicate k none ++ ws) =
      rawLoop done prep (xs ++ as) (ys ++ ws) := by
  cases prep with
  | some p => rfl
  | none =>
    induction k with
    | zero => simp only [List.replicate_zero, List.append_nil]
    | succ k ih =>
      simp only [rawLoop, List.replicate_succ, List.append_assoc, List.cons_append] at ih ⊢
      rw [rawLoop_go_retry done ha _ _ xs ys h, ih]

theorem readRecordResult_parked (b : Bytes) (last : Option Recv) (p : PollError)
    (hlast : ∀ a, last = some a → Recv.done a = false) :
    (dataFromRecord (readRecordResult b last (some p))).1 = 0 ∧
      (dataFromRecord (readRecordResult b last (some p))).2.1 = some (.poll p) := by
  rcases last with _ | ⟨e⟩ | ⟨payload, level, type, rt⟩
  · exact ⟨rfl, rfl⟩
  · exact ⟨rfl, rfl⟩
  · cases hlast _ rfl

theorem readRecordResult_errno (b : Bytes) (e : Errno) :
    (dataFromRecord (readRecordResult b (some (.errno e)) none)).1 = 0 ∧
      (dataFromRecord (readRecordResult b (some (.errno e)) none)).2.1 ≠ some .eof := by
  -- a zero code leaves no error, and the count -1 is reported as unknown; any
  -- other code is reported as such
  obtain ⟨_ | c⟩ := e <;> exact ⟨rfl, by intro h; cases h⟩

theorem readRecordResult_received (b payload : Bytes) (level type : Nat) (rt : UInt8)
    (hn : 0 < min payload.length b.length) :
    readRecordResult b (some (.received payload level type rt)) none =
      if level ≠ SOL_TLS then
        ⟨0, 0, some (.errorf ("unsupported cmsg level: " ++ toString level)),
          payload.take b.length ++ b.drop payload.length⟩
      else if type ≠ TLS_GET_RECORD_TYPE then
        ⟨0, 0, some (.errorf ("unsupported cmsg type: " ++ toString type)),
          payload.take b.length ++ b.drop payload.length⟩
      else ⟨rt, (min payload.length b.length : Nat), none, payload.take b.length ++ b.drop payload.length⟩ := by
  have h0 : ((min payload.length b.length : Nat) : Int) ≠ 0 := by omega
  have h1 : ¬ ((min payload.length b.length : Nat) : Int) < 0 := by omega
  simp only [readRecordResult, Recv.result, Recv.fill, Option.isNone_none, h0, and_false,
    if_false, Option.isSome_none, Bool.false_eq_true, h1]

theorem alert_ne_applicationData : recordTypeAlert ≠ recordTypeApplicationData := by decide

theorem dataFromRecord_ok (typ : UInt8) (n : Int) (buf : Bytes) :
    let r := dataFromRecord ⟨typ, n, none, buf⟩
    r.2.2 = buf ∧ (r.1 = if typ = recordTypeApplicationData then n else 0) ∧
      (r.2.1 = none ↔ typ = recordTypeApplicationData) ∧
      (r.2.1 = some .eof ↔ typ = recordTypeAlert ∧ 2 ≤ n ∧ buf.getD 1 0 = alertCloseNotify) := by
  have had := alert_ne_applicationData
  by_cases ha : typ = recordTypeAlert
  · subst ha
    by_cases h2 : n < 2
    · have h2' : ¬ 2 ≤ n := by omega
      simp [dataFromRecord, h2, had, h2']
    · have h2' : 2 ≤ n := by omega
      by_cases hc : buf.getD 1 0 = alertCloseNotify
      · have e : dataFromRecord ⟨recordTypeAlert, n, none, buf⟩ = (0, some .eof, buf) := by
          simp only [dataFromRecord, if_true, h2, if_false, hc]
        dsimp only; rw [e]
        exact ⟨rfl, by rw [if_neg had], by simpa using had, ⟨fun _ => ⟨rfl, h2', hc⟩, fun _ => rfl⟩⟩
      · have e : dataFromRecord ⟨recordTypeAlert, n, none, buf⟩ =
            (0, some (.errorf ("unsupported ktls alert type: " ++ toString (buf.getD 0 0))), buf) := by
          simp only [dataFromRecord, if_true, h2, if_false, hc]
        dsimp only; rw [e]
        exact ⟨rfl, by rw [if_neg had], by simpa using had, ⟨nofun, fun h => absurd h.2.2 hc⟩⟩
  · by_cases hd : typ = recordTypeApplicationData
    · subst hd; simp [dataFromRecord, had.symm]
    · simp [dataFromRecord, ha, hd]

theorem fill_take (b payload : Bytes) (n : Nat) (hn : n ≤ min payload.length b.length) :
    (payload.take b.length ++ b.drop payload.length).take n = payload.take n := by
  rw [List.take_append_of_le_length (by simp; omega), List.take_take, Nat.min_eq_left (by omega)]

theorem fill_getD (b payload : Bytes) (h2 : 2 ≤ min payload.length b.length) :
    (payload.take b.length ++ b.drop payload.length).getD 1 0 = payload.getD 1 0 := by
  simp only [List.getD_eq_getElem?_getD]
  rw [List.getElem?_append_left (by simp; omega), List.getElem?_take_of_lt (by omega)]

/-- What the caller sees of a record received after the loop. -/
theorem dataFromRecord_received (b payload : Bytes) (level type : Nat) (rt : UInt8)
    (hb : b ≠ []) :
    let r := dataFromRecord (readRecordResult b (some (.received payload level type rt)) none)
    0 ≤ r.1 ∧ r.1 ≤ b.length ∧
    (0 < r.1 → r.2.1 = none ∧ level = SOL_TLS ∧ type = TLS_GET_RECORD_TYPE ∧
      rt = recordTypeApplicationData ∧ r.1 = (min payload.length b.length : Nat) ∧
      r.2.2.take r.1.toNat = payload.take r.1.toNat) ∧
    (r.2.1 = some .eof ↔ payload = [] ∨ (level = SOL_TLS ∧ type = TLS_GET_RECORD_TYPE ∧
      rt = recordTypeAlert ∧ 2 ≤ min payload.length b.length ∧
      payload.getD 1 0 = alertCloseNotify)) := by
  intro r
  have hb0 : 0 < b.length := List.length_pos.mpr hb
  by_cases hp : payload = []
  · subst hp
    simp [r, readRecordResult, dataFromRecord, Recv.result, Int.ofNat_nonneg]
  have hn : 0 < min payload.length b.length := by
    have := List.length_pos.mpr hp; omega
  simp only [r, readRecordResult_received b payload level type rt hn]
  by_cases hl : level = SOL_TLS
  · by_cases ht : type = TLS_GET_RECORD_TYPE
    · simp only [hl, ht, ne_eq, not_true_eq_false, if_false, hp, false_or, true_and]
      obtain ⟨hbuf, hk, hnone, heof⟩ := dataFromRecord_ok rt (min payload.length b.length : Nat)
        (payload.take b.length ++ b.drop payload.length)
      rw [hbuf, hk, heof]
      split_ifs with hd
      · have hna : rt ≠ recordTypeAlert := fun h => alert_ne_applicationData (h.symm.trans hd)
        refine ⟨by omega, by omega, fun _ => ⟨hnone.mpr hd, hd, rfl, ?_⟩,
          iff_of_false (hna ∘ And.left) (hna ∘ And.left)⟩
        rw [Int.toNat_ofNat]; exact fill_take b payload _ (Nat.le_refl _)
      · refine ⟨Int.le_refl 0, by omega, fun h => absurd h (Int.lt_irrefl 0), ?_⟩
        constructor
        · rintro ⟨ha, h2, hc⟩
          exact ⟨ha, by omega, by rwa [fill_getD b payload (by omega)] at hc⟩
        · rintro ⟨ha, h2, hc⟩
          exact ⟨ha, by omega, by rwa [fill_getD b payload h2]⟩
    · rw [if_neg (not_not_intro hl), if_pos ht]
      exact ⟨Int.le_refl 0, Int.ofNat_nonneg _, fun h => absurd h (Int.lt_irrefl 0),
        iff_of_false (by intro h; cases h) (by rintro (h | ⟨-, h, -⟩) <;> contradiction)⟩
  · rw [if_pos hl]
    exact ⟨Int.le_refl 0, Int.ofNat_nonneg _, fun h => absurd h (Int.lt_irrefl 0),
      iff_of_false (by intro h; cases h) (by rintro (h | ⟨h, -⟩) <;> contradiction)⟩

/-- Every return of `ktlsReadDataFromRecord` on a non-empty buffer. -/
theorem ktlsReadDataFromRecord_spec (b : Bytes) (hb : b ≠ []) (prep : Option PollError)
    (answers : List Recv) (wakes : List (Option PollError)) (k : Int) (err : Option Error)
    (buf : Bytes) (h : ktlsReadDataFromRecord b prep answers wakes = some (k, err, buf)) :
    0 ≤ k ∧ k ≤ b.length ∧
    (0 < k → err = none ∧ ∃ payload, rawLoop Recv.done prep answers wakes =
        some (some (.received payload SOL_TLS TLS_GET_RECORD_TYPE recordTypeApplicationData), none) ∧
        k = (min payload.length b.length : Nat) ∧ buf.take k.toNat = payload.take k.toNat) ∧
    (err = some .eof ↔ ∃ payload level type rt, rawLoop Recv.done prep answers wakes =
        some (some (.received payload level type rt), none) ∧
        (payload = [] ∨ (level = SOL_TLS ∧ type = TLS_GET_RECORD_TYPE ∧ rt = recordTypeAlert ∧
          2 ≤ min payload.length b.length ∧ payload.getD 1 0 = alertCloseNotify))) := by
  simp only [ktlsReadDataFromRecord, ktlsReadRecord, Option.map_map, Option.map_eq_some'] at h
  obtain ⟨⟨last, err0⟩, hloop, hres⟩ := h
  simp only [Function.comp] at hres
  rw [hloop]
  rcases rawLoop_ends hloop with ⟨rfl, a, rfl, -⟩ | ⟨p, rfl, hlast⟩
  · cases a with
    | errno e =>
      obtain ⟨h1, h2⟩ := readRecordResult_errno b e
      rw [hres] at h1 h2
      obtain rfl : k = 0 := h1
      refine ⟨Int.le_refl 0, Int.ofNat_nonneg _, fun h => absurd h (Int.lt_irrefl 0),
        iff_of_false h2 ?_⟩
      rintro ⟨_, _, _, _, h, -⟩
      cases h
    | received payload level type rt =>
      have := dataFromRecord_received b payload level type rt hb
      rw [hres] at this
      obtain ⟨h1, h2, h3, h4⟩ := this
      refine ⟨h1, h2, fun hk => ?_, ?_⟩
      · obtain ⟨he, rfl, rfl, rfl, hk', htake⟩ := h3 hk
        exact ⟨he, payload, rfl, hk', htake⟩
      · rw [h4]
        constructor
        · exact fun h => ⟨payload, level, type, rt, rfl, h⟩
        · rintro ⟨p', l', t', r', he, h⟩
          cases he
          exact h
  · obtain ⟨h1, h2⟩ := readRecordResult_parked b last p hlast
    rw [hres] at h1 h2
    obtain rfl : k = 0 := h1
    obtain rfl : err = some (.poll p) := h2
    refine ⟨Int.le_refl 0, Int.ofNat_nonneg _, fun h => absurd h (Int.lt_irrefl 0),
      iff_of_false (by intro h; cases h) ?_⟩
    rintro ⟨_, _, _, _, h, -⟩
    cases h

/-- A three-byte application-data record read into a two-byte buffer. -/
theorem ktlsReadDataFromRecord_short_buffer :
    let answers : List Recv :=
      [.received [5, 6, 7] SOL_TLS TLS_GET_RECORD_TYPE recordTypeApplicationData]
    ktlsReadDataFromRecord [0, 0] none answers [] = some (2, none, [5, 6]) ∧
    0 ≤ (2 : Int) ∧ (2 : Int) ≤ ([0, 0] : Bytes).length ∧
    (0 < (2 : Int) → (none : Option Error) = none ∧ ∃ payload, rawLoop Recv.done none answers [] =
        some (some (.received payload SOL_TLS TLS_GET_RECORD_TYPE recordTypeApplicationData), none) ∧
        (2 : Int) = (min payload.length ([0, 0] : Bytes).length : Nat) ∧
        ([5, 6] : Bytes).take (2 : Int).toNat = payload.take (2 : Int).toNat) ∧
    ((none : Option Error) = some .eof ↔ ∃ payload level type rt, rawLoop Recv.done none answers [] =
        some (some (.received payload level type rt), none) ∧
        (payload = [] ∨ (level = SOL_TLS ∧ type = TLS_GET_RECORD_TYPE ∧ rt = recordTypeAlert ∧
          2 ≤ min payload.length ([0, 0] : Bytes).length ∧ payload.getD 1 0 = alertCloseNotify))) := by
  intro answers
  have h : ktlsReadDataFromRecord [0, 0] none answers [] = some (2, none, [5, 6]) := by decide
  exact ⟨h, ktlsReadDataFromRecord_spec [0, 0] (by decide) none answers [] 2 none [5, 6] h⟩

/-! ## The send path -/

/-- The kernel's answer to one `sendmsg`: an errno, or `k` bytes sent. -/
inductive Send where
  | errno (e : Errno)
  | sent (k : Nat)
  deriving DecidableEq, Repr

def Send.done : Send → Bool
  | .errno e => e ≠ EAGAIN
  | .sent _ => true

/-- ktls_linux.go:515-558 on a non-empty `b`: the control message carries
`(SOL_TLS, TLS_SET_RECORD_TYPE, typ)`; the result is `(n, err)`. -/
def ktlsSendCtrlMessage (b : Bytes) (prep : Option PollError) (answers : List Send)
    (wakes : List (Option PollError)) : Option (Int × Option Error) := do
  let (last, err0) ← rawLoop Send.done prep answers wakes
  let (n, err) : Int × Option Error :=
    match last with
    | none => (0, none)
    | some (.errno e) => (-1, errnoErr e)
    | some (.sent k) => ((min k b.length : Nat), none)
  return (n, if err0.isSome then err0.map .poll else err)

theorem ktlsSendCtrlMessage_returns_minus_one :
    ktlsSendCtrlMessage [1, 0] none [.errno ⟨32⟩] [] = some (-1, some (.errno ⟨32⟩)) := by
  decide

/-- However often the kernel answers `EAGAIN` and the poller then wakes the
goroutine without error, wherever this happens before the loop ends,
ktlsReadRecord (type, count, error and buffer, and so what
ktlsReadDataFromRecord returns) and ktlsSendCtrlMessage return what they
return without those answers. -/
theorem recordIO_ignores_retries (b : Bytes) (prep : Option PollError) (k : Nat)
    {xs : List Recv} {ys : List (Option PollError)} (h : xs.length = ys.length)
    (as : List Recv) (ws : List (Option PollError))
    {xs' : List Send} {ys' : List (Option PollError)} (h' : xs'.length = ys'.length)
    (as' : List Send) (ws' : List (Option PollError)) :
    ktlsReadRecord b prep (xs ++ List.replicate k (.errno EAGAIN) ++ as) (ys ++ List.replicate k none ++ ws) =
      ktlsReadRecord b prep (xs ++ as) (ys ++ ws) ∧
    ktlsSendCtrlMessage b prep (xs' ++ List.replicate k (.errno EAGAIN) ++ as')
        (ys' ++ List.replicate k none ++ ws') =
      ktlsSendCtrlMessage b prep (xs' ++ as') (ys' ++ ws') := by
  have hr : Recv.done (.errno EAGAIN) = false := by decide
  have hs : Send.done (.errno EAGAIN) = false := by decide
  constructor
  · rw [ktlsReadRecord, ktlsReadRecord, rawLoop_retry Recv.done hr prep h]
  · simp only [ktlsSendCtrlMessage, rawLoop_retry Send.done hs prep h']

/-- Two would-block answers before an application-data record and before a
send. -/
theorem recordIO_ignores_two_retries :
    ktlsReadRecord [0] none ([] ++ List.replicate 2 (.errno EAGAIN) ++ [.received [5] SOL_TLS
        TLS_GET_RECORD_TYPE recordTypeApplicationData]) ([] ++ List.replicate 2 none ++ []) =
      ktlsReadRecord [0] none ([] ++ [.received [5] SOL_TLS TLS_GET_RECORD_TYPE recordTypeApplicationData])
        ([] ++ []) ∧
    ktlsSendCtrlMessage [0] none ([] ++ List.replicate 2 (.errno EAGAIN) ++ [.sent 1])
        ([] ++ List.replicate 2 none ++ []) =
      ktlsSendCtrlMessage [0] none ([] ++ [.sent 1]) ([] ++ []) :=
  recordIO_ignores_retries [0] none 2 rfl _ [] rfl _ []

end GoKtls
