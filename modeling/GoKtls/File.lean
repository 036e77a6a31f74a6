import GoKtls.Basic

/-! # Destination files

A regular file is its bytes and the descriptor's current offset.  A
`write` at an offset past the end leaves a hole that reads as zeros, and a
write of no bytes changes nothing.  `writeAt_append`: two writes at
adjacent offsets are one write of the concatenation, the fact behind every
"the file receives these bytes in order" statement. -/
set_option autoImplicit false
namespace GoKtls

structure FileState where
  content : Bytes
  pos : Nat
  deriving DecidableEq, Repr

/-- The file's bytes after writing `d` at offset `off`. -/
def writeAt (c : Bytes) (off : Nat) (d : Bytes) : Bytes :=
  if d = [] then c
  else c.take off ++ List.replicate (off - c.length) 0 ++ d ++ c.drop (off + d.length)

/-- `write(2)` at the current offset, which it advances. -/
def FileState.write (f : FileState) (d : Bytes) : FileState :=
  ⟨writeAt f.content f.pos d, f.pos + d.length⟩

/-- What a transfer into a file returns, `(written, err, handled)`, with the
file afterwards and the stream bytes left unread. -/
structure Transfer where
  written : Int
  err : Option Error
  handled : Bool
  file : FileState
  unread : Bytes
  deriving DecidableEq, Repr

/-- `f.Truncate(size)`: cut to `size` bytes, or extend with zeros. -/
def truncateTo (c : Bytes) (size : Nat) : Bytes :=
  c.take size ++ List.replicate (size - c.length) 0

@[simp] theorem writeAt_nil (c : Bytes) (off : Nat) : writeAt c off [] = c := by simp [writeAt]

@[simp] theorem FileState.write_nil (f : FileState) : f.write [] = f := by simp [FileState.write]

theorem length_writeAt (c : Bytes) (off : Nat) {d : Bytes} (hd : d ≠ []) :
    (writeAt c off d).length = max c.length (off + d.length) := by
  simp only [writeAt, hd, if_false, List.length_append, List.length_take, List.length_replicate,
    List.length_drop]
  omega

/-- What a write keeps before its offset, the old bytes padded with zeros, is
`off` bytes long. -/
theorem length_writeAt_pad (c : Bytes) (off : Nat) :
    (c.take off ++ List.replicate (off - c.length) 0).length = off := by
  simp only [List.length_append, List.length_take, List.length_replicate]; omega

theorem writeAt_append (c : Bytes) (off : Nat) (d₁ d₂ : Bytes) :
    writeAt (writeAt c off d₁) (off + d₁.length) d₂ = writeAt c off (d₁ ++ d₂) := by
  by_cases h₁ : d₁ = []
  · subst h₁; simp
  by_cases h₂ : d₂ = []
  · subst h₂; simp
  have hP := length_writeAt_pad c off
  have hlen := length_writeAt c off h₁
  have hpre : (writeAt c off d₁).take (off + d₁.length) =
      c.take off ++ List.replicate (off - c.length) 0 ++ d₁ := by
    rw [writeAt, if_neg h₁, List.take_left' (by rw [List.length_append, hP])]
  have hsuf : (writeAt c off d₁).drop (off + d₁.length + d₂.length) =
      c.drop (off + (d₁ ++ d₂).length) := by
    rw [writeAt, if_neg h₁, List.drop_append_eq_append_drop,
      List.drop_eq_nil_of_le (by rw [List.length_append, hP]; omega), List.nil_append, List.drop_drop]
    congr 1
    simp only [List.length_append, List.length_take, List.length_replicate]
    omega
  have hrep : off + d₁.length - (writeAt c off d₁).length = 0 := by omega
  rw [writeAt.eq_1 (writeAt c off d₁), if_neg h₂, hpre, hsuf, hrep, writeAt.eq_1 c,
    if_neg (by simp [h₁])]
  simp only [List.replicate_zero, List.append_nil, List.append_assoc]

/-- Extending a file with zeros up to the end of a write does not change
what the write leaves. -/
theorem writeAt_truncateTo (c : Bytes) (off : Nat) {d : Bytes} (hd : d ≠ [])
    (h : c.length < off + d.length) : writeAt (truncateTo c (off + d.length)) off d = writeAt c off d := by
  have hz : (truncateTo c (off + d.length)).take off = c.take off ++ List.replicate (off - c.length) 0 := by
    rw [truncateTo, List.take_of_length_le (show c.length ≤ off + d.length by omega),
      List.take_append_eq_append_take, List.take_replicate, Nat.min_eq_left (by omega)]
  have hl : (truncateTo c (off + d.length)).length = off + d.length := by
    simp only [truncateTo, List.length_append, List.length_take, List.length_replicate]; omega
  simp only [writeAt, hd, if_false, hz, hl, Nat.sub_eq_zero_of_le (Nat.le_add_right _ _),
    List.replicate_zero, List.append_nil, List.drop_eq_nil_of_le (Nat.le_of_eq hl),
    List.drop_eq_nil_of_le (Nat.le_of_lt h)]

/-- A write leaves `d` at `[off, off + len d)`. -/
theorem writeAt_drop_take (c : Bytes) (off : Nat) (d : Bytes) :
    ((writeAt c off d).drop off).take d.length = d := by
  by_cases hd : d = []
  · subst hd; rfl
  rw [writeAt, if_neg hd, List.append_assoc, List.drop_left' (length_writeAt_pad c off),
    List.take_left' rfl]

/-- A write leaves every byte outside `[off, off + len d)` as it was, a hole
reading as zeros. -/
theorem getD_writeAt (c : Bytes) (off : Nat) (d : Bytes) {i : Nat}
    (hi : i < off ∨ off + d.length ≤ i) : (writeAt c off d).getD i 0 = c.getD i 0 := by
  by_cases hd : d = []
  · subst hd; rfl
  have hP := length_writeAt_pad c off
  simp only [writeAt, if_neg hd, List.getD_eq_getElem?_getD]
  rcases hi with hi | hi
  · rw [List.append_assoc, List.getElem?_append_left (by omega)]
    by_cases hc : i < c.length
    · rw [List.getElem?_append_left (by rw [List.length_take]; omega), List.getElem?_take_of_lt hi]
    · rw [List.getElem?_append_right (by rw [List.length_take]; omega),
        List.getElem?_eq_none (show c.length ≤ i by omega), List.getElem?_replicate]
      split <;> rfl
  · rw [List.getElem?_append_right (by rw [List.length_append, hP]; omega), List.getElem?_drop,
      List.length_append, hP]
    congr 2
    omega

theorem getD_truncateTo {c : Bytes} {size : Nat} (h : c.length ≤ size) (i : Nat) :
    (truncateTo c size).getD i 0 = c.getD i 0 := by
  simp only [truncateTo, List.take_of_length_le h, List.getD_eq_getElem?_getD]
  by_cases hc : i < c.length
  · rw [List.getElem?_append_left hc]
  · rw [List.getElem?_append_right (by omega), List.getElem?_eq_none (show c.length ≤ i by omega),
      List.getElem?_replicate]
    split <;> rfl

theorem FileState.write_write (f : FileState) (d₁ d₂ : Bytes) :
    (f.write d₁).write d₂ = f.write (d₁ ++ d₂) := by
  simp only [FileState.write, writeAt_append, List.length_append, Nat.add_assoc]

end GoKtls
