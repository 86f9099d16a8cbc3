import StyleLinter.Text.Quoted

/-!
# Strict UTF-8

Files hold bytes; the linter works on text. A byte sequence is well formed if each character is
written in its shortest form, is no surrogate and is at most U+10FFFF. This is decided by the lead
byte: `lead?` says how many continuation bytes follow and **in which range the first of them lies**,
which is where overlong forms, surrogates and too large values are excluded.

`scan` decodes as far as the bytes are well formed and hands back the rest. `decode` refuses a rest,
naming the **fault**: where it is, how many bytes the longest acceptable beginning of the bad
sequence has, and what is wrong. `decodeChunks` decodes bytes that arrive in chunks, carrying an
unfinished sequence over to the next chunk; it counts positions from the first byte that was not
yet decoded when the chunk arrived.
-/

namespace StyleLinter

/-- The contents of a file. -/
abbrev Bytes := List UInt8

namespace Utf8

/-! ### Writing -/

/-- The bytes of a character. -/
def encodeChar (c : Char) : Bytes :=
  let n := c.toNat
  if n < 0x80 then [n.toUInt8]
  else if n < 0x800 then [(0xc0 + n / 64).toUInt8, (0x80 + n % 64).toUInt8]
  else if n < 0x10000 then
    [(0xe0 + n / 4096).toUInt8, (0x80 + n / 64 % 64).toUInt8, (0x80 + n % 64).toUInt8]
  else
    [(0xf0 + n / 262144).toUInt8, (0x80 + n / 4096 % 64).toUInt8, (0x80 + n / 64 % 64).toUInt8,
      (0x80 + n % 64).toUInt8]

/-- The bytes of a text. -/
def encode (t : Text) : Bytes := t.flatMap encodeChar

/-! ### Reading one character -/

/-- What a lead byte announces. -/
structure Lead where
  /-- The number of continuation bytes. -/
  more : Nat
  /-- The least first continuation byte. -/
  low : Nat
  /-- The greatest first continuation byte. -/
  high : Nat
  /-- The bits that the lead byte itself contributes. -/
  bits : Nat
deriving Repr, DecidableEq

/-- What the first byte of a character announces; nothing if no character begins with it. -/
def lead? (b : UInt8) : Option Lead :=
  let n := b.toNat
  if n < 0x80 then some ⟨0, 0x80, 0xbf, n⟩
  else if n < 0xc2 then none
  else if n < 0xe0 then some ⟨1, 0x80, 0xbf, n - 0xc0⟩
  else if n < 0xf0 then
    some ⟨2, if n = 0xe0 then 0xa0 else 0x80, if n = 0xed then 0x9f else 0xbf, n - 0xe0⟩
  else if n < 0xf5 then
    some ⟨3, if n = 0xf0 then 0x90 else 0x80, if n = 0xf4 then 0x8f else 0xbf, n - 0xf0⟩
  else none

/-- The longest run of at most `n` continuation bytes, the first of them from `low` to `high`. -/
def continuation : (n low high : Nat) → Bytes → Bytes
  | 0, _, _, _ => []
  | _ + 1, _, _, [] => []
  | n + 1, low, high, b :: r =>
    if low ≤ b.toNat ∧ b.toNat ≤ high then b :: continuation n 0x80 0xbf r else []

theorem length_continuation_le (n low high : Nat) (bs : Bytes) :
    (continuation n low high bs).length ≤ n := by
  induction n generalizing low high bs with
  | zero => simp [continuation]
  | succ n ih =>
    cases bs with
    | nil => simp [continuation]
    | cons b r =>
      by_cases h : low ≤ b.toNat ∧ b.toNat ≤ high
      · simp [continuation, h, ih]
      · simp [continuation, h]

/-- The number that the lead bits and the continuation bytes make up. -/
def codePoint (bits : Nat) (bs : Bytes) : Nat := bs.foldl (fun n b ↦ 64 * n + b.toNat % 64) bits

/-- The first character and the bytes after it; nothing if no whole character comes first. -/
def next? : Bytes → Option (Char × Bytes)
  | [] => none
  | b :: r =>
    match lead? b with
    | none => none
    | some l =>
      let tail := continuation l.more l.low l.high r
      if tail.length = l.more then some (Char.ofNat (codePoint l.bits tail), r.drop l.more)
      else none

theorem length_of_next? {bs r : Bytes} {c : Char} (h : next? bs = some (c, r)) :
    r.length < bs.length := by
  cases bs with
  | nil => simp [next?] at h
  | cons b t =>
    simp only [next?] at h
    split at h
    · simp at h
    · split at h
      · simp only [Option.some.injEq, Prod.mk.injEq] at h
        rw [← h.2]
        simp only [List.length_drop, List.length_cons]
        omega
      · simp at h

/-! ### Reading a text -/

/-- The text that the bytes begin with, and the rest, which begins with no whole character. -/
def scan (bs : Bytes) : Text × Bytes :=
  match _h : next? bs with
  | none => ([], bs)
  | some (c, r) =>
    let (t, rest) := scan r
    (c :: t, rest)
termination_by bs.length
decreasing_by exact length_of_next? _h

/-- What is wrong with bytes that are no text. -/
inductive Reason where
  /-- No character begins with this byte. -/
  | invalidStart
  /-- A continuation byte is missing, or out of range. -/
  | invalidContinuation
  /-- The bytes end inside a character. -/
  | unexpectedEnd
deriving Repr, DecidableEq

/-- A place where bytes are no text. -/
structure Fault where
  /-- The first bad byte. -/
  byte : UInt8
  /-- Its position. -/
  start : Nat
  /-- The number of bytes that the fault extends over. -/
  length : Nat
  /-- What is wrong. -/
  reason : Reason
deriving Repr, DecidableEq

/-- The fault that bytes begin with when no whole character comes first. -/
def faultAt (start : Nat) : Bytes → Option Fault
  | [] => none
  | b :: r =>
    match lead? b with
    | none => some ⟨b, start, 1, .invalidStart⟩
    | some l =>
      let k := (continuation l.more l.low l.high r).length
      some ⟨b, start, k + 1, if k = r.length then .unexpectedEnd else .invalidContinuation⟩

/-- The text of the bytes, or the first fault. -/
def decode (bs : Bytes) : Except Fault Text :=
  let (t, rest) := scan bs
  match faultAt (bs.length - rest.length) rest with
  | none => .ok t
  | some f => .error f

/-- The first `n` bytes, the next `n` bytes and so on. -/
def chunks (n : Nat) (bs : Bytes) : List Bytes :=
  if _h : n = 0 ∨ bs = [] then [] else bs.take n :: chunks n (bs.drop n)
termination_by bs.length
decreasing_by
  have : bs.length ≠ 0 := fun h ↦ _h (.inr (List.length_eq_zero_iff.mp h))
  simp only [List.length_drop]
  omega

/-- Decodes bytes that arrive in chunks. An unfinished sequence waits for the next chunk, and a
position counts from the beginning of what waited. -/
def decodeChunks (pending : Bytes) : List Bytes → Except Fault Text
  | [] =>
    match faultAt 0 pending with
    | none => .ok []
    | some f => .error f
  | chunk :: rest =>
    let bs := pending ++ chunk
    let (t, left) := scan bs
    match faultAt (bs.length - left.length) left with
    | none => (t ++ ·) <$> decodeChunks [] rest
    | some f =>
      if f.reason = .unexpectedEnd then (t ++ ·) <$> decodeChunks left rest else .error f

/-- The chunk size in which source files are read. -/
def chunkSize : Nat := 8192

/-- The text of a source file, which is read chunk by chunk. -/
def decodeSource (bs : Bytes) : Except Fault Text := decodeChunks [] (chunks chunkSize bs)

/-! ### Telling a fault -/

/-- The wording of a reason. -/
def Reason.message : Reason → Text
  | .invalidStart => "invalid start byte"
  | .invalidContinuation => "invalid continuation byte"
  | .unexpectedEnd => "unexpected end of data"

/-- The wording of a fault: the byte or the range of positions, and the reason. -/
def Fault.message (f : Fault) : Text :=
  let place : Text :=
    if f.length = 1 then
      "byte 0x" ++ Text.hex 2 f.byte.toNat ++ " in position " ++ Text.ofNat f.start
    else
      "bytes in position " ++ Text.ofNat f.start ++ "-" ++ Text.ofNat (f.start + f.length - 1)
  "'utf-8' codec can't decode " ++ place ++ ": " ++ f.reason.message

end Utf8

end StyleLinter
