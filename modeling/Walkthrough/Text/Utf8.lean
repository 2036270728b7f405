/-! UTF-8: encoding characters as octets, and decoding with the first offence located. -/
namespace Walkthrough.Text.Utf8

def encodeChar (c : Char) : List UInt8 :=
  let n := c.toNat
  let tail (k : Nat) : UInt8 := UInt8.ofNat (0x80 + n / k % 0x40)
  if n < 0x80 then [UInt8.ofNat n]
  else if n < 0x800 then [UInt8.ofNat (0xC0 + n / 0x40), tail 1]
  else if n < 0x10000 then [UInt8.ofNat (0xE0 + n / 0x1000), tail 0x40, tail 1]
  else [UInt8.ofNat (0xF0 + n / 0x40000), tail 0x1000, tail 0x40, tail 1]

def encode (cs : List Char) : List UInt8 :=
  cs.flatMap encodeChar

inductive Reason
  | badStart
  | badContinuation
  | tooShort
  deriving DecidableEq, Repr

/-- The first offence: `count` octets from position `start`, the first of them `octet`. -/
structure Fault where
  reason : Reason
  octet : UInt8
  start : Nat
  count : Nat
  deriving DecidableEq, Repr

/-- How many octets follow a leading one, and the bounds of the first of them. -/
def follow? (lead : Nat) : Option (Nat × Nat × Nat) :=
  if 0xC2 ≤ lead ∧ lead ≤ 0xDF then some (1, 0x80, 0xBF)
  else if lead = 0xE0 then some (2, 0xA0, 0xBF)
  else if lead = 0xED then some (2, 0x80, 0x9F)
  else if 0xE1 ≤ lead ∧ lead ≤ 0xEF then some (2, 0x80, 0xBF)
  else if lead = 0xF0 then some (3, 0x90, 0xBF)
  else if 0xF1 ≤ lead ∧ lead ≤ 0xF3 then some (3, 0x80, 0xBF)
  else if lead = 0xF4 then some (3, 0x80, 0x8F)
  else none

/--
Reads `need` following octets, the first of them between `lo` and `hi`: the code point they
complete and the octets left. An offence is told with the number of octets read before it.
-/
def readTail (code lo hi got : Nat) : (need : Nat) → List UInt8 →
    Except (Reason × Nat) (Nat × List UInt8)
  | 0, bs => .ok (code, bs)
  | _ + 1, [] => .error (.tooShort, got)
  | need + 1, b :: bs =>
    if lo ≤ b.toNat ∧ b.toNat ≤ hi then
      readTail (code * 0x40 + b.toNat % 0x40) 0x80 0xBF (got + 1) need bs
    else .error (.badContinuation, got)

/-- The payload bits of a leading octet that `need` octets follow. -/
def leadBits (lead need : Nat) : Nat :=
  lead % (if need = 1 then 0x20 else if need = 2 then 0x10 else 0x08)

theorem readTail_length {code lo hi got need : Nat} {bs rest : List UInt8} {n : Nat}
    (h : readTail code lo hi got need bs = .ok (n, rest)) : rest.length ≤ bs.length := by
  induction need generalizing code lo hi got bs with
  | zero => simp only [readTail, Except.ok.injEq, Prod.mk.injEq] at h; simp [h.2]
  | succ need ih =>
    cases bs with
    | nil => simp [readTail] at h
    | cons b bs =>
      simp only [readTail] at h
      split at h
      · exact Nat.le_succ_of_le (ih h)
      · simp at h

/-- Decodes octets, the first of them at position `pos`. -/
def decodeFrom (pos : Nat) : List UInt8 → Except Fault (List Char)
  | [] => .ok []
  | b :: bs =>
    if b.toNat < 0x80 then
      match decodeFrom (pos + 1) bs with
      | .ok cs => .ok (Char.ofNat b.toNat :: cs)
      | .error e => .error e
    else
      match follow? b.toNat with
      | none => .error ⟨.badStart, b, pos, 1⟩
      | some (need, lo, hi) =>
        match h : readTail (leadBits b.toNat need) lo hi 1 need bs with
        | .error (reason, got) => .error ⟨reason, b, pos, got⟩
        | .ok (code, rest) =>
          have := readTail_length h
          match decodeFrom (pos + 1 + need) rest with
          | .ok cs => .ok (Char.ofNat code :: cs)
          | .error e => .error e
termination_by bs => bs.length

def decode (bs : List UInt8) : Except Fault (List Char) :=
  decodeFrom 0 bs

end Walkthrough.Text.Utf8
