import Walkthrough.Text.Utf8

/-! Decoding undoes encoding: the octets of every text are read as that text. -/
namespace Walkthrough.Text.Utf8
variable {code lo hi got need n : Nat} {b : UInt8} {bs rest : List UInt8}

theorem readTail_cons (hlo : lo ≤ b.toNat) (hhi : b.toNat ≤ hi) :
    readTail code lo hi got (need + 1) (b :: bs) =
      readTail (code * 0x40 + b.toNat % 0x40) 0x80 0xBF (got + 1) need bs := by
  rw [readTail, if_pos ⟨hlo, hhi⟩]

theorem decodeFrom_ascii (hb : b.toNat < 0x80) (pos : Nat) :
    decodeFrom pos (b :: bs) =
      (decodeFrom (pos + 1) bs).map (Char.ofNat b.toNat :: ·) := by
  rw [decodeFrom, if_pos hb]
  cases decodeFrom (pos + 1) bs <;> rfl

theorem decodeFrom_lead (hb : 0x80 ≤ b.toNat) (hfollow : follow? b.toNat = some (need, lo, hi))
    (htail : readTail (leadBits b.toNat need) lo hi 1 need bs = .ok (code, rest)) (pos : Nat) :
    decodeFrom pos (b :: bs) =
      (decodeFrom (pos + 1 + need) rest).map (Char.ofNat code :: ·) := by
  rw [decodeFrom, if_neg (Nat.not_lt.mpr hb)]
  split
  next h =>
    rw [hfollow] at h
    cases h
  next h =>
    rw [hfollow] at h
    cases h
    split
    next h =>
      rw [htail] at h
      cases h
    next h =>
      rw [htail] at h
      cases h
      cases decodeFrom (pos + 1 + need) rest <;> rfl

theorem toNat_octet (h : n < 0x100) : (UInt8.ofNat n).toNat = n :=
  UInt8.toNat_ofNat_of_lt' h

/-- A continuation octet holds six bits. -/
theorem readTail_octet {k : Nat} (hk : 0x80 + n / k % 0x40 < 0x100)
    (hlo : lo ≤ 0x80 + n / k % 0x40) (hhi : 0x80 + n / k % 0x40 ≤ hi) :
    readTail code lo hi got (need + 1) (UInt8.ofNat (0x80 + n / k % 0x40) :: bs) =
      readTail (code * 0x40 + n / k % 0x40) 0x80 0xBF (got + 1) need bs := by
  have hoctet := toNat_octet hk
  rw [readTail_cons (by omega) (by omega), hoctet]
  congr 2
  omega

theorem decodeFrom_two (h : 0x80 ≤ n) (h' : n < 0x800) (pos : Nat)
    (bs : List UInt8) :
    decodeFrom pos (UInt8.ofNat (0xC0 + n / 0x40) :: UInt8.ofNat (0x80 + n / 1 % 0x40) :: bs) =
      (decodeFrom (pos + 2) bs).map (Char.ofNat n :: ·) := by
  have hlead : (UInt8.ofNat (0xC0 + n / 0x40)).toNat = 0xC0 + n / 0x40 := toNat_octet (by omega)
  have hcode : leadBits (0xC0 + n / 0x40) 1 * 0x40 + n / 1 % 0x40 = n := by
    have hbits : leadBits (0xC0 + n / 0x40) 1 = (0xC0 + n / 0x40) % 0x20 := rfl
    omega
  have hfollow : follow? (0xC0 + n / 0x40) = some (1, 0x80, 0xBF) := by
    rw [follow?, if_pos (by omega)]
  refine decodeFrom_lead (by omega) (hlead.symm ▸ hfollow) ?_ pos
  rw [hlead, readTail_octet (by omega) (by omega) (by omega), readTail, hcode]

/-- No surrogate has a character, and so the bounds after a leading octet are kept. -/
theorem follow?_three (h : 0x800 ≤ n) (h' : n < 0x10000) (hn : n.isValidChar) :
    ∃ lo hi, follow? (0xE0 + n / 0x1000) = some (2, lo, hi) ∧ lo ≤ 0x80 + n / 0x40 % 0x40 ∧
      0x80 + n / 0x40 % 0x40 ≤ hi := by
  unfold Nat.isValidChar at hn
  unfold follow?
  rw [if_neg (by omega)]
  split
  · exact ⟨_, _, rfl, by omega, by omega⟩
  · split
    · exact ⟨_, _, rfl, by omega, by omega⟩
    · rw [if_pos (by omega)]
      exact ⟨_, _, rfl, by omega, by omega⟩

theorem decodeFrom_three (h : 0x800 ≤ n) (h' : n < 0x10000) (hn : n.isValidChar) (pos : Nat)
    (bs : List UInt8) :
    decodeFrom pos (UInt8.ofNat (0xE0 + n / 0x1000) :: UInt8.ofNat (0x80 + n / 0x40 % 0x40) ::
        UInt8.ofNat (0x80 + n / 1 % 0x40) :: bs) =
      (decodeFrom (pos + 3) bs).map (Char.ofNat n :: ·) := by
  have hlead : (UInt8.ofNat (0xE0 + n / 0x1000)).toNat = 0xE0 + n / 0x1000 :=
    toNat_octet (by omega)
  have hcode : (leadBits (0xE0 + n / 0x1000) 2 * 0x40 + n / 0x40 % 0x40) * 0x40 + n / 1 % 0x40 =
      n := by
    have hbits : leadBits (0xE0 + n / 0x1000) 2 = (0xE0 + n / 0x1000) % 0x10 := rfl
    omega
  obtain ⟨lo, hi, hfollow, hlo, hhi⟩ := follow?_three h h' hn
  refine decodeFrom_lead (by omega) (hlead.symm ▸ hfollow) ?_ pos
  rw [hlead, readTail_octet (by omega) hlo hhi, readTail_octet (by omega) (by omega) (by omega),
    readTail, hcode]

theorem follow?_four (h : 0x10000 ≤ n) (h' : n < 0x110000) :
    ∃ lo hi, follow? (0xF0 + n / 0x40000) = some (3, lo, hi) ∧ lo ≤ 0x80 + n / 0x1000 % 0x40 ∧
      0x80 + n / 0x1000 % 0x40 ≤ hi := by
  unfold follow?
  rw [if_neg (by omega), if_neg (by omega), if_neg (by omega), if_neg (by omega)]
  split
  · exact ⟨_, _, rfl, by omega, by omega⟩
  · split
    · exact ⟨_, _, rfl, by omega, by omega⟩
    · rw [if_pos (by omega)]
      exact ⟨_, _, rfl, by omega, by omega⟩

theorem decodeFrom_four (h : 0x10000 ≤ n) (h' : n < 0x110000) (pos : Nat)
    (bs : List UInt8) :
    decodeFrom pos (UInt8.ofNat (0xF0 + n / 0x40000) :: UInt8.ofNat (0x80 + n / 0x1000 % 0x40) ::
        UInt8.ofNat (0x80 + n / 0x40 % 0x40) :: UInt8.ofNat (0x80 + n / 1 % 0x40) :: bs) =
      (decodeFrom (pos + 4) bs).map (Char.ofNat n :: ·) := by
  have hlead : (UInt8.ofNat (0xF0 + n / 0x40000)).toNat = 0xF0 + n / 0x40000 :=
    toNat_octet (by omega)
  have hcode : ((leadBits (0xF0 + n / 0x40000) 3 * 0x40 + n / 0x1000 % 0x40) * 0x40 +
      n / 0x40 % 0x40) * 0x40 + n / 1 % 0x40 = n := by
    have hbits : leadBits (0xF0 + n / 0x40000) 3 = (0xF0 + n / 0x40000) % 0x08 := rfl
    omega
  obtain ⟨lo, hi, hfollow, hlo, hhi⟩ := follow?_four h h'
  refine decodeFrom_lead (by omega) (hlead.symm ▸ hfollow) ?_ pos
  rw [hlead, readTail_octet (by omega) hlo hhi, readTail_octet (by omega) (by omega) (by omega),
    readTail_octet (by omega) (by omega) (by omega), readTail, hcode]

/-- The octets of a character are read as that character, whatever follows them. -/
theorem decodeFrom_encodeChar (pos : Nat) (c : Char) (bs : List UInt8) :
    ∃ pos', decodeFrom pos (encodeChar c ++ bs) = (decodeFrom pos' bs).map (c :: ·) := by
  have hc : Char.ofNat c.toNat = c := Char.ofNat_toNat c
  have hvalid : c.toNat.isValidChar := c.valid
  have hlt : c.toNat < 0x110000 := by
    unfold Nat.isValidChar at hvalid
    omega
  unfold encodeChar
  dsimp only
  split
  next h =>
    have hoctet : (UInt8.ofNat c.toNat).toNat = c.toNat := toNat_octet (by omega)
    refine ⟨pos + 1, ?_⟩
    rw [List.singleton_append, decodeFrom_ascii (by omega), hoctet, hc]
  next h =>
    split
    next h' =>
      have hread := decodeFrom_two (by omega) h' pos bs
      exact ⟨pos + 2, by rwa [hc] at hread⟩
    next h' =>
      split
      next h'' =>
        have hread := decodeFrom_three (by omega) h'' hvalid pos bs
        exact ⟨pos + 3, by rwa [hc] at hread⟩
      next h'' =>
        have hread := decodeFrom_four (by omega) hlt pos bs
        exact ⟨pos + 4, by rwa [hc] at hread⟩

/-- Decoding undoes encoding. -/
theorem decode_encode (cs : List Char) : decode (encode cs) = .ok cs := by
  suffices h : ∀ pos, decodeFrom pos (encode cs) = .ok cs from h 0
  induction cs with
  | nil =>
    intro pos
    rw [encode, List.flatMap_nil, decodeFrom]
  | cons c cs ih =>
    intro pos
    obtain ⟨pos', hc⟩ := decodeFrom_encodeChar pos c (encode cs)
    rw [encode, List.flatMap_cons, ← encode, hc, ih]
    rfl

end Walkthrough.Text.Utf8
