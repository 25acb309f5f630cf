import FrontEnd.Text.Utf8

/-!
# UTF-8 is read as it was written

The decoder reads the bytes of one character, from its lead byte to its last continuation byte,
and is then again between two characters. So the bytes of a text are decoded to that text.
-/

namespace FrontEnd.Text.Utf8

namespace Decoder

variable {d : Decoder} {b : UInt8} {p : Pending}

/-- A byte below 0x80 is a character. -/
theorem step_of_lt (hd : d.pending = none) (hb : b.toNat < 0x80) :
    d.step b = .ok ⟨Char.ofNat b.toNat :: d.done, d.offset + 1, none⟩ := by
  rw [step, hd]
  simp only [if_pos hb]

/-- A lead byte begins a sequence. -/
theorem step_of_ofLead (hd : d.pending = none) (hb : 0x80 ≤ b.toNat)
    (hp : Pending.ofLead b = some p) :
    d.step b = .ok { d with offset := d.offset + 1, pending := some p } := by
  rw [step, hd]
  simp only [if_neg (Nat.not_lt.2 hb), hp]

/-- The last byte that is owed completes a character. -/
theorem step_of_owed_zero (hd : d.pending = some p) (howed : p.owed = 0)
    (hlow : p.low ≤ b.toNat) (hhigh : b.toNat ≤ p.high) :
    d.step b =
      .ok ⟨Char.ofNat (p.code * 64 + (b.toNat - 0x80)) :: d.done, d.offset + 1, none⟩ := by
  rw [step, hd]
  simp only [if_neg (show ¬ (b.toNat < p.low ∨ p.high < b.toNat) by omega), howed]

/-- Any other byte that is owed is added to the sequence. -/
theorem step_of_owed_succ {owed : Nat} (hd : d.pending = some p) (howed : p.owed = owed + 1)
    (hlow : p.low ≤ b.toNat) (hhigh : b.toNat ≤ p.high) :
    d.step b = .ok { d with
      offset := d.offset + 1
      pending := some ⟨b :: p.taken, owed, 0x80, 0xBF, p.code * 64 + (b.toNat - 0x80)⟩ } := by
  rw [step, hd]
  simp only [if_neg (show ¬ (b.toNat < p.low ∨ p.high < b.toNat) by omega), howed]

end Decoder

section Sequences

variable {a b e f : UInt8} {v : Nat} {d : Decoder}

/-- Two bytes are read as one character. -/
theorem foldlM_two (hd : d.pending = none) (hlow : 0x80 ≤ v) (hhigh : v < 0x800)
    (ha : a.toNat = v / 64 + 0xC0) (hb : b.toNat = v % 64 + 0x80) :
    [a, b].foldlM Decoder.step d = .ok ⟨Char.ofNat v :: d.done, d.offset + 2, none⟩ := by
  have hlead : Pending.ofLead a = some ⟨[a], 0, 0x80, 0xBF, a.toNat - 0xC0⟩ := by
    simp only [Pending.ofLead, if_neg (show ¬ a.toNat < 0xC2 by omega),
      if_pos (show a.toNat < 0xE0 by omega)]
  have hcode : (a.toNat - 0xC0) * 64 + (b.toNat - 0x80) = v := by omega
  simp only [List.foldlM_cons, List.foldlM_nil, Decoder.step_of_ofLead hd (by omega) hlead, bind,
    Except.bind, pure, Except.pure]
  rw [Decoder.step_of_owed_zero rfl rfl (by simp only; omega) (by simp only; omega)]
  simp only [hcode]

/-- Three bytes are read as one character, if they are not those of a surrogate. -/
theorem foldlM_three (hd : d.pending = none) (hlow : 0x800 ≤ v) (hhigh : v < 0x10000)
    (hsurrogate : v < 0xD800 ∨ 0xDFFF < v) (ha : a.toNat = v / 4096 + 0xE0)
    (hb : b.toNat = v / 64 % 64 + 0x80) (he : e.toNat = v % 64 + 0x80) :
    [a, b, e].foldlM Decoder.step d = .ok ⟨Char.ofNat v :: d.done, d.offset + 3, none⟩ := by
  have hlead : Pending.ofLead a = some ⟨[a], 1, if a.toNat = 0xE0 then 0xA0 else 0x80,
      if a.toNat = 0xED then 0x9F else 0xBF, a.toNat - 0xE0⟩ := by
    simp only [Pending.ofLead, if_neg (show ¬ a.toNat < 0xC2 by omega),
      if_neg (show ¬ a.toNat < 0xE0 by omega), if_pos (show a.toNat < 0xF0 by omega)]
  have hcode : ((a.toNat - 0xE0) * 64 + (b.toNat - 0x80)) * 64 + (e.toNat - 0x80) = v := by omega
  simp only [List.foldlM_cons, List.foldlM_nil, Decoder.step_of_ofLead hd (by omega) hlead, bind,
    Except.bind, pure, Except.pure]
  -- the narrower bounds of the second byte exclude overlong forms and surrogates
  rw [Decoder.step_of_owed_succ rfl rfl (by simp only; split <;> omega)
    (by simp only; split <;> omega)]
  simp only
  rw [Decoder.step_of_owed_zero rfl rfl (by simp only; omega) (by simp only; omega)]
  simp only [hcode]

/-- Four bytes are read as one character, up to the greatest there is. -/
theorem foldlM_four (hd : d.pending = none) (hlow : 0x10000 ≤ v) (hhigh : v < 0x110000)
    (ha : a.toNat = v / 262144 + 0xF0) (hb : b.toNat = v / 4096 % 64 + 0x80)
    (he : e.toNat = v / 64 % 64 + 0x80) (hf : f.toNat = v % 64 + 0x80) :
    [a, b, e, f].foldlM Decoder.step d = .ok ⟨Char.ofNat v :: d.done, d.offset + 4, none⟩ := by
  have hlead : Pending.ofLead a = some ⟨[a], 2, if a.toNat = 0xF0 then 0x90 else 0x80,
      if a.toNat = 0xF4 then 0x8F else 0xBF, a.toNat - 0xF0⟩ := by
    simp only [Pending.ofLead, if_neg (show ¬ a.toNat < 0xC2 by omega),
      if_neg (show ¬ a.toNat < 0xE0 by omega), if_neg (show ¬ a.toNat < 0xF0 by omega),
      if_pos (show a.toNat < 0xF5 by omega)]
  have hcode : (((a.toNat - 0xF0) * 64 + (b.toNat - 0x80)) * 64 + (e.toNat - 0x80)) * 64 +
      (f.toNat - 0x80) = v := by omega
  simp only [List.foldlM_cons, List.foldlM_nil, Decoder.step_of_ofLead hd (by omega) hlead, bind,
    Except.bind, pure, Except.pure]
  -- the narrower bounds of the second byte exclude overlong forms and what is above U+10FFFF
  rw [Decoder.step_of_owed_succ rfl rfl (by simp only; split <;> omega)
    (by simp only; split <;> omega)]
  simp only
  rw [Decoder.step_of_owed_succ rfl rfl (by simp only; omega) (by simp only; omega)]
  simp only
  rw [Decoder.step_of_owed_zero rfl rfl (by simp only; omega) (by simp only; omega)]
  simp only [hcode]

end Sequences

/-- The bytes of one character are decoded to it. -/
theorem foldlM_utf8EncodeChar (c : Char) {d : Decoder} (hd : d.pending = none) :
    ∃ offset, (String.utf8EncodeChar c).foldlM Decoder.step d =
      .ok ⟨c :: d.done, offset, none⟩ := by
  have hvalid : c.val.toNat < 0xD800 ∨ (0xDFFF < c.val.toNat ∧ c.val.toNat < 0x110000) := c.valid
  have hc : Char.ofNat c.val.toNat = c := Char.ofNat_toNat c
  have hbyte {n : Nat} (hn : n < 256) : (UInt8.ofNat n).toNat = n := by
    rw [UInt8.toNat_ofNat']
    omega
  simp only [String.utf8EncodeChar]
  generalize c.val.toNat = v at hvalid hc ⊢
  subst hc
  split
  · refine ⟨d.offset + 1, ?_⟩
    have hv := hbyte (show v < 256 by omega)
    have hstep := Decoder.step_of_lt (b := UInt8.ofNat v) hd (by omega)
    rw [hv] at hstep
    simp only [List.foldlM_cons, List.foldlM_nil, hstep, bind, Except.bind, pure, Except.pure]
  · split
    · refine ⟨d.offset + 2, foldlM_two hd (by omega) (by omega) ?_ (hbyte (by omega))⟩
      rw [hbyte (by omega)]
      omega
    · split
      · refine ⟨d.offset + 3, foldlM_three hd (by omega) (by omega) (by omega) ?_
          (hbyte (by omega)) (hbyte (by omega))⟩
        rw [hbyte (by omega)]
        omega
      · refine ⟨d.offset + 4, foldlM_four hd (by omega) (by omega) ?_ (hbyte (by omega))
          (hbyte (by omega)) (hbyte (by omega))⟩
        rw [hbyte (by omega)]
        omega

/-- The bytes of a text are decoded to its characters, behind those that were there. -/
theorem foldlM_flatMap (cs : List Char) {d : Decoder} (hd : d.pending = none) :
    ∃ offset, (cs.flatMap String.utf8EncodeChar).foldlM Decoder.step d =
      .ok ⟨cs.reverse ++ d.done, offset, none⟩ := by
  induction cs generalizing d with
  | nil => exact ⟨d.offset, by rw [← hd]; rfl⟩
  | cons c cs ih =>
    obtain ⟨middle, hmiddle⟩ := foldlM_utf8EncodeChar c hd
    obtain ⟨offset, hoffset⟩ := ih (d := ⟨c :: d.done, middle, none⟩) rfl
    refine ⟨offset, ?_⟩
    rw [List.flatMap_cons, List.foldlM_append, hmiddle, List.reverse_cons, List.append_assoc]
    exact hoffset

/-- What was encoded is decoded to what it was. -/
theorem decode_encode (s : String) : decode (encode s) = .ok s := by
  obtain ⟨offset, hfold⟩ := foldlM_flatMap s.toList (d := Decoder.start) rfl
  rw [decode, encode, hfold]
  simp [Decoder.start, Decoder.finish, bind, Except.bind, pure, Except.pure]

end FrontEnd.Text.Utf8
