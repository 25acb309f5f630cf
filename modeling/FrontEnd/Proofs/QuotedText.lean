import FrontEnd.Text.Quoted
import Mathlib.Algebra.Group.Nat.Defs

/-!
# Quoted text read back

What stands between the quotes is read escape by escape: the sign behind a backslash says how
many hexadecimal digits follow it. Read in this way a quoted text gives the text it was made
from, whichever quotes enclose it. All its characters are printable.
-/

namespace FrontEnd.Text

/-! ## Hexadecimal digits -/

/-- The number that a hexadecimal digit stands for. -/
def hexDigitValue (d : Char) : Nat := if d.isDigit then d.toNat - 0x30 else d.toNat - 0x57

/-- The number that hexadecimal digits stand for. -/
def hexValue (digits : List Char) : Nat :=
  digits.foldl (fun n d => 16 * n + hexDigitValue d) 0

/-- A digit that is written stands for its number. -/
theorem hexDigitValue_digitChar {n : Nat} (h : n < 16) : hexDigitValue (Nat.digitChar n) = n := by
  have hdigits : ∀ n < 16, hexDigitValue (Nat.digitChar n) = n := by decide
  exact hdigits n h

/-- Digits that are written stand for the number, if there are enough of them. -/
theorem hexValue_hexDigits {width n : Nat} (h : n < 16 ^ width) :
    hexValue (hexDigits width n) = n := by
  induction width generalizing n with
  | zero =>
    have hzero : n = 0 := by simpa using h
    rw [hzero]
    rfl
  | succ width ih =>
    have hhigh : n / 16 < 16 ^ width := by
      rw [Nat.pow_succ] at h
      omega
    have hlow : n % 16 < 16 := Nat.mod_lt n (by decide)
    have hlast : hexValue (hexDigits (width + 1) n) =
        16 * hexValue (hexDigits width (n / 16)) + hexDigitValue (Nat.digitChar (n % 16)) := by
      simp [hexValue, hexDigits, List.foldl_append]
    rw [hlast, ih hhigh, hexDigitValue_digitChar hlow]
    omega

/-! ## Escapes -/

/-- The number of hexadecimal digits that follow a sign behind a backslash. -/
def escapeWidth (sign : Char) : Nat :=
  if sign = 'x' then 2 else if sign = 'u' then 4 else if sign = 'U' then 8 else 0

/-- The character that a sign behind a backslash stands for, with the digits that follow it. -/
def escapedChar (sign : Char) (digits : List Char) : Char :=
  if sign = 'n' then '\n'
  else if sign = 'r' then '\r'
  else if sign = 't' then '\t'
  else if digits = [] then sign
  else Char.ofNat (hexValue digits)

/-- The text that was written with escapes. -/
def unescape : List Char → List Char
  | [] => []
  | '\\' :: sign :: cs =>
    escapedChar sign (cs.take (escapeWidth sign)) :: unescape (cs.drop (escapeWidth sign))
  | c :: cs => c :: unescape cs
termination_by cs => cs.length

/-- The text that was written in quotes. -/
def unquote (cs : List Char) : List Char := unescape (cs.drop 1).dropLast

/-- A character that is not a backslash stands for itself. -/
theorem unescape_cons {c : Char} (h : c ≠ '\\') (cs : List Char) :
    unescape (c :: cs) = c :: unescape cs := by
  rw [unescape]
  simp [h]

/-- A sign is read with its digits. -/
theorem unescape_sign {sign : Char} {digits : List Char} (h : digits.length = escapeWidth sign)
    (cs : List Char) :
    unescape ('\\' :: sign :: (digits ++ cs)) = escapedChar sign digits :: unescape cs := by
  rw [unescape, List.take_left' h, List.drop_left' h]

/-- A sign without digits stands for its character. -/
theorem unescape_plain {sign c : Char} (hwidth : escapeWidth sign = 0)
    (hc : escapedChar sign [] = c) (cs : List Char) :
    unescape ('\\' :: sign :: cs) = c :: unescape cs := by
  have hlength : ([] : List Char).length = escapeWidth sign := hwidth.symm
  have hread := unescape_sign hlength cs
  rwa [hc] at hread

/-- A sign that is followed by hexadecimal digits stands for their character. -/
theorem unescape_hexDigits {sign : Char} (hsign : sign = 'x' ∨ sign = 'u' ∨ sign = 'U') {c : Char}
    (hc : c.toNat < 16 ^ escapeWidth sign) (cs : List Char) :
    unescape ('\\' :: sign :: (hexDigits (escapeWidth sign) c.toNat ++ cs)) =
      c :: unescape cs := by
  have hdigits : hexDigits (escapeWidth sign) c.toNat ≠ [] := by
    intro hnil
    have hlength := length_hexDigits (escapeWidth sign) c.toNat
    rw [hnil] at hlength
    rcases hsign with rfl | rfl | rfl <;> cases hlength
  have hsigns : sign ≠ 'n' ∧ sign ≠ 'r' ∧ sign ≠ 't' := by
    rcases hsign with rfl | rfl | rfl <;> decide
  rw [unescape_sign (length_hexDigits _ _)]
  simp [escapedChar, hsigns, hdigits, hexValue_hexDigits hc]

/-- Between either quotes a character that was escaped is read back. -/
theorem unescape_escapeChar {quote : Char} (hquote : quote = '\'' ∨ quote = '"') (c : Char)
    (cs : List Char) : unescape (escapeChar quote c ++ cs) = c :: unescape cs := by
  unfold escapeChar
  split
  · next hc =>
    have hplain : escapeWidth c = 0 ∧ escapedChar c [] = c := by
      rcases hquote with rfl | rfl <;> rcases hc with rfl | rfl <;> decide
    exact unescape_plain hplain.1 hplain.2 cs
  · next hc =>
    split
    · next hfeed =>
      rw [hfeed]
      exact unescape_plain rfl rfl cs
    split
    · next hreturn =>
      rw [hreturn]
      exact unescape_plain rfl rfl cs
    split
    · next htab =>
      rw [htab]
      exact unescape_plain rfl rfl cs
    split
    · exact unescape_cons (fun h => hc (.inr h)) cs
    split
    · next hsmall => exact unescape_hexDigits (.inl rfl) hsmall cs
    split
    · next hsmall => exact unescape_hexDigits (.inr (.inl rfl)) hsmall cs
    · have hsmall : c.toNat < 16 ^ escapeWidth 'U' := c.val.toNat_lt
      exact unescape_hexDigits (.inr (.inr rfl)) hsmall cs

/-- A text is enclosed by single quotes or by double quotes. -/
theorem quoteMark_cases (cs : List Char) : quoteMark cs = '\'' ∨ quoteMark cs = '"' := by
  unfold quoteMark
  split
  · exact .inr rfl
  · exact .inl rfl

/-- A text in quotes is read back. -/
theorem unquote_quoteChars (cs : List Char) : unquote (quoteChars cs) = cs := by
  have hescapes : ∀ ds : List Char,
      unescape (ds.flatMap (escapeChar (quoteMark cs))) = ds := by
    intro ds
    induction ds with
    | nil => simp [unescape]
    | cons d ds ih => rw [List.flatMap_cons, unescape_escapeChar (quoteMark_cases cs), ih]
  simp [unquote, quoteChars, hescapes]

/-! ## Printable characters -/

/-- The visible characters of ASCII and the space are printable. -/
theorem isPrintable_of_ascii {c : Char} (hlow : 0x20 ≤ c.toNat) (hhigh : c.toNat ≤ 0x7E) :
    Unicode.isPrintable c = true := by
  rw [Unicode.isPrintable, Unicode.unprintableRanges, Unicode.inRanges, if_neg (by omega),
    if_neg (by omega), Unicode.inRanges, if_pos (by omega)]
  rfl

/-- Hexadecimal digits are printable. -/
theorem isPrintable_of_mem_hexDigits {width n : Nat} {d : Char} (h : d ∈ hexDigits width n) :
    Unicode.isPrintable d = true := by
  have hdigits : ∀ k < 16, 0x20 ≤ (Nat.digitChar k).toNat ∧ (Nat.digitChar k).toNat ≤ 0x7E := by
    decide
  induction width generalizing n with
  | zero => cases h
  | succ width ih =>
    rcases List.mem_append.1 h with hhigh | hlast
    · exact ih hhigh
    · obtain rfl := List.mem_singleton.1 hlast
      obtain ⟨hlow, hhigh⟩ := hdigits (n % 16) (Nat.mod_lt n (by decide))
      exact isPrintable_of_ascii hlow hhigh

/-- A character is escaped by printable characters. -/
theorem isPrintable_of_mem_escapeChar {quote : Char} (hquote : quote = '\'' ∨ quote = '"')
    {c d : Char} (h : d ∈ escapeChar quote c) : Unicode.isPrintable d = true := by
  have hsign {sign : Char} {digits : List Char} (hlow : 0x20 ≤ sign.toNat)
      (hhigh : sign.toNat ≤ 0x7E) (hdigits : ∀ e ∈ digits, Unicode.isPrintable e = true)
      (hd : d ∈ '\\' :: sign :: digits) : Unicode.isPrintable d = true := by
    rcases List.mem_cons.1 hd with rfl | hd
    · exact isPrintable_of_ascii (by decide) (by decide)
    rcases List.mem_cons.1 hd with rfl | hd
    · exact isPrintable_of_ascii hlow hhigh
    · exact hdigits d hd
  unfold escapeChar at h
  split at h
  · next hc =>
    have hascii : 0x20 ≤ c.toNat ∧ c.toNat ≤ 0x7E := by
      rcases hquote with rfl | rfl <;> rcases hc with rfl | rfl <;> decide
    exact hsign hascii.1 hascii.2 (by simp) h
  split at h
  · exact hsign (by decide) (by decide) (by simp) h
  split at h
  · exact hsign (by decide) (by decide) (by simp) h
  split at h
  · exact hsign (by decide) (by decide) (by simp) h
  split at h
  · next hprintable =>
    rwa [List.mem_singleton.1 h]
  split at h
  · exact hsign (by decide) (by decide) (fun _ => isPrintable_of_mem_hexDigits) h
  split at h
  · exact hsign (by decide) (by decide) (fun _ => isPrintable_of_mem_hexDigits) h
  · exact hsign (by decide) (by decide) (fun _ => isPrintable_of_mem_hexDigits) h

/-- All characters of a text in quotes are printable. -/
theorem isPrintable_of_mem_quoteChars {cs : List Char} {d : Char} (h : d ∈ quoteChars cs) :
    Unicode.isPrintable d = true := by
  have hquote : Unicode.isPrintable (quoteMark cs) = true := by
    rcases quoteMark_cases cs with hmark | hmark
    all_goals
      rw [hmark]
      exact isPrintable_of_ascii (by decide) (by decide)
  simp only [quoteChars, List.cons_append, List.mem_cons, List.mem_append, List.mem_flatMap,
    List.mem_nil_iff, or_false] at h
  rcases h with rfl | ⟨c, -, hd⟩ | rfl
  · exact hquote
  · exact isPrintable_of_mem_escapeChar (quoteMark_cases cs) hd
  · exact hquote

end FrontEnd.Text
