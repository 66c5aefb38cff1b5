import Mathlib.Data.String.Basic

/-! Texts are in the order of their bytes. The first byte of a character tells how many follow, and more do where the number
of the character is greater; the others are its digits to the base 64. So the earlier of two characters has the earlier bytes,
whatever comes behind it. -/
namespace FleetFeed.Text

open String (utf8EncodeChar)

/-- The bytes of a text. -/
def bytes (s : String) : List UInt8 := s.toUTF8.data.toList

theorem bytes_eq (s : String) : bytes s = s.toList.flatMap utf8EncodeChar := by
  rw [bytes, String.toUTF8_eq_toByteArray, ← String.utf8Encode_toList, List.utf8Encode, List.toList_data_toByteArray]

/-! ### Characters -/

/-- The last `n` digits of a number to the base 64, each as a byte that is not the first one of its character. -/
def lastDigits : Nat → Nat → List UInt8
  | 0, _ => []
  | n + 1, v => .ofNat (v / 64 ^ n % 64 + 128) :: lastDigits n v

/-- The character with the number `v` has `first` for its first byte, and `n` more. -/
inductive Leads (v : Nat) : (n first : Nat) → Prop
  | alone : v < 0x80 → Leads v 0 v
  | one : 0x80 ≤ v → v < 0x800 → Leads v 1 (v / 64 + 192)
  | two : 0x800 ≤ v → v < 0x10000 → Leads v 2 (v / 64 ^ 2 + 224)
  | three : 0x10000 ≤ v → v < 0x110000 → Leads v 3 (v / 64 ^ 3 + 240)

variable {v w n k a b : Nat}

theorem Leads.lt (h : Leads v n a) : a < UInt8.size := by
  cases h <;> simp only [UInt8.size] <;> omega

/-- A greater number has a greater first byte, or else as many bytes and greater digits behind the first one. -/
theorem Leads.before (hv : Leads v n a) (hw : Leads w k b) (h : v < w) : a < b ∨ a = b ∧ n = k ∧ v % 64 ^ n < w % 64 ^ n := by
  cases hv <;> cases hw <;> omega

theorem lastDigits_append_lt (h : v % 64 ^ n < w % 64 ^ n) (l m : List UInt8) :
    lastDigits n v ++ l < lastDigits n w ++ m := by
  induction n with
  | zero => simp [Nat.mod_one] at h
  | succ n ih =>
    have hdigit : v / 64 ^ n % 64 ≤ w / 64 ^ n % 64 := by
      rw [← Nat.mod_mul_right_div_self, ← Nat.mod_mul_right_div_self, ← Nat.pow_succ]
      exact Nat.div_le_div_right h.le
    have hbyte (x : Nat) : x % 64 + 128 < UInt8.size :=
      (Nat.add_lt_add_right (Nat.mod_lt x (by decide)) 128).trans (by decide)
    rw [lastDigits, lastDigits, List.cons_append, List.cons_append, List.cons_lt_cons_iff]
    -- the first of the digits decides, and where it is the same, the others do
    rcases hdigit.lt_or_eq with hlt | heq
    · exact .inl ((UInt8.ofNat_lt_iff_lt (hbyte _) (hbyte _)).2 (Nat.add_lt_add_right hlt 128))
    · rw [Nat.mod_pow_succ, Nat.mod_pow_succ, heq] at h
      exact .inr ⟨by rw [heq], ih (Nat.lt_of_add_lt_add_right h)⟩

/-- The bytes of a character, by the number of those that follow the first. -/
theorem exists_leads (c : Char) :
    ∃ n first, Leads c.toNat n first ∧ utf8EncodeChar c = .ofNat first :: lastDigits n c.toNat := by
  have hmax : c.toNat < 0x110000 := c.valid.elim (·.trans (by decide)) (·.2)
  simp only [utf8EncodeChar, Char.toNat_val]
  split_ifs with h₁ h₂ h₃
  · exact ⟨0, _, .alone (by omega), rfl⟩
  · have hfirst : c.toNat / 64 % 32 = c.toNat / 64 := Nat.mod_eq_of_lt (by omega)
    exact ⟨1, _, .one (by omega) (by omega), by simp [lastDigits, hfirst]⟩
  · have hfirst : c.toNat / 4096 % 16 = c.toNat / 4096 := Nat.mod_eq_of_lt (by omega)
    exact ⟨2, _, .two (by omega) (by omega), by simp [lastDigits, hfirst]⟩
  · have hfirst : c.toNat / 262144 % 8 = c.toNat / 262144 := Nat.mod_eq_of_lt (by omega)
    exact ⟨3, _, .three (by omega) (by omega), by simp [lastDigits, hfirst]⟩

theorem utf8EncodeChar_append_lt {c d : Char} (h : c < d) (l m : List UInt8) :
    utf8EncodeChar c ++ l < utf8EncodeChar d ++ m := by
  obtain ⟨n, a, hc, hcode⟩ := exists_leads c
  obtain ⟨k, b, hd, hcode'⟩ := exists_leads d
  rw [hcode, hcode', List.cons_append, List.cons_append, List.cons_lt_cons_iff]
  rcases hc.before hd h with hlt | ⟨rfl, rfl, hrest⟩
  · exact .inl ((UInt8.ofNat_lt_iff_lt hc.lt hd.lt).2 hlt)
  · exact .inr ⟨rfl, lastDigits_append_lt hrest l m⟩

/-! ### Texts -/

theorem flatMap_utf8EncodeChar_lt {l m : List Char} (h : l < m) :
    l.flatMap utf8EncodeChar < m.flatMap utf8EncodeChar := by
  induction l generalizing m with
  | nil =>
    cases m with
    | nil => exact absurd h (List.lt_irrefl [])
    | cons d m =>
      obtain ⟨n, b, -, hcode⟩ := exists_leads d
      rw [List.flatMap_nil, List.flatMap_cons, hcode, List.cons_append]
      exact List.nil_lt_cons _ _
  | cons c l ih =>
    cases m with
    | nil => exact absurd h (List.not_lt_nil _)
    | cons d m =>
      rw [List.flatMap_cons, List.flatMap_cons]
      rcases List.cons_lt_cons_iff.1 h with hlt | ⟨rfl, hrest⟩
      · exact utf8EncodeChar_append_lt hlt _ _
      · exact List.append_left_lt (ih hrest)

theorem bytes_lt_of_lt {s t : String} (h : s < t) : bytes s < bytes t := by
  rw [bytes_eq, bytes_eq]
  exact flatMap_utf8EncodeChar_lt h

/-- Texts are in the order of their bytes. -/
theorem bytes_lt_iff {s t : String} : bytes s < bytes t ↔ s < t := by
  refine ⟨fun h => ?_, bytes_lt_of_lt⟩
  rcases lt_trichotomy s t with hlt | rfl | hgt
  · exact hlt
  · exact absurd h (List.lt_irrefl _)
  · exact absurd (bytes_lt_of_lt hgt) (List.lt_asymm h)

end FleetFeed.Text
