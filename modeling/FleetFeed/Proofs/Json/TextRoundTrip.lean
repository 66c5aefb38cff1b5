import FleetFeed.Json.Reader
import FleetFeed.Json.Writer
import FleetFeed.Proofs.Json.Values
import Mathlib.Data.Nat.Digits.Defs

/-! Texts and their trees. The text that is written for a tree is read as that tree, provided that the tree has no faults and its
numbers are integers of 64 bits; and whatever the text, the integers that are read from it are of 64 bits. -/
namespace FleetFeed.Json

/-! ### Strings -/

namespace Reader

theorem hexUnit?_hexDigit : ∀ n < 32, hexUnit? '0' '0' (Writer.hexDigit (n / 16)) (Writer.hexDigit (n % 16)) = some n := by
  decide

theorem units?_plain {c : Char} (hquote : c ≠ '"') (hslash : c ≠ '\\') (h32 : ¬ c.toNat < 32) (tail : List Char) :
    units? (c :: tail) = (units? tail).map fun p => (c.toNat :: p.1, p.2) := by
  cases h : units? tail <;> simp [units?, h, hslash, h32]

theorem units?_escape (c : Char) (tail : List Char) :
    units? (Writer.escape c ++ tail) = (units? tail).map fun p => (c.toNat :: p.1, p.2) := by
  unfold Writer.escape
  split
  case h_6 hquote hslash _ _ _ =>
    split_ifs with h8 h12 h32
    · cases h : units? tail <;> simp [units?, escape?, h, h8]
    · cases h : units? tail <;> simp [units?, escape?, h, h12]
    · cases h : units? tail <;> simp [units?, hexUnit?_hexDigit _ h32, h]
    · exact units?_plain hquote hslash h32 tail
  all_goals cases h : units? tail <;> simp [units?, escape?, h]

theorem units?_escaped (cs rest : List Char) :
    units? (cs.flatMap Writer.escape ++ '"' :: rest) = some (cs.map Char.toNat, rest) := by
  induction cs with
  | nil => rfl
  | cons c cs ih => rw [List.flatMap_cons, List.append_assoc, units?_escape, ih]; rfl

/-- Characters are no halves of surrogate pairs. -/
theorem join?_toNat (cs : List Char) : join? (cs.map Char.toNat) = some cs := by
  induction cs with
  | nil => rfl
  | cons c cs ih =>
    have hhalf : isHigh c.toNat = false ∧ isLow c.toNat = false := by
      have := c.valid
      simp only [UInt32.isValidChar, Nat.isValidChar] at this
      simp only [isHigh, isLow, Char.toNat]
      grind
    rw [List.map_cons, join?.eq_def]
    simp [hhalf, ih]

theorem string?_escaped (s : String) (rest : List Char) :
    string? (s.toList.flatMap Writer.escape ++ '"' :: rest) = some (some s, rest) := by
  rw [string?, units?_escaped]
  simp [join?_toNat]

end Reader

/-! ### Numbers -/

namespace Numeral

/-- What can follow a numeral without being taken for a part of it. -/
def Delimits (rest : List Char) : Prop := ∀ c ∈ rest.head?, digit? c = none ∧ c ≠ '.' ∧ c ≠ 'e' ∧ c ≠ 'E'

theorem digit?_of_isDigit {c : Char} (h : c.isDigit = true) : digit? c = some (c.toNat - 48) := by
  simp only [Char.isDigit, Bool.and_eq_true, decide_eq_true_eq] at h
  exact if_pos h

theorem readDigits_append {cs rest : List Char} (hcs : ∀ c ∈ cs, c.isDigit = true) (hrest : Delimits rest) :
    readDigits (cs ++ rest) = (cs.map fun c => c.toNat - 48, rest) := by
  induction cs with
  | nil =>
    cases rest with
    | nil => rfl
    | cons c rest => simp [readDigits, (hrest c rfl).1]
  | cons c cs ih =>
    obtain ⟨hc, hcs⟩ := List.forall_mem_cons.1 hcs
    simp [readDigits, digit?_of_isDigit hc, ih hcs]

/-- The digits of a number. -/
def decimals (n : Nat) : List Nat := (Nat.toDigits 10 n).map fun c => c.toNat - 48

theorem readDigits_toDigits (n : Nat) {rest : List Char} (hrest : Delimits rest) :
    readDigits (Nat.toDigits 10 n ++ rest) = (decimals n, rest) :=
  readDigits_append (fun _ hc => Nat.isDigit_of_mem_toDigits (by decide) (by decide) hc) hrest

theorem decimals_of_lt : ∀ n < 10, decimals n = [n] := by decide

theorem decimals_of_le {n : Nat} (h : 10 ≤ n) : decimals n = decimals (n / 10) ++ [n % 10] := by
  have hlast : [n % 10] = decimals (n % 10) := (decimals_of_lt _ (Nat.mod_lt _ (by decide))).symm
  rw [hlast, decimals, Nat.toDigits_of_base_le (by decide) h, List.map_append, decimals, decimals,
    Nat.toDigits_of_lt_base (Nat.mod_lt _ (by decide))]

theorem accumulate_decimals {n : Nat} (h : n ≤ maxWord) (ds : List Nat) :
    accumulate 0 (decimals n ++ ds) = accumulate n ds := by
  induction n using Nat.strongRecOn generalizing ds with
  | ind n ih =>
    rcases Nat.lt_or_ge n 10 with hlt | hge
    · rw [decimals_of_lt n hlt, List.singleton_append, accumulate, Nat.zero_mul, Nat.zero_add, if_pos h]
    · have hsplit : n / 10 * 10 + n % 10 = n := Nat.div_add_mod' n 10
      rw [decimals_of_le hge, List.append_assoc, ih (n / 10) (by omega) (by omega), List.singleton_append, accumulate, hsplit,
        if_pos h]

/-- No number but zero begins with a zero. -/
theorem head?_decimals {n : Nat} (h : 0 < n) : (decimals n).head? ≠ some 0 := by
  induction n using Nat.strongRecOn with
  | ind n ih =>
    rcases Nat.lt_or_ge n 10 with hlt | hge
    · rw [decimals_of_lt n hlt]
      simpa using h.ne'
    · have hne : decimals (n / 10) ≠ [] := by simp [decimals, Nat.toDigits_ne_nil]
      rw [decimals_of_le hge, List.head?_append_of_ne_nil _ hne]
      exact ih (n / 10) (by omega) (by omega)

theorem decimals_cases (n : Nat) : (∃ d, decimals n = [d]) ∨ ∃ d e ds, d ≠ 0 ∧ decimals n = d :: e :: ds := by
  rcases n.eq_zero_or_pos with rfl | hpos
  · exact .inl ⟨0, by decide⟩
  · have hhead := head?_decimals hpos
    match h : decimals n with
    | [] => simp [decimals, Nat.toDigits_ne_nil] at h
    | [d] => exact .inl ⟨d, rfl⟩
    | d :: e :: ds =>
      rw [h] at hhead
      exact .inr ⟨d, e, ds, by simpa using hhead, rfl⟩

theorem readFraction_of_delimits {rest : List Char} (h : Delimits rest) : readFraction rest = some (none, rest) := by
  cases rest with
  | nil => rfl
  | cons c rest => simp [readFraction, (h c rfl).2.1]

theorem readExponent_of_delimits {rest : List Char} (h : Delimits rest) : readExponent rest = some (none, rest) := by
  cases rest with
  | nil => rfl
  | cons c rest => simp [readExponent, (h c rfl).2.2.1, (h c rfl).2.2.2]

theorem read?_negative (n : Nat) {rest : List Char} (hrest : Delimits rest) :
    read? ('-' :: (Nat.toDigits 10 n ++ rest)) = some (⟨true, decimals n, none, none⟩, rest) := by
  rcases decimals_cases n with ⟨d, hd⟩ | ⟨d, e, ds, h0, hd⟩ <;>
    simp [read?, readDigits_toDigits n hrest, readFraction_of_delimits hrest, readExponent_of_delimits hrest, *]

theorem read?_natural (n : Nat) {rest : List Char} (hrest : Delimits rest) :
    read? (Nat.toDigits 10 n ++ rest) = some (⟨false, decimals n, none, none⟩, rest) := by
  have hread := readDigits_toDigits n hrest
  obtain ⟨c, cs, hcs⟩ := List.exists_cons_of_ne_nil (Nat.toDigits_ne_nil (n := n) (b := 10))
  have hminus : c ≠ '-' := by
    rintro rfl
    exact absurd (Nat.isDigit_of_mem_toDigits (by decide) (by decide) (hcs ▸ List.mem_cons_self)) (by decide)
  rw [hcs, List.cons_append] at hread ⊢
  rcases decimals_cases n with ⟨d, hd⟩ | ⟨d, e, ds, h0, hd⟩ <;>
    simp [read?, readFraction_of_delimits hrest, readExponent_of_delimits hrest, *]

theorem value?_decimals {n : Int} (h : (Number.int n).Fits) :
    (Numeral.mk (decide (n < 0)) (decimals n.natAbs) none none).value? = some (.int n) := by
  obtain ⟨hlow, hhigh⟩ := h
  have hword : n.natAbs ≤ maxWord := by
    rw [maxWord]
    omega
  have hall : accumulate 0 (decimals n.natAbs) = (n.natAbs, []) := by
    rw [← List.append_nil (decimals _), accumulate_decimals hword, accumulate]
  rcases lt_or_ge n 0 with hneg | hpos
  · have hs : 0 < n.natAbs ∧ n.natAbs ≤ 9223372036854775808 := by omega
    simp only [value?, hall, hneg, decide_true, Option.isNone_none, List.isEmpty_nil, and_self, if_true, Bool.not_true,
      Bool.false_eq_true, if_false, hs]
    congr 2
    omega
  · simp only [value?, hall, hpos.not_gt, decide_false, Option.isNone_none, List.isEmpty_nil, and_self, if_true, Bool.not_false]
    congr 2
    omega

end Numeral

/-- What an integer is written as. -/
theorem Number.toList_write_int (n : Int) :
    (Number.int n).write.toList = if n < 0 then '-' :: Nat.toDigits 10 n.natAbs else Nat.toDigits 10 n.natAbs := by
  by_cases h : n < 0 <;> simp [write, h, Nat.toList_repr]

namespace Reader

open Numeral (Delimits)

/-- An integer begins with a sign or a digit. -/
theorem exists_cons_of_integer (n : Int) :
    ∃ c cs, (Number.int n).write.toList = c :: cs ∧ (c = '-' ∨ c.isDigit = true) := by
  rw [Number.toList_write_int]
  split_ifs
  · exact ⟨_, _, rfl, .inl rfl⟩
  · obtain ⟨c, cs, hcs⟩ := List.exists_cons_of_ne_nil (Nat.toDigits_ne_nil (n := n.natAbs) (b := 10))
    exact ⟨c, cs, hcs, .inr (Nat.isDigit_of_mem_toDigits (by decide) (by decide) (hcs ▸ List.mem_cons_self))⟩

theorem read?_integer (n : Int) {rest : List Char} (hrest : Delimits rest) :
    Numeral.read? ((Number.int n).write.toList ++ rest) =
      some (⟨decide (n < 0), Numeral.decimals n.natAbs, none, none⟩, rest) := by
  rw [Number.toList_write_int]
  split_ifs with h
  · rw [decide_eq_true h]
    exact Numeral.read?_negative _ hrest
  · rw [decide_eq_false h]
    exact Numeral.read?_natural _ hrest

theorem scalar_integer {n : Int} (h : (Number.int n).Fits) {rest : List Char} (hrest : Delimits rest) :
    scalar ((Number.int n).write.toList ++ rest) = (.num (.int n), some rest) := by
  have hread := read?_integer n hrest
  obtain ⟨c, cs, hcs, hc⟩ := exists_cons_of_integer n
  rw [hcs, List.cons_append] at hread ⊢
  have hother : c ≠ 'n' ∧ c ≠ 't' ∧ c ≠ 'f' ∧ c ≠ '"' := by
    refine ⟨?_, ?_, ?_, ?_⟩ <;> (rintro rfl; revert hc; decide)
  simp [scalar, hother, hread, Numeral.value?_decimals h]

end Reader

/-! ### Trees -/

/-- The tree has no faults, and its numbers are integers of 64 bits: its text says all of it. -/
structure Tree.Exact (t : Tree) : Prop where
  readable : t.value?.isSome
  integers : ∀ n ∈ t.numbers, n.IsInt
  fit : ∀ n ∈ t.numbers, n.Fits

namespace Tree

theorem exact_of_no_numbers {t : Tree} (h : t.value?.isSome) (hnone : t.numbers = []) : t.Exact :=
  ⟨h, by simp [hnone], by simp [hnone]⟩

theorem exact_arr_iff {items : List Tree} : (arr items).Exact ↔ ∀ t ∈ items, t.Exact := by
  constructor
  · intro h t ht
    exact ⟨isSome_value?_arr.1 h.readable t ht, fun n hn => h.integers n (mem_numbers_arr.2 ⟨t, ht, hn⟩),
      fun n hn => h.fit n (mem_numbers_arr.2 ⟨t, ht, hn⟩)⟩
  · intro h
    refine ⟨isSome_value?_arr.2 fun t ht => (h t ht).readable, fun n hn => ?_, fun n hn => ?_⟩ <;>
      obtain ⟨t, ht, hn⟩ := mem_numbers_arr.1 hn
    · exact (h t ht).integers n hn
    · exact (h t ht).fit n hn

theorem exact_obj_iff {members : List (Option String × Tree)} :
    (obj members).Exact ↔ ∀ m ∈ members, m.1.isSome ∧ m.2.Exact := by
  constructor
  · intro h m hm
    obtain ⟨hname, hvalue⟩ := isSome_value?_obj.1 h.readable m hm
    exact ⟨hname, hvalue, fun n hn => h.integers n (mem_numbers_obj.2 ⟨m, hm, hn⟩),
      fun n hn => h.fit n (mem_numbers_obj.2 ⟨m, hm, hn⟩)⟩
  · intro h
    refine ⟨isSome_value?_obj.2 fun m hm => ⟨(h m hm).1, (h m hm).2.readable⟩, fun n hn => ?_, fun n hn => ?_⟩ <;>
      obtain ⟨m, hm, hn⟩ := mem_numbers_obj.1 hn
    · exact (h m hm).2.integers n hn
    · exact (h m hm).2.fit n hn

end Tree

namespace Reader

open Numeral (Delimits)
open Writer (write writeItems writeMembers quoted)

/-- A text begins with its first character, no blank and no bracket that closes. -/
theorem exists_cons_of_write {t : Tree} (h : t.Exact) :
    ∃ c cs, write t = c :: cs ∧ isBlank c = false ∧ c ≠ ']' := by
  cases t with
  | null => exact ⟨_, _, rfl, by decide, by decide⟩
  | bool b => cases b <;> exact ⟨_, _, rfl, by decide, by decide⟩
  | num n =>
    cases n with
    | float x => exact absurd (h.integers _ List.mem_cons_self) id
    | int n =>
      obtain ⟨c, cs, hcs, hc⟩ := exists_cons_of_integer n
      refine ⟨c, cs, hcs, ?_, ?_⟩
      · rw [isBlank, Bool.eq_false_iff]
        intro hblank
        simp only [Bool.or_eq_true, beq_iff_eq] at hblank
        rcases hblank with ((rfl | rfl) | rfl) | rfl <;> (revert hc; decide)
      · rintro rfl
        revert hc
        decide
  | str s => exact ⟨_, _, rfl, by decide, by decide⟩
  | arr items => cases items <;> exact ⟨_, _, rfl, by decide, by decide⟩
  | obj members => cases members <;> exact ⟨_, _, rfl, by decide, by decide⟩
  | unreadable | broken => exact absurd h.readable (by simp [Tree.value?])

theorem skipBlanks_write {t : Tree} (h : t.Exact) (rest : List Char) : skipBlanks (write t ++ rest) = write t ++ rest := by
  obtain ⟨c, cs, hcs, hc, -⟩ := exists_cons_of_write h
  rw [hcs, List.cons_append, skipBlanks, List.dropWhile_cons, hc, if_neg Bool.false_ne_true]

theorem skipBlanks_cons {c : Char} (hc : isBlank c = false) (rest : List Char) : skipBlanks (c :: rest) = c :: rest := by
  rw [skipBlanks, List.dropWhile_cons, hc, if_neg Bool.false_ne_true]

theorem delimits_cons {c : Char} (hc : c = ',' ∨ c = ']' ∨ c = '}') (rest : List Char) : Delimits (c :: rest) := by
  intro d hd
  obtain rfl : c = d := Option.some.inj hd
  rcases hc with rfl | rfl | rfl <;> decide

/-- What reading a tree from its text comes to, whatever follows the text. -/
def Reads (t : Tree) : Prop := ∀ fuel rest, (write t).length ≤ fuel → Delimits rest → value fuel (write t ++ rest) = (t, some rest)

theorem items_write {t : Tree} {ts : List Tree} (hexact : ∀ u ∈ t :: ts, u.Exact) (hreads : ∀ u ∈ t :: ts, Reads u)
    {fuel : Nat} (hfuel : (write t ++ writeItems ts).length ≤ fuel) (rest : List Char) :
    items fuel (write t ++ (writeItems ts ++ rest)) = (t :: ts, some rest) := by
  induction ts generalizing t fuel with
  | nil =>
    simp only [writeItems, List.length_append, List.length_cons, List.length_nil] at hfuel
    obtain ⟨fuel, rfl⟩ := Nat.exists_eq_add_one_of_ne_zero (by omega : fuel ≠ 0)
    have ht := hreads t List.mem_cons_self fuel (']' :: rest) (by omega) (delimits_cons (by decide) rest)
    simp only [writeItems, List.singleton_append, items, ht, skipBlanks_cons (by decide : isBlank ']' = false)]
  | cons u ts ih =>
    obtain ⟨-, hexact⟩ := List.forall_mem_cons.1 hexact
    obtain ⟨ht, hreads⟩ := List.forall_mem_cons.1 hreads
    simp only [writeItems, List.length_append, List.length_cons] at hfuel
    obtain ⟨fuel, rfl⟩ := Nat.exists_eq_add_one_of_ne_zero (by omega : fuel ≠ 0)
    have ht := ht fuel (',' :: (write u ++ (writeItems ts ++ rest))) (by omega) (delimits_cons (by decide) _)
    have hlength : (write u ++ writeItems ts).length ≤ fuel := by
      rw [List.length_append]
      omega
    have hts := ih hexact hreads hlength
    simp only [writeItems, List.cons_append, List.append_assoc, items, ht, skipBlanks_cons (by decide : isBlank ',' = false),
      skipBlanks_write (hexact u List.mem_cons_self), hts]

theorem quoted_append (k : String) (rest : List Char) :
    quoted k ++ rest = '"' :: (k.toList.flatMap Writer.escape ++ '"' :: rest) := by
  simp [quoted]

theorem members_write {k : String} {t : Tree} {ms : List (Option String × Tree)}
    (hexact : ∀ m ∈ (some k, t) :: ms, m.1.isSome ∧ m.2.Exact) (hreads : ∀ m ∈ (some k, t) :: ms, Reads m.2)
    {fuel : Nat} (hfuel : (quoted k ++ ':' :: write t ++ writeMembers ms).length ≤ fuel) (rest : List Char) :
    members fuel (quoted k ++ ':' :: (write t ++ (writeMembers ms ++ rest))) = ((some k, t) :: ms, some rest) := by
  induction ms generalizing k t fuel with
  | nil =>
    have hexact := (hexact _ List.mem_cons_self).2
    simp only [writeMembers, List.length_append, List.length_cons, List.length_nil] at hfuel
    obtain ⟨fuel, rfl⟩ := Nat.exists_eq_add_one_of_ne_zero (by omega : fuel ≠ 0)
    have ht : value fuel (write t ++ '}' :: rest) = (t, some ('}' :: rest)) :=
      hreads _ List.mem_cons_self fuel _ (by simp only; omega) (delimits_cons (by decide) rest)
    simp only [writeMembers, List.singleton_append, quoted_append, members, string?_escaped,
      skipBlanks_cons (by decide : isBlank ':' = false), skipBlanks_write hexact, ht, skipBlanks_cons (by decide : isBlank '}' = false)]
  | cons m ms ih =>
    obtain ⟨ht, hexact⟩ := List.forall_mem_cons.1 hexact
    obtain ⟨hread, hreads⟩ := List.forall_mem_cons.1 hreads
    obtain ⟨n, u⟩ := m
    obtain ⟨n, rfl⟩ := Option.isSome_iff_exists.1 (hexact _ List.mem_cons_self).1
    simp only [writeMembers, Option.getD_some, List.length_append, List.length_cons] at hfuel
    obtain ⟨fuel, rfl⟩ := Nat.exists_eq_add_one_of_ne_zero (by omega : fuel ≠ 0)
    have hvalue : ∀ more, value fuel (write t ++ ',' :: more) = (t, some (',' :: more)) :=
      fun more => hread fuel _ (by simp only; omega) (delimits_cons (by decide) more)
    have hlength : (quoted n ++ ':' :: write u ++ writeMembers ms).length ≤ fuel := by
      simp only [List.length_append, List.length_cons]
      omega
    have hms := ih hexact hreads hlength
    have hblank : ∀ more, skipBlanks (quoted n ++ more) = quoted n ++ more := fun more => skipBlanks_cons (by decide) _
    simp only [writeMembers, Option.getD_some, List.cons_append, List.append_assoc]
    rw [quoted_append]
    simp only [members, string?_escaped, skipBlanks_cons (by decide : isBlank ':' = false), skipBlanks_write ht.2, hvalue,
      skipBlanks_cons (by decide : isBlank ',' = false), hblank, hms]

theorem reads_leaf {t : Tree} (h : t.Exact) (harr : ∀ items, t ≠ .arr items) (hobj : ∀ members, t ≠ .obj members) : Reads t := by
  intro fuel rest hfuel hrest
  have hpos : fuel ≠ 0 := by
    obtain ⟨c, cs, hcs, -⟩ := exists_cons_of_write h
    rw [hcs, List.length_cons] at hfuel
    omega
  obtain ⟨fuel, rfl⟩ := Nat.exists_eq_add_one_of_ne_zero hpos
  cases t with
  | arr items => exact absurd rfl (harr items)
  | obj members => exact absurd rfl (hobj members)
  | null => rfl
  | bool b => cases b <;> rfl
  | num n =>
    cases n with
    | float x => exact absurd (h.integers _ List.mem_cons_self) id
    | int n =>
      have hscalar := scalar_integer (h.fit _ List.mem_cons_self) hrest
      obtain ⟨c, cs, hcs, hc⟩ := exists_cons_of_integer n
      have hother : c ≠ '[' ∧ c ≠ '{' := by
        refine ⟨?_, ?_⟩ <;> (rintro rfl; revert hc; decide)
      rw [write]
      rw [hcs, List.cons_append] at hscalar ⊢
      simp [value, hother, hscalar]
  | str s => simp [write, quoted_append, value, scalar, string?_escaped]
  | unreadable | broken => exact absurd h.readable (by simp [Tree.value?])

theorem reads_arr {items : List Tree} (hexact : ∀ t ∈ items, t.Exact) (hreads : ∀ t ∈ items, Reads t) : Reads (.arr items) := by
  intro fuel rest hfuel hrest
  cases items with
  | nil =>
    obtain ⟨fuel, rfl⟩ := Nat.exists_eq_add_one_of_ne_zero (Nat.ne_zero_of_lt hfuel)
    rfl
  | cons t ts =>
    simp only [write, List.cons_append, List.length_cons] at hfuel
    obtain ⟨fuel, rfl⟩ := Nat.exists_eq_add_one_of_ne_zero (Nat.ne_zero_of_lt hfuel)
    have hitems := items_write hexact hreads (Nat.le_of_succ_le_succ hfuel) rest
    obtain ⟨c, cs, hcs, -, hc⟩ := exists_cons_of_write (hexact t List.mem_cons_self)
    have hblank := skipBlanks_write (hexact t List.mem_cons_self) (writeItems ts ++ rest)
    simp only [write, List.cons_append, List.append_assoc]
    rw [hcs, List.cons_append] at hitems hblank ⊢
    simp [value, hblank, hc, hitems]

theorem reads_obj {members : List (Option String × Tree)} (hexact : ∀ m ∈ members, m.1.isSome ∧ m.2.Exact)
    (hreads : ∀ m ∈ members, Reads m.2) : Reads (.obj members) := by
  intro fuel rest hfuel hrest
  cases members with
  | nil =>
    obtain ⟨fuel, rfl⟩ := Nat.exists_eq_add_one_of_ne_zero (Nat.ne_zero_of_lt hfuel)
    rfl
  | cons m ms =>
    obtain ⟨k, t⟩ := m
    obtain ⟨k, rfl⟩ := Option.isSome_iff_exists.1 (hexact _ List.mem_cons_self).1
    simp only [write, Option.getD_some, List.cons_append, List.length_cons] at hfuel
    obtain ⟨fuel, rfl⟩ := Nat.exists_eq_add_one_of_ne_zero (Nat.ne_zero_of_lt hfuel)
    have hmembers := members_write hexact hreads (Nat.le_of_succ_le_succ hfuel) rest
    simp only [write, Option.getD_some, List.cons_append, List.append_assoc]
    rw [quoted_append] at hmembers ⊢
    simp [value, skipBlanks_cons (by decide : isBlank '"' = false), hmembers]

/-- What is written for a tree is read as the tree. -/
theorem reads_of_exact {t : Tree} (h : t.Exact) : Reads t := by
  induction t using Tree.induction with
  | leaf t harr hobj => exact reads_leaf h harr hobj
  | arr items ih =>
    have hexact := Tree.exact_arr_iff.1 h
    exact reads_arr hexact fun t ht => ih t ht (hexact t ht)
  | obj members ih =>
    have hexact := Tree.exact_obj_iff.1 h
    exact reads_obj hexact fun m hm => ih m hm (hexact m hm).2

end Reader

/-- The text of a tree is read as the tree, and nothing is left of it. -/
theorem Document.ofText_write {t : Tree} (h : t.Exact) : Document.ofText t.write = ⟨t, true⟩ := by
  have hread := Reader.reads_of_exact h (2 * (Writer.write t).length + 2) [] (by omega) (fun c hc => absurd hc (by simp))
  have hblank := Reader.skipBlanks_write h []
  rw [List.append_nil] at hread hblank
  simp only [ofText, Tree.write, String.toList_ofList, hblank, hread]
  rfl

/-! ### Whatever the text -/

namespace Numeral

theorem accumulate_le {s : Nat} (hs : s ≤ maxWord) (ds : List Nat) : (accumulate s ds).1 ≤ maxWord := by
  induction ds generalizing s with
  | nil => exact hs
  | cons d ds ih =>
    rw [accumulate]
    split_ifs with h
    · exact ih h
    · exact hs

theorem fits_of_value? {x : Numeral} {n : Number} (h : x.value? = some n) : n.Fits := by
  cases n with
  | float y => trivial
  | int n =>
    have hword := accumulate_le (Nat.zero_le maxWord) x.whole
    simp only [value?] at h
    split_ifs at h <;> simp only [Option.some.injEq, Number.int.injEq, reduceCtorEq, Option.map_eq_some_iff, and_false,
      exists_false] at h
    all_goals
      subst h
      simp only [Number.Fits]
      simp only [maxWord] at hword
      omega

end Numeral

namespace Reader

/-- The numbers of a tree that was read are of 64 bits if they are integers. -/
abbrev AllFit (t : Tree) : Prop := ∀ n ∈ t.numbers, n.Fits

theorem allFit_of_no_numbers {t : Tree} (h : t.numbers = []) : AllFit t := fun _ hn => absurd (h ▸ hn) List.not_mem_nil

theorem allFit_scalar (cs : List Char) : AllFit (scalar cs).1 := by
  unfold scalar
  split
  case h_5 =>
    split
    case h_1 x rest _ =>
      cases hx : x.value? with
      | none => exact allFit_of_no_numbers rfl
      | some n => exact fun m hm => List.mem_singleton.1 hm ▸ Numeral.fits_of_value? hx
    case h_2 => exact allFit_of_no_numbers rfl
  case h_4 => split <;> exact allFit_of_no_numbers rfl
  all_goals
    unfold word
    split <;> exact allFit_of_no_numbers rfl

theorem allFit_broken : AllFit .broken := allFit_of_no_numbers rfl

section Step

variable {fuel : Nat}

theorem allFit_value_succ (hitems : ∀ cs, ∀ t ∈ (items fuel cs).1, AllFit t)
    (hmembers : ∀ cs, ∀ m ∈ (members fuel cs).1, AllFit m.2) (cs : List Char) : AllFit (value (fuel + 1) cs).1 := by
  unfold value
  split
  · split
    · exact allFit_of_no_numbers rfl
    · intro n hn
      obtain ⟨t, ht, hn⟩ := Tree.mem_numbers_arr.1 hn
      exact hitems _ t ht n hn
  · split
    · exact allFit_of_no_numbers rfl
    · intro n hn
      obtain ⟨m, hm, hn⟩ := Tree.mem_numbers_obj.1 hn
      exact hmembers _ m hm n hn
  · exact allFit_scalar _

variable (hvalue : ∀ cs, AllFit (value fuel cs).1)

include hvalue

theorem allFit_items_succ (hitems : ∀ cs, ∀ t ∈ (items fuel cs).1, AllFit t) (cs : List Char) :
    ∀ t ∈ (items (fuel + 1) cs).1, AllFit t := by
  intro t ht
  have hfirst := hvalue cs
  rw [items] at ht
  split at ht
  next hv =>
    rw [hv] at hfirst
    exact List.mem_singleton.1 ht ▸ hfirst
  next hv =>
    rw [hv] at hfirst
    split at ht
    · exact List.mem_singleton.1 ht ▸ hfirst
    · rcases List.mem_cons.1 ht with rfl | ht
      · exact hfirst
      · exact hitems _ t ht
    · rcases List.mem_cons.1 ht with rfl | ht
      · exact hfirst
      · exact List.mem_singleton.1 ht ▸ allFit_broken

theorem allFit_members_succ (hmembers : ∀ cs, ∀ m ∈ (members fuel cs).1, AllFit m.2) (cs : List Char) :
    ∀ m ∈ (members (fuel + 1) cs).1, AllFit m.2 := by
  intro m hm
  rw [members.eq_def] at hm
  dsimp only at hm
  split at hm
  case h_2 => exact List.mem_singleton.1 hm ▸ allFit_broken
  split at hm
  case h_1 => exact List.mem_singleton.1 hm ▸ allFit_broken
  split at hm
  case h_2 => exact List.mem_singleton.1 hm ▸ allFit_broken
  next rest _ =>
    have hfirst := hvalue (skipBlanks rest)
    split at hm
    next hv =>
      rw [hv] at hfirst
      exact List.mem_singleton.1 hm ▸ hfirst
    next hv =>
      rw [hv] at hfirst
      split at hm
      · exact List.mem_singleton.1 hm ▸ hfirst
      · rcases List.mem_cons.1 hm with rfl | hm
        · exact hfirst
        · exact hmembers _ m hm
      · rcases List.mem_cons.1 hm with rfl | hm
        · exact hfirst
        · exact List.mem_singleton.1 hm ▸ allFit_broken

end Step

theorem allFit_value (fuel : Nat) : (∀ cs, AllFit (value fuel cs).1) ∧ (∀ cs, ∀ t ∈ (items fuel cs).1, AllFit t) ∧
    ∀ cs, ∀ m ∈ (members fuel cs).1, AllFit m.2 := by
  induction fuel with
  | zero =>
    exact ⟨fun _ => allFit_broken, fun _ t ht => List.mem_singleton.1 ht ▸ allFit_broken,
      fun _ m hm => List.mem_singleton.1 hm ▸ allFit_broken⟩
  | succ fuel ih =>
    obtain ⟨hvalue, hitems, hmembers⟩ := ih
    exact ⟨allFit_value_succ hitems hmembers, allFit_items_succ hvalue hitems, allFit_members_succ hvalue hmembers⟩

end Reader

theorem Document.fits_of_ofText (text : String) : ∀ n ∈ (ofText text).tree.numbers, n.Fits := by
  rw [ofText]
  exact (Reader.allFit_value _).1 _

end FleetFeed.Json
