import FleetFeed.Proofs.Json.TextRoundTrip
import FleetFeed.Toml.Document

/-! Values as they may be written. Any text and any natural number has a spelling that is read back (`scalar?_quoted`,
`scalar?_toDigits`), and a document of one line, under a header or not, gives that one value. -/
namespace FleetFeed.Toml

variable {rest : List Char}

/-! ### Texts -/

/-- A character that stands for itself between quotes. -/
def isOrdinary (c : Char) : Bool := isPlain c && c != '"' && c != '\\'

/-- A character in a text between quotes. -/
def spell (c : Char) : List Char :=
  if isOrdinary c then [c] else ['\\', 'u', '0', '0', Nat.digitChar (c.toNat / 16), Nat.digitChar (c.toNat % 16)]

theorem spell_cases (c : Char) : (isPlain c = true ∧ c ≠ '"' ∧ c ≠ '\\') ∧ spell c = [c] ∨
    c.toNat < 128 ∧ spell c = ['\\', 'u', '0', '0', Nat.digitChar (c.toNat / 16), Nat.digitChar (c.toNat % 16)] := by
  by_cases hc : isOrdinary c = true
  · refine .inl ⟨?_, if_pos hc⟩
    simpa only [isOrdinary, Bool.and_eq_true, bne_iff_ne, ne_eq, and_assoc] using hc
  · refine .inr ⟨Nat.lt_of_not_le fun hlow => hc ?_, if_neg hc⟩
    have hquote : c ≠ '"' := fun h => absurd hlow (h ▸ by decide)
    have hslash : c ≠ '\\' := fun h => absurd hlow (h ▸ by decide)
    have hplain : 32 ≤ c.toNat ∧ c.toNat ≠ 127 := by omega
    simp [isOrdinary, isPlain, hquote, hslash, hplain]

theorem scalar?_low : ∀ n < 128, scalar? ['0', '0', Nat.digitChar (n / 16), Nat.digitChar (n % 16)] = some (Char.ofNat n) := by
  decide

theorem escape?_low {c : Char} (h : c.toNat < 128) :
    escape? ('u' :: '0' :: '0' :: Nat.digitChar (c.toNat / 16) :: Nat.digitChar (c.toNat % 16) :: rest) = some (c, rest) := by
  have hlength : ¬ rest.length + 1 + 1 + 1 + 1 < 4 := by omega
  simp [escape?, hlength, scalar?_low c.toNat h]

/-- A text is read back whatever follows its closing quote. -/
theorem line?_spell (cs : List Char) {fuel : Nat} (h : (cs.flatMap spell).length < fuel) :
    line? '"' false fuel (cs.flatMap spell ++ '"' :: rest) = some (cs, rest) := by
  induction cs generalizing fuel with
  | nil =>
    obtain ⟨fuel, rfl⟩ : ∃ f, fuel = f + 1 := ⟨fuel - 1, by simp at h; omega⟩
    simp [line?]
  | cons c cs ih =>
    obtain ⟨fuel, rfl⟩ : ∃ f, fuel = f + 1 := ⟨fuel - 1, by omega⟩
    rw [List.flatMap_cons, List.length_append] at h
    rw [List.flatMap_cons, List.append_assoc]
    rcases spell_cases c with ⟨hc, hspell⟩ | ⟨hc, hspell⟩ <;> rw [hspell] at h ⊢ <;>
      simp only [List.length_cons, List.length_nil] at h
    · simp [line?, hc, @ih fuel (by omega)]
    · simp [line?, escape?_low hc, @ih fuel (by omega)]

/-- A text between quotes. -/
def quoted (s : String) : List Char := '"' :: (s.toList.flatMap spell ++ ['"'])

theorem string?_line {d : Char} (hd : d ≠ '"') (body : List Char) :
    string? ('"' :: d :: body) = (line? '"' false (d :: body).length (d :: body)).map fun r => (String.ofList r.1, r.2) := by
  simp [string?, hd, Option.map_eq_bind]

theorem string?_quoted (s : String) : string? (quoted s) = some (s, []) := by
  have hread : line? '"' false (s.toList.flatMap spell ++ ['"']).length (s.toList.flatMap spell ++ ['"']) = some (s.toList, []) :=
    line?_spell s.toList (by simp)
  unfold quoted
  cases hs : s.toList with
  | nil =>
    obtain rfl : s = "" := by simpa using hs
    rfl
  | cons c cs =>
    obtain ⟨d, ds, hd, hspell⟩ : ∃ d ds, d ≠ '"' ∧ spell c = d :: ds := by
      rcases spell_cases c with ⟨hc, h⟩ | ⟨-, h⟩
      · exact ⟨c, [], hc.2.1, h⟩
      · exact ⟨'\\', _, by decide, h⟩
    rw [hs, List.flatMap_cons, hspell, List.cons_append, List.cons_append] at hread
    rw [List.flatMap_cons, hspell, List.cons_append, List.cons_append, string?_line hd, hread, Option.map_some, ← hs,
      String.ofList_toList]

theorem scalar?_quoted (s : String) : Reader.scalar? (quoted s) = some (.str s, []) := by
  have hread := string?_quoted s
  unfold quoted at hread ⊢
  simp [Reader.scalar?, hread]

/-! ### Numbers -/

theorem isDigit_iff {c : Char} : isDigit c = true ↔ c.isDigit = true := by
  simp only [isDigit, Char.isDigit]
  rfl

theorem isDigit_of_mem {n : Nat} {c : Char} (h : c ∈ Nat.toDigits 10 n) : isDigit c = true :=
  isDigit_iff.2 (Nat.isDigit_of_mem_toDigits (by decide) (by decide) h)

/-- No number but zero begins with a zero. -/
theorem toDigits_cases (n : Nat) :
    (∃ c, Nat.toDigits 10 n = [c]) ∨ ∃ c d ds, c ≠ '0' ∧ Nat.toDigits 10 n = c :: d :: ds := by
  rcases Json.Numeral.decimals_cases n with ⟨d, h⟩ | ⟨d, e, ds, hd, h⟩ <;> unfold Json.Numeral.decimals at h
  · obtain ⟨c, hc, -⟩ := List.map_eq_singleton_iff.1 h
    exact .inl ⟨c, hc⟩
  · obtain ⟨c, cs, hc, hcd, hcs⟩ := List.map_eq_cons_iff.1 h
    obtain ⟨c', cs', rfl, -, -⟩ := List.map_eq_cons_iff.1 hcs
    refine .inr ⟨c, c', cs', ?_, hc⟩
    rintro rfl
    exact hd hcd.symm

theorem digits?_all {p : Char → Bool} (hmark : p '_' = false) {cs : List Char} (hcs : ∀ c ∈ cs, p c = true)
    (hne : cs ≠ []) : digits? p cs = some (cs, []) := by
  induction cs with
  | nil => exact absurd rfl hne
  | cons c cs ih =>
    cases cs with
    | nil => simp [digits?, hcs]
    | cons d cs =>
      have hd : d ≠ '_' := by
        rintro rfl
        simp [hmark] at hcs
      have htail := ih (fun c hc => hcs c (.tail _ hc)) (by simp)
      simp [digits?, hcs, hd, htail]

theorem whole?_toDigits (n : Nat) : whole? (Nat.toDigits 10 n) = some (Nat.toDigits 10 n, []) := by
  have hall := digits?_all (p := isDigit) (by decide) (fun c hc => isDigit_of_mem (n := n) hc) Nat.toDigits_ne_nil
  rcases toDigits_cases n with ⟨c, h⟩ | ⟨c, d, ds, hc, h⟩ <;> rw [h] at hall ⊢
  · by_cases hc : c = '0'
    · rw [hc]
      rfl
    · simp [whole?, hc, hall]
  · simp [whole?, hc, hall]

theorem foldl_toDigits (n : Nat) : (Nat.toDigits 10 n).foldl (fun k c => k * 10 + (c.toNat - 48)) 0 = n := by
  simp only [Nat.mul_comm _ 10]
  exact Nat.ofDigitChars_ten_toDigits

theorem number_toDigits (n : Nat) : number 10 (Nat.toDigits 10 n) = n := by
  unfold number
  calc (Nat.toDigits 10 n).foldl (fun k c => k * 10 + value c) 0
      = (Nat.toDigits 10 n).foldl (fun k c => k * 10 + (c.toNat - 48)) 0 := by
        apply List.foldl_ext
        intro k c hc
        have hnine : c ≤ '9' := by simpa using (Bool.and_eq_true_iff.1 (isDigit_of_mem hc)).2
        rw [value, if_pos hnine]
    _ = n := foldl_toDigits n

theorem notMem_toDigits {n : Nat} {c : Char} (hc : isDigit c = false) : c ∉ Nat.toDigits 10 n := by
  intro h
  rw [isDigit_of_mem h] at hc
  cases hc

theorem toDigits_ne {n : Nat} {c : Char} (hc : isDigit c = false) (cs : List Char) : Nat.toDigits 10 n ≠ c :: cs :=
  fun h => notMem_toDigits hc (h ▸ List.mem_cons_self)

theorem sign_toDigits (n : Nat) : sign (Nat.toDigits 10 n) = (false, Nat.toDigits 10 n) := by
  unfold sign
  split
  · next h => exact absurd h (toDigits_ne (by decide) _)
  · next h => exact absurd h (toDigits_ne (by decide) _)
  · rfl

theorem integer?_toDigits {n : Nat} (h : n < 9223372036854775808) : integer? (Nat.toDigits 10 n) = some ((n : Int), []) := by
  have hword : inWord n = true := by
    simp [inWord]
    omega
  have hbase {c : Char} (hc : isDigit c = false) (cs : List Char) : Nat.toDigits 10 n ≠ '0' :: c :: cs :=
    fun h => notMem_toDigits (n := n) hc (h ▸ List.mem_cons_of_mem _ List.mem_cons_self)
  unfold integer?
  split
  · next h => exact absurd h (hbase (by decide) _)
  · next h => exact absurd h (hbase (by decide) _)
  · next h => exact absurd h (hbase (by decide) _)
  · simp [sign_toDigits, whole?_toDigits, number_toDigits, hword]

theorem float?_toDigits (n : Nat) : float? (Nat.toDigits 10 n) = none := by
  unfold float?
  rw [sign_toDigits]
  dsimp only
  split
  · next h => exact absurd h (toDigits_ne (by decide) _)
  · next h => exact absurd h (toDigits_ne (by decide) _)
  · rw [whole?_toDigits]
    rfl

open Time.Rfc3339 in
theorem mem_of_number? {k v : Nat} {cs rest : List Char} (h : number? k cs = some (v, rest)) : ∀ c ∈ rest, c ∈ cs := by
  induction k generalizing cs v with
  | zero =>
    cases h
    exact fun c hc => hc
  | succ k ih =>
    cases cs with
    | nil => cases h
    | cons d cs =>
      simp only [number?, Option.bind_eq_bind, Option.bind_eq_some_iff] at h
      obtain ⟨_, -, ⟨w, rest'⟩, hrest, h⟩ := h
      cases h
      exact fun c hc => .tail _ (ih hrest c hc)

open Time.Rfc3339 in
/-- Digits alone are no part of a date or a time, in which a mark follows the first number. -/
theorem mark?_of_number? {k v : Nat} {cs rest : List Char} {m : Char} (hcs : m ∉ cs) (h : number? k cs = some (v, rest)) :
    mark? [m] rest = none := by
  cases rest with
  | nil => rfl
  | cons c rest =>
    have hc : c ≠ m := fun hc => hcs (mem_of_number? h m (hc ▸ List.mem_cons_self))
    simp [mark?, hc]

theorem date?_eq_none {cs : List Char} (h : '-' ∉ cs) : date? cs = none := by
  unfold date?
  simp only [Option.bind_eq_bind, Option.bind_eq_none_iff]
  rintro ⟨year, rest⟩ hyear rest' hrest
  rw [mark?_of_number? h hyear] at hrest
  cases hrest

theorem time?_eq_none {cs : List Char} (h : ':' ∉ cs) : time? cs = none := by
  unfold time?
  simp only [Option.bind_eq_bind, Option.bind_eq_none_iff]
  rintro ⟨hour, rest⟩ hhour rest' hrest
  rw [mark?_of_number? h hhour] at hrest
  cases hrest

theorem datetime?_toDigits (n : Nat) : datetime? (Nat.toDigits 10 n) = none := by
  unfold datetime?
  rw [date?_eq_none (notMem_toDigits (by decide)), time?_eq_none (notMem_toDigits (by decide))]

theorem scalar?_toDigits {n : Nat} (h : n < 9223372036854775808) :
    Reader.scalar? (Nat.toDigits 10 n) = some (.int n, []) := by
  unfold Reader.scalar?
  split
  · next h => exact absurd h (toDigits_ne (by decide) _)
  · next h => exact absurd h (toDigits_ne (by decide) _)
  · next h => exact absurd h (toDigits_ne (by decide) _)
  · next h => exact absurd h (toDigits_ne (by decide) _)
  · rw [datetime?_toDigits, float?_toDigits, integer?_toDigits h]
    rfl

/-! ### Documents of one setting -/

/-- A name that needs no quotes. -/
def IsBare (name : String) : Prop := (!name.isEmpty && name.toList.all inBareKey) = true

theorem IsBare.all_inBareKey {name : String} (h : IsBare name) : ∀ c ∈ name.toList, inBareKey c = true :=
  List.all_eq_true.1 (Bool.and_eq_true_iff.1 h).2

theorem IsBare.exists_cons {name : String} (h : IsBare name) : ∃ c cs, inBareKey c = true ∧ name.toList = c :: cs := by
  have hne : name ≠ "" := by simpa using (Bool.and_eq_true_iff.1 h).1
  cases hn : name.toList with
  | nil => exact absurd (by simpa using hn) hne
  | cons c cs => exact ⟨c, cs, h.all_inBareKey c (hn ▸ List.mem_cons_self), rfl⟩

theorem IsBare.ne_cons {name : String} (h : IsBare name) {m : Char} (hm : inBareKey m = false) (rest more : List Char) :
    name.toList ++ rest ≠ m :: more := by
  obtain ⟨c, cs, hc, hn⟩ := h.exists_cons
  rw [hn, List.cons_append]
  intro heq
  obtain ⟨rfl, -⟩ := List.cons.inj heq
  rw [hm] at hc
  cases hc

theorem not_isSpace {p : Char → Bool} (hspace : p ' ' = false) (htab : p '\t' = false) {c : Char} (h : p c = true) :
    isSpace c = false := by
  rw [Bool.eq_false_iff]
  intro hc
  simp only [isSpace, Bool.or_eq_true, beq_iff_eq] at hc
  rcases hc with rfl | rfl
  · rw [hspace] at h
    cases h
  · rw [htab] at h
    cases h

theorem IsBare.skipSpaces {name : String} (h : IsBare name) (rest : List Char) :
    skipSpaces (name.toList ++ rest) = name.toList ++ rest := by
  obtain ⟨c, cs, hc, hn⟩ := h.exists_cons
  have hspace : isSpace c = false := not_isSpace (by decide) (by decide) hc
  rw [hn, List.cons_append, Toml.skipSpaces, List.dropWhile_cons_of_neg (by simp [hspace])]

theorem IsBare.simpleKey? {name : String} (h : IsBare name) {rest : List Char} (hrest : rest.takeWhile inBareKey = []) :
    simpleKey? (name.toList ++ rest) = some (name, rest) := by
  have htake : (name.toList ++ rest).takeWhile inBareKey = name.toList := by
    rw [List.takeWhile_append_of_pos h.all_inBareKey, hrest, List.append_nil]
  have hempty : name.toList.isEmpty = false := by
    obtain ⟨c, cs, -, hn⟩ := h.exists_cons
    rw [hn, List.isEmpty_cons]
  unfold Toml.simpleKey?
  split
  · next heq => exact absurd heq (h.ne_cons (by decide) _ _)
  · next heq => exact absurd heq (h.ne_cons (by decide) _ _)
  · dsimp only
    rw [htake, hempty, List.drop_left, String.ofList_toList]
    rfl

theorem IsBare.key? {name : String} (h : IsBare name) {rest : List Char} (hrest : rest.takeWhile inBareKey = [])
    (hdot : ∀ more, Toml.skipSpaces rest ≠ '.' :: more) :
    key? (name.toList ++ rest) = some ([name], Toml.skipSpaces rest) := by
  have hpath (fuel : Nat) : keyPath? (fuel + 1) (name.toList ++ rest) = some ([name], Toml.skipSpaces rest) := by
    unfold keyPath?
    simp only [h.skipSpaces, h.simpleKey? hrest, Option.bind_eq_bind, Option.bind_some]
    rfl
  unfold Toml.key?
  rw [hpath]
  rfl

namespace Reader

/-- A text that is read as a value up to its end, and begins neither with a blank nor with a bracket. -/
structure Gives (cs : List Char) (v : Value) : Prop where
  read : scalar? cs = some (v, [])
  start : ∀ c rest, cs = c :: rest → isSpace c = false ∧ c ≠ '[' ∧ c ≠ '{'

theorem gives_quoted (s : String) : Gives (quoted s) (.str s) := by
  refine ⟨scalar?_quoted s, fun c rest h => ?_⟩
  obtain ⟨rfl, -⟩ := List.cons.inj h
  decide

theorem gives_toDigits {n : Nat} (h : n < 9223372036854775808) : Gives (Nat.toDigits 10 n) (.int n) := by
  refine ⟨scalar?_toDigits h, fun c rest hn => ?_⟩
  have hc : isDigit c = true := isDigit_of_mem (n := n) (hn ▸ List.mem_cons_self)
  refine ⟨not_isSpace (by decide) (by decide) hc, ?_, ?_⟩
  · rintro rfl
    exact absurd hc (by decide)
  · rintro rfl
    exact absurd hc (by decide)

variable {cs : List Char} {v : Value} {name : String}

theorem Gives.skipSpaces (h : Gives cs v) : skipSpaces cs = cs := by
  cases cs with
  | nil => rfl
  | cons c cs =>
    obtain ⟨hc, -⟩ := h.start c cs rfl
    rw [Toml.skipSpaces, List.dropWhile_cons_of_neg (by simp [hc])]

theorem Gives.value? (h : Gives cs v) (fuel depth : Nat) : value? (fuel + 1) depth cs = some (v, []) := by
  unfold Reader.value?
  split
  · exact absurd rfl (h.start _ _ rfl).2.1
  · exact absurd rfl (h.start _ _ rfl).2.2
  · exact absurd rfl (h.start _ _ rfl).2.1
  · exact absurd rfl (h.start _ _ rfl).2.2
  · exact h.read

theorem statement?_assign (hname : IsBare name) (h : Gives cs v) (s : State) :
    statement? s (name.toList ++ ' ' :: '=' :: ' ' :: cs) =
      (Members.at? false (fun o => Members.assign? o [] name (.leaf v)) .defined s.path s.root).map fun root =>
        ({ s with root := root }, []) := by
  have hkey : key? (name.toList ++ ' ' :: '=' :: ' ' :: cs) = some ([name], '=' :: ' ' :: cs) :=
    hname.key? rfl fun more => by simp [skipSpaces, isSpace]
  have hskip : skipSpaces (' ' :: cs) = cs := h.skipSpaces
  unfold statement?
  split
  · next heq => exact absurd heq (hname.ne_cons (by decide) _ _)
  · next heq => exact absurd heq (hname.ne_cons (by decide) _ _)
  · rw [hkey]
    simp [word?, hskip, h.value?, Option.map_eq_bind]

theorem statement?_header (hname : IsBare name) (rest : List Char) (s : State) :
    statement? s ('[' :: (name.toList ++ ']' :: rest)) = (s.root.define? [] name).map fun root => (⟨root, [name]⟩, rest) := by
  have hkey : key? (name.toList ++ ']' :: rest) = some ([name], ']' :: rest) :=
    hname.key? rfl fun more => by simp [skipSpaces, isSpace]
  unfold statement?
  split
  · next heq => exact absurd (List.cons.inj heq).2 (hname.ne_cons (by decide) _ _)
  · next heq =>
    obtain ⟨-, rfl⟩ := List.cons.inj heq
    rw [hkey]
    simp [word?, Option.map_eq_bind]
  · next h => exact absurd rfl (h _)

/-- A character with which a statement begins. -/
def Begins (c : Char) : Prop := isSpace c = false ∧ c ≠ '#' ∧ c ≠ '\n' ∧ c ≠ '\r'

theorem skipLines?_of_begins {c : Char} (h : Begins c) (fuel : Nat) (rest : List Char) :
    skipLines? fuel (c :: rest) = some (c :: rest) := by
  obtain ⟨hspace, hcomment, hline, hreturn⟩ := h
  have hskip : skipSpaces (c :: rest) = c :: rest := by
    rw [Toml.skipSpaces, List.dropWhile_cons_of_neg (by simp [hspace])]
  cases fuel with
  | zero => rfl
  | succ fuel => simp [skipLines?, hskip, comment?, newline?, hcomment, hline, hreturn]

theorem statements?_cons {c : Char} (h : Begins c) (fuel : Nat) (s : State) (rest : List Char) :
    statements? (fuel + 1) s (c :: rest) =
      (statement? s (c :: rest)).bind fun r => (lineEnd? r.2).bind fun rest => statements? fuel r.1 rest := by
  rw [statements?, skipLines?_of_begins h]
  simp

theorem statements?_nil (fuel : Nat) (s : State) : statements? fuel s [] = some s := by
  unfold statements?
  rfl

theorem begins_of_bare (hname : IsBare name) : ∃ c rest, Begins c ∧ c ≠ '\ufeff' ∧ name.toList = c :: rest := by
  obtain ⟨c, rest, hc, hn⟩ := hname.exists_cons
  refine ⟨c, rest, ⟨not_isSpace (by decide) (by decide) hc, ?_, ?_, ?_⟩, ?_, hn⟩
  all_goals
    rintro rfl
    exact absurd hc (by decide)

end Reader

open Reader

variable {cs : List Char} {v : Value} {name : String}

/-- A document that gives one value. -/
def assignment (name : String) (cs : List Char) : List Char := name.toList ++ ' ' :: '=' :: ' ' :: cs

theorem statements?_assignment (hname : IsBare name) (h : Gives cs v) {fuel : Nat} (hfuel : 0 < fuel) (s : State) :
    statements? fuel s (assignment name cs) =
      (Members.at? false (fun o => Members.assign? o [] name (.leaf v)) .defined s.path s.root).map fun root =>
        { s with root := root } := by
  obtain ⟨c, rest, hc, -, hn⟩ := begins_of_bare hname
  obtain ⟨fuel, rfl⟩ := Nat.exists_eq_add_of_lt hfuel
  have hstatement := statement?_assign hname h s
  unfold assignment
  rw [hn, List.cons_append] at hstatement ⊢
  have hend : lineEnd? [] = some [] := rfl
  rw [Nat.zero_add, statements?_cons hc, hstatement, Option.bind_map, Option.map_eq_bind]
  simp only [Function.comp_def, hend, Option.bind_some, statements?_nil]

theorem parse?_of_statements? {c : Char} {rest : List Char} {s : State} (hc : c ≠ '\ufeff')
    (h : statements? (c :: rest).length ⟨[], []⟩ (c :: rest) = some s) :
    parse? (String.ofList (c :: rest)) = some (valuesOfMembers s.root) := by
  unfold parse?
  rw [String.toList_ofList]
  split
  · next heq => exact absurd (List.cons.inj heq).1 hc
  · dsimp only
    rw [h]
    rfl

/-- A document of one line gives one value. -/
theorem parse?_assignment (hname : IsBare name) (h : Gives cs v) :
    parse? (String.ofList (assignment name cs)) = some [(name, v)] := by
  obtain ⟨c, rest, -, hc, hn⟩ := begins_of_bare hname
  have hlength : 0 < (assignment name cs).length := by simp [assignment]
  have hread := statements?_assignment hname h hlength ⟨[], []⟩
  have hroot : Members.at? false (fun o => Members.assign? o [] name (.leaf v)) .defined [] [] = some [(name, .leaf v)] := by
    simp [Members.at?, Members.assign?]
  rw [hroot, Option.map_some] at hread
  have htext : assignment name cs = c :: (rest ++ ' ' :: '=' :: ' ' :: cs) := by
    rw [assignment, hn, List.cons_append]
  rw [htext] at hread ⊢
  rw [parse?_of_statements? hc hread]
  simp [valuesOfMembers, Node.value]

/-- A document of a header and one line gives one value in one table. -/
theorem parse?_table {table : String} (htable : IsBare table) (hname : IsBare name) (h : Gives cs v) :
    parse? (String.ofList ('[' :: (table.toList ++ ']' :: '\n' :: assignment name cs))) = some [(table, .table [(name, v)])] := by
  have hheader := statement?_header htable ('\n' :: assignment name cs) ⟨[], []⟩
  have htables : Members.define? [] table [] = some [(table, .table .defined [])] := by
    simp [Members.define?, Members.at?]
  have hroot : Members.at? false (fun o => Members.assign? o [] name (.leaf v)) .defined [table] [(table, .table .defined [])] =
      some [(table, .table .defined [(name, .leaf v)])] := by
    simp [Members.at?, Members.assign?, Members.put]
  have hend : lineEnd? ('\n' :: assignment name cs) = some (assignment name cs) := rfl
  have hread : statements? ('[' :: (table.toList ++ ']' :: '\n' :: assignment name cs)).length ⟨[], []⟩
      ('[' :: (table.toList ++ ']' :: '\n' :: assignment name cs)) =
      some ⟨[(table, .table .defined [(name, .leaf v)])], [table]⟩ := by
    rw [List.length_cons, statements?_cons ⟨by decide, by decide, by decide, by decide⟩, hheader, htables, Option.map_some,
      Option.bind_some, hend, Option.bind_some, statements?_assignment hname h (by simp), hroot, Option.map_some]
  rw [parse?_of_statements? (by decide) hread]
  simp [valuesOfMembers, Node.value]

end FleetFeed.Toml
