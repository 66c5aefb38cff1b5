import FleetFeed.Time.Instant
import Mathlib.Tactic.Ring
import Mathlib.Tactic.SplitIfs

/-! The texts that name an instant, part by part. A text is read exactly when it is a date, a time and a distance from universal
time, each in its range, and the instant is that of the local time less the distance (`parse?_eq_some_iff`). So texts of other
zones can name the same instant, and so can fractions that differ after their ninth digit. -/
namespace FleetFeed.Time

/-! ### Stamps -/

/-- The last `n` decimal digits of a number. -/
def padded : Nat → Nat → List Char
  | 0, _ => []
  | n + 1, v => Nat.digitChar (v / 10 ^ n) :: padded n (v % 10 ^ n)

/-- The first `n` digits as a number, zeros after the last. -/
def leading : Nat → List Nat → Nat
  | n + 1, d :: ds => d * 10 ^ n + leading n ds
  | _, _ => 0

/-- How far local time is from universal time, as it is written. -/
inductive Zone where
  | universal (mark : Char)
  | apart (mark : Char) (hours minutes : Nat)

namespace Zone

def text : Zone → List Char
  | universal mark => [mark]
  | apart mark hours minutes => mark :: (padded 2 hours ++ ':' :: padded 2 minutes)

/-- Seconds by which local time is ahead. -/
def offset : Zone → Int
  | universal _ => 0
  | apart mark hours minutes => if mark = '+' then hours * 3600 + minutes * 60 else -(hours * 3600 + minutes * 60)

def Valid : Zone → Prop
  | universal mark => mark = 'Z' ∨ mark = 'z'
  | apart mark hours minutes => (mark = '+' ∨ mark = '-' ∨ mark = '−') ∧ hours ≤ 23 ∧ minutes ≤ 59

end Zone

/-- The parts of a text that names an instant. Without digits after the point there is no point. -/
structure Stamp where
  year : Nat
  month : Nat
  day : Nat
  divider : Char
  hour : Nat
  minute : Nat
  second : Nat
  fraction : List Nat
  zone : Zone

def fractionText (ds : List Nat) : List Char := if ds = [] then [] else '.' :: ds.map Nat.digitChar

namespace Stamp

def text (s : Stamp) : List Char :=
  padded 4 s.year ++ '-' :: (padded 2 s.month ++ '-' :: (padded 2 s.day ++ s.divider :: (padded 2 s.hour ++ ':' ::
    (padded 2 s.minute ++ ':' :: (padded 2 s.second ++ (fractionText s.fraction ++ s.zone.text))))))

/-- A second after the fifty-ninth lies within that one, after its last nanosecond. -/
def instant (s : Stamp) : Instant where
  seconds := dayNumber s.year s.month s.day * 86400 + s.hour * 3600 + s.minute * 60 + min s.second 59 - s.zone.offset
  nanos := if s.second = 60 then 1000000000 + leading 9 s.fraction else leading 9 s.fraction

structure Valid (s : Stamp) : Prop where
  year : s.year ≤ 9999
  month : 1 ≤ s.month ∧ s.month ≤ 12
  day : 1 ≤ s.day ∧ s.day ≤ daysInMonth s.year s.month
  divider : s.divider ∈ ['T', 't', ' ']
  hour : s.hour ≤ 23
  minute : s.minute ≤ 59
  second : s.second ≤ 60
  fraction : ∀ d ∈ s.fraction, d < 10
  zone : s.zone.Valid

end Stamp

theorem daysInMonth_le (year month : Nat) : daysInMonth year month ≤ 31 := by
  unfold daysInMonth
  split_ifs <;> decide

/-! ### Reading the parts -/

namespace Rfc3339

variable {cs rest : List Char} {n v : Nat} {c : Char}

theorem digit?_eq_some_iff {d : Nat} : digit? c = some d ↔ d < 10 ∧ c = Nat.digitChar d := by
  have hc : '0' ≤ c ∧ c ≤ '9' ↔ 48 ≤ c.toNat ∧ c.toNat ≤ 57 := Iff.rfl
  unfold digit?
  rw [Option.ite_none_right_eq_some, Option.some.injEq, hc]
  constructor
  · rintro ⟨h, rfl⟩
    refine ⟨by omega, Char.toNat_inj.1 ?_⟩
    rw [Nat.toNat_digitChar_of_lt_ten (by omega)]
    omega
  · rintro ⟨hd, rfl⟩
    rw [Nat.toNat_digitChar_of_lt_ten hd]
    omega

theorem digit?_digitChar {d : Nat} (h : d < 10) : digit? (Nat.digitChar d) = some d := digit?_eq_some_iff.2 ⟨h, rfl⟩

theorem number?_cons (n : Nat) (c : Char) (cs : List Char) :
    number? (n + 1) (c :: cs) = (digit? c).bind fun d => (number? n cs).bind fun r => some (d * 10 ^ n + r.1, r.2) := rfl

theorem number?_eq_some_iff : number? n cs = some (v, rest) ↔ v < 10 ^ n ∧ cs = padded n v ++ rest := by
  induction n generalizing cs v with
  | zero => simp [number?, padded, eq_comm, and_comm]
  | succ n ih =>
    have hpos : 0 < 10 ^ n := Nat.pow_pos (by decide)
    constructor
    · intro h
      cases cs with
      | nil => cases h
      | cons c cs =>
        rw [number?_cons] at h
        obtain ⟨d, hdigit, h⟩ := Option.bind_eq_some_iff.1 h
        obtain ⟨⟨w, more⟩, hread, h⟩ := Option.bind_eq_some_iff.1 h
        obtain ⟨rfl, rfl⟩ := Prod.mk.inj (Option.some.inj h)
        obtain ⟨hd, rfl⟩ := digit?_eq_some_iff.1 hdigit
        obtain ⟨hw, rfl⟩ := ih.1 hread
        have hdiv : (d * 10 ^ n + w) / 10 ^ n = d := by
          rw [Nat.mul_comm, Nat.mul_add_div hpos, Nat.div_eq_of_lt hw, Nat.add_zero]
        have hmod : (d * 10 ^ n + w) % 10 ^ n = w := by rw [Nat.mul_comm, Nat.mul_add_mod, Nat.mod_eq_of_lt hw]
        refine ⟨?_, by rw [padded, hdiv, hmod, List.cons_append]⟩
        calc d * 10 ^ n + w < d * 10 ^ n + 10 ^ n := by omega
          _ = (d + 1) * 10 ^ n := by ring
          _ ≤ 10 * 10 ^ n := Nat.mul_le_mul_right _ hd
          _ = 10 ^ (n + 1) := by ring
    · rintro ⟨hv, rfl⟩
      have hd : v / 10 ^ n < 10 := Nat.div_lt_of_lt_mul (by rwa [← Nat.pow_succ])
      have hrest : number? n (padded n (v % 10 ^ n) ++ rest) = some (v % 10 ^ n, rest) := ih.2 ⟨Nat.mod_lt _ hpos, rfl⟩
      rw [padded, List.cons_append, number?_cons, digit?_digitChar hd, Option.bind_some, hrest, Option.bind_some,
        Nat.mul_comm, Nat.div_add_mod]

theorem mark?_eq_some_iff {allowed : List Char} : mark? allowed cs = some rest ↔ ∃ c ∈ allowed, cs = c :: rest := by
  cases cs with
  | nil => simp [mark?]
  | cons c cs =>
    rw [mark?, Option.ite_none_right_eq_some, Option.some.injEq]
    constructor
    · rintro ⟨hc, rfl⟩
      exact ⟨c, hc, rfl⟩
    · rintro ⟨_, hc, h⟩
      obtain ⟨rfl, rfl⟩ := List.cons.inj h
      exact ⟨hc, rfl⟩

theorem foldl_padded (n : Nat) (ds : List Nat) (k : Nat) :
    ((ds ++ List.replicate n 0).take n).foldl (fun n d => n * 10 + d) k = k * 10 ^ n + leading n ds := by
  induction n generalizing ds k with
  | zero => simp [leading]
  | succ n ih =>
    cases ds with
    | nil =>
      have hrest := ih [] (k * 10)
      rw [List.nil_append, List.take_replicate, Nat.min_self] at hrest
      rw [List.nil_append, List.take_replicate, Nat.min_self, List.replicate_succ, List.foldl_cons, Nat.add_zero, hrest]
      have hzero (n : Nat) : leading n [] = 0 := by cases n <;> rfl
      rw [hzero, hzero]
      ring
    | cons d ds =>
      have htake : (ds ++ List.replicate (n + 1) 0).take n = (ds ++ List.replicate n 0).take n := by
        rw [List.replicate_succ', ← List.append_assoc, List.take_append_of_le_length (by simp)]
      rw [List.cons_append, List.take_succ_cons, List.foldl_cons, htake, ih, leading]
      ring

theorem number?_padded (h : v < 10 ^ n) (rest : List Char) : number? n (padded n v ++ rest) = some (v, rest) :=
  number?_eq_some_iff.2 ⟨h, rfl⟩

theorem mark?_cons {allowed : List Char} (h : c ∈ allowed) (rest : List Char) : mark? allowed (c :: rest) = some rest :=
  mark?_eq_some_iff.2 ⟨c, h, rfl⟩

theorem mark?_self (c : Char) (rest : List Char) : mark? [c] (c :: rest) = some rest := mark?_cons (List.mem_singleton_self c) rest

theorem eq_cons_of_mark? (h : mark? [c] cs = some rest) : cs = c :: rest := by
  obtain ⟨_, hc, rfl⟩ := mark?_eq_some_iff.1 h
  rw [List.mem_singleton.1 hc]

/-- A text goes on with something else than a digit. -/
def NoDigit (rest : List Char) : Prop := ∀ c ∈ rest.head?, digit? c = none

theorem takeWhile_digits {ds : List Nat} (hds : ∀ d ∈ ds, d < 10) (hrest : NoDigit rest) :
    (ds.map Nat.digitChar ++ rest).takeWhile (fun c => (digit? c).isSome) = ds.map Nat.digitChar := by
  induction ds with
  | nil =>
    cases rest with
    | nil => rfl
    | cons c rest =>
      have hc : digit? c = none := hrest c rfl
      rw [List.map_nil, List.nil_append, List.takeWhile_cons_of_neg (by simp [hc])]
  | cons d ds ih =>
    obtain ⟨hd, hds⟩ := List.forall_mem_cons.1 hds
    rw [List.map_cons, List.cons_append, List.takeWhile_cons_of_pos (by simp [digit?_digitChar hd]), ih hds]

theorem filterMap_digits {ds : List Nat} (hds : ∀ d ∈ ds, d < 10) : (ds.map Nat.digitChar).filterMap digit? = ds := by
  induction ds with
  | nil => rfl
  | cons d ds ih =>
    obtain ⟨hd, hds⟩ := List.forall_mem_cons.1 hds
    rw [List.map_cons, List.filterMap_cons_some (digit?_digitChar hd), ih hds]

theorem exists_digits (cs : List Char) :
    ∃ (ds : List Nat) (rest : List Char), (∀ d ∈ ds, d < 10) ∧ cs = ds.map Nat.digitChar ++ rest ∧ NoDigit rest := by
  induction cs with
  | nil => exact ⟨[], [], by simp, rfl, by simp [NoDigit]⟩
  | cons c cs ih =>
    cases hc : digit? c with
    | none => exact ⟨[], c :: cs, by simp, rfl, by simpa [NoDigit] using hc⟩
    | some d =>
      obtain ⟨hd, rfl⟩ := digit?_eq_some_iff.1 hc
      obtain ⟨ds, rest, hds, rfl, hrest⟩ := ih
      exact ⟨d :: ds, rest, List.forall_mem_cons.2 ⟨hd, hds⟩, rfl, hrest⟩

theorem fraction?_digits {ds : List Nat} (hds : ∀ d ∈ ds, d < 10) (hrest : NoDigit rest) :
    fraction? ('.' :: (ds.map Nat.digitChar ++ rest)) = if ds = [] then none else some (leading 9 ds, rest) := by
  have hlength : (ds.map Nat.digitChar).length = ds.length := List.length_map ..
  have hleading := foldl_padded 9 ds 0
  rw [Nat.zero_mul, Nat.zero_add] at hleading
  simp only [fraction?, takeWhile_digits hds hrest, filterMap_digits hds, hleading, ← hlength, List.drop_left,
    List.isEmpty_iff]

theorem fraction?_of_ne_point (h : ∀ c ∈ cs.head?, c ≠ '.') : fraction? cs = some (0, cs) := by
  unfold fraction?
  split
  · exact absurd rfl (h '.' rfl)
  · rfl

theorem fraction?_fractionText {ds : List Nat} (hds : ∀ d ∈ ds, d < 10) (hrest : NoDigit rest)
    (hpoint : ∀ c ∈ rest.head?, c ≠ '.') : fraction? (fractionText ds ++ rest) = some (leading 9 ds, rest) := by
  unfold fractionText
  by_cases h : ds = []
  · rw [if_pos h, List.nil_append, fraction?_of_ne_point hpoint, h]
    rfl
  · rw [if_neg h, List.cons_append, fraction?_digits hds hrest, if_neg h]

theorem exists_fraction {k : Nat} (h : fraction? cs = some (k, rest)) :
    ∃ ds, (∀ d ∈ ds, d < 10) ∧ cs = fractionText ds ++ rest ∧ k = leading 9 ds := by
  by_cases hpoint : ∀ c ∈ cs.head?, c ≠ '.'
  · rw [fraction?_of_ne_point hpoint] at h
    cases h
    exact ⟨[], by simp, rfl, rfl⟩
  · push Not at hpoint
    obtain ⟨c, hc, rfl⟩ := hpoint
    obtain ⟨cs, rfl⟩ := List.head?_eq_some_iff.1 hc
    obtain ⟨ds, more, hds, rfl, hmore⟩ := exists_digits cs
    rw [fraction?_digits hds hmore, Option.ite_none_left_eq_some] at h
    obtain ⟨hne, h⟩ := h
    cases h
    exact ⟨ds, hds, by rw [fractionText, if_neg hne, List.cons_append], rfl⟩

theorem offset?_universal {mark : Char} (h : mark = 'Z' ∨ mark = 'z') (cs : List Char) : offset? (mark :: cs) = some (0, cs) :=
  if_pos h

theorem offset?_apart {mark : Char} (h : mark = '+' ∨ mark = '-' ∨ mark = '−') (cs : List Char) :
    offset? (mark :: cs) = (number? 2 cs).bind fun hours => (mark? [':'] hours.2).bind fun cs =>
      (number? 2 cs).bind fun minutes =>
        if hours.1 ≤ 23 ∧ minutes.1 ≤ 59 then some ((Zone.apart mark hours.1 minutes.1).offset, minutes.2) else none := by
  have hother : ¬ (mark = 'Z' ∨ mark = 'z') := by rcases h with rfl | rfl | rfl <;> decide
  exact (if_neg hother).trans (if_pos h)

theorem offset?_of_ne {mark : Char} (hz : ¬ (mark = 'Z' ∨ mark = 'z')) (hs : ¬ (mark = '+' ∨ mark = '-' ∨ mark = '−'))
    (cs : List Char) : offset? (mark :: cs) = none := (if_neg hz).trans (if_neg hs)

theorem offset?_eq_some_iff {o : Int} :
    offset? cs = some (o, rest) ↔ ∃ z : Zone, z.Valid ∧ cs = z.text ++ rest ∧ o = z.offset := by
  constructor
  · intro h
    cases cs with
    | nil => cases h
    | cons mark cs =>
      by_cases huniversal : mark = 'Z' ∨ mark = 'z'
      · rw [offset?_universal huniversal] at h
        cases h
        exact ⟨.universal mark, huniversal, rfl, rfl⟩
      by_cases hapart : mark = '+' ∨ mark = '-' ∨ mark = '−'
      · rw [offset?_apart hapart] at h
        simp only [Option.bind_eq_some_iff, Option.ite_none_right_eq_some] at h
        obtain ⟨⟨hours, _⟩, hhours, _, hmark, ⟨minutes, _⟩, hminutes, hbounds, h⟩ := h
        obtain ⟨-, rfl⟩ := number?_eq_some_iff.1 hhours
        obtain rfl := eq_cons_of_mark? hmark
        obtain ⟨-, rfl⟩ := number?_eq_some_iff.1 hminutes
        cases h
        exact ⟨.apart mark hours minutes, ⟨hapart, hbounds⟩, by simp [Zone.text], rfl⟩
      · rw [offset?_of_ne huniversal hapart] at h
        cases h
  · rintro ⟨z, hz, rfl, rfl⟩
    cases z with
    | universal mark => exact offset?_universal hz rest
    | apart mark hours minutes =>
      obtain ⟨hmark, hhours, hminutes⟩ := hz
      have htext : (Zone.apart mark hours minutes).text ++ rest = mark :: (padded 2 hours ++ ':' :: (padded 2 minutes ++ rest)) := by
        simp [Zone.text]
      rw [htext, offset?_apart hmark, number?_padded (by omega), Option.bind_some, mark?_self, Option.bind_some,
        number?_padded (by omega), Option.bind_some, if_pos ⟨hhours, hminutes⟩]

theorem Zone.text_head {z : Zone} (hz : z.Valid) : NoDigit z.text ∧ ∀ c ∈ z.text.head?, c ≠ '.' := by
  cases z with
  | universal mark =>
    have hmark : digit? mark = none ∧ mark ≠ '.' := by rcases hz with rfl | rfl <;> exact ⟨rfl, by decide⟩
    exact ⟨fun c hc => by cases hc; exact hmark.1, fun c hc => by cases hc; exact hmark.2⟩
  | apart mark hours minutes =>
    have hmark : digit? mark = none ∧ mark ≠ '.' := by rcases hz.1 with rfl | rfl | rfl <;> exact ⟨rfl, by decide⟩
    exact ⟨fun c hc => by cases hc; exact hmark.1, fun c hc => by cases hc; exact hmark.2⟩

theorem parse?_eq (text : String) :
    parse? text = (number? 4 text.toList).bind fun year => (mark? ['-'] year.2).bind fun cs =>
      (number? 2 cs).bind fun month => (mark? ['-'] month.2).bind fun cs =>
      (number? 2 cs).bind fun day => (mark? ['T', 't', ' '] day.2).bind fun cs =>
      (number? 2 cs).bind fun hour => (mark? [':'] hour.2).bind fun cs =>
      (number? 2 cs).bind fun minute => (mark? [':'] minute.2).bind fun cs =>
      (number? 2 cs).bind fun second => (fraction? second.2).bind fun nanos => (offset? nanos.2).bind fun offset =>
      if offset.2.isEmpty ∧ 1 ≤ month.1 ∧ month.1 ≤ 12 ∧ 1 ≤ day.1 ∧ day.1 ≤ daysInMonth year.1 month.1 ∧ hour.1 ≤ 23 ∧
          minute.1 ≤ 59 ∧ second.1 ≤ 60 then
        some ⟨dayNumber year.1 month.1 day.1 * 86400 + hour.1 * 3600 + minute.1 * 60 + min second.1 59 - offset.1,
          if second.1 = 60 then nanosPerSecond + nanos.1 else nanos.1⟩
      else none := rfl

section

variable {text : String} {i : Instant}

/-- A text that is read has all parts of a stamp, one after the other. -/
theorem exists_stamp (h : parse? text = some i) : ∃ s : Stamp, s.Valid ∧ text.toList = s.text ∧ s.instant = i := by
  rw [parse?_eq] at h
  obtain ⟨⟨year, _⟩, hyear, h⟩ := Option.bind_eq_some_iff.1 h
  obtain ⟨_, hdash, h⟩ := Option.bind_eq_some_iff.1 h
  obtain ⟨⟨month, _⟩, hmonth, h⟩ := Option.bind_eq_some_iff.1 h
  obtain ⟨_, hdash', h⟩ := Option.bind_eq_some_iff.1 h
  obtain ⟨⟨day, _⟩, hday, h⟩ := Option.bind_eq_some_iff.1 h
  obtain ⟨_, hdivider, h⟩ := Option.bind_eq_some_iff.1 h
  obtain ⟨⟨hour, _⟩, hhour, h⟩ := Option.bind_eq_some_iff.1 h
  obtain ⟨_, hcolon, h⟩ := Option.bind_eq_some_iff.1 h
  obtain ⟨⟨minute, _⟩, hminute, h⟩ := Option.bind_eq_some_iff.1 h
  obtain ⟨_, hcolon', h⟩ := Option.bind_eq_some_iff.1 h
  obtain ⟨⟨second, _⟩, hsecond, h⟩ := Option.bind_eq_some_iff.1 h
  obtain ⟨⟨nanos, _⟩, hfraction, h⟩ := Option.bind_eq_some_iff.1 h
  obtain ⟨⟨offset, rest⟩, hoffset, h⟩ := Option.bind_eq_some_iff.1 h
  obtain ⟨⟨hrest, hmonths, hmonths', hdays, hdays', hhours, hminutes, hseconds⟩, hi⟩ := Option.ite_none_right_eq_some.1 h
  obtain rfl := List.isEmpty_iff.1 hrest
  -- From the end of the text, so that each part is known when the one before it is read.
  obtain ⟨zone, hzone, rfl, rfl⟩ := offset?_eq_some_iff.1 hoffset
  obtain ⟨ds, hds, rfl, rfl⟩ := exists_fraction hfraction
  obtain ⟨-, rfl⟩ := number?_eq_some_iff.1 hsecond
  obtain rfl := eq_cons_of_mark? hcolon'
  obtain ⟨-, rfl⟩ := number?_eq_some_iff.1 hminute
  obtain rfl := eq_cons_of_mark? hcolon
  obtain ⟨-, rfl⟩ := number?_eq_some_iff.1 hhour
  obtain ⟨divider, hd, rfl⟩ := mark?_eq_some_iff.1 hdivider
  obtain ⟨-, rfl⟩ := number?_eq_some_iff.1 hday
  obtain rfl := eq_cons_of_mark? hdash'
  obtain ⟨-, rfl⟩ := number?_eq_some_iff.1 hmonth
  obtain rfl := eq_cons_of_mark? hdash
  obtain ⟨hyears, htext⟩ := number?_eq_some_iff.1 hyear
  refine ⟨⟨year, month, day, divider, hour, minute, second, ds, zone⟩, ?_, ?_, Option.some.inj hi⟩
  · exact ⟨Nat.le_of_lt_succ hyears, ⟨hmonths, hmonths'⟩, ⟨hdays, hdays'⟩, hd, hhours, hminutes, hseconds, hds, hzone⟩
  · rw [htext, List.append_nil]
    rfl

theorem parse?_of_text {s : Stamp} (hs : s.Valid) (htext : text.toList = s.text) : parse? text = some s.instant := by
  obtain ⟨hdigit, hpoint⟩ := Zone.text_head hs.zone
  have hday : s.day < 10 ^ 2 := by
    have hdays := hs.day.2.trans (daysInMonth_le _ _)
    omega
  have hoffset : offset? s.zone.text = some (s.zone.offset, []) :=
    offset?_eq_some_iff.2 ⟨s.zone, hs.zone, (List.append_nil _).symm, rfl⟩
  have hyear : s.year < 10 ^ 4 := Nat.lt_succ_of_le hs.year
  have hmonth : s.month < 10 ^ 2 := Nat.lt_of_le_of_lt hs.month.2 (by decide)
  have hhour : s.hour < 10 ^ 2 := Nat.lt_of_le_of_lt hs.hour (by decide)
  have hminute : s.minute < 10 ^ 2 := Nat.lt_of_le_of_lt hs.minute (by decide)
  have hsecond : s.second < 10 ^ 2 := Nat.lt_of_le_of_lt hs.second (by decide)
  rw [parse?_eq, htext, Stamp.text, number?_padded hyear, Option.bind_some, mark?_self, Option.bind_some, number?_padded hmonth,
    Option.bind_some, mark?_self, Option.bind_some, number?_padded hday, Option.bind_some, mark?_cons hs.divider,
    Option.bind_some, number?_padded hhour, Option.bind_some, mark?_self, Option.bind_some, number?_padded hminute,
    Option.bind_some, mark?_self, Option.bind_some, number?_padded hsecond, Option.bind_some,
    fraction?_fractionText hs.fraction hdigit hpoint, Option.bind_some, hoffset, Option.bind_some,
    if_pos ⟨rfl, hs.month.1, hs.month.2, hs.day.1, hs.day.2, hs.hour, hs.minute, hs.second⟩]
  rfl

/-- What a text has to be in order to name an instant, and which one it is. -/
theorem parse?_eq_some_iff : parse? text = some i ↔ ∃ s : Stamp, s.Valid ∧ text.toList = s.text ∧ s.instant = i := by
  constructor
  · exact exists_stamp
  · rintro ⟨s, hs, htext, rfl⟩
    exact parse?_of_text hs htext

end

/-- One instant in two zones. -/
example : parse? "2024-05-01T00:30:00.500+02:00" = parse? "2024-04-30 22:30:00.5Z" := by decide

end Rfc3339

end FleetFeed.Time
