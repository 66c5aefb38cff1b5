import FleetFeed.Proofs.Toml.Spelling
import FleetFeed.Proofs.Url.Parts
import Mathlib.Data.List.TakeWhile

/-! A known scheme, the name of a host and a port are read as they are written (`parse?_port`), the default port of the scheme
being no port. -/
namespace FleetFeed.Url

variable {scheme : String} {mark c : Char} {cs name : List Char}

/-! ### Marks that do not occur -/

theorem cut_append (h : mark ∉ cs) (rest : List Char) : cut mark (cs ++ mark :: rest) = (cs, some rest) := by
  have hbefore : (cs ++ mark :: rest).takeWhile (· != mark) = cs := by
    rw [List.takeWhile_append_of_pos fun c hc => bne_iff_ne.2 (ne_of_mem_of_not_mem hc h)]
    simp
  unfold cut
  simp only [hbefore, List.drop_left]

theorem cut_of_notMem (h : mark ∉ cs) : cut mark cs = (cs, none) := by
  have hbefore : cs.takeWhile (· != mark) = cs :=
    List.takeWhile_eq_self_iff.2 fun c hc => bne_iff_ne.2 (ne_of_mem_of_not_mem hc h)
  unfold cut
  simp only [hbefore, List.drop_length]

theorem cutUser_of_notMem (h : '@' ∉ cs) : cutUser cs = (none, cs) := by
  have hhost : cs.reverse.takeWhile (· != '@') = cs.reverse :=
    List.takeWhile_eq_self_iff.2 fun c hc => bne_iff_ne.2 (ne_of_mem_of_not_mem (List.mem_reverse.1 hc) h)
  unfold cutUser
  simp only [hhost, List.reverse_reverse, if_true]

theorem trim_of_visible {text : String} (h : ∀ c ∈ text.toList, 32 < c.toNat) : trim text = text.toList := by
  have hkept {cs : List Char} (h : ∀ c ∈ cs, 32 < c.toNat) : cs.dropWhile (fun c => decide (c.toNat ≤ 32)) = cs := by
    cases cs with
    | nil => rfl
    | cons c cs =>
      have hc := h c List.mem_cons_self
      exact List.dropWhile_cons_of_neg (by simpa using hc)
  unfold trim
  simp only [hkept h, hkept fun c hc => h c (List.mem_reverse.1 hc), List.reverse_reverse]

/-! ### Hosts and ports -/

/-- A character in the name of a host. -/
def inName (c : Char) : Bool := isLetter c || isDigit c || c == '-' || c == '.'

theorem ne_of_inName (h : inName c = true) (hmark : inName mark = false) : c ≠ mark := by
  rintro rfl
  exact Bool.noConfusion (h.symm.trans hmark)

theorem notMem_of_inName (h : ∀ c ∈ name, inName c = true) (hmark : inName mark = false) : mark ∉ name :=
  fun hmem => ne_of_inName (h mark hmem) hmark rfl

theorem inName_of_mem_toDigits {n : Nat} (h : c ∈ Nat.toDigits 10 n) : inName c = true := by
  have hdigit : isDigit c = true := Toml.isDigit_of_mem h
  simp [inName, hdigit]

theorem visible_of_inName (h : inName c = true) : 32 < c.toNat := by
  have hlow : ∀ n ≤ 32, inName (Char.ofNat n) = false := by decide
  by_contra hc
  have hc := hlow c.toNat (Nat.le_of_not_lt hc)
  rw [Char.ofNat_toNat, h] at hc
  cases hc

/-- A port is read where it fits, and the default one of the scheme is none. -/
theorem readPort?_toDigits (scheme : String) (p : Nat) : readPort? scheme (Nat.toDigits 10 p) =
    if p < 65536 then some (if some p = defaultPort? scheme then none else some p, []) else none := by
  have hdigits : (Nat.toDigits 10 p).takeWhile isDigit = Nat.toDigits 10 p :=
    List.takeWhile_eq_self_iff.2 fun c hc => Toml.isDigit_of_mem hc
  unfold readPort?
  simp [hdigits, Toml.foldl_toDigits, Nat.toDigits_ne_nil]

theorem hostLength_append (h : ∀ c ∈ name, inName c = true) (rest : List Char) :
    hostLength false (name ++ ':' :: rest) = name.length := by
  induction name with
  | nil => simp [hostLength]
  | cons c name ih =>
    obtain ⟨hc, hname⟩ := List.forall_mem_cons.1 h
    have hcolon : c ≠ ':' := ne_of_inName hc (by decide)
    have hopen : c ≠ '[' := ne_of_inName hc (by decide)
    have hclose : c ≠ ']' := ne_of_inName hc (by decide)
    simp [hostLength, hcolon, hopen, hclose, ih hname, Nat.add_comm]

/-! ### A host with its port -/

/-- The name of a host and a port. -/
def portText (name : List Char) (p : Nat) : List Char := name ++ ':' :: Nat.toDigits 10 p

/-- What is read of them. The default port of the scheme is not kept. -/
def Authority.ofPort (scheme : String) (host : Host) (p : Nat) : Authority :=
  ⟨"", "", host, if some p = defaultPort? scheme then none else some p⟩

theorem inName_or_colon (h : ∀ c ∈ name, inName c = true) {p : Nat} (hc : c ∈ portText name p) : inName c = true ∨ c = ':' := by
  rcases List.mem_append.1 hc with hc | hc
  · exact .inl (h c hc)
  · rcases List.mem_cons.1 hc with hc | hc
    · exact .inr hc
    · exact .inl (inName_of_mem_toDigits hc)

theorem ne_of_mem_portText (h : ∀ c ∈ name, inName c = true) {p : Nat} (hc : c ∈ portText name p)
    (hmark : inName mark = false ∧ mark ≠ ':') : c ≠ mark := by
  rcases inName_or_colon h hc with hin | rfl
  · exact ne_of_inName hin hmark.1
  · exact hmark.2.symm

theorem plain_of_mem_portText (h : ∀ c ∈ name, inName c = true) {p : Nat} (hc : c ∈ portText name p) :
    32 < c.toNat ∧ isLineMark c = false ∧ isSlash c = false := by
  have hne {mark : Char} (hmark : inName mark = false ∧ mark ≠ ':') : c ≠ mark := ne_of_mem_portText h hc hmark
  have htab : c ≠ '\t' := hne (by decide)
  have hline : c ≠ '\n' := hne (by decide)
  have hreturn : c ≠ '\r' := hne (by decide)
  have hslash : c ≠ '/' := hne (by decide)
  have hback : c ≠ '\\' := hne (by decide)
  refine ⟨?_, by simp [isLineMark, htab, hline, hreturn], by simp [isSlash, hslash, hback]⟩
  rcases inName_or_colon h hc with hin | rfl
  · exact visible_of_inName hin
  · decide

theorem ne_nil_of_parse? {host : Host} (h : Host.parse? name = some host) : name ≠ [] := by
  rintro rfl
  have hempty : Host.parse? [] = none := by decide +kernel
  cases hempty.symm.trans h

theorem authority?_portText (hscheme : isSpecial scheme = true) {host : Host} (hname : ∀ c ∈ name, inName c = true)
    (hhost : Host.parse? name = some host) (more : Bool) (p : Nat) :
    authority? scheme more (portText name p) = if p < 65536 then some (.ofPort scheme host p, []) else none := by
  have huser : cutUser (portText name p) = (none, portText name p) :=
    cutUser_of_notMem fun hmem => ne_of_mem_portText hname hmem (by decide) rfl
  unfold portText at huser ⊢
  unfold authority?
  simp only [huser, hostLength_append hname, List.take_left', List.drop_left']
  rw [if_neg (by simp), if_neg (by simp [ne_nil_of_parse? hhost]), if_pos hscheme, hhost, readPort?_toDigits]
  by_cases hp : p < 65536
  · rw [if_pos hp, if_pos hp]
    rfl
  · rw [if_neg hp, if_neg hp]
    rfl

theorem place?_portText (hscheme : isSpecial scheme = true) (hfile : isFile scheme = false) {host : Host}
    (hname : ∀ c ∈ name, inName c = true) (hhost : Host.parse? name = some host) (more : Bool) (p : Nat) :
    place? scheme more ('/' :: '/' :: portText name p) =
      if p < 65536 then some (some (.ofPort scheme host p), .rooted false [""]) else none := by
  have hplain : ∀ c ∈ portText name p, isLineMark c = false ∧ isSlash c = false := fun c hc =>
    (plain_of_mem_portText hname hc).2
  have hmarks : withoutLineMarks ('/' :: '/' :: portText name p) = '/' :: '/' :: portText name p := by
    refine List.filter_eq_self.2 (List.forall_mem_cons.2 ⟨rfl, List.forall_mem_cons.2 ⟨rfl, fun c hc => ?_⟩⟩)
    rw [(hplain c hc).1, Bool.not_false]
  have hslashes : ('/' :: '/' :: portText name p).dropWhile isSlash = portText name p := by
    rw [List.dropWhile_cons_of_pos rfl, List.dropWhile_cons_of_pos rfl]
    refine List.dropWhile_eq_self_iff.2 fun hlength => ?_
    rw [(hplain _ (List.getElem_mem hlength)).2]
    exact Bool.false_ne_true
  have hall : (portText name p).takeWhile (!isSlash ·) = portText name p :=
    List.takeWhile_eq_self_iff.2 fun c hc => by rw [(hplain c hc).2, Bool.not_false]
  unfold place?
  rw [if_neg (by simp [hfile]), if_pos hscheme, hmarks]
  simp only [hslashes, hall, List.drop_length, authority?_portText hscheme hname hhost]
  by_cases hp : p < 65536
  · rw [if_pos hp, if_pos hp]
    simp [pathOf, hscheme]
  · rw [if_neg hp, if_neg hp]
    rfl

theorem scheme?_of_isSpecial (h : isSpecial scheme = true) :
    (∀ c ∈ scheme.toList, inName c = true) ∧ scheme? (withoutLineMarks scheme.toList) = some scheme := by
  rcases isSpecial_cases h with rfl | rfl | rfl | rfl | rfl | rfl <;>
    exact ⟨List.all_eq_true.1 (by decide +kernel), by decide +kernel⟩

/-- A known scheme, but that of files, with the name of a host and a port. -/
theorem parse?_port (hscheme : isSpecial scheme = true) (hfile : isFile scheme = false) {name : String} {host : Host}
    (hname : ∀ c ∈ name.toList, inName c = true) (hhost : Host.parse? name.toList = some host) (p : Nat) :
    parse? (scheme ++ "://" ++ name ++ ":" ++ Nat.repr p) =
      if p < 65536 then some ⟨scheme, some (.ofPort scheme host p), .rooted false [""], none, none⟩ else none := by
  obtain ⟨hletters, hread⟩ := scheme?_of_isSpecial hscheme
  have htext : (scheme ++ "://" ++ name ++ ":" ++ Nat.repr p).toList =
      scheme.toList ++ ':' :: '/' :: '/' :: portText name.toList p := by
    simp [String.toList_append, Nat.toList_repr, portText]
  -- None of the three parts has a blank or one of the marks at which a URL is cut.
  have hvisible : ∀ c ∈ (scheme ++ "://" ++ name ++ ":" ++ Nat.repr p).toList, 32 < c.toNat := by
    rw [htext]
    intro c hc
    rcases List.mem_append.1 hc with hc | hc
    · exact visible_of_inName (hletters c hc)
    · simp only [List.mem_cons] at hc
      rcases hc with rfl | rfl | rfl | hc
      · decide
      · decide
      · decide
      · exact (plain_of_mem_portText hname hc).1
  have habsent {mark : Char} (hmark : inName mark = false ∧ mark ≠ ':') (hslash : mark ≠ '/') :
      mark ∉ '/' :: '/' :: portText name.toList p := by
    simp only [List.mem_cons, hslash, false_or]
    exact fun hmem => ne_of_mem_portText hname hmem hmark rfl
  have hfragment : cut '#' ('/' :: '/' :: portText name.toList p) = ('/' :: '/' :: portText name.toList p, none) :=
    cut_of_notMem (habsent (by decide) (by decide))
  have hquery : cut '?' ('/' :: '/' :: portText name.toList p) = ('/' :: '/' :: portText name.toList p, none) :=
    cut_of_notMem (habsent (by decide) (by decide))
  unfold parse?
  rw [trim_of_visible hvisible, htext, cut_append (notMem_of_inName hletters (by decide))]
  simp only [Option.bind_eq_bind, hread, Option.bind_some, hfragment, hquery, place?_portText hscheme hfile hname hhost]
  by_cases hp : p < 65536
  · rw [if_pos hp, if_pos hp]
    rfl
  · rw [if_neg hp, if_neg hp]
    rfl

end FleetFeed.Url
