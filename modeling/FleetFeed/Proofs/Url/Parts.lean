import FleetFeed.Url.Parse

/-! What a change of the path or of the scheme leaves of a URL, and what a URL that was read is like: where it has a host, which
port it writes, and that its path starts at the root. -/
namespace FleetFeed.Url

variable {u v : Url} {scheme : String}

/-! ### Parts that a change leaves alone -/

@[simp] theorem scheme_withPath (u : Url) (path : String) : (u.withPath path).scheme = u.scheme := by
  unfold withPath
  split <;> rfl

@[simp] theorem authority_withPath (u : Url) (path : String) : (u.withPath path).authority = u.authority := by
  unfold withPath
  split <;> rfl

@[simp] theorem host?_withPath (u : Url) (path : String) : (u.withPath path).host? = u.host? := by
  simp only [host?, authority_withPath]

@[simp] theorem port?_withPath (u : Url) (path : String) : (u.withPath path).port? = u.port? := by
  simp only [port?, authority_withPath]

@[simp] theorem hasHost_withPath (u : Url) (path : String) : (u.withPath path).hasHost = u.hasHost := by
  simp only [hasHost, host?_withPath]

@[simp] theorem effectivePort?_withPath (u : Url) (path : String) :
    (u.withPath path).effectivePort? = u.effectivePort? := by
  simp only [effectivePort?, port?_withPath, scheme_withPath]

theorem withScheme?_eq_some_iff : u.withScheme? scheme = some v ↔
    (isSpecial scheme = true ∧ isSpecial u.scheme = true ∧ isFile scheme = false ∧ u.hasHost = true) ∧
      v = { u with scheme := scheme, authority := u.authority.map fun a =>
        { a with port := if a.port = defaultPort? scheme then none else a.port } } := by
  simp only [withScheme?, Option.ite_none_right_eq_some, Bool.and_eq_true, Bool.not_eq_true', Option.some.injEq,
    and_assoc, @eq_comm _ v]

theorem host?_of_withScheme? (h : u.withScheme? scheme = some v) : v.host? = u.host? := by
  obtain ⟨-, rfl⟩ := withScheme?_eq_some_iff.1 h
  simp only [host?, Option.map_map]
  rfl

theorem scheme_of_withScheme? (h : u.withScheme? scheme = some v) : v.scheme = scheme := by
  obtain ⟨-, rfl⟩ := withScheme?_eq_some_iff.1 h
  rfl

/-- The port that is used afterwards is the one that was written, else that of the new scheme. -/
theorem effectivePort?_of_withScheme? (h : u.withScheme? scheme = some v) :
    v.effectivePort? = u.port?.or (defaultPort? scheme) := by
  obtain ⟨-, rfl⟩ := withScheme?_eq_some_iff.1 h
  cases ha : u.authority with
  | none => simp [effectivePort?, port?, ha]
  | some a =>
    simp only [effectivePort?, port?, ha, Option.map_some, Option.bind_some]
    split
    · next hport => rw [hport, Option.none_or, Option.or_self]
    · rfl

/-! ### The origin and what is beside it -/

/-- Where a URL leads to, whatever is asked for there. -/
structure Origin where
  scheme : String
  host : Option Host
  port : Option Nat
  deriving DecidableEq, Repr

def origin (u : Url) : Origin := ⟨u.scheme, u.host?, u.effectivePort?⟩

theorem origin_withPath (u : Url) (path : String) : (u.withPath path).origin = u.origin := by
  simp only [origin, scheme_withPath, host?_withPath, effectivePort?_withPath]

/-- What a URL may have beside its origin and its path. -/
structure Extras where
  username : String
  password : String
  query : Option String
  fragment : Option String
  deriving DecidableEq, Repr

def Extras.none : Extras := ⟨"", "", Option.none, Option.none⟩

/-- Those that say who asks. -/
def Extras.user (x : Extras) : Extras := { x with query := Option.none, fragment := Option.none }

def extras (u : Url) : Extras where
  username := (u.authority.map Authority.username).getD ""
  password := (u.authority.map Authority.password).getD ""
  query := u.query
  fragment := u.fragment

@[simp] theorem extras_withPath (u : Url) (path : String) : (u.withPath path).extras = u.extras := by
  unfold withPath
  split <;> rfl

theorem extras_withoutQuery_withoutFragment (u : Url) : (u.withoutQuery.withoutFragment).extras = u.extras.user := rfl

theorem extras_of_withScheme? (h : u.withScheme? scheme = some v) : v.extras = u.extras := by
  obtain ⟨-, rfl⟩ := withScheme?_eq_some_iff.1 h
  simp only [extras, Option.map_map]
  rfl

theorem path_of_withScheme? (h : u.withScheme? scheme = some v) : v.path = u.path := by
  obtain ⟨-, rfl⟩ := withScheme?_eq_some_iff.1 h
  rfl

theorem path_withPath {dotted : Bool} {segments : List String} (h : u.path = .rooted dotted segments) (path : String) :
    (u.withPath path).path = .rooted dotted (pathOf u.scheme path.toList) := by
  unfold withPath
  rw [h]

/-! ### Hosts -/

/-- A host that is read in a known scheme is not empty. -/
theorem Host.parse?_ne_empty {text : List Char} {host : Host} (h : parse? text = some host) : host ≠ .name "" := by
  unfold parse? at h
  split at h
  · unfold bracketed? at h
    split at h
    · split at h
      · obtain ⟨pieces, -, rfl⟩ := Option.map_eq_some_iff.1 h
        simp
      · cases h
    · cases h
  · simp only [Option.bind_eq_bind, Option.bind_eq_some_iff] at h
    obtain ⟨name, -, domain, -, h⟩ := h
    split at h
    · cases h
    · next hdomain =>
      split at h
      · obtain ⟨address, -, rfl⟩ := Option.map_eq_some_iff.1 h
        simp
      · obtain rfl := Option.some.inj h
        intro hname
        have hempty : domain = [] := by simpa using congrArg String.toList (Host.name.inj hname)
        exact hdomain (by rw [hempty]; rfl)

/-- What the host and the port of an authority were read from. -/
theorem parts_of_authority? {more : Bool} {cs rest : List Char} {a : Authority} (hscheme : isSpecial scheme = true)
    (h : authority? scheme more cs = some (a, rest)) :
    (∃ text, Host.parse? text = some a.host) ∧ (a.port = none ∨ ∃ digits rest, readPort? scheme digits = some (a.port, rest)) := by
  unfold authority? at h
  simp only [hscheme, if_true, Option.bind_eq_bind] at h
  obtain ⟨-, h⟩ := Option.ite_none_left_eq_some.1 h
  obtain ⟨-, h⟩ := Option.ite_none_left_eq_some.1 h
  obtain ⟨host, hhost, h⟩ := Option.bind_eq_some_iff.1 h
  split at h
  · obtain ⟨r, hr, h⟩ := Option.bind_eq_some_iff.1 h
    cases h
    exact ⟨⟨_, hhost⟩, .inr ⟨_, _, hr⟩⟩
  · cases h
    exact ⟨⟨_, hhost⟩, .inl rfl⟩

/-- A URL that was read has the authority and the path that its place was read as. -/
theorem place?_of_parse? {text : String} (h : parse? text = some u) :
    ∃ more cs, place? u.scheme more cs = some (u.authority, u.path) := by
  unfold parse? at h
  simp only [Option.bind_eq_bind, Option.bind_eq_some_iff] at h
  obtain ⟨scheme, -, rest, -, ⟨a, path⟩, hplace, h⟩ := h
  cases h
  exact ⟨_, _, hplace⟩

/-- A URL of a known scheme that is not the one of files has an authority that was read. -/
theorem authority?_of_parse? {text : String} (h : parse? text = some u) (hscheme : isSpecial u.scheme = true)
    (hfile : isFile u.scheme = false) :
    ∃ a more cs rest, u.authority = some a ∧ authority? u.scheme more cs = some (a, rest) := by
  obtain ⟨more, text, hplace⟩ := place?_of_parse? h
  unfold place? at hplace
  simp only [hfile, hscheme, Bool.false_eq_true, if_false, if_true, Option.bind_eq_bind] at hplace
  obtain ⟨⟨a, rest⟩, ha, hplace⟩ := Option.bind_eq_some_iff.1 hplace
  obtain ⟨hauthority, -⟩ := Prod.mk.inj (Option.some.inj hplace)
  exact ⟨a, _, _, rest, hauthority.symm, ha⟩

theorem hasHost_of_ne_empty {a : Authority} (ha : u.authority = some a) (hhost : a.host ≠ .name "") : u.hasHost = true := by
  have hu : u.host? = some a.host := by rw [host?, ha, Option.map_some]
  unfold hasHost
  rw [hu]
  split
  · next h => cases h
  · next h => exact absurd (Option.some.inj h) hhost
  · rfl

/-- A URL of a known scheme that was read has a host, but for one of the file scheme. -/
theorem hasHost_of_parse? {text : String} (h : parse? text = some u) (hscheme : isSpecial u.scheme = true)
    (hfile : isFile u.scheme = false) : u.hasHost = true := by
  obtain ⟨a, more, cs, rest, hauthority, ha⟩ := authority?_of_parse? h hscheme hfile
  obtain ⟨text, hhost⟩ := (parts_of_authority? hscheme ha).1
  exact hasHost_of_ne_empty hauthority (Host.parse?_ne_empty hhost)

/-! ### Ports and paths -/

theorem port_of_readPort? {cs rest : List Char} {port : Option Nat} (h : readPort? scheme cs = some (port, rest)) {p : Nat}
    (hp : port = some p) : defaultPort? scheme ≠ some p := by
  unfold readPort? at h
  obtain ⟨-, h⟩ := Option.ite_none_right_eq_some.1 h
  simp only [Option.some.injEq, Prod.mk.injEq] at h
  obtain ⟨hport, -⟩ := h
  rw [hp] at hport
  obtain ⟨hwritten, hp⟩ := Option.ite_none_left_eq_some.1 hport
  intro hdefault
  apply hwritten
  rw [hp, hdefault, beq_self_eq_true, Bool.or_true]

/-- The default port of a scheme is never written. -/
theorem port_of_parse? {text : String} (h : parse? text = some u) (hscheme : isSpecial u.scheme = true)
    (hfile : isFile u.scheme = false) {p : Nat} (hp : u.port? = some p) : defaultPort? u.scheme ≠ some p := by
  obtain ⟨a, more, cs, rest, hauthority, ha⟩ := authority?_of_parse? h hscheme hfile
  have hwritten : a.port = some p := by rw [← hp, port?, hauthority, Option.bind_some]
  rcases (parts_of_authority? hscheme ha).2 with hnone | ⟨digits, tail, hport⟩
  · exact absurd (hnone.symm.trans hwritten) (Option.some_ne_none p).symm
  · exact port_of_readPort? hport hwritten

/-- The port that is used is a given one, and not that of the scheme, exactly where it is written. -/
theorem port?_eq_some_iff {text : String} (h : parse? text = some u) (hscheme : isSpecial u.scheme = true)
    (hfile : isFile u.scheme = false) (p : Nat) :
    u.port? = some p ↔ u.effectivePort? = some p ∧ defaultPort? u.scheme ≠ some p := by
  unfold effectivePort?
  constructor
  · intro hp
    rw [hp, Option.some_or]
    exact ⟨rfl, port_of_parse? h hscheme hfile hp⟩
  · rintro ⟨hp, hdefault⟩
    rcases Option.or_eq_some_iff.1 hp with hp | ⟨-, hp⟩
    · exact hp
    · exact absurd hp hdefault

/-- The path of a URL of a known scheme starts at the root. -/
theorem path_of_parse? {text : String} (h : parse? text = some u) (hscheme : isSpecial u.scheme = true) :
    ∃ segments, u.path = .rooted false segments := by
  obtain ⟨more, text, hplace⟩ := place?_of_parse? h
  unfold place? at hplace
  simp only [hscheme, if_true, Option.bind_eq_bind] at hplace
  split at hplace
  · obtain ⟨⟨a, segments⟩, -, hparts⟩ := Option.map_eq_some_iff.1 hplace
    exact ⟨segments, (Prod.mk.inj hparts).2.symm⟩
  · obtain ⟨⟨a, rest⟩, -, hparts⟩ := Option.bind_eq_some_iff.1 hplace
    exact ⟨_, (Prod.mk.inj (Option.some.inj hparts)).2.symm⟩

/-! ### Known schemes -/

theorem isSpecial_iff : isSpecial scheme = true ↔ scheme ∈ ["http", "https", "ws", "wss", "ftp", "file"] := by
  simp only [isSpecial, isFile, defaultPort?, List.lookup_cons, List.lookup_nil]
  grind

theorem isSpecial_cases (h : isSpecial scheme = true) : scheme = "http" ∨ scheme = "https" ∨ scheme = "ws" ∨ scheme = "wss" ∨
    scheme = "ftp" ∨ scheme = "file" := by
  simpa only [List.mem_cons, List.not_mem_nil, or_false] using isSpecial_iff.1 h

theorem isSpecial_of_web (h : scheme = "http" ∨ scheme = "https") : isSpecial scheme = true ∧ isFile scheme = false := by
  rcases h with rfl | rfl <;> decide

end FleetFeed.Url
