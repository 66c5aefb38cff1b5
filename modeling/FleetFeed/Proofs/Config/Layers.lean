import FleetFeed.Config.Tail

/-! Settings from three sources. Each setting is what a document says of it, else what its variable says, else its default, and
nothing else has a say in it; a document that cannot be used as a whole has none in any (`settings_stand_alone`). -/
namespace FleetFeed.Config

/-! ### Members of documents -/

/-- What is given is of the kind that is read, and is this. -/
inductive Took {α : Type} (read : Toml.Value → Option α) : Option Toml.Value → Option α → Prop
  | absent : Took read none none
  | present {v : Toml.Value} {a : α} (h : read v = some a) : Took read (some v) (some a)

section

variable {α : Type} {read : Toml.Value → Option α} {given : Option Toml.Value} {o : Option α}

theorem took_some_iff {v : Toml.Value} : Took read (some v) o ↔ ∃ a, read v = some a ∧ o = some a := by
  constructor
  · rintro (_ | h)
    exact ⟨_, h, rfl⟩
  · rintro ⟨_, h, rfl⟩
    exact .present h

theorem took_none_iff : Took read none o ↔ o = none := by
  constructor
  · rintro ⟨⟩
    rfl
  · rintro rfl
    exact .absent

theorem exists_took_iff : (∃ o, Took read given o) ↔ ∀ v, given = some v → (read v).isSome := by
  constructor
  · rintro ⟨_, h⟩ v rfl
    cases h with
    | present h => rw [h, Option.isSome_some]
  · intro h
    cases given with
    | none => exact ⟨none, .absent⟩
    | some v =>
      obtain ⟨a, ha⟩ := Option.isSome_iff_exists.1 (h v rfl)
      exact ⟨some a, .present ha⟩

theorem member?_eq_some_iff {ms : List (String × Toml.Value)} {name : String} :
    member? read ms name = some o ↔ Took read (ms.lookup name) o := by
  unfold member?
  cases ms.lookup name with
  | none =>
    constructor
    · rintro ⟨⟩
      exact .absent
    · rintro ⟨⟩
      rfl
  | some v =>
    constructor
    · intro h
      obtain ⟨a, ha, rfl⟩ := Option.map_eq_some_iff.1 h
      exact .present ha
    · rintro (_ | ha)
      exact congrArg (Option.map some) ha

end

/-- Settings of the backend can stand in this: a table, a list that gives them all, or a point in time, which gives none. -/
def Holder : Toml.Value → Prop
  | .table _ => True
  | .arr items => 4 ≤ items.length
  | .datetime => True
  | _ => False

/-- A setting of the backend, by its name or by its place in the list. -/
def part? (place : Nat) (name : String) : Toml.Value → Option Toml.Value
  | .table ms => ms.lookup name
  | .arr items => items[place]?
  | _ => none

theorem BackendOverlay.ofToml?_eq_some_iff {v : Toml.Value} {b : BackendOverlay} :
    ofToml? v = some b ↔ Holder v ∧ Took string? (part? 0 "endpoint" v) b.endpoint ∧
      Took string? (part? 1 "page_location" v) b.pageLocation ∧ Took (natural? 16) (part? 2 "dev_server_port" v) b.devServerPort ∧
      Took (natural? 16) (part? 3 "backend_port" v) b.backendPort := by
  obtain ⟨endpoint, page, dev, port⟩ := b
  unfold ofToml?
  split
  · simp only [Option.bind_eq_bind, Option.bind_eq_some_iff, member?_eq_some_iff, Option.pure_def, Option.some.injEq, mk.injEq,
      Holder, part?, true_and]
    constructor
    · rintro ⟨_, hend, _, hpage, _, hdev, _, hport, rfl, rfl, rfl, rfl⟩
      exact ⟨hend, hpage, hdev, hport⟩
    · rintro ⟨hend, hpage, hdev, hport⟩
      exact ⟨_, hend, _, hpage, _, hdev, _, hport, rfl, rfl, rfl, rfl⟩
  · next e p d q rest =>
    have hlong : 4 ≤ (e :: p :: d :: q :: rest).length := by simp
    simp only [Option.bind_eq_bind, Option.bind_eq_some_iff, Option.pure_def, Option.some.injEq, mk.injEq, Holder, hlong, part?,
      List.getElem?_cons_zero, List.getElem?_cons_succ, took_some_iff, true_and]
    constructor
    · rintro ⟨_, hend, _, hpage, _, hdev, _, hport, rfl, rfl, rfl, rfl⟩
      exact ⟨⟨_, hend, rfl⟩, ⟨_, hpage, rfl⟩, ⟨_, hdev, rfl⟩, ⟨_, hport, rfl⟩⟩
    · rintro ⟨⟨_, hend, rfl⟩, ⟨_, hpage, rfl⟩, ⟨_, hdev, rfl⟩, ⟨_, hport, rfl⟩⟩
      exact ⟨_, hend, _, hpage, _, hdev, _, hport, rfl, rfl, rfl, rfl⟩
  · simp only [Option.some.injEq, mk.injEq, Holder, part?, took_none_iff, true_and, eq_comm]
  · next htable hlist htime =>
    constructor
    · rintro ⟨⟩
    · rintro ⟨hholder, -⟩
      cases v with
      | table ms => exact absurd rfl (htable ms)
      | datetime => exact absurd rfl htime
      | str | int | bool | float => exact hholder.elim
      | arr items =>
        match items with
        | e :: p :: d :: q :: rest => exact absurd rfl (hlist e p d q rest)
        | [] | [_] | [_, _] | [_, _, _] => exact absurd hholder (by simp [Holder])

theorem TailOverlay.ofMembers?_eq_some_iff {ms : List (String × Toml.Value)} {o : TailOverlay} :
    ofMembers? ms = some o ↔ Took string? (ms.lookup "container_id") o.containerId ∧
      Took (natural? 64) (ms.lookup "stats_window") o.statsWindow ∧ Took flag? (ms.lookup "show_grouped_lines") o.showGroupedLines ∧
      Took BackendOverlay.ofToml? (ms.lookup "backend") o.backend := by
  unfold ofMembers?
  simp only [Option.bind_eq_bind, Option.bind_eq_some_iff, member?_eq_some_iff, Option.pure_def, Option.some.injEq]
  constructor
  · rintro ⟨_, hcontainer, _, hwindow, _, hlines, _, hbackend, rfl⟩
    exact ⟨hcontainer, hwindow, hlines, hbackend⟩
  · rintro ⟨hcontainer, hwindow, hlines, hbackend⟩
    exact ⟨_, hcontainer, _, hwindow, _, hlines, _, hbackend, rfl⟩

/-! ### Settings -/

/-- The settings. -/
inductive Key where
  | endpoint | pageLocation | devServerPort | backendPort | containerId | statsWindow | showGroupedLines
  deriving DecidableEq, Repr

/-- What a setting is set to. -/
inductive Datum where
  | text (s : Option String)
  | number (n : Nat)
  | flag (b : Bool)
  deriving DecidableEq, Repr

namespace Key

def get : Key → TailConfig → Datum
  | endpoint, c => .text c.client.endpoint
  | pageLocation, c => .text c.client.pageLocation
  | devServerPort, c => .number c.client.devServerPort
  | backendPort, c => .number c.client.backendPort
  | containerId, c => .text c.containerId
  | statsWindow, c => .number c.statsWindow
  | showGroupedLines, c => .flag c.showGroupedLines

/-- The place of a setting of the backend in a list of them. -/
def place? : Key → Option Nat
  | endpoint => some 0
  | pageLocation => some 1
  | devServerPort => some 2
  | backendPort => some 3
  | containerId | statsWindow | showGroupedLines => none

def name : Key → String
  | endpoint => "endpoint"
  | pageLocation => "page_location"
  | devServerPort => "dev_server_port"
  | backendPort => "backend_port"
  | containerId => "container_id"
  | statsWindow => "stats_window"
  | showGroupedLines => "show_grouped_lines"

/-- What a document gives for a setting. -/
def given? (k : Key) (ms : List (String × Toml.Value)) : Option Toml.Value := match k.place? with
  | none => ms.lookup k.name
  | some place => (ms.lookup "backend").bind (part? place k.name)

/-- A value of the kind of the setting. -/
def read? : Key → Toml.Value → Option Datum
  | endpoint, v | pageLocation, v | containerId, v => (string? v).map fun s => .text (some s)
  | devServerPort, v | backendPort, v => (natural? 16 v).map .number
  | statsWindow, v => (natural? 64 v).map .number
  | showGroupedLines, v => (flag? v).map .flag

/-- What counts of a value in a document: a blank container is none, and a window has room for one sample at least. -/
def counted : Key → Datum → Option Datum
  | containerId, .text (some s) => if Text.allBlank s then none else some (.text (some s))
  | statsWindow, .number n => some (.number (max 1 n))
  | _, d => some d

def variableName? : Key → Option String
  | endpoint => some "FLEETWATCH_ENDPOINT"
  | pageLocation => some "FLEETWATCH_PAGE_LOCATION"
  | devServerPort => some "FLEETWATCH_DEV_PORT"
  | backendPort => some "FLEETWATCH_BACKEND_PORT"
  | containerId => some "FLEET_TAIL_CONTAINER"
  | statsWindow => some "FLEET_TAIL_WINDOW"
  | showGroupedLines => none

/-- What counts of the text of a variable. -/
def usable? : Key → String → Option Datum
  | endpoint, s | pageLocation, s => if s = "" then none else some (.text (some s))
  | containerId, s => if Text.allBlank s then none else some (.text (some s))
  | devServerPort, s | backendPort, s => (number? 16 s).map .number
  | statsWindow, s => (number? 64 s).map .number
  | showGroupedLines, _ => none

def byDefault : Key → Datum
  | endpoint | pageLocation | containerId => .text none
  | devServerPort => .number 5173
  | backendPort => .number 8080
  | statsWindow => .number 60
  | showGroupedLines => .flag true

/-- The setting where no document says anything of it. -/
def withoutDocument (k : Key) (env : Environment) : Datum := ((k.variableName?.bind env).bind k.usable?).getD k.byDefault

/-- The setting where a document says this of it. -/
def chosen (k : Key) (given : Option Toml.Value) (env : Environment) : Datum :=
  ((given.bind k.read?).bind k.counted).getD (k.withoutDocument env)

variable {k : Key} {env : Environment} {ms : List (String × Toml.Value)} {o : TailOverlay}

/-! ### The environment -/

theorem getD_url (o : Option String) :
    (o.bind fun s => if s = "" then none else some (Datum.text (some s))).getD (.text none) = .text (nonEmpty o) := by
  cases o with
  | none => rfl
  | some s => by_cases h : s = "" <;> simp [nonEmpty, Option.filter, h]

theorem getD_name (o : Option String) :
    (o.bind fun s => if Text.allBlank s then none else some (Datum.text (some s))).getD (.text none) = .text (nonBlank o) := by
  cases o with
  | none => rfl
  | some s => by_cases h : Text.allBlank s = true <;> simp [nonBlank, Option.filter, h]

theorem getD_digits (bits n : Nat) (o : Option String) :
    (o.bind fun s => (number? bits s).map Datum.number).getD (.number n) = .number ((o.bind (number? bits)).getD n) := by
  cases o with
  | none => rfl
  | some s => exact Option.getD_map ..

theorem get_ofEnvironment (k : Key) (env : Environment) : k.get (.ofEnvironment env) = k.withoutDocument env := by
  cases k with
  | endpoint | pageLocation => exact (getD_url _).symm
  | devServerPort | backendPort => exact (getD_digits 16 _ _).symm
  | containerId => exact (getD_name _).symm
  | statsWindow => exact (getD_digits 64 _ _).symm
  | showGroupedLines => rfl

/-! ### Documents -/

section

variable {given : Option Toml.Value}

theorem getD_string {o p : Option String} (h : Took string? given o) :
    (given.bind fun v => (string? v).map fun s => Datum.text (some s)).getD (.text p) = .text (o.or p) := by
  cases h with
  | absent => rfl
  | present h => rw [Option.bind_some, h]; rfl

theorem getD_natural {bits n : Nat} {o : Option Nat} (h : Took (natural? bits) given o) :
    (given.bind fun v => (natural? bits v).map Datum.number).getD (.number n) = .number (o.getD n) := by
  cases h with
  | absent => rfl
  | present h => rw [Option.bind_some, h]; rfl

theorem getD_containerId {o p : Option String} (h : Took string? given o) :
    ((given.bind containerId.read?).bind containerId.counted).getD (.text p) = .text ((nonBlank o).or p) := by
  cases h with
  | absent => rfl
  | @present v s h =>
    have hread : containerId.read? v = some (.text (some s)) := congrArg (Option.map _) h
    rw [Option.bind_some, hread, Option.bind_some, counted]
    by_cases hs : Text.allBlank s = true <;> simp [nonBlank, Option.filter, hs]

theorem getD_statsWindow {o : Option Nat} {n : Nat} (h : Took (natural? 64) given o) :
    ((given.bind statsWindow.read?).bind statsWindow.counted).getD (.number n) = .number ((o.map (max 1)).getD n) := by
  cases h with
  | absent => rfl
  | @present v n h =>
    have hread : statsWindow.read? v = some (.number n) := congrArg (Option.map _) h
    rw [Option.bind_some, hread]
    rfl

theorem getD_showGroupedLines {o : Option Bool} {b : Bool} (h : Took flag? given o) :
    ((given.bind showGroupedLines.read?).bind showGroupedLines.counted).getD (.flag b) = .flag (o.getD b) := by
  cases h with
  | absent => rfl
  | @present v b h =>
    have hread : showGroupedLines.read? v = some (.flag b) := congrArg (Option.map _) h
    rw [Option.bind_some, hread]
    rfl

end

/-- What a document gives a setting of the backend. -/
theorem get_apply_backend {b : BackendOverlay} {v : Toml.Value} (hb : BackendOverlay.ofToml? v = some b) {place : Nat}
    (hf : k.place? = some place) (c : TailConfig) :
    k.get { c with client := b.apply c.client } = (((part? place k.name v).bind k.read?).bind k.counted).getD (k.get c) := by
  obtain ⟨-, hend, hpage, hdev, hport⟩ := BackendOverlay.ofToml?_eq_some_iff.1 hb
  have hcounted : k.counted = some := funext fun d => by cases k <;> first | rfl | cases hf
  rw [hcounted, Option.bind_fun_some]
  cases k <;> cases hf
  case endpoint => exact (getD_string hend).symm
  case pageLocation => exact (getD_string hpage).symm
  case devServerPort => exact (getD_natural hdev).symm
  case backendPort => exact (getD_natural hport).symm

theorem get_apply (ho : TailOverlay.ofMembers? ms = some o) (k : Key) (c : TailConfig) :
    k.get (o.apply c) = (((k.given? ms).bind k.read?).bind k.counted).getD (k.get c) := by
  obtain ⟨hcontainer, hwindow, hlines, hbackend⟩ := TailOverlay.ofMembers?_eq_some_iff.1 ho
  cases hplace : k.place? with
  | none =>
    have hgiven : k.given? ms = ms.lookup k.name := by rw [given?, hplace]
    rw [hgiven]
    cases k with
    | containerId => exact (getD_containerId hcontainer).symm
    | statsWindow => exact (getD_statsWindow hwindow).symm
    | showGroupedLines => exact (getD_showGroupedLines hlines).symm
    | endpoint | pageLocation | devServerPort | backendPort => cases hplace
  | some place =>
    have hgiven : k.given? ms = (ms.lookup "backend").bind (part? place k.name) := by rw [given?, hplace]
    rw [hgiven]
    cases hv : ms.lookup "backend" with
    | none =>
      rw [hv, took_none_iff] at hbackend
      have hget : k.get (o.apply c) = k.get c := by
        cases k <;> cases hplace <;> simp only [get, TailOverlay.apply, hbackend, Option.map_none, Option.getD_none]
      rw [hget]
      rfl
    | some v =>
      rw [hv, took_some_iff] at hbackend
      obtain ⟨b, hb, hsome⟩ := hbackend
      have hget : k.get (o.apply c) = k.get { c with client := b.apply c.client } := by
        cases k <;> cases hplace <;> simp only [get, TailOverlay.apply, hsome, Option.map_some, Option.getD_some]
      rw [hget, get_apply_backend hb hplace]
      rfl

/-- A configuration is its settings. -/
theorem eq_of_get {c d : TailConfig} (h : ∀ k : Key, k.get c = k.get d) : c = d := by
  obtain ⟨⟨_, _, _, _⟩, _, _, _⟩ := c
  obtain ⟨⟨_, _, _, _⟩, _, _, _⟩ := d
  obtain rfl := Datum.text.inj (h endpoint)
  obtain rfl := Datum.text.inj (h pageLocation)
  obtain rfl := Datum.number.inj (h devServerPort)
  obtain rfl := Datum.number.inj (h backendPort)
  obtain rfl := Datum.text.inj (h containerId)
  obtain rfl := Datum.number.inj (h statsWindow)
  obtain rfl := Datum.flag.inj (h showGroupedLines)
  rfl

end Key

/-! ### Documents as a whole -/

/-- Every setting that a document gives is of its kind, and what holds those of the backend can hold them. -/
structure Readable (ms : List (String × Toml.Value)) : Prop where
  holder : ∀ v, ms.lookup "backend" = some v → Holder v
  kinds : ∀ (k : Key) v, k.given? ms = some v → (k.read? v).isSome

theorem exists_took_key {α : Type} {read : Toml.Value → Option α} {datum : α → Datum} {k : Key}
    (hread : ∀ v, k.read? v = (read v).map datum) {given : Option Toml.Value} :
    (∃ o, Took read given o) ↔ ∀ v, given = some v → (k.read? v).isSome := by
  simp only [exists_took_iff, hread, Option.isSome_map]

theorem exists_backend_iff {v : Toml.Value} :
    (∃ b, BackendOverlay.ofToml? v = some b) ↔ Holder v ∧
      ∀ (k : Key) place, k.place? = some place → ∀ w, part? place k.name v = some w → (k.read? w).isSome := by
  constructor
  · rintro ⟨b, hb⟩
    obtain ⟨hholder, hend, hpage, hdev, hport⟩ := BackendOverlay.ofToml?_eq_some_iff.1 hb
    refine ⟨hholder, fun k place hplace => ?_⟩
    cases k with
    | endpoint =>
      cases hplace
      exact (exists_took_key (k := .endpoint) fun _ => rfl).1 ⟨_, hend⟩
    | pageLocation =>
      cases hplace
      exact (exists_took_key (k := .pageLocation) fun _ => rfl).1 ⟨_, hpage⟩
    | devServerPort =>
      cases hplace
      exact (exists_took_key (k := .devServerPort) fun _ => rfl).1 ⟨_, hdev⟩
    | backendPort =>
      cases hplace
      exact (exists_took_key (k := .backendPort) fun _ => rfl).1 ⟨_, hport⟩
    | containerId | statsWindow | showGroupedLines => cases hplace
  · rintro ⟨hholder, h⟩
    obtain ⟨endpoint, hend⟩ := (exists_took_key fun _ => rfl).2 (h .endpoint 0 rfl)
    obtain ⟨page, hpage⟩ := (exists_took_key fun _ => rfl).2 (h .pageLocation 1 rfl)
    obtain ⟨dev, hdev⟩ := (exists_took_key fun _ => rfl).2 (h .devServerPort 2 rfl)
    obtain ⟨port, hport⟩ := (exists_took_key fun _ => rfl).2 (h .backendPort 3 rfl)
    exact ⟨⟨endpoint, page, dev, port⟩, BackendOverlay.ofToml?_eq_some_iff.2 ⟨hholder, hend, hpage, hdev, hport⟩⟩

theorem exists_ofMembers?_iff {ms : List (String × Toml.Value)} : (∃ o, TailOverlay.ofMembers? ms = some o) ↔ Readable ms := by
  constructor
  · rintro ⟨o, ho⟩
    obtain ⟨hcontainer, hwindow, hlines, hbackend⟩ := TailOverlay.ofMembers?_eq_some_iff.1 ho
    have hholds : ∀ v, ms.lookup "backend" = some v → ∃ b, BackendOverlay.ofToml? v = some b := fun v hv => by
      rw [hv, took_some_iff] at hbackend
      obtain ⟨b, hb, -⟩ := hbackend
      exact ⟨b, hb⟩
    refine ⟨fun v hv => (exists_backend_iff.1 (hholds v hv)).1, fun k w hw => ?_⟩
    cases hplace : k.place? with
    | some place =>
      rw [Key.given?, hplace] at hw
      obtain ⟨v, hv, hw⟩ := Option.bind_eq_some_iff.1 hw
      exact (exists_backend_iff.1 (hholds v hv)).2 k place hplace w hw
    | none =>
      rw [Key.given?, hplace] at hw
      cases k with
      | containerId => exact (exists_took_key (k := .containerId) fun _ => rfl).1 ⟨_, hcontainer⟩ w hw
      | statsWindow => exact (exists_took_key (k := .statsWindow) fun _ => rfl).1 ⟨_, hwindow⟩ w hw
      | showGroupedLines => exact (exists_took_key (k := .showGroupedLines) fun _ => rfl).1 ⟨_, hlines⟩ w hw
      | endpoint | pageLocation | devServerPort | backendPort => cases hplace
  · intro h
    obtain ⟨container, hcontainer⟩ := (exists_took_key fun _ => rfl).2 (h.kinds .containerId)
    obtain ⟨window, hwindow⟩ := (exists_took_key fun _ => rfl).2 (h.kinds .statsWindow)
    obtain ⟨lines, hlines⟩ := (exists_took_key fun _ => rfl).2 (h.kinds .showGroupedLines)
    have hholds : ∃ b, Took BackendOverlay.ofToml? (ms.lookup "backend") b := exists_took_iff.2 fun v hv => by
      refine Option.isSome_iff_exists.2 (exists_backend_iff.2 ⟨h.holder v hv, fun k place hplace w hw => h.kinds k w ?_⟩)
      rw [Key.given?, hplace]
      exact Option.bind_eq_some_iff.2 ⟨v, hv, hw⟩
    obtain ⟨backend, hbackend⟩ := hholds
    exact ⟨⟨container, window, lines, backend⟩, TailOverlay.ofMembers?_eq_some_iff.2 ⟨hcontainer, hwindow, hlines, hbackend⟩⟩

section

variable {env : Environment} {text : String} {c : TailConfig} {ms : List (String × Toml.Value)}

theorem ofText?_eq_some_iff : TailConfig.ofText? env text = some c ↔
    ∃ ms o, Toml.parse? text = some ms ∧ TailOverlay.ofMembers? ms = some o ∧ o.apply (.ofEnvironment env) = c := by
  simp only [TailConfig.ofText?, TailOverlay.ofText?, Option.map_eq_some_iff, Option.bind_eq_bind, Option.bind_eq_some_iff]
  constructor
  · rintro ⟨o, ⟨ms, hms, ho⟩, hc⟩
    exact ⟨ms, o, hms, ho, hc⟩
  · rintro ⟨ms, o, hms, ho, hc⟩
    exact ⟨o, ⟨ms, hms, ho⟩, hc⟩

theorem exists_ofText?_iff : (∃ c, TailConfig.ofText? env text = some c) ↔ ∃ ms, Toml.parse? text = some ms ∧ Readable ms := by
  simp only [ofText?_eq_some_iff, ← exists_ofMembers?_iff]
  constructor
  · rintro ⟨_, ms, o, hms, ho, -⟩
    exact ⟨ms, hms, o, ho⟩
  · rintro ⟨ms, hms, o, ho⟩
    exact ⟨_, ms, o, hms, ho, rfl⟩

theorem get_of_ofText? (hms : Toml.parse? text = some ms) (hc : TailConfig.ofText? env text = some c) (k : Key) :
    k.get c = k.chosen (k.given? ms) env := by
  obtain ⟨ms', o, hms', ho, rfl⟩ := ofText?_eq_some_iff.1 hc
  obtain rfl := Option.some.inj (hms.symm.trans hms')
  rw [Key.get_apply ho, Key.get_ofEnvironment]
  rfl

/-- All that a setting is, it is by what a document and its variable say of it. -/
theorem get_eq_of_sources {env' : Environment} {text' : String} {c' : TailConfig} (hc : TailConfig.ofText? env text = some c)
    (hc' : TailConfig.ofText? env' text' = some c') {k : Key}
    (hgiven : (Toml.parse? text).bind k.given? = (Toml.parse? text').bind k.given?)
    (hvariable : k.variableName?.bind env = k.variableName?.bind env') : k.get c = k.get c' := by
  obtain ⟨ms, hms, -⟩ := exists_ofText?_iff.1 ⟨c, hc⟩
  obtain ⟨ms', hms', -⟩ := exists_ofText?_iff.1 ⟨c', hc'⟩
  rw [hms, hms', Option.bind_some, Option.bind_some] at hgiven
  have hfallback : k.withoutDocument env = k.withoutDocument env' := by rw [Key.withoutDocument, hvariable, Key.withoutDocument]
  rw [get_of_ofText? hms hc, get_of_ofText? hms' hc', hgiven, Key.chosen, hfallback, Key.chosen]

/-- A file that is not there, that is no text, or whose text cannot be used is no file. -/
theorem load_of_unusable {file : Option ByteArray}
    (h : ∀ bytes text, file = some bytes → String.fromUTF8? bytes = some text → TailConfig.ofText? env text = none) :
    TailConfig.load env file = .ofEnvironment env := by
  have hnone : (file.bind String.fromUTF8?).bind (TailConfig.ofText? env) = none := by
    refine Option.bind_eq_none_iff.2 fun text htext => ?_
    obtain ⟨bytes, hbytes, htext⟩ := Option.bind_eq_some_iff.1 htext
    exact h bytes text hbytes htext
  rw [TailConfig.load, hnone, Option.getD_none]

theorem load_of_usable {bytes : ByteArray} (htext : String.fromUTF8? bytes = some text) (hc : TailConfig.ofText? env text = some c) :
    TailConfig.load env (some bytes) = c := by
  rw [TailConfig.load, Option.bind_some, htext, Option.bind_some, hc, Option.getD_some]

end

/-- Each setting is what a usable document gives it, else what its own variable says, else its default, whatever else is set. A
document is usable when all that it gives is of its kind, and all else counts as no document. -/
theorem settings_stand_alone (env : Environment) :
    (∀ k : Key, k.get (.ofEnvironment env) = k.withoutDocument env) ∧
    (∀ c d, (∀ k : Key, k.get c = k.get d) → c = d) ∧
    (∀ text c, TailConfig.ofText? env text = some c →
      ∃ ms, Toml.parse? text = some ms ∧ ∀ k : Key, k.get c = k.chosen (k.given? ms) env) ∧
    (∀ text c env' text' c', TailConfig.ofText? env text = some c → TailConfig.ofText? env' text' = some c' → ∀ k : Key,
      (Toml.parse? text).bind k.given? = (Toml.parse? text').bind k.given? →
      k.variableName?.bind env = k.variableName?.bind env' → k.get c = k.get c') ∧
    (∀ text, (∃ c, TailConfig.ofText? env text = some c) ↔ ∃ ms, Toml.parse? text = some ms ∧ Readable ms) ∧
    (∀ bytes text c, String.fromUTF8? bytes = some text → TailConfig.ofText? env text = some c →
      TailConfig.load env (some bytes) = c) ∧
    ∀ file, (∀ bytes text, file = some bytes → String.fromUTF8? bytes = some text → TailConfig.ofText? env text = none) →
      TailConfig.load env file = .ofEnvironment env := by
  refine ⟨fun k => k.get_ofEnvironment env, fun c d => Key.eq_of_get, fun text c hc => ?_,
    fun text c env' text' c' hc hc' k => get_eq_of_sources hc hc', fun text => exists_ofText?_iff,
    fun bytes text c => load_of_usable, fun file => load_of_unusable⟩
  obtain ⟨ms, hms, -⟩ := exists_ofText?_iff.1 ⟨c, hc⟩
  exact ⟨ms, hms, get_of_ofText? hms hc⟩

/-- An environment that gives an endpoint and a window of nothing. -/
def sparseEnvironment : Environment := fun name =>
  [("FLEETWATCH_ENDPOINT", "http://hub:9000"), ("FLEET_TAIL_WINDOW", "0")].lookup name

/-- A document adds its port to what the environment says and widens its own window; one with a window of the wrong kind names no
container either. -/
theorem sparse_settings_stand_alone :
    (∃ c, TailConfig.ofText? sparseEnvironment "container_id = \" \"\nstats_window = 0\n[backend]\nbackend_port = 9090" = some c ∧
      Key.endpoint.get c = .text (some "http://hub:9000") ∧ Key.backendPort.get c = .number 9090 ∧
      Key.containerId.get c = .text none ∧ Key.statsWindow.get c = .number 1) ∧
    TailConfig.load sparseEnvironment (some "container_id = \"web-1\"\nstats_window = \"many\"".toUTF8) =
      .ofEnvironment sparseEnvironment ∧
    Key.statsWindow.get (.ofEnvironment sparseEnvironment) = .number 0 := by
  obtain ⟨henv, -, hdoc, -, hreadable, -, hload⟩ := settings_stand_alone sparseEnvironment
  have hms : Toml.parse? "container_id = \" \"\nstats_window = 0\n[backend]\nbackend_port = 9090" =
      some [("container_id", .str " "), ("stats_window", .int 0), ("backend", .table [("backend_port", .int 9090)])] := by decide +kernel
  have hbad : Toml.parse? "container_id = \"web-1\"\nstats_window = \"many\"" =
      some [("container_id", .str "web-1"), ("stats_window", .str "many")] := by decide +kernel
  have hread : ∃ c, TailConfig.ofText? sparseEnvironment "container_id = \" \"\nstats_window = 0\n[backend]\nbackend_port = 9090" =
      some c := by
    unfold TailConfig.ofText? TailOverlay.ofText?
    rw [hms]
    exact ⟨_, rfl⟩
  obtain ⟨c, hc⟩ := hread
  obtain ⟨ms, hms', hget⟩ := hdoc _ c hc
  obtain rfl := Option.some.inj (hms.symm.trans hms')
  refine ⟨⟨c, hc, (hget .endpoint).trans (by decide), (hget .backendPort).trans (by decide), (hget .containerId).trans (by decide),
    (hget .statsWindow).trans (by decide)⟩, hload _ fun bytes text hbytes htext => ?_, (henv .statsWindow).trans (by decide)⟩
  have hvalid : String.fromUTF8? "container_id = \"web-1\"\nstats_window = \"many\"".toUTF8 =
      some "container_id = \"web-1\"\nstats_window = \"many\"" := dif_pos (String.isValidUTF8 _)
  obtain rfl := Option.some.inj hbytes
  obtain rfl := Option.some.inj (hvalid.symm.trans htext)
  unfold TailConfig.ofText? TailOverlay.ofText?
  rw [hbad]
  rfl

end FleetFeed.Config
