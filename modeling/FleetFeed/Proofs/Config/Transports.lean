import FleetFeed.Config.Client
import FleetFeed.Proofs.Url.Parts

/-! The two URLs under which a backend is asked and listened to, as they follow from where it is. Only of an origin of the web do
they lead to one backend (`one_backend_iff`): nothing makes the first URL one of the web, and a scheme that is neither of the web
nor of sockets brings a default port of its own. -/
namespace FleetFeed.Config

open Url

namespace ClientConfig

variable {c : ClientConfig} {o : Url}

theorem readUrl_eq_ok_iff {text : String} : readUrl text = .ok o ↔ parse? text = some o := by
  unfold readUrl
  cases parse? text <;> simp

/-- An origin is a URL that was read, or what is left of one without its path and what follows that. -/
theorem exists_parse?_of_origin (h : c.origin = .ok o) :
    ∃ text u, parse? text = some u ∧ o.scheme = u.scheme ∧ o.authority = u.authority := by
  have hread {text : String} (h : readUrl text = .ok o) :
      ∃ text u, parse? text = some u ∧ o.scheme = u.scheme ∧ o.authority = u.authority :=
    ⟨text, o, readUrl_eq_ok_iff.1 h, rfl, rfl⟩
  unfold origin at h
  split at h
  · exact hread h
  · next page _ _ =>
    cases hpage : readUrl page with
    | error e => simp [hpage, bind, Except.bind] at h
    | ok u =>
      simp only [hpage, bind, Except.bind] at h
      split at h
      · exact hread h
      · obtain rfl := Except.ok.inj h
        refine ⟨page, u, readUrl_eq_ok_iff.1 hpage, ?_, ?_⟩
        · exact scheme_withPath u ""
        · exact authority_withPath u ""
  · exact hread h

theorem resolve_eq (h : c.origin = .ok o) : c.resolve = Endpoints.ofOrigin o := by
  unfold resolve
  rw [h]
  rfl

theorem exists_origin_of_resolve {e : Endpoints} (h : c.resolve = .ok e) :
    ∃ o, c.origin = .ok o ∧ Endpoints.ofOrigin o = .ok e := by
  cases ho : c.origin with
  | error why =>
    unfold resolve at h
    rw [ho] at h
    cases h
  | ok o => exact ⟨o, rfl, (resolve_eq ho).symm.trans h⟩

/-- An origin of the web is one that sockets can be derived from: it was read, and so it has a host. -/
theorem known_of_web (h : c.origin = .ok o) (hweb : o.scheme = "http" ∨ o.scheme = "https") :
    isSpecial o.scheme = true ∧ o.hasHost = true := by
  have hknown := isSpecial_of_web hweb
  obtain ⟨text, u, hu, hscheme, hauthority⟩ := exists_parse?_of_origin h
  have hhost : o.hasHost = u.hasHost := by simp only [hasHost, host?, hauthority]
  rw [hhost]
  refine ⟨hknown.1, hasHost_of_parse? hu ?_ ?_⟩
  · rw [← hscheme]
    exact hknown.1
  · rw [← hscheme]
    exact hknown.2

end ClientConfig

/-- The scheme of the socket beside an origin of this scheme. -/
def socketScheme (scheme : String) : String := if scheme = "https" ∨ scheme = "wss" then "wss" else "ws"

theorem socketScheme_cases (scheme : String) :
    (scheme = "https" ∨ scheme = "wss") ∧ socketScheme scheme = "wss" ∨
      (scheme ≠ "https" ∧ scheme ≠ "wss") ∧ socketScheme scheme = "ws" := by
  unfold socketScheme
  split
  · next h => exact .inl ⟨h, rfl⟩
  · next h => exact .inr ⟨not_or.1 h, rfl⟩

/-- The two URLs lead to one backend. -/
structure Endpoints.OneBackend (e : Endpoints) : Prop where
  schemes : e.http.scheme = "http" ∧ e.ws.scheme = "ws" ∨ e.http.scheme = "https" ∧ e.ws.scheme = "wss"
  host : e.ws.host? = e.http.host?
  port : e.ws.effectivePort? = e.http.effectivePort?

namespace Endpoints

variable {o : Url} {e : Endpoints}

/-- What endpoints are made of an origin. -/
structure From (o : Url) (e : Endpoints) : Prop where
  scheme : e.http.scheme = o.scheme
  socket : e.ws.scheme = socketScheme o.scheme
  host : e.http.host? = o.host?
  socketHost : e.ws.host? = o.host?
  port : e.http.port? = o.port?
  socketPort : e.ws.effectivePort? = o.port?.or (defaultPort? (socketScheme o.scheme))

theorem ofOrigin_eq (o : Url) : ofOrigin o = match (o.withPath socketPath).withScheme? (socketScheme o.scheme) with
    | some ws => Except.ok (⟨o.withPath httpPath, ws⟩ : Endpoints)
    | none => .error (.plain ("Cannot derive WebSocket URL from " ++ o.write) none) := rfl

theorem exists_from (hscheme : isSpecial o.scheme = true) (hhost : o.hasHost = true) :
    ∃ e, ofOrigin o = .ok e ∧ From o e := by
  have hws : isSpecial (socketScheme o.scheme) = true ∧ isFile (socketScheme o.scheme) = false := by
    rcases socketScheme_cases o.scheme with ⟨-, h⟩ | ⟨-, h⟩ <;> rw [h] <;> decide
  obtain ⟨ws, h⟩ : ∃ ws, (o.withPath socketPath).withScheme? (socketScheme o.scheme) = some ws :=
    ⟨_, withScheme?_eq_some_iff.2 ⟨⟨hws.1, by rwa [scheme_withPath], hws.2, by rwa [hasHost_withPath]⟩, rfl⟩⟩
  refine ⟨⟨o.withPath httpPath, ws⟩, ?_, ?_⟩
  · rw [ofOrigin_eq, h]
  · exact ⟨scheme_withPath .., scheme_of_withScheme? h, host?_withPath .., (host?_of_withScheme? h).trans (host?_withPath ..),
      port?_withPath .., by rw [effectivePort?_of_withScheme? h, port?_withPath]⟩

theorem ofOrigin_of_not (h : ¬ (isSpecial o.scheme = true ∧ o.hasHost = true)) :
    ofOrigin o = .error (.plain ("Cannot derive WebSocket URL from " ++ o.write) none) := by
  have hnone : (o.withPath socketPath).withScheme? (socketScheme o.scheme) = none := by
    rw [Option.eq_none_iff_forall_ne_some]
    intro ws hws
    obtain ⟨⟨-, hscheme, -, hhost⟩, -⟩ := withScheme?_eq_some_iff.1 hws
    rw [scheme_withPath] at hscheme
    rw [hasHost_withPath] at hhost
    exact h ⟨hscheme, hhost⟩
  rw [ofOrigin_eq, hnone]

theorem from_of_ofOrigin (h : ofOrigin o = .ok e) : isSpecial o.scheme = true ∧ o.hasHost = true ∧ From o e := by
  by_cases hknown : isSpecial o.scheme = true ∧ o.hasHost = true
  · obtain ⟨e', he', hfrom⟩ := exists_from hknown.1 hknown.2
    obtain rfl : e' = e := Except.ok.inj (he'.symm.trans h)
    exact ⟨hknown.1, hknown.2, hfrom⟩
  · rw [ofOrigin_of_not hknown] at h
    cases h

theorem From.effectivePort?_http (h : From o e) : e.http.effectivePort? = o.effectivePort? := by
  rw [effectivePort?, h.port, h.scheme, effectivePort?]

/-- The ports that are used are the same, but where a scheme without a port of its own, or with another one than a socket, leaves
the port to the scheme. -/
theorem From.port_iff (h : From o e) (hscheme : isSpecial o.scheme = true) :
    e.ws.effectivePort? = e.http.effectivePort? ↔ o.port? ≠ none ∨ o.scheme ≠ "ftp" ∧ o.scheme ≠ "file" := by
  rw [h.effectivePort?_http, h.socketPort]
  unfold effectivePort?
  cases hport : o.port? with
  | some p => simp
  | none =>
    rcases isSpecial_cases hscheme with hs | hs | hs | hs | hs | hs <;> rw [hs] <;> decide

theorem From.oneBackend_iff (h : From o e) (hscheme : isSpecial o.scheme = true) :
    e.OneBackend ↔ o.scheme = "http" ∨ o.scheme = "https" := by
  constructor
  · rintro ⟨⟨hhttp, -⟩ | ⟨hhttp, -⟩, -, -⟩
    · exact .inl (h.scheme ▸ hhttp)
    · exact .inr (h.scheme ▸ hhttp)
  · intro hweb
    have hschemes : o.scheme = "http" ∧ socketScheme o.scheme = "ws" ∨
        o.scheme = "https" ∧ socketScheme o.scheme = "wss" := by
      rcases hweb with hs | hs <;> rw [hs] <;> decide
    refine ⟨?_, h.socketHost.trans h.host.symm, (h.port_iff hscheme).2 (.inr ?_)⟩
    · rwa [h.scheme, h.socket]
    · rcases hweb with hs | hs <;> rw [hs] <;> decide

end Endpoints

/-- The two URLs that follow from an origin have the same host, and the socket is secure exactly where the first URL is. They lead to
one backend exactly where the origin is one of the web. Any other origin of a known scheme with a host gives two URLs all the same:
the first is no URL for requests then, and where the origin has no port of its own the two may differ in the port that is used. An
origin of another scheme, or without a host, is an error. -/
theorem ClientConfig.one_backend_iff (c : ClientConfig) :
    (∀ e, c.resolve = .ok e →
      e.http.scheme ∈ ["http", "https", "ws", "wss", "ftp", "file"] ∧
      (e.ws.scheme = if e.http.scheme = "https" ∨ e.http.scheme = "wss" then "wss" else "ws") ∧
      e.ws.host? = e.http.host? ∧ e.http.hasHost = true ∧
      (e.ws.effectivePort? = e.http.effectivePort? ↔
        e.http.port? ≠ none ∨ e.http.scheme ≠ "ftp" ∧ e.http.scheme ≠ "file") ∧
      (e.OneBackend ↔ e.http.scheme = "http" ∨ e.http.scheme = "https")) ∧
    (∀ o, c.origin = .ok o → o.scheme = "http" ∨ o.scheme = "https" → ∃ e, c.resolve = .ok e ∧ e.OneBackend) ∧
    (∀ o, c.origin = .ok o → ¬ (isSpecial o.scheme = true ∧ o.hasHost = true) →
      c.resolve = .error (.plain ("Cannot derive WebSocket URL from " ++ o.write) none)) ∧
    ∀ why, c.origin = .error why → c.resolve = .error why := by
  refine ⟨fun e he => ?_, fun o ho hweb => ?_, fun o ho hnot => ?_, fun why hwhy => ?_⟩
  · obtain ⟨o, -, ho⟩ := exists_origin_of_resolve he
    obtain ⟨hscheme, hhost, h⟩ := Endpoints.from_of_ofOrigin ho
    have hsame : e.http.hasHost = o.hasHost := by simp only [hasHost, h.host]
    rw [h.scheme, h.port, hsame]
    exact ⟨isSpecial_iff.1 hscheme, h.socket, h.socketHost.trans h.host.symm, hhost, h.port_iff hscheme, h.oneBackend_iff hscheme⟩
  · obtain ⟨hscheme, hhost⟩ := known_of_web ho hweb
    obtain ⟨e, he, h⟩ := Endpoints.exists_from hscheme hhost
    exact ⟨e, (resolve_eq ho).trans he, (h.oneBackend_iff hscheme).2 hweb⟩
  · rw [resolve_eq ho, Endpoints.ofOrigin_of_not hnot]
  · unfold resolve
    rw [hwhy]
    rfl

/-- An origin for sockets gives a first URL that is no web address, and one for the transfer of files two URLs with different
ports. -/
theorem ClientConfig.other_origins_give_no_pair :
    (∃ e, (atEndpoint "wss://fleet.example.com").resolve = .ok e ∧ e.http.scheme = "wss" ∧ e.ws.scheme = "wss") ∧
    ∃ e, (atEndpoint "ftp://fleet.example.com").resolve = .ok e ∧ e.http.scheme = "ftp" ∧ e.http.effectivePort? = some 21 ∧
      e.ws.scheme = "ws" ∧ e.ws.effectivePort? = some 80 := by
  let backend (scheme : String) : Url :=
    ⟨scheme, some ⟨"", "", .name "fleet.example.com", none⟩, .rooted false [""], none, none⟩
  have hsocket : parse? "wss://fleet.example.com" = some (backend "wss") := by decide +kernel
  have hfiles : parse? "ftp://fleet.example.com" = some (backend "ftp") := by decide +kernel
  obtain ⟨s, hs, hsfrom⟩ := Endpoints.exists_from (o := backend "wss") (by decide) (by decide)
  obtain ⟨f, hf, hffrom⟩ := Endpoints.exists_from (o := backend "ftp") (by decide) (by decide)
  refine ⟨⟨s, ?_, hsfrom.scheme, hsfrom.socket.trans (by decide)⟩, f, ?_, hffrom.scheme,
    hffrom.effectivePort?_http.trans (by decide), hffrom.socket.trans (by decide), hffrom.socketPort.trans (by decide)⟩
  · rw [resolve_eq (c := atEndpoint _) (readUrl_eq_ok_iff.2 hsocket), hs]
  · rw [resolve_eq (c := atEndpoint _) (readUrl_eq_ok_iff.2 hfiles), hf]

end FleetFeed.Config
