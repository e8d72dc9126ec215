import Courier.Proofs.TalkRun

/-!
# The addresses of an Agent

An Agent is addressed by one URL, under `http` or `https`, and its endpoints are resolved
against it. Their paths begin at the root and have neither dots nor anything to encode in
them, so that resolving puts the path in place of the one that the URL has, drops the
query and the fragment, and leaves the rest. The endpoints can therefore be told apart on
the wire by the paths alone, and a request to one of them can be sent if a request to the
URL itself can. Such a URL has a host, which is never empty.
-/

namespace Courier

/-- The segments of its path. -/
def Endpoint.segments : Endpoint → List String
  | .session => ["api", "development", "session"]
  | .codeblocks => ["api", "codeblocks", "executions", ""]
  | .commandReport => ["api", "development", "report", "command"]
  | .stepReport => ["api", "development", "report", "step"]
  | .testReport => ["api", "development", "report", "test"]
  | .batchReport => ["api", "development", "report", "batch"]
  | .addons => ["api", "addons", "executions"]
  | .status => ["api", "status"]

namespace Url

variable {u base : Url} {scheme : String}

/-- The schemes that requests are sent under. -/
def IsWeb (scheme : String) : Prop := scheme = "http" ∨ scheme = "https"

instance : Decidable (IsWeb scheme) := inferInstanceAs (Decidable (_ ∨ _))

/-! ## Paths of whole URLs -/

/-- A URL that comes out is one of these. -/
def Yields (P : Url → Prop) (x : Except ParseError Url) : Prop := ∀ u, x = .ok u → P u

theorem yields_ok {u : Url} (h : P u) : Yields P (.ok u) := fun _ he => by cases he; exact h

theorem yields_bind {α : Type} {x : Except ParseError α} {f : α → Except ParseError Url}
    (hf : ∀ a, Yields P (f a)) : Yields P (x >>= f) := by
  intro u h
  cases x with
  | error e => cases h
  | ok a => exact hf a u h

theorem yields_guard {p : Prop} [Decidable p] {e : ParseError} {f : Unit → Except ParseError Url}
    {x : Except ParseError Url} (hx : Yields P x) :
    Yields P (if p then throw e >>= f else x) := by
  split
  · exact fun _ he => by cases he
  · exact hx

theorem yields_branch {α : Type} {p : Prop} [Decidable p] {x y : Except ParseError α}
    {f : α → Except ParseError Url} (hf : ∀ a, Yields P (f a)) :
    Yields P (if p then x >>= f else y >>= f) := by
  split
  · exact yields_bind hf
  · exact yields_bind hf

/-- What is read after two slashes has the path of its scheme. -/
theorem yields_afterSlashes (cs : List Char) :
    Yields (fun u => u.scheme = scheme ∧ ∃ parts, u.path = pathOf scheme parts)
      (afterSlashes scheme cs) := by
  unfold afterSlashes
  extract_lets special
  generalize cutAuthority special cs = cut
  obtain ⟨authority, rest⟩ := cut
  dsimp -zeta only
  generalize cutUserinfo authority = cut
  obtain ⟨userinfo, hostAndPort⟩ := cut
  dsimp -zeta only
  generalize cutPort false hostAndPort = cut
  obtain ⟨hostChars, portChars⟩ := cut
  dsimp -zeta only
  generalize Text.cut ':' (userinfo.getD []) = cut
  obtain ⟨user, password⟩ := cut
  dsimp -zeta only
  refine yields_guard (yields_guard (yields_branch fun host => ?_))
  cases portChars with
  | none => exact yields_bind fun _ => yields_guard (yields_ok ⟨rfl, _, rfl⟩)
  | some cs =>
      exact yields_bind fun _ => yields_bind fun _ => yields_guard (yields_ok ⟨rfl, _, rfl⟩)

theorem yields_fileAfterSlashes (cs : List Char) :
    Yields (fun u => u.scheme = "file") (fileAfterSlashes cs) := by
  unfold fileAfterSlashes
  generalize cutAuthority true cs = cut
  obtain ⟨authority, rest⟩ := cut
  dsimp -zeta only
  split
  · exact yields_ok rfl
  · split
    · exact yields_ok rfl
    · refine yields_bind fun host => ?_
      split
      · exact yields_ok rfl
      · exact yields_ok rfl

theorem yields_file (cs : List Char) : Yields (fun u => u.scheme = "file") (file none cs) := by
  unfold file
  split
  · next c rest =>
      split
      · exact yields_ok rfl
      · split
        · split
          · exact yields_fileAfterSlashes _
          · exact yields_ok rfl
        · exact yields_ok rfl
  · exact yields_ok rfl

theorem yields_notSpecial (cs : List Char) :
    Yields (fun u => u.scheme = scheme) (notSpecial scheme cs) := by
  unfold notSpecial
  split
  · exact fun u h => (yields_afterSlashes _ u h).1
  · exact yields_ok rfl

/-- A web URL is read by its slashes. -/
theorem exists_afterSlashes {s : String} (h : parse s = .ok u) (hw : IsWeb u.scheme) :
    ∃ scheme cs, ¬ (scheme == "file") = true ∧ isSpecial scheme = true ∧
      afterSlashes scheme cs = .ok u := by
  unfold parse parseWith at h
  extract_lets cs at h
  split at h
  · next scheme rest _ =>
      dsimp only at h
      split at h
      · rw [yields_file rest u h] at hw
        exact absurd hw (by decide)
      · next hfile =>
          split at h
          · next hspecial => exact ⟨scheme, _, hfile, hspecial, h⟩
          · next hspecial =>
              rw [yields_notSpecial rest u h] at hw
              rcases hw with hw | hw
              · exact absurd (hw ▸ rfl) hspecial
              · exact absurd (hw ▸ rfl) hspecial
  · cases h

/-- A web URL has a hierarchy. -/
theorem exists_segments {s : String} (h : parse s = .ok u) (hw : IsWeb u.scheme) :
    ∃ parts, u.path = .segments parts := by
  obtain ⟨scheme, cs, hfile, -, hu⟩ := exists_afterSlashes h hw
  obtain ⟨-, parts, hp⟩ := yields_afterSlashes cs u hu
  exact ⟨parts, hp.trans (if_neg hfile)⟩

/-! ## Hosts -/

theorem Host.text_ne_empty {cs : List Char} {h : Host} (hp : Host.parse cs = .ok h) :
    h.text.isEmpty = false := by
  unfold Host.parse at hp
  split at hp
  · split at hp
    · cases hp
      simp [text]
    · cases hp
  · split at hp
    · cases hp
    · next name _ =>
        split at hp
        · cases hp
        · next hname =>
            split at hp
            · split at hp
              · cases hp
                simp [text, ipv4Text, ← String.toList_inj]
              · cases hp
            · cases hp
              exact Bool.eq_false_iff.2 hname

theorem yields_bind_of_ok {α : Type} {x : Except ParseError α} {f : α → Except ParseError Url}
    (hf : ∀ a, x = .ok a → Yields P (f a)) : Yields P (x >>= f) := by
  intro u h
  cases x with
  | error e => cases h
  | ok a => exact hf a rfl u h

/-- Under a special scheme there is a host after the slashes. -/
theorem hosts_afterSlashes (hs : isSpecial scheme = true) (cs : List Char) :
    Yields (fun u => ∃ host, u.hostText? = some host) (afterSlashes scheme cs) := by
  unfold afterSlashes
  extract_lets special
  have hspecial : special = true := hs
  generalize cutAuthority special cs = cut
  obtain ⟨authority, rest⟩ := cut
  dsimp -zeta only
  generalize cutUserinfo authority = cut
  obtain ⟨userinfo, hostAndPort⟩ := cut
  dsimp -zeta only
  generalize cutPort false hostAndPort = cut
  obtain ⟨hostChars, portChars⟩ := cut
  dsimp -zeta only
  generalize Text.cut ':' (userinfo.getD []) = cut
  obtain ⟨user, password⟩ := cut
  dsimp -zeta only
  refine yields_guard (yields_guard ?_)
  rw [if_pos hspecial]
  refine yields_bind_of_ok fun host hhost => ?_
  have hok : ∀ u : Url, u.host = some host → ∃ text, u.hostText? = some text := by
    intro u hu
    refine ⟨host.text, ?_⟩
    rw [hostText?, hu]
    exact if_neg (by rw [Host.text_ne_empty hhost]; decide)
  cases portChars with
  | none => exact yields_bind fun _ => yields_guard (yields_ok (hok _ rfl))
  | some cs =>
      exact yields_bind fun _ => yields_bind fun _ => yields_guard (yields_ok (hok _ rfl))

theorem exists_hostText {s : String} (h : parse s = .ok u) (hw : IsWeb u.scheme) :
    ∃ host, u.hostText? = some host := by
  obtain ⟨scheme, cs, -, hspecial, hu⟩ := exists_afterSlashes h hw
  exact hosts_afterSlashes hspecial cs u hu

/-! ## Endpoints -/

/-- The endpoint of an Agent at this URL. -/
def endpoint (base : Url) (e : Endpoint) : Url :=
  { base with path := .segments e.segments, query := none, fragment := none }

theorem join_endpoint {parts : List String} (hp : base.path = .segments parts)
    (hw : IsWeb base.scheme) (e : Endpoint) : base.join e.path = .ok (base.endpoint e) := by
  obtain ⟨scheme, username, password, host, port, path, query, fragment⟩ := base
  cases hp
  rcases hw with hw | hw <;> cases hw <;> cases e <;> rfl

theorem scheme_fileAfterSlash (base : Url) (cs : List Char) :
    (fileAfterSlash (some base) cs).scheme = "file" := by
  unfold fileAfterSlash
  dsimp only
  split
  · rfl
  · split
    · split <;> rfl
    · rfl

/-- Whatever the base is, its endpoints are under its scheme. -/
theorem scheme_of_join {e : Endpoint} (h : base.join e.path = .ok u) : u.scheme = base.scheme := by
  have hverbatim : ∀ text, base.path = .verbatim text →
      base.join e.path = .error .baseCannotBeBase := by
    intro text hp
    cases e <;> simp only [join, parseWith, hp] <;> rfl
  have hsegments : ∀ parts, base.path = .segments parts → base.join e.path =
      if base.scheme == "file" then file (some base) e.path.toList
      else relative base e.path.toList := by
    intro parts hp
    cases e <;> simp only [join, parseWith, hp] <;> rfl
  have hfile : file (some base) e.path.toList =
      .ok (fileAfterSlash (some base) (e.path.toList.drop 1)) := by
    cases e <;> rfl
  have hrelative : ∃ path, relative base e.path.toList =
      .ok { base with path, query := none, fragment := none } := by
    cases e <;> exact ⟨_, rfl⟩
  cases hp : base.path with
  | verbatim text =>
      rw [hverbatim text hp] at h
      cases h
  | segments parts =>
      rw [hsegments parts hp] at h
      split at h
      · next hscheme =>
          rw [hfile] at h
          cases h
          rw [scheme_fileAfterSlash, beq_iff_eq.1 hscheme]
      · obtain ⟨path, hpath⟩ := hrelative
        rw [hpath] at h
        cases h
        rfl

end Url

/-! ## What is sent there -/

/-- Its requests make reports. -/
def Endpoint.takesReports : Endpoint → Bool
  | .commandReport | .stepReport | .testReport | .batchReport => true
  | .session | .codeblocks | .addons | .status => false

namespace HttpRequest

/-- A request to an endpoint, whatever host it goes to. -/
def goesTo (q : HttpRequest) (e : Endpoint) : Bool :=
  q.method == .post && q.url.path == .segments e.segments

/-- A request for a session. -/
def startsSession (q : HttpRequest) : Bool := q.goesTo .session

/-- A request that makes reports. -/
def reports (q : HttpRequest) : Bool :=
  [Endpoint.commandReport, .stepReport, .testReport, .batchReport].any q.goesTo

variable {base : Url} {token : Option String} {body : Option Json} {e : Endpoint}

theorem startsSession_endpoint :
    startsSession ⟨.post, base.endpoint e, token, body⟩ = (e == .session) := by
  cases e <;> rfl

theorem reports_endpoint : reports ⟨.post, base.endpoint e, token, body⟩ = e.takesReports := by
  cases e <;> rfl

theorem isWeb_of_isSendable {q : HttpRequest} (h : q.isSendable = true) :
    Url.IsWeb q.url.scheme := by
  unfold isSendable at h
  rw [Bool.and_eq_true, Bool.and_eq_true, Bool.or_eq_true, beq_iff_eq, beq_iff_eq] at h
  exact h.1.1

end HttpRequest

namespace Client

/-- Requests can be sent to the Agent under the token of the client. -/
structure Addressed (base : Url) (token : Option String) : Prop where
  rooted : ∃ parts, base.path = .segments parts
  sendable : HttpRequest.isSendable ⟨.post, base, token, none⟩ = true

variable {base : Url} {token : Option String}

theorem addressed_of_parse {text : String} (hp : Url.parse text = .ok base)
    (hs : HttpRequest.isSendable ⟨.post, base, token, none⟩ = true) : Addressed base token :=
  ⟨Url.exists_segments hp (HttpRequest.isWeb_of_isSendable hs), hs⟩

/-- An Agent that a request can be sent to is addressed. -/
theorem addressed_of_join {text : String} {url : Url} {e : Endpoint} {body : Option Json}
    (hp : Url.parse text = .ok base) (hu : base.join e.path = .ok url)
    (hs : HttpRequest.isSendable ⟨.post, url, token, body⟩ = true) : Addressed base token := by
  have hw : Url.IsWeb base.scheme := by
    rw [← Url.scheme_of_join hu]
    exact HttpRequest.isWeb_of_isSendable hs
  obtain ⟨parts, hparts⟩ := Url.exists_segments hp hw
  rw [Url.join_endpoint hparts hw] at hu
  cases hu
  exact ⟨⟨parts, hparts⟩, hs⟩

theorem Addressed.join_endpoint (h : Addressed base token) (e : Endpoint) :
    base.join e.path = .ok (base.endpoint e) :=
  Url.join_endpoint h.rooted.choose_spec (HttpRequest.isWeb_of_isSendable h.sendable) e

theorem Addressed.sent_endpoint (h : Addressed base token) (e : Endpoint) (body : Option Json) :
    HttpRequest.sent ⟨.post, base.endpoint e, token, body⟩ =
      [⟨.post, base.endpoint e, token, body⟩] := by
  have hs : HttpRequest.isSendable ⟨.post, base.endpoint e, token, body⟩ = true := h.sendable
  rw [HttpRequest.sent, if_pos hs]

theorem Addressed.parcel_eq (h : Addressed base token) (report : Report) :
    parcel base report =
      .ok ⟨base.endpoint (Endpoint.ofReport report.kind), report.encode⟩ := by
  rw [parcel, h.join_endpoint]
  rfl

theorem Addressed.deliveryMode_eq (h : Addressed base token) (config : Config) (version : Version) :
    deliveryMode config base version = .ok (if version.atLeast Version.batchReport then
      .ofLimit (base.endpoint .batchReport) config.maxBatchSize else .single) := by
  unfold deliveryMode
  split
  · rw [h.join_endpoint]
    rfl
  · rfl

end Client
end Courier
