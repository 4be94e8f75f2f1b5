/-
  TreeShell.Proofs.Client.Resolve — the names that the service can be asked about.

  A client puts a name into the path of an address as it is. A name is read back from there
  if it is one segment (`IsSegment`): it is not empty, has no mark that ends a segment or
  the path, is not resolved away and holds no escape. Whatever else a shell would take for
  a command is cut, or read as another name or another path: no request of the call is for
  it (`exists_request_iff`).

  Main statement: on the session after any operations the service is asked for a name
  exactly if it is a segment, and then says what the session's own resolution does
  (`resolve_agrees`). For other names it does not: a command below a directory of the
  search path may well have a slash in its name (`resolve_slash`).
-/

import TreeShell.Proofs.Client.Local

namespace TreeShell

/-! ## Routes -/

namespace Http

/-- The path of the endpoint that resolves names, up to the name. -/
def resolveBase : Text := "/shell/resolve/"

/-- The pattern may match a path below that one. -/
def Pattern.Meets : Pattern → Prop
  | .fixed path _ => resolveBase <+: path ++ ['\n']
  | .named base _ => resolveBase <+: base ∨ base <+: resolveBase

instance (pattern : Pattern) : Decidable pattern.Meets :=
  match pattern with
  | .fixed _ _ => inferInstanceAs (Decidable (_ <+: _))
  | .named _ _ => inferInstanceAs (Decidable (_ ∨ _))

theorem endpoint?_of_not_meets {pattern : Pattern} (h : ¬pattern.Meets) (w : Text) :
    pattern.endpoint? (resolveBase ++ w) = none := by
  have hstart := List.prefix_append resolveBase w
  cases pattern with
  | fixed path e =>
    have hpath : resolveBase ++ w ≠ path :=
      fun heq => h ((heq ▸ hstart).trans (List.prefix_append path ['\n']))
    have hfeed : resolveBase ++ w ≠ path ++ ['\n'] := fun heq =>
      h (show resolveBase <+: path ++ ['\n'] from heq ▸ hstart)
    simp [Pattern.endpoint?, hpath, hfeed]
  | named base endpoint =>
    have hbase : Text.startsWith base (resolveBase ++ w) = false := by
      rw [Bool.eq_false_iff]
      intro hbase
      have hbase := List.isPrefixOf_iff_prefix.mp hbase
      rcases List.prefix_or_prefix_of_prefix hbase hstart with hbelow | habove
      · exact h (.inr hbelow)
      · exact h (.inl habove)
    simp [Pattern.endpoint?, hbase]

/-- No other route leads below that path. -/
theorem matching_resolve {w : Text} (hne : w ≠ []) (hslash : '/' ∉ w) :
    matching (resolveBase ++ w) = [("GET".toList, .resolve w)] := by
  have hbefore : ∀ route ∈ routes.take 7, ¬route.pattern.Meets := by decide
  have hafter : ∀ route ∈ routes.drop 8, ¬route.pattern.Meets := by decide
  have hnone {others : List Route} (h : ∀ route ∈ others, ¬route.pattern.Meets) :
      others.filterMap (fun r => (r.pattern.endpoint? (resolveBase ++ w)).map fun e => (r.method, e)) = [] :=
    List.filterMap_eq_nil_iff.mpr fun route hroute => by rw [endpoint?_of_not_meets (h route hroute)]; rfl
  have hname : Pattern.endpoint? (resolveBase ++ w) (.named resolveBase .resolve) = some (.resolve w) := by
    have hstart : Text.startsWith resolveBase (resolveBase ++ w) = true :=
      List.isPrefixOf_iff_prefix.mpr (List.prefix_append resolveBase w)
    simp [Pattern.endpoint?, hstart, hne, hslash]
  unfold matching
  rw [show routes = routes.take 7 ++ ⟨"GET", .named resolveBase .resolve⟩ :: routes.drop 8 from rfl,
    List.filterMap_append, hnone hbefore, List.nil_append,
    List.filterMap_cons_some (b := ("GET".toList, .resolve w)) (by rw [hname]; rfl), hnone hafter]

theorem target_resolve {w : Text} (hne : w ≠ []) (hslash : '/' ∉ w) :
    target "GET" (resolveBase ++ w) = .endpoint (.resolve w) := by
  unfold target
  rw [matching_resolve hne hslash]
  rfl

/-- The pattern of that path, or one that leads to no name that is resolved. -/
def OnlyNamed (w : Text) : Pattern → Prop
  | .fixed _ e => e ≠ .resolve w
  | .named base endpoint => (base = resolveBase ∧ endpoint = .resolve) ∨ ∀ name, endpoint name ≠ .resolve w

theorem path_of_target {method path w : Text} (h : target method path = .endpoint (.resolve w)) :
    path = resolveBase ++ w ∧ w ≠ [] ∧ '/' ∉ w := by
  obtain ⟨⟨m, pattern⟩, hroute, -, he⟩ := exists_route_of_target h
  have honly : ∀ route ∈ routes, OnlyNamed w route.pattern := by
    unfold routes
    simp only [List.forall_mem_cons]
    refine ⟨nofun, nofun, nofun, nofun, nofun, nofun, nofun, .inl ⟨rfl, rfl⟩, nofun, nofun, nofun, nofun,
      .inr fun _ => nofun, nofun, nofun, nofun⟩
  have hpattern := honly _ hroute
  cases pattern with
  | fixed p e =>
    simp only [Pattern.endpoint?] at he
    split at he
    · exact absurd (Option.some.inj he) hpattern
    · cases he
  | named base endpoint =>
    simp only [Pattern.endpoint?] at he
    split at he
    · rename_i hstart
      split at he
      · cases he
      · rename_i hname
        rcases hpattern with ⟨rfl, rfl⟩ | hother
        · obtain ⟨name, rfl⟩ := List.isPrefixOf_iff_prefix.mp hstart
          rw [List.drop_left] at he hname
          obtain rfl : name = w := by simpa using he
          exact ⟨rfl, by simpa using hname⟩
        · exact absurd (Option.some.inj he) (hother _)
    · cases he

end Http

namespace Client

open Http
open Http.Percent (encode)

/-! ## Segments -/

/-- A name that stands in the path of an address as one segment, and is read back from it. -/
structure IsSegment (w : Text) : Prop where
  ne_nil : w ≠ []
  chars : w.all (fun c => c != '/' && Url.staysInPath c) = true
  not_dots : w ≠ ['.'] ∧ w ≠ ['.', '.']
  decode_eq : Percent.decode w = w
  short : Url.isShort (encode Url.inPath (resolveBase ++ w)) = true

instance (w : Text) : Decidable (IsSegment w) :=
  decidable_of_iff (w ≠ [] ∧ w.all (fun c => c != '/' && Url.staysInPath c) = true ∧
      (w ≠ ['.'] ∧ w ≠ ['.', '.']) ∧ Percent.decode w = w ∧
      Url.isShort (encode Url.inPath (resolveBase ++ w)) = true)
    ⟨fun ⟨ne, chars, dots, eq, short⟩ => ⟨ne, chars, dots, eq, short⟩,
      fun h => ⟨h.ne_nil, h.chars, h.not_dots, h.decode_eq, h.short⟩⟩

theorem encode_resolveBase (w : Text) :
    encode Url.inPath (resolveBase ++ w) = resolveBase ++ encode Url.inPath w := by
  rw [Percent.encode_append, show encode Url.inPath resolveBase = resolveBase by decide]

theorem slash_not_mem_encode {w : Text} (h : '/' ∉ w) : '/' ∉ encode Url.inPath w := by
  intro hmem
  rcases Percent.mem_encode hmem with ⟨-, hw⟩ | hmark | hdigit
  · exact h hw
  · cases hmark
  · exact absurd hdigit (by decide)

/-- Of a path with three segments the last one may be resolved. -/
theorem resolveDots_resolveBase {w : Text} (h : '/' ∉ w) :
    Url.resolveDots (resolveBase ++ w) =
      if w = ['.'] then "/shell/resolve".toList
      else if w = ['.', '.'] then "/shell".toList
      else resolveBase ++ w := by
  have hsplit : Text.splitOn '/' (resolveBase ++ w) = ["".toList, "shell".toList, "resolve".toList, w] := by
    show Text.splitOn '/' ([] ++ '/' :: ("shell".toList ++ '/' :: ("resolve".toList ++ '/' :: w))) = _
    rw [Text.splitOn_append_cons (by simp), Text.splitOn_append_cons (by decide),
      Text.splitOn_append_cons (by decide), Text.splitOn_eq_self h]
    rfl
  have hkept : ["".toList, "shell".toList, "resolve".toList].foldl Url.resolveSegment [] =
      ["resolve".toList, "shell".toList, []] := by decide
  have hlast : ["".toList, "shell".toList, "resolve".toList, w] =
      ["".toList, "shell".toList, "resolve".toList] ++ [w] := rfl
  unfold Url.resolveDots
  rw [hsplit, hlast, List.foldl_append, hkept]
  show Text.join ['/'] (Url.resolveSegment _ w).reverse = _
  unfold Url.resolveSegment
  split_ifs with hone htwo hroot
  · decide
  · cases hroot
  · decide
  · rfl

theorem IsSegment.slash_not_mem {w : Text} (h : IsSegment w) : '/' ∉ w := fun hmem =>
  absurd (List.all_eq_true.mp h.chars '/' hmem) (by decide)

theorem IsSegment.isPlain {w : Text} (h : IsSegment w) : Url.IsPlain (resolveBase ++ w) where
  start := rfl
  chars := by
    have hbase : resolveBase.all Url.staysInPath = true := by decide
    have hw : w.all Url.staysInPath = true :=
      List.all_eq_true.mpr fun c hc => (Bool.and_eq_true_iff.mp (List.all_eq_true.mp h.chars c hc)).2
    rw [List.all_append, hbase, hw]
    rfl
  still := by
    have hdecode := Percent.decode_encode Url.keepsEscapes_inPath w
    rw [h.decode_eq] at hdecode
    have hone : encode Url.inPath w ≠ ['.'] := by
      intro heq
      rw [heq] at hdecode
      exact h.not_dots.1 hdecode.symm
    have htwo : encode Url.inPath w ≠ ['.', '.'] := by
      intro heq
      rw [heq] at hdecode
      exact h.not_dots.2 hdecode.symm
    rw [encode_resolveBase, resolveDots_resolveBase (slash_not_mem_encode h.slash_not_mem), if_neg hone,
      if_neg htwo]
  short := h.short

theorem IsSegment.reaches {w : Text} (h : IsSegment w) :
    Reaches "GET" (resolveBase ++ w) .null .null none (.resolve w) where
  plain := h.isPlain
  params_eq := rfl
  short := by decide
  finite := rfl
  target_eq := by
    rw [Percent.decode_append_of_not_mem (by decide), h.decode_eq]
    exact target_resolve h.ne_nil h.slash_not_mem

/-! ## Names that are no segments -/

section

variable {c : Connection} {w : Text}

/-- The address of a name: what is left of it before a mark of a query or a fragment, escaped. -/
theorem exists_address (hroot : c.base.IsRoot) {u : Url} (hu : c.base.resolve (resolveBase ++ w) = some u) :
    let rest := encode Url.inPath (Reference.pathPart w)
    (resolveBase ++ w).any Url.isControl = false ∧ Url.isShort (resolveBase ++ rest) = true ∧
      u.path = encode Url.inPath (Url.resolveDots (resolveBase ++ rest)) := by
  intro rest
  have hpart : Reference.pathPart (resolveBase ++ w) = resolveBase ++ Reference.pathPart w :=
    Reference.pathPart_append (by decide) (by decide) w
  have hresolve := hroot.resolve_eq (c := 's') (by decide) (by decide) ("hell/resolve/" ++ w)
  have hbase : '/' :: 's' :: ("hell/resolve/".toList ++ w) = resolveBase ++ w := rfl
  rw [hbase, hpart, encode_resolveBase, hu] at hresolve
  split at hresolve
  · rename_i hgood
    rw [hroot.withPath] at hresolve
    split at hresolve
    · rename_i hshort
      simp only [Bool.and_eq_true, Bool.not_eq_true'] at hgood hshort
      exact ⟨hgood.2, hshort.1, congrArg Url.path (Option.some.inj hresolve)⟩
    · cases hresolve
  · cases hresolve

theorem decodedPath_of_slash {u : Url} {t : Text} (h : u.path = encode Url.inPath ('/' :: t)) :
    u.decodedPath = Percent.decode ('/' :: t) := by
  have hne : u.path ≠ [] := by
    rw [h, Percent.encode_cons_safe (by decide)]
    exact List.cons_ne_nil _ _
  unfold Url.decodedPath
  rw [if_neg hne, h, Percent.decode_encode Url.keepsEscapes_inPath]

/-- A text that its own first part is read as is that part: what is read is no longer than
    what is written. -/
theorem pathPart_eq_self (h : Percent.decode (Reference.pathPart w) = w) : Reference.pathPart w = w := by
  have hle := Percent.length_decode_le (Reference.pathPart w)
  rw [h] at hle
  exact (Reference.pathPart_isPrefix w).eq_of_length_le hle

/-- A request that is for the name `w` comes from a segment. -/
theorem isSegment_of_target (hroot : c.base.IsRoot) {u : Url} (hu : c.base.resolve (resolveBase ++ w) = some u)
    {method : Text} (ht : target method u.decodedPath = .endpoint (.resolve w)) : IsSegment w := by
  obtain ⟨hpath, hne, hslash⟩ := path_of_target ht
  obtain ⟨hcontrol, hshort, hu⟩ := exists_address hroot hu
  have hstart := Reference.pathPart_isPrefix w
  rw [resolveDots_resolveBase (slash_not_mem_encode fun hmem => hslash (hstart.subset hmem))] at hu
  have hlong (short : Text) (hlt : short.length < resolveBase.length) : short ≠ resolveBase ++ w := by
    intro heq
    have hlength := congrArg List.length heq
    rw [List.length_append] at hlength
    omega
  split_ifs at hu with hone htwo
  · rw [decodedPath_of_slash hu] at hpath
    exact absurd hpath (hlong _ (by decide))
  · rw [decodedPath_of_slash hu] at hpath
    exact absurd hpath (hlong _ (by decide))
  · have hread : Percent.decode (Reference.pathPart w) = w := by
      rw [decodedPath_of_slash hu] at hpath
      have hdecode : Percent.decode (resolveBase ++ encode Url.inPath (Reference.pathPart w)) =
          resolveBase ++ w := hpath
      rw [Percent.decode_append_of_not_mem (by decide), Percent.decode_encode Url.keepsEscapes_inPath] at hdecode
      exact List.append_cancel_left hdecode
    have hwhole : Reference.pathPart w = w := pathPart_eq_self hread
    rw [hwhole] at hread hone htwo hshort
    refine ⟨hne, List.all_eq_true.mpr fun c hc => ?_, ⟨?_, ?_⟩, hread, ?_⟩
    · obtain ⟨hquery, hfragment⟩ := Reference.marks_of_mem_pathPart (hwhole.symm ▸ hc)
      have hc' : Url.isControl c = false := by
        simpa using List.any_eq_false.mp hcontrol c (List.mem_append_right resolveBase hc)
      have hcs : c ≠ '/' := fun heq => hslash (heq ▸ hc)
      simp [Url.staysInPath, hcs, hquery, hfragment, hc']
    · rintro rfl
      exact hone (by decide)
    · rintro rfl
      exact htwo (by decide)
    · rw [encode_resolveBase]
      exact hshort

end

/-! ## Requests of a call -/

section

variable {σ : Type} {transport : Transport σ}

/-- A call sends one request, perhaps several times. -/
theorem eq_of_mem_requests {settings : Settings} {url : Text} {sent r : Sent} {left attempt : Nat} {state : σ}
    (h : r ∈ (exchange settings url transport sent left attempt state).requests) : r = sent := by
  induction left generalizing attempt state with
  | zero => exact List.mem_singleton.mp h
  | succ left ih =>
    unfold exchange at h
    simp only at h
    split at h
    · split at h
      · exact List.mem_singleton.mp h
      · rcases List.mem_cons.mp h with rfl | hrest
        · rfl
        · exact ih hrest
    · exact List.mem_singleton.mp h

variable {c : Connection} {method path : Text} {params body : Json} {state : σ} {r : Sent}

theorem exists_addressed (h : r ∈ (request c transport method path params body state).requests) :
    ∃ a, addressed c method path params body = .ok a ∧ r = a.sent := by
  unfold request at h
  split at h
  · rename_i a ha
    exact ⟨a, ha, eq_of_mem_requests h⟩
  · cases h

/-- Without parameters the request is for the path of the address that the reference comes to. -/
theorem path_of_addressed {a : Addressed} (ha : addressed c method path .null .null = .ok a) :
    ∃ u, c.base.resolve path = some u ∧ a.sent.path = u.decodedPath := by
  unfold addressed paramsOf urlFor at ha
  cases hu : c.base.resolve path with
  | none => simp only [hu, bind, Except.bind] at ha; cases ha
  | some u =>
    simp only [hu, bind, Except.bind] at ha
    cases ha
    exact ⟨u, rfl, rfl⟩

end

/-- The service is asked for the name exactly if it is a segment. -/
theorem exists_request_iff {c : Connection} (hroot : c.base.IsRoot) (s : Session) (w : Text) :
    (∃ r ∈ (resolve c inProcess w (some s)).requests, target r.method r.path = .endpoint (.resolve w)) ↔
      IsSegment w := by
  constructor
  · rintro ⟨r, hr, ht⟩
    obtain ⟨a, ha, rfl⟩ := exists_addressed hr
    obtain ⟨u, hu, hpath⟩ := path_of_addressed ha
    exact isSegment_of_target hroot hu (hpath ▸ ht)
  · intro h
    have hcall := request_of_reaches hroot h.reaches (s := s) rfl
    have hrequests := congrArg Call.requests hcall
    have hsent : sentFor "GET" (resolveBase ++ w) none .null ∈ (resolve c inProcess w (some s)).requests :=
      hrequests ▸ List.mem_singleton.mpr rfl
    exact ⟨_, hsent, h.reaches.target_eq⟩

/-! ## Answers -/

theorem allFinite_texts (items : List Text) : (Json.texts items).allFinite = true := by
  induction items with
  | nil => rfl
  | cons item items ih => exact ih

/-- The error of a name that stands for nothing. -/
def ApiError.IsNotFoundFor (e : ApiError) (w : Text) : Prop :=
  e.kind = .notFound ∧ ∃ fields, e.body = .obj fields ∧ Json.get? fields "requested_command" = some (.str w)

theorem value_commandNotFound (w : Text) (searchPath : List Text) (depth : Nat) : ∃ e,
    (Response.ofReply (Service.replyTo (.error (.commandNotFound (.str w) (Json.texts searchPath))))).value depth =
        .error (.client (.api e)) ∧
      e.IsNotFoundFor w := by
  have hfinite : (Failure.commandNotFound (.str w) (Json.texts searchPath)).reply.isFinite = true := by
    simp [Failure.reply, Failure.explained, Reply.isFinite, Json.allFinite, Json.allFiniteFields, allFinite_texts]
  unfold Service.replyTo
  simp only [hfinite, if_true]
  exact ⟨_, rfl, rfl, _, rfl, rfl⟩

variable {c : Connection}

/-- On the session after any operations the service is asked for a name exactly if that is
    a segment. It then says what the session's own resolution does, with kind, name and
    path, and where there is nothing of the name the call fails. -/
theorem resolve_agrees (hroot : c.base.IsRoot) (id : Text) (config : Config) (clock : Clock)
    (actions : List Session.Action) (w : Text) :
    let s := (Session.create id config clock).after actions
    let call := resolve c inProcess w (some s)
    ((∃ r ∈ call.requests, target r.method r.path = .endpoint (.resolve w)) ↔ IsSegment w) ∧
      (IsSegment w →
        match Command.resolve w s.shell.searchPath s.shell.tree with
        | some reference => call.Gives (Wire.Resolved.ofReference reference) s
        | none => ∃ e, call.Reports e s ∧ e.IsNotFoundFor w) := by
  intro s call
  refine ⟨exists_request_iff hroot s w, fun h => ?_⟩
  have hserve : Service.serve s (sentFor "GET" (resolveBase ++ w) none .null).toRequest (.resolve w) =
      ((Service.resolve s w).map Wire.Resolved.toJson, s) := rfl
  unfold Service.resolve at hserve
  cases hreference : Command.resolve w s.shell.searchPath s.shell.tree with
  | some reference =>
    rw [hreference] at hserve
    exact gives_of_serve hroot h.reaches hserve (decode_resolved _)
  | none =>
    rw [hreference] at hserve
    obtain ⟨e, hvalue, he⟩ := value_commandNotFound w s.shell.searchPath c.settings.depth
    exact ⟨e, reports_of_serve hroot h.reaches hserve hvalue, he⟩

/-- A builtin, a command on the search path, one that is not there, and a name with an accent. -/
theorem resolve_agrees_tool :
    let c : Connection := ⟨standard 100, localhost⟩
    let s := (Session.create "s" Config.standard .stopped).after [.execute "touch /bin/tool"]
    (c.settings.connect? = some c ∧ c.base.IsRoot ∧ IsSegment "ls" ∧ IsSegment "tool" ∧ IsSegment "é") ∧
      (resolve c inProcess "ls" (some s)).Gives ⟨.builtin, "ls", none⟩ s ∧
      (resolve c inProcess "tool" (some s)).Gives ⟨.external, "tool", some "/bin/tool".toList⟩ s ∧
      ∃ e, (resolve c inProcess "é" (some s)).Reports e s ∧ e.IsNotFoundFor "é" := by
  intro c s
  have hs : (Session.create "s" Config.standard .stopped).after [.execute "touch /bin/tool"] = s := rfl
  have hroot : c.base.IsRoot := Url.isRoot_localhost
  have hagree (w : Text) (hw : IsSegment w) :=
    (resolve_agrees hroot "s" Config.standard .stopped [.execute "touch /bin/tool"] w).2 hw
  rw [hs] at hagree
  have hls : IsSegment "ls" := by decide
  have htool : IsSegment "tool" := by decide
  have haccent : IsSegment "é" := by decide
  have hbuiltin : Command.resolve "ls" s.shell.searchPath s.shell.tree = some (.builtin "ls") := by
    decide
  have hexternal : Command.resolve "tool" s.shell.searchPath s.shell.tree =
      some (.external "tool" "/bin/tool") := by decide
  have hnone : Command.resolve "é" s.shell.searchPath s.shell.tree = none := by decide
  have hresolveLs := hagree "ls" hls
  have hresolveTool := hagree "tool" htool
  have hresolveAccent := hagree "é" haccent
  rw [hbuiltin] at hresolveLs
  rw [hexternal] at hresolveTool
  rw [hnone] at hresolveAccent
  exact ⟨⟨rfl, hroot, hls, htool, haccent⟩, hresolveLs, hresolveTool, hresolveAccent⟩

/-- A command in a directory below the search path has a slash in its name. The shell finds
    it; the client asks for a path that leads nowhere. -/
theorem resolve_slash :
    let c : Connection := ⟨standard 100, localhost⟩
    let s := (Session.create "s" Config.standard .stopped).after [.execute "mkdir /bin/a & touch /bin/a/b"]
    Token.tokens s.shell.environment "a/b" = ["a/b".toList] ∧
      Command.resolve "a/b" s.shell.searchPath s.shell.tree = some (.external "a/b" "/bin/a/b") ∧
      ∃ e, (resolve c inProcess "a/b" (some s)).Reports e s ∧ e.kind = .notFound ∧
        e.body = .obj [("detail", .str "Not Found")] := by
  intro c s
  let sent : Sent := ⟨"GET", "/shell/resolve/a/b", [], .null⟩
  have haddressed : addressed c "GET" "/shell/resolve/a/b" .null .null =
      .ok ⟨{ localhost with path := "/shell/resolve/a/b" }, sent⟩ := rfl
  have hcheck : Origin.check { localhost with path := "/shell/resolve/a/b" } = .ok () := by decide
  have hnowhere : target sent.toRequest.method sent.toRequest.path = .nowhere := by decide
  have hhandle : Service.handle (some s) sent.toRequest = (Reply.detail 404 "Not Found", some s) := by
    unfold Service.handle
    rw [hnowhere]
  have hcall := request_inProcess (s := s) haddressed hcheck
  simp only [hhandle] at hcall
  refine ⟨by decide, by decide, ?_⟩
  show ∃ e,
    ((request c inProcess "GET" "/shell/resolve/a/b" .null .null (some s)).andThen _).Reports e s ∧ _
  rw [hcall]
  exact ⟨_, ⟨rfl, rfl⟩, rfl, rfl⟩

end Client

end TreeShell
