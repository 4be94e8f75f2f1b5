/-
  TreeShell.Proofs.Client.Url — the addresses that references come to at the root of a host.

  The base address of a client is a root (`Url.IsRoot`) if it names a host and nothing
  below it. A reference that starts with one slash is split into path and query, and both
  are put behind the root, escaped; the segments `.` and `..` of the path are then resolved
  (`IsRoot.resolve_eq`). Answers are taken from every such address (`IsRoot.check`).

  A path is plain (`IsPlain`) if it stays one: no mark of it starts a query or a fragment
  and no segment of it is resolved. The request for a plain path is for that path decoded,
  with the parameters as its query (`addressed_of_isPlain`).
-/

import Mathlib.Data.List.TakeDrop
import Mathlib.Data.List.TakeWhile
import TreeShell.Proofs.Client.Exchange
import TreeShell.Proofs.Http.Percent

namespace TreeShell.Client

open Http.Percent (encode KeepsEscapes)

/-! ## References -/

namespace Reference

section

variable {mark : Char} {t : Text}

theorem cutAt_fst (mark : Char) (t : Text) : (cutAt mark t).1 = t.takeWhile (· != mark) := by
  unfold cutAt
  rw [List.span_eq_takeWhile_dropWhile]
  cases t.dropWhile (· != mark) <;> rfl

theorem cutAt_cons_of_ne {c : Char} (h : c ≠ mark) :
    cutAt mark (c :: t) = (c :: (cutAt mark t).1, (cutAt mark t).2) := by
  unfold cutAt
  simp only [List.span_eq_takeWhile_dropWhile, List.takeWhile_cons, List.dropWhile_cons, bne_iff_ne.mpr h,
    if_true]
  cases t.dropWhile (· != mark) <;> rfl

theorem cutAt_of_not_mem (h : mark ∉ t) : cutAt mark t = (t, none) := by
  induction t with
  | nil => rfl
  | cons c t ih =>
    have hc : c ≠ mark := fun heq => h (by simp [heq])
    rw [cutAt_cons_of_ne hc, ih fun hmem => h (by simp [hmem])]

theorem span_append_cons {p : Char → Bool} {c : Char} {behind : Text} (h : ∀ d ∈ t, p d = true)
    (hc : p c = false) : (t ++ c :: behind).span p = (t, c :: behind) := by
  rw [List.span_eq_takeWhile_dropWhile, List.takeWhile_append_of_pos h, List.dropWhile_append_of_pos h]
  simp [hc]

theorem cutAt_append_cons (h : mark ∉ t) (behind : Text) :
    cutAt mark (t ++ mark :: behind) = (t, some behind) := by
  have hbefore : ∀ d ∈ t, (d != mark) = true := fun d hd => bne_iff_ne.mpr fun heq => h (heq ▸ hd)
  unfold cutAt
  rw [span_append_cons hbefore (by simp)]

end

/-- The path of a reference without scheme and authority. -/
def pathPart (t : Text) : Text := (cutAt '?' (cutAt '#' t).1).1

def queryPart (t : Text) : Option Text := (cutAt '?' (cutAt '#' t).1).2

section

variable {c : Char} {rest : Text}

theorem pathPart_cons (hf : c ≠ '#') (hq : c ≠ '?') :
    pathPart (c :: rest) = c :: pathPart rest := by
  unfold pathPart
  rw [cutAt_cons_of_ne hf, cutAt_cons_of_ne hq]

theorem pathPart_isPrefix (t : Text) : pathPart t <+: t := by
  unfold pathPart
  rw [cutAt_fst, cutAt_fst]
  exact (List.takeWhile_prefix _).trans (List.takeWhile_prefix _)

theorem marks_of_mem_pathPart {c : Char} {t : Text} (h : c ∈ pathPart t) : c ≠ '?' ∧ c ≠ '#' := by
  unfold pathPart at h
  rw [cutAt_fst, cutAt_fst] at h
  have hquery := List.mem_takeWhile_imp h
  have hfragment := List.mem_takeWhile_imp ((List.takeWhile_prefix _).subset h)
  exact ⟨bne_iff_ne.mp hquery, bne_iff_ne.mp hfragment⟩

theorem pathPart_append {s : Text} (hf : '#' ∉ s) (hq : '?' ∉ s) (t : Text) :
    pathPart (s ++ t) = s ++ pathPart t := by
  induction s with
  | nil => rfl
  | cons c s ih =>
    have hcf : c ≠ '#' := fun heq => hf (by simp [heq])
    have hcq : c ≠ '?' := fun heq => hq (by simp [heq])
    have hrest := ih (fun h => hf (by simp [h])) fun h => hq (by simp [h])
    rw [List.cons_append, pathPart_cons hcf hcq, hrest, List.cons_append]

theorem parse_of_slash (hf : c ≠ '#') (hs : c ≠ '/') :
    parse ('/' :: c :: rest) =
      ⟨[], [], pathPart ('/' :: c :: rest), queryPart ('/' :: c :: rest), (cutAt '#' ('/' :: c :: rest)).2⟩ := by
  have hcut : cutAt '#' ('/' :: c :: rest) = ('/' :: c :: (cutAt '#' rest).1, (cutAt '#' rest).2) := by
    rw [cutAt_cons_of_ne (by decide), cutAt_cons_of_ne hf]
  have hscheme (t : Text) : splitScheme ('/' :: t) = ([], '/' :: t) := by
    simp [splitScheme, List.span_eq_takeWhile_dropWhile, show isSchemeChar '/' = false by decide]
  have hauthority (t : Text) : splitAuthority ('/' :: c :: t) = ([], '/' :: c :: t) := by
    unfold splitAuthority
    split
    · rename_i heq
      exact absurd (List.cons.inj (List.cons.inj heq).2).1 hs
    · rfl
  unfold parse pathPart queryPart
  rw [hcut]
  simp only [hscheme, hauthority]

end

end Reference

namespace Url

/-! ## Safe characters -/

theorem toNat_lt_of_hexDigit? {c : Char} (h : (Text.hexDigit? c).isSome = true) :
    c.toNat < 128 := by
  have hlt {d : Char} (hle : c ≤ d) (hd : d.toNat < 128) : c.toNat < 128 :=
    lt_of_le_of_lt (UInt32.le_iff_toNat_le.mp (Char.le_def.mp hle)) hd
  unfold Text.hexDigit? at h
  split_ifs at h with hdigit hlower hupper
  · exact lt_of_le_of_lt (Char.isDigit_iff_toNat.mp hdigit).2 (by decide)
  · simp only [Bool.and_eq_true, decide_eq_true_eq] at hlower
    exact hlt hlower.2 (by decide)
  · simp only [Bool.and_eq_true, decide_eq_true_eq] at hupper
    exact hlt hupper.2 (by decide)
  · cases h

theorem keepsEscapes_of_ascii {safe : Char → Bool} (hmark : safe '%' = true)
    (h : ∀ n < 128, (Text.hexDigit? (Char.ofNat n)).isSome = true → safe (Char.ofNat n) = true) :
    KeepsEscapes safe where
  mark := hmark
  digit c hc := by
    have hc' := h c.toNat (toNat_lt_of_hexDigit? hc)
    rw [Char.ofNat_toNat] at hc'
    exact hc' hc

theorem keepsEscapes_inPath : KeepsEscapes inPath := keepsEscapes_of_ascii (by decide) (by decide)

theorem keepsEscapes_inQuery : KeepsEscapes inQuery := keepsEscapes_of_ascii (by decide) (by decide)

end Url

/-! ## Origins -/

namespace Origin

theorem shown_eq {u : Url} (hmark : '#' ∉ u.toText) (hword : Text.startsWith "URL:" u.toText = false) :
    shown u = u.toText := by
  have hlast : u.toText.getLast? ≠ some '#' := fun h => hmark (List.mem_of_getLast? h)
  unfold shown
  simp only [hword, Bool.false_eq_true, if_false, hlast]

section

variable {scheme authority t behind : Text} (hchars : scheme.all Reference.isSchemeChar = true)

include hchars

theorem isTyped_of_scheme (hmark : '#' ∉ t) (hne : scheme ≠ []) (ht : t = scheme ++ ':' :: behind) :
    isTyped t = true := by
  have hscheme : ∀ c ∈ scheme, (c != '/' && c != ':') = true := by
    intro c hc
    have hchar := List.all_eq_true.mp hchars c hc
    have hslash : c ≠ '/' := by rintro rfl; cases hchar
    have hcolon : c ≠ ':' := by rintro rfl; cases hchar
    simp [hslash, hcolon]
  obtain ⟨c, rest, hcons⟩ := List.exists_cons_of_ne_nil hne
  unfold isTyped withoutFragment
  rw [if_neg (by simpa using hmark), ht, Reference.span_append_cons hscheme (by decide), hcons]
  rfl

theorem place_of_authority (hletter : ∃ c rest, scheme = c :: rest ∧ c.isAlpha = true)
    (hauthority : authority.all (fun c => c != '/' && c != '?' && c != '#') = true)
    (ht : t = scheme ++ ':' :: '/' :: '/' :: (authority ++ '/' :: behind)) : place t = authority := by
  obtain ⟨c, rest, hscheme, hletter⟩ := hletter
  have hsplit : Reference.splitScheme t = (scheme, '/' :: '/' :: (authority ++ '/' :: behind)) := by
    unfold Reference.splitScheme
    rw [ht, Reference.span_append_cons (List.all_eq_true.mp hchars) (by decide), hscheme]
    simp only [hletter, if_true]
  unfold place
  rw [hsplit]
  unfold Reference.splitAuthority
  simp only
  rw [Reference.span_append_cons (List.all_eq_true.mp hauthority) (by decide)]

end

end Origin

/-! ## Roots -/

namespace Url

/-- The address of a host: its parts read back as they are, nothing stands behind the host,
    and answers are taken from there. -/
structure IsRoot (u : Url) : Prop where
  scheme_letter : ∃ c rest, u.scheme = c :: rest ∧ c.isAlpha = true
  scheme_chars : u.scheme.all Reference.isSchemeChar = true
  authority_ne_nil : u.authority ≠ []
  authority_chars : u.authority.all (fun c => c != '/' && c != '?' && c != '#') = true
  authority_short : isShort u.authority = true
  place : Origin.checkPlace u.authority = .ok ()
  target_eq : u.target = ['/']
  fragment_eq : u.fragment = none
  readsBack : ofReference ⟨u.scheme, u.authority, [], none, none⟩ = some { u with path := [] }

theorem isRoot_localhost : IsRoot localhost where
  scheme_letter := ⟨'h', "ttp", rfl, by decide⟩
  scheme_chars := by decide
  authority_ne_nil := by decide
  authority_chars := by decide
  authority_short := by decide
  place := by decide
  target_eq := by decide
  fragment_eq := rfl
  readsBack := rfl

/-- With a scheme before it the segments of any path are resolved. -/
theorem ofReference_of_scheme {r : Reference} {u : Url} (h : r.scheme ≠ [])
    (hbare : ofReference { r with path := [], query := none } = some u) :
    ofReference r =
      some { u with path := encode inPath (resolveDots r.path), query := r.query.map (encode inQuery) } := by
  unfold ofReference at hbare ⊢
  simp only [Option.bind_eq_bind] at hbare ⊢
  cases hhost : Host.normalize? (Authority.parse r.authority).host with
  | none => rw [hhost] at hbare; cases hbare
  | some host =>
    cases hport : port? (Authority.parse r.authority).port with
    | none => rw [hhost, hport] at hbare; cases hbare
    | some port =>
      have hscheme : decide (r.scheme ≠ []) = true := decide_eq_true h
      rw [hhost, hport] at hbare
      simp only [Option.bind_some, hscheme, Bool.true_or, Bool.not_true, Bool.false_and, Bool.false_eq_true,
        if_false, if_true, Option.some.injEq] at hbare ⊢
      rw [← hbare]

theorem scheme_of_ofReference {r : Reference} {u : Url} (h : ofReference r = some u) :
    u.scheme = r.scheme.map Char.toLower := by
  unfold ofReference at h
  simp only [Option.bind_eq_bind, Option.bind_eq_some_iff] at h
  obtain ⟨host, -, port, -, h⟩ := h
  split at h
  · cases h
  · cases h; rfl

/-- A reference that starts with one slash has a path and perhaps a query and a fragment. -/
theorem ofReference_of_slash {c : Char} {rest : Text} (hc : c ≠ '/') (query fragment : Option Text) :
    ofReference ⟨[], [], '/' :: c :: rest, query, fragment⟩ =
      some ⟨[], [], [], none, encode inPath ('/' :: c :: rest), query.map (encode inQuery),
        fragment.map (encode inFragment)⟩ := by
  have hempty : Authority.parse [] = ⟨[], [], []⟩ := rfl
  have hhost : Host.normalize? [] = some [] := rfl
  have hport : port? [] = some none := rfl
  have hstart : Text.startsWith "//" ('/' :: c :: rest) = false := by
    simp [Text.startsWith, List.isPrefixOf, Ne.symm hc]
  have hcolon : Text.startsWith ":" ('/' :: c :: rest) = false := by
    simp [Text.startsWith, List.isPrefixOf]
  unfold ofReference
  simp only [hempty, hhost, hport, hstart, hcolon, Http.Percent.encode_nil]
  rfl

theorem withTarget_target {u v : Url} (hne : v.path ≠ []) (hno : '?' ∉ v.path) :
    u.withTarget v.target = u.withPath v.path v.query := by
  unfold withTarget target
  rw [if_neg hne]
  cases v.query with
  | none => rw [List.append_nil, Reference.cutAt_of_not_mem hno]
  | some query => rw [Reference.cutAt_append_cons hno]

theorem slash_dropWhile_target {v : Url} {c : Char} {rest : Text} (hpath : v.path = '/' :: c :: rest)
    (hs : c ≠ '/') : '/' :: v.target.dropWhile (· == '/') = v.target := by
  unfold target
  rw [hpath]
  simp [hs]

namespace IsRoot

variable {u : Url} (h : u.IsRoot)

include h

theorem scheme_ne_nil : u.scheme ≠ [] := by
  obtain ⟨c, rest, hscheme, -⟩ := h.scheme_letter
  rw [hscheme]
  exact List.cons_ne_nil c rest

theorem withPath (path : Text) (query : Option Text) :
    u.withPath path query =
      if isShort path && isShort (query.getD []) then
        some { u with path := encode inPath (resolveDots path), query := query.map (encode inQuery) }
      else none := by
  have hreads :=
    ofReference_of_scheme (r := ⟨u.scheme, u.authority, path, query, none⟩) h.scheme_ne_nil h.readsBack
  unfold Url.withPath
  rw [h.fragment_eq] at hreads ⊢
  rw [hreads]
  simp [h.authority_short, show isShort [] = true by decide]

/-- What a reference that starts with one slash comes to: its path and query, escaped, behind
    the root. -/
theorem resolve_eq {c : Char} (hs : c ≠ '/') (hc : inPath c = true) (rest : Text) :
    u.resolve ('/' :: c :: rest) =
      if isShort ('/' :: c :: rest) && !('/' :: c :: rest).any isControl then
        u.withPath (encode inPath (Reference.pathPart ('/' :: c :: rest)))
          ((Reference.queryPart ('/' :: c :: rest)).map (encode inQuery))
      else none := by
  have hf : c ≠ '#' := fun heq => by rw [heq] at hc; cases hc
  have hq : c ≠ '?' := fun heq => by rw [heq] at hc; cases hc
  have hpath : Reference.pathPart ('/' :: c :: rest) = '/' :: c :: Reference.pathPart rest := by
    rw [Reference.pathPart_cons (by decide) (by decide), Reference.pathPart_cons hf hq]
  have hencode (t : Text) : encode inPath ('/' :: c :: t) = '/' :: c :: encode inPath t := by
    rw [Http.Percent.encode_cons_safe (by decide), Http.Percent.encode_cons_safe hc]
  have hno (t : Text) : '?' ∉ encode inPath t := fun hmem =>
    absurd (Http.Percent.safe_of_mem_encode keepsEscapes_inPath hmem) (by decide)
  unfold Url.resolve Url.parse
  split
  · rw [Reference.parse_of_slash hf hs, hpath, ofReference_of_slash hs, hencode]
    generalize hv : (⟨[], [], [], none, '/' :: c :: encode inPath (Reference.pathPart rest), _, _⟩ : Url) = v
    have hpathv : v.path = encode inPath (Reference.pathPart ('/' :: c :: rest)) := by
      rw [← hv, hpath, hencode]
    -- the first slash goes, and that of the root comes in its place
    have htarget : u.target ++ v.target.dropWhile (· == '/') = v.target := by
      rw [h.target_eq]
      exact slash_dropWhile_target (hpathv.trans (hpath ▸ hencode _)) hs
    have hrelative : v.isAbsolute = false := by rw [← hv]; rfl
    show (if v.isAbsolute = true then some v else u.withTarget _) = _
    have hne : v.path ≠ [] := by rw [← hv]; exact List.cons_ne_nil _ _
    rw [hrelative, htarget, withTarget_target hne (hpathv ▸ hno _), hpathv, hpath, hencode, ← hv]
    rfl
  · rfl

theorem toText_behind (path : Text) (query : Option Text) :
    toText { u with path, query } =
      u.scheme ++ ':' :: '/' :: '/' :: (u.authority ++ (path ++ query.elim [] ('?' :: ·))) := by
  have hauthority : authority { u with path, query } ≠ [] := h.authority_ne_nil
  unfold toText
  rw [if_neg h.scheme_ne_nil, if_neg hauthority, h.fragment_eq]
  cases query <;> simp [authority]

/-- Schemes are in small letters. -/
theorem not_startsWith_mark (behind : Text) :
    Text.startsWith "URL:" (u.scheme ++ behind) = false := by
  obtain ⟨c, rest, hscheme, -⟩ := h.scheme_letter
  have hlower : u.scheme = u.scheme.map Char.toLower := scheme_of_ofReference h.readsBack
  have hc : c ≠ 'U' := by
    rintro rfl
    rw [hscheme] at hlower
    exact absurd (List.cons.inj hlower).1 (by decide)
  rw [hscheme]
  simp [Text.startsWith, List.isPrefixOf, Ne.symm hc]

/-- Answers are taken from every address behind the root. -/
theorem check {rest : Text} {query : Option Text} (hpath : '#' ∉ rest) (hquery : '#' ∉ query.getD []) :
    Origin.check { u with path := '/' :: rest, query } = .ok () := by
  have htext := h.toText_behind ('/' :: rest) query
  generalize ({ u with path := '/' :: rest, query } : Url) = v at htext ⊢
  have hmark : '#' ∉ v.toText := by
    rw [htext]
    have hscheme : '#' ∉ u.scheme :=
      fun hmem => absurd (List.all_eq_true.mp h.scheme_chars '#' hmem) (by decide)
    have hauthority : '#' ∉ u.authority :=
      fun hmem => absurd (List.all_eq_true.mp h.authority_chars '#' hmem) (by decide)
    cases query <;> simp_all
  have hword : Text.startsWith "URL:" v.toText = false := htext ▸ h.not_startsWith_mark _
  rw [List.cons_append] at htext
  have htyped : Origin.isTyped v.toText = true :=
    Origin.isTyped_of_scheme h.scheme_chars hmark h.scheme_ne_nil htext
  have hplace : Origin.place v.toText = u.authority :=
    Origin.place_of_authority h.scheme_chars h.scheme_letter h.authority_chars htext
  unfold Origin.check
  simp only [Origin.shown_eq hmark hword, htyped, hplace, if_true]
  exact h.place

end IsRoot

/-! ## Plain paths -/

/-- One slash, and then a character that stands for itself. -/
def startsPath : Text → Bool
  | '/' :: c :: _ => c != '/' && inPath c
  | _ => false

theorem exists_of_startsPath {path : Text} (h : startsPath path = true) :
    ∃ c rest, path = '/' :: c :: rest ∧ c ≠ '/' ∧ inPath c = true := by
  unfold startsPath at h
  split at h
  · rename_i c rest
    rw [Bool.and_eq_true, bne_iff_ne] at h
    exact ⟨c, rest, rfl, h.1, h.2⟩
  · cases h

/-- A character that does not end a path, and may stand in an address. -/
def staysInPath (c : Char) : Bool := c != '?' && c != '#' && !isControl c

/-- A path behind a root that stays one, and the same one. -/
structure IsPlain (path : Text) : Prop where
  start : startsPath path = true
  chars : path.all staysInPath = true
  still : resolveDots (encode inPath path) = encode inPath path
  short : isShort (encode inPath path) = true

instance (path : Text) : Decidable (IsPlain path) :=
  decidable_of_iff (startsPath path = true ∧ path.all staysInPath = true ∧
      resolveDots (encode inPath path) = encode inPath path ∧ isShort (encode inPath path) = true)
    ⟨fun ⟨start, chars, still, short⟩ => ⟨start, chars, still, short⟩,
      fun h => ⟨h.start, h.chars, h.still, h.short⟩⟩

theorem isShort_of_length_le {s t : Text} (h : s.length ≤ t.length) (ht : isShort t = true) :
    isShort s = true := by
  unfold isShort at ht ⊢
  rw [decide_eq_true_eq] at ht ⊢
  omega

theorem IsRoot.resolve_of_isPlain {u : Url} (h : u.IsRoot) {path : Text} (hp : IsPlain path) :
    u.resolve path = some { u with path := encode inPath path, query := none } := by
  obtain ⟨c, rest, rfl, hs, hc⟩ := exists_of_startsPath hp.start
  have hchars := List.all_eq_true.mp hp.chars
  have hquery : '?' ∉ '/' :: c :: rest := fun hmem => absurd (hchars '?' hmem) (by decide)
  have hfragment : '#' ∉ '/' :: c :: rest := fun hmem => absurd (hchars '#' hmem) (by decide)
  have hcontrol : ('/' :: c :: rest).any isControl = false := by
    refine List.any_eq_false.mpr fun d hd => ?_
    have hd := hchars d hd
    simp only [staysInPath, Bool.and_eq_true, Bool.not_eq_true'] at hd
    simp [hd.2]
  have hshort := isShort_of_length_le (Http.Percent.length_le_length_encode inPath _) hp.short
  rw [h.resolve_eq hs hc]
  unfold Reference.pathPart Reference.queryPart
  rw [Reference.cutAt_of_not_mem hfragment, Reference.cutAt_of_not_mem hquery, hshort, hcontrol]
  show u.withPath _ none = _
  rw [h.withPath, hp.short, hp.still, Http.Percent.encode_encode keepsEscapes_inPath]
  rfl

end Url

/-! ## Requests -/

section

variable {c : Connection} {method path : Text} {params body : Json} {given : Option (List (Text × Json))}

theorem urlFor_of_isPlain {base : Url} (h : base.IsRoot) (hp : Url.IsPlain path)
    (hshort : Url.isShort ((given.bind encodedQuery).getD []) = true) :
    urlFor base path given =
      some { base with
        path := encode Url.inPath path, query := (given.bind encodedQuery).map (encode Url.inQuery) } := by
  cases given with
  | none => exact h.resolve_of_isPlain hp
  | some params =>
    unfold urlFor
    rw [h.resolve_of_isPlain hp]
    show base.withPath (encode Url.inPath path) (encodedQuery params) = _
    rw [h.withPath, hp.short, hp.still, Http.Percent.encode_encode Url.keepsEscapes_inPath]
    exact if_pos hshort

/-- The request for a plain path goes behind the root, and is for the path decoded. -/
theorem addressed_of_isPlain (h : c.base.IsRoot) (hp : Url.IsPlain path)
    (hparams : paramsOf params = .ok given) (hshort : Url.isShort ((given.bind encodedQuery).getD []) = true)
    (hbody : body.allFinite = true) :
    addressed c method path params body =
      .ok ⟨{ c.base with
          path := encode Url.inPath path, query := (given.bind encodedQuery).map (encode Url.inQuery) },
        ⟨Text.capitals method, Http.Percent.decode path,
          (given.map fun params => params.flatMap queryPairs).getD [], body⟩⟩ := by
  have hne : encode Url.inPath path ≠ [] := by
    obtain ⟨c, rest, rfl, -⟩ := Url.exists_of_startsPath hp.start
    rw [Http.Percent.encode_cons_safe (by decide)]
    exact List.cons_ne_nil _ _
  unfold addressed
  simp only [hparams, bind, Except.bind, urlFor_of_isPlain h hp hshort, hbody, if_true, Url.decodedPath,
    if_neg hne]
  rw [Http.Percent.decode_encode Url.keepsEscapes_inPath]
  cases given with
  | none => rfl
  | some params => rfl

/-- Answers to it are taken. -/
theorem check_of_isPlain {base : Url} (h : base.IsRoot) (hp : Url.IsPlain path) (query : Option Text) :
    Origin.check { base with path := encode Url.inPath path, query := query.map (encode Url.inQuery) } =
      .ok () := by
  obtain ⟨c, rest, rfl, -⟩ := Url.exists_of_startsPath hp.start
  have hmark {safe : Char → Bool} (hsafe : KeepsEscapes safe) (hno : safe '#' = false) (t : Text) :
      '#' ∉ encode safe t :=
    fun hmem => absurd (Http.Percent.safe_of_mem_encode hsafe hmem) (by simp [hno])
  rw [Http.Percent.encode_cons_safe (by decide)]
  refine h.check (hmark Url.keepsEscapes_inPath (by decide) _) ?_
  cases query with
  | none => exact List.not_mem_nil
  | some query => exact hmark Url.keepsEscapes_inQuery (by decide) query

end

end TreeShell.Client
