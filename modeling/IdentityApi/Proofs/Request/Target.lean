import IdentityApi.Proofs.Endpoint
import IdentityApi.Proofs.Url.Regular
import IdentityApi.Request

/-! # Targets and URLs

The URL of a call is its base up to the last slash of the path, then the relative target: resolving
adds, drops and encodes nothing.
-/
namespace IdentityApi

open Url Url.Reader

namespace Url

/-- The URL without query and fragment. -/
def bare (u : Url) : Url := { u with query := none, fragment := none }

/-- The last segment is empty: the path ends with a slash. -/
def Path.IsFolder (p : Path) : Prop := ∃ front, p = .segments (front ++ [""])

/-- Segments cut from a text give the text back behind their slash. -/
theorem text_segments_append (front : List String) (t : String) :
    (Path.segments (front ++ (splitAt '/' t.toList).map String.ofList)).text =
      (Path.segments (front ++ [""])).text ++ t := by
  obtain ⟨s, l, hl⟩ := List.exists_cons_of_ne_nil (splitAt_ne_nil '/' t.toList)
  have ht : s ++ l.flatMap ('/' :: ·) = t.toList := by
    rw [← intercalate_eq_append_flatMap, ← hl, intercalate_splitAt]
  rw [← String.toList_inj, String.toList_append, toList_segments, toList_segments, hl, ← ht]
  simp [List.flatMap_map]

/-- What the path ends with does not change what stands before it, unless it ends empty. -/
theorem origin_eq {u v : Url} (hscheme : u.scheme = v.scheme)
    (hauthority : u.authority = v.authority) (front rest : List String) {first : String}
    (hfirst : first ≠ "") (hu : u.path = .segments (front ++ first :: rest))
    (hv : v.path = .segments (front ++ [""])) :
    u.origin = v.origin := by
  unfold origin
  rw [hscheme, hauthority, hu, hv]
  cases v.authority with
  | some a => rfl
  | none =>
    cases front with
    | nil => simp [hfirst]
    | cons s front =>
      by_cases hs : s = ""
      · subst hs
        cases front <;> rfl
      · cases front <;> simp [hs]

end Url

/-! ## The text of a query -/

namespace Query

/-- Letters, digits and low lines: the characters of keys. -/
def isKeyChar (c : Char) : Bool := c.isAlphanum || c == '_'

theorem of_mem_text {q : Query} (h : ∀ x ∈ q.entries, ∀ c ∈ x.1.toList, isKeyChar c = true)
    {c : Char} (hc : c ∈ q.text.toList) : isPlainChar c = true ∨ c = '=' ∨ c = '&' := by
  rw [text, String.toList_intercalate] at hc
  rcases of_mem_intercalate hc with hc | ⟨s, hs, hc⟩
  · exact Or.inr (Or.inr hc)
  · simp only [List.map_map, List.mem_map, Function.comp_apply] at hs
    obtain ⟨x, hx, rfl⟩ := hs
    simp only [entryText, Percent.encodeValue, String.toList_append, String.toList_ofList,
      List.mem_append] at hc
    rcases hc with (hc | hc) | hc
    · have := h x hx c hc
      rw [isKeyChar, Bool.or_eq_true, beq_iff_eq] at this
      rcases this with hkey | rfl
      · exact Or.inl (isPlainChar_of_isAlphanum hkey)
      · exact Or.inl (by decide)
    · exact Or.inr (Or.inl (by simpa using hc))
    · exact Or.inl (Percent.forall_mem_encode holdsTriples_isPlainChar
        (fun d hd => by simp [isPlainChar, hd]) _ c hc)

/-- With such keys a query is written into a URL as it is. -/
theorem queryText_text {q : Query} (h : ∀ x ∈ q.entries, ∀ c ∈ x.1.toList, isKeyChar c = true)
    {scheme : String} (hs : IsWebScheme scheme) : queryText scheme q.text.toList = q.text := by
  have hkeep : ∀ c ∈ q.text.toList, keepsSpecialQuery c = true := by
    intro c hc
    rcases of_mem_text h hc with hc | rfl | rfl
    · exact of_ascii (by decide +kernel) (toNat_lt_of_isPlainChar hc) hc
    · decide
    · decide
  rw [queryText, encoded, if_pos hs.isSpecial, Percent.encode_eq_self hkeep, String.ofList_toList]

end Query

/-! ## URLs from targets -/

namespace Parameters

variable {e : Endpoint} {p : Parameters} {base : Url}

theorem target_ok {t : String} (h : p.target e = .ok t) :
    PathTemplate.render e.path p.path = .ok t := by
  rw [target] at h
  cases hr : PathTemplate.render e.path p.path with
  | error fault => rw [hr] at h; cases h
  | ok text => rw [hr] at h; cases h; rfl

/-- A target consists of plain segments, the root of the interface in front. -/
theorem target_plain (he : e ∈ Endpoint.all) {t : String} (ht : p.target e = .ok t) :
    ∃ l, l ≠ [] ∧ splitAt '/' t.toList = ['a', 'p', 'i'] :: ['v', '3'] :: l ∧
      ∀ s ∈ splitAt '/' t.toList, IsPlainSegment s := by
  obtain ⟨l, hl, htext, hplain⟩ := Endpoint.render_plain he (target_ok ht)
  have hcut : splitAt '/' t.toList = ['a', 'p', 'i'] :: ['v', '3'] :: l := by
    rw [htext]
    refine splitAt_intercalate (fun s hs hslash => ?_) (by simp)
    exact absurd ((hplain s hs).plain _ hslash) (by decide)
  exact ⟨l, hl, hcut, hcut ▸ hplain⟩

/-- The query of the URL: that of the parameters, if it holds anything. -/
def urlQuery (p : Parameters) (scheme : String) : Option String :=
  if p.query.isEmpty then none else some (queryText scheme p.query.text.toList)

/-- The URL of a call over a web address with segments. -/
def urlOver (base : Url) (list : List String) (p : Parameters) (t : String) : Url :=
  ⟨base.scheme, base.authority,
    .segments (list.dropLast ++ (splitAt '/' t.toList).map String.ofList),
    p.urlQuery base.scheme, none⟩

/-- A target can always be joined, and takes the place of the last segment. -/
theorem url_eq (hs : IsWebScheme base.scheme) {list : List String}
    (hp : base.path = .segments list) (he : e ∈ Endpoint.all) (p : Parameters) :
    p.url base e = (p.target e).map (urlOver base list p) := by
  unfold url
  cases ht : p.target e with
  | error fault => rfl
  | ok t =>
    obtain ⟨l, -, hcut, hplain⟩ := target_plain he ht
    have hjoin := join_plain hs hp (List.cons_ne_nil 'a' ['p', 'i'])
      (List.all_eq_true.mp (by decide)) (List.cons_ne_nil ['v', '3'] l) (hcut ▸ hplain)
    rw [← hcut, intercalate_splitAt, String.ofList_toList] at hjoin
    simp only [bind, Except.bind, hjoin, Except.mapError, pure, Except.pure, Except.map, urlOver,
      urlQuery, hcut, withQuery]
    split_ifs <;> rfl

/-- The characters of a target. -/
theorem of_mem_target (he : e ∈ Endpoint.all) {t : String} (ht : p.target e = .ok t) {c : Char}
    (hc : c ∈ t.toList) : c = '/' ∨ isPlainChar c = true := by
  obtain ⟨l, -, -, hplain⟩ := target_plain he ht
  rw [← intercalate_splitAt '/' t.toList] at hc
  rcases of_mem_intercalate hc with hc | ⟨s, hs, hc⟩
  · exact Or.inl hc
  · exact Or.inr ((hplain s hs).plain c hc)

theorem not_mem_target (he : e ∈ Endpoint.all) {t : String} (ht : p.target e = .ok t) {c : Char}
    (hslash : c ≠ '/') (hplain : isPlainChar c = false) : c ∉ t.toList := by
  intro hc
  rcases of_mem_target he ht hc with h | h
  · exact hslash h
  · rw [hplain] at h
    cases h

/-- A target begins with the root of the interface. -/
theorem target_root (he : e ∈ Endpoint.all) {t : String} (ht : p.target e = .ok t) :
    ∃ s, t = "api/v3/" ++ s := by
  obtain ⟨l, hl, hcut, -⟩ := target_plain he ht
  refine ⟨.ofList (['/'].intercalate l), ?_⟩
  rw [← String.toList_inj, ← intercalate_splitAt '/' t.toList, hcut, String.toList_append,
    String.toList_ofList, List.intercalate_cons_cons, List.intercalate_cons_of_ne_nil hl]
  simp

theorem isEmpty_iff (p : Parameters) : p.query.isEmpty = true ↔ p.query.entries = [] := by
  rw [Query.isEmpty, List.isEmpty_iff]

/-- Over a folder the text of the URL is the text of the base and the relative target. -/
theorem text_urlOver (hs : IsWebScheme base.scheme) {front : List String}
    (hp : base.path = .segments (front ++ [""])) (he : e ∈ Endpoint.all)
    (hk : ∀ x ∈ p.query.entries, ∀ c ∈ x.1.toList, Query.isKeyChar c = true) {t : String}
    (ht : p.target e = .ok t) :
    (urlOver base (front ++ [""]) p t).text =
      base.bare.text ++ (if p.query.isEmpty then t else t ++ "?" ++ p.query.text) := by
  obtain ⟨rest, -, hcut, -⟩ := target_plain he ht
  have horigin : (urlOver base (front ++ [""]) p t).origin = base.bare.origin := by
    refine origin_eq rfl rfl front ((['v', '3'] :: rest).map String.ofList)
      (by decide : "api" ≠ "") ?_ hp
    simp only [urlOver, hcut, List.dropLast_concat, List.map_cons]
  have hpath : (urlOver base (front ++ [""]) p t).path.text = base.bare.path.text ++ t := by
    rw [bare, hp, urlOver, List.dropLast_concat, text_segments_append]
  have hquery : optionText "?" (p.urlQuery base.scheme) =
      if p.query.isEmpty then "" else "?" ++ p.query.text := by
    rw [urlQuery, Query.queryText_text hk hs]
    split_ifs <;> rfl
  have hbare : base.bare.text = base.bare.origin ++ base.bare.path.text := by
    simp [Url.text, bare, optionText]
  have htext : (urlOver base (front ++ [""]) p t).text =
      base.bare.origin ++ (base.bare.path.text ++ t) ++ optionText "?" (p.urlQuery base.scheme) ++
        "" := by
    rw [← horigin, ← hpath]
    rfl
  rw [htext, hquery, hbare]
  split_ifs <;> simp [String.append_assoc]

/-- The URL of a call over a web address that is a folder. Its text is that of the base without
query and fragment, then the relative target; with a fault in the target there is no URL, for the
same reason. Scheme and authority are those of the base, the path is that of the base with the
segments of the target behind it, and there is a query if and only if an entry is stored. -/
theorem url_text_eq_append_relativeTarget (base : Url)
    (hs : base.scheme = "http" ∨ base.scheme = "https") (hf : base.path.IsFolder) (e : Endpoint)
    (he : e ∈ Endpoint.all) (p : Parameters)
    (hk : ∀ x ∈ p.query.entries, ∀ c ∈ x.1.toList, c.isAlphanum = true ∨ c = '_') :
    (p.url base e).map Url.text = (p.relativeTarget e).map (base.bare.text ++ ·) ∧
      (∀ u, p.url base e = .ok u →
        u.scheme = base.scheme ∧ u.authority = base.authority ∧ u.fragment = none ∧
          (u.query.isSome = true ↔ p.query.entries ≠ []) ∧
          ∃ front t, base.path = .segments (front ++ [""]) ∧ p.target e = .ok t ∧
            u.path = .segments (front ++ (splitAt '/' t.toList).map String.ofList)) ∧
      ∀ r, p.relativeTarget e = .ok r →
        ('?' ∈ r.toList ↔ p.query.entries ≠ []) ∧ '#' ∉ r.toList := by
  obtain ⟨front, hp⟩ := hf
  have hkeys : ∀ x ∈ p.query.entries, ∀ c ∈ x.1.toList, Query.isKeyChar c = true := by
    intro x hx c hc
    simpa [Query.isKeyChar] using hk x hx c hc
  have hurl := url_eq hs hp he p
  rw [hurl, relativeTarget]
  cases ht : p.target e with
  | error fault => simp [Except.map]
  | ok t =>
    refine ⟨?_, ?_, ?_⟩
    · simp only [Except.map]
      rw [text_urlOver hs hp he hkeys ht]
    · intro u hu
      cases hu
      refine ⟨rfl, rfl, rfl, ?_, front, t, hp, rfl, ?_⟩
      · rw [ne_eq, ← isEmpty_iff p]
        simp only [urlOver, urlQuery]
        split_ifs with hempty <;> simp [hempty]
      · simp only [urlOver, List.dropLast_concat]
    · intro r hr
      have hquestion : '?' ∉ t.toList := not_mem_target he ht (by decide) (by decide)
      have hmark : '#' ∉ t.toList := not_mem_target he ht (by decide) (by decide)
      cases hr
      by_cases hempty : p.query.entries = []
      · simp [(isEmpty_iff p).mpr hempty, hempty, hquestion, hmark]
      · have hmark' : '#' ∉ p.query.text.toList := by
          intro hc
          rcases Query.of_mem_text hkeys hc with h | h | h <;> revert h <;> decide
        have hopen : ¬ p.query.isEmpty = true := mt (isEmpty_iff p).mp hempty
        simp [hopen, hempty, hmark, hmark']

/-- A base with all its parts, and values that would change a path or a query if they stood bare. -/
theorem url_text_of_crowded_base :
    let base : Url := ⟨"https", some ⟨"user", "pw", "auth.example.com", some 8443⟩,
      .segments ["sso", ""], some "x=1", some "top"⟩
    let p : Parameters := { path := [("slug", "../a?b#%2e\\")], query := ⟨[("search", "ü&=#")]⟩ }
    base.path.IsFolder ∧ (p.url base .applicationsUsedBy).map Url.text =
      .ok ("https://user:pw@auth.example.com:8443/sso/" ++
        "api/v3/core/applications/..%2Fa%3Fb%23%252e%5C/used_by/?search=%C3%BC%26%3D%23") := by
  intro base p
  have hf : base.path.IsFolder := ⟨["sso"], rfl⟩
  have hbare : base.bare.text = "https://user:pw@auth.example.com:8443/sso/" := by decide +kernel
  have hrelative : p.relativeTarget .applicationsUsedBy =
      .ok "api/v3/core/applications/..%2Fa%3Fb%23%252e%5C/used_by/?search=%C3%BC%26%3D%23" := by
    rfl
  have hkeys : ∀ x ∈ p.query.entries, ∀ c ∈ x.1.toList, c.isAlphanum = true ∨ c = '_' := by
    intro x hx c hc
    have hletters : ("search".toList.all Char.isAlphanum) = true := by decide
    obtain rfl := List.mem_singleton.mp hx
    exact Or.inl (List.all_eq_true.mp hletters c hc)
  have := url_text_eq_append_relativeTarget base (Or.inr rfl) hf .applicationsUsedBy
    (by simp [Endpoint.all]) p hkeys
  refine ⟨hf, ?_⟩
  rw [this.1, hrelative, hbare]
  rfl

end Parameters

end IdentityApi
