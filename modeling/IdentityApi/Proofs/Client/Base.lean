import IdentityApi.Client
import IdentityApi.Proofs.Endpoint
import IdentityApi.Proofs.Request.Building
import IdentityApi.Proofs.Url.Reading

/-! # Base URLs of clients

A base is read from its text with a slash at the end. That slash closes the path, unless the text
has a query or a fragment: then it is their last character, and a path that ends with a name is left
at that name, which every request drops.
-/
namespace IdentityApi

open Url Url.Reader

/-! ## Slashes at the end -/

/-- Nothing, or a text with a slash at its end. -/
def IsTerminated (s : List Char) : Prop := ∀ c ∈ s.getLast?, c = '/'

namespace IsTerminated

variable {s t : List Char} {p : Char → Bool}

theorem eq_nil_or_append (h : IsTerminated s) : s = [] ∨ ∃ x, s = x ++ ['/'] := by
  rcases List.eq_nil_or_concat s with rfl | ⟨x, c, rfl⟩
  · exact Or.inl rfl
  · have hc : c = '/' := h c (by simp)
    exact Or.inr ⟨x, by simp [hc]⟩

theorem append_slash (x : List Char) : IsTerminated (x ++ ['/']) := by
  intro c hc
  simpa using hc.symm

theorem of_suffix (h : IsTerminated s) (ht : t <:+ s) : IsTerminated t := by
  obtain ⟨x, rfl⟩ := ht
  intro c hc
  refine h c ?_
  rw [List.getLast?_append, Option.mem_def.mp hc]
  rfl

theorem filter (h : IsTerminated s) (hp : p '/' = true) : IsTerminated (s.filter p) := by
  rcases h.eq_nil_or_append with rfl | ⟨x, rfl⟩
  · exact h
  · rw [List.filter_append, List.filter_cons_of_pos hp]
    exact append_slash _

theorem reverse_dropWhile (h : IsTerminated s) (hp : p '/' = false) :
    (s.reverse.dropWhile p).reverse = s := by
  rcases h.eq_nil_or_append with rfl | ⟨x, rfl⟩
  · rfl
  · rw [List.reverse_append, List.reverse_singleton, List.singleton_append,
      List.dropWhile_cons_of_neg (by simp [hp])]
    simp

theorem cleaned (h : IsTerminated s) : IsTerminated (cleaned s) := by
  have htrimmed := h.of_suffix (List.dropWhile_suffix fun c => decide (c.toNat ≤ 0x20))
  simp only [Reader.cleaned]
  rw [htrimmed.reverse_dropWhile (by decide)]
  exact htrimmed.filter (by decide)

end IsTerminated

theorem mem_of_mem_cleaned {s : List Char} {c : Char} (h : c ∈ cleaned s) : c ∈ s := by
  simp only [cleaned] at h
  have := List.mem_reverse.mp (List.mem_of_mem_filter h)
  exact (List.dropWhile_suffix _).mem (List.mem_reverse.mp ((List.dropWhile_suffix _).mem this))

theorem segments_append_slash (s : List Char) :
    segments true (s ++ ['/']) = segments true s ++ [[]] := by
  induction s with
  | nil => rfl
  | cons c s ih =>
    obtain ⟨t, l, hl⟩ := List.exists_cons_of_ne_nil (segments_ne_nil true s)
    rw [List.cons_append, segments, segments, ih, hl]
    dsimp only [List.cons_append]
    split_ifs <;> rfl

theorem getLast?_segments {s : List Char} (h : IsTerminated s) :
    (segments true s).getLast? = some [] := by
  rcases h.eq_nil_or_append with rfl | ⟨x, rfl⟩
  · rfl
  · rw [segments_append_slash, List.getLast?_concat]

/-! ## Texts of paths -/

variable {front : List String} {x : String}

theorem text_segments_concat (front : List String) (x : String) :
    (Path.segments (front ++ [x])).text = (Path.segments front).text ++ "/" ++ x := by
  rw [← String.toList_inj, String.toList_append, String.toList_append, toList_segments,
    toList_segments]
  simp

/-- The text of a path ends with a slash if its last segment is empty. -/
theorem text_endsWith_iff (hx : '/' ∉ x.toList) :
    (∃ s, (Path.segments (front ++ [x])).text = s ++ "/") ↔ x = "" := by
  rw [text_segments_concat]
  constructor
  · rintro ⟨s, h⟩
    rcases List.eq_nil_or_concat x.toList with hnil | ⟨y, c, hc⟩
    · exact String.toList_inj.mp hnil
    · have hlast := congrArg (fun u => u.toList.getLast?) h
      have hslash : c = '/' := by simpa [hc, List.getLast?_cons] using hlast
      exact absurd (by simp [hc, hslash]) hx
  · rintro rfl
    exact ⟨_, String.append_empty⟩

/-- A target stands behind the whole path if the last segment of that is empty. -/
theorem text_append_root_iff (hx : '/' ∉ x.toList) {t : String} (ht : ∃ s, t = "api/v3/" ++ s) :
    (∃ s, (Path.segments (front ++ [""])).text ++ t =
      (Path.segments (front ++ [x])).text ++ "api/v3/" ++ s) ↔ x = "" := by
  obtain ⟨r, rfl⟩ := ht
  rw [text_segments_concat, text_segments_concat]
  constructor
  · rintro ⟨s, h⟩
    have hlist := String.toList_inj.mpr h
    simp only [String.toList_append, List.append_assoc] at hlist
    have hrest := List.append_cancel_left (List.append_cancel_left hlist)
    have hcut : ['a', 'p', 'i'] ++ '/' :: ("v3/".toList ++ r.toList) =
        (x.toList ++ ['a', 'p', 'i']) ++ '/' :: ("v3/".toList ++ s.toList) := by
      simpa using hrest
    obtain ⟨hroot, -⟩ := cut_cons_inj (by decide) (by simp [hx]) hcut
    have hlength := congrArg List.length hroot
    rw [List.length_append] at hlength
    exact String.toList_inj.mp (List.length_eq_zero_iff.mp (by omega))
  · rintro rfl
    exact ⟨r, String.append_assoc.symm⟩

namespace Client

/-! ## Bases -/

/-- What is read as the base URL. -/
def baseText (text : String) : String := .ofList (trimSlashes (trimBlanks text.toList) ++ ['/'])

theorem baseOf_ok {text : String} {base : Url} (h : baseOf text = .ok base) :
    Url.parse (baseText text) = .ok base ∧ IsWebScheme base.scheme := by
  unfold baseOf at h
  split at h
  · cases h
  · rename_i u hu
    split_ifs at h with hs
    cases h
    exact ⟨hu, hs⟩

theorem isWebAddress_of_baseOf {text : String} {base : Url} (h : baseOf text = .ok base) :
    base.IsWebAddress :=
  isWebAddress_of_parse (baseOf_ok h).1 (baseOf_ok h).2

/-- A base below the root of its host, with the slash that the text lacks. -/
theorem baseOf_sso : baseOf "https://[::1]/sso" =
    .ok ⟨"https", some ⟨"", "", "[::1]", none⟩, .segments ["sso", ""], none, none⟩ := by
  rfl

/-- The path as it is written, before query and fragment, is missing or ends with a slash or with
dots. -/
def closesPath (text : String) : Bool :=
  (segments true (writtenPath (behindScheme (baseText text)))).getLast?.all fun s =>
    s.isEmpty || isDot s

theorem of_mem_baseText {text : String} {c : Char} (h : c ∈ (baseText text).toList) :
    c ∈ text.toList ∨ c = '/' := by
  have htrim : ∀ {p : Char → Bool} {s : List Char},
      c ∈ (s.reverse.dropWhile p).reverse → c ∈ s := by
    intro p s hs
    exact List.mem_reverse.mp ((List.dropWhile_suffix p).mem (List.mem_reverse.mp hs))
  rw [baseText, String.toList_ofList, List.mem_append, List.mem_singleton] at h
  refine h.imp_left fun h => ?_
  have := htrim h
  unfold trimBlanks at this
  exact (List.dropWhile_suffix _).mem (htrim this)

/-- Without query and fragment the slash at the end closes the path. -/
theorem closesPath_of_plain {text : String} (hquery : '?' ∉ text.toList)
    (hfragment : '#' ∉ text.toList) : closesPath text = true := by
  have hclosed : IsTerminated (cleaned (baseText text).toList) := by
    rw [baseText, String.toList_ofList]
    exact (IsTerminated.append_slash _).cleaned
  have hsuffix : (behindScheme (baseText text)).dropWhile inAuthority <:+
      cleaned (baseText text).toList :=
    (List.dropWhile_suffix _).trans <| (List.dropWhile_suffix _).trans <|
      (List.drop_suffix _ _).trans (List.dropWhile_suffix _)
  have hopen : ∀ c ∈ (behindScheme (baseText text)).dropWhile inAuthority,
      (!endsPath c) = true := by
    intro c hc
    rcases of_mem_baseText (mem_of_mem_cleaned (hsuffix.mem hc)) with hc | rfl
    · have hquestion : c ≠ '?' := by rintro rfl; exact hquery hc
      have hmark : c ≠ '#' := by rintro rfl; exact hfragment hc
      simp [endsPath, hquestion, hmark]
    · decide
  have hwritten : IsTerminated (writtenPath (behindScheme (baseText text))) := by
    rw [writtenPath, List.takeWhile_eq_self_iff.mpr hopen]
    exact hclosed.of_suffix ((List.drop_suffix _ _).trans hsuffix)
  rw [closesPath, getLast?_segments hwritten]
  rfl

/-- The last segment of the path is empty exactly if the text closes it. -/
theorem exists_path_eq {text : String} {base : Url} (h : baseOf text = .ok base) :
    ∃ front x, base.path = .segments (front ++ [x]) ∧ '/' ∉ x.toList ∧
      (x = "" ↔ closesPath text = true) := by
  obtain ⟨hparse, hscheme⟩ := baseOf_ok h
  obtain ⟨-, -, -, hpath⟩ := parse_ok hparse hscheme
  have hne := segments_ne_nil true (writtenPath (behindScheme (baseText text)))
  obtain ⟨front, hwalk⟩ := exists_walk_eq [] hne
  rw [hwalk] at hpath
  refine ⟨front, _, hpath, ?_, ?_⟩
  · obtain ⟨list, hlist, -, hplain⟩ := (isWebAddress_of_baseOf h).path
    obtain rfl := Path.segments.inj (hpath.symm.trans hlist)
    exact hplain _ (by simp) '/' (by simp)
  · rw [closesPath, List.getLast?_eq_some_getLast hne, lastEntered]
    split_ifs with hdot
    · simp [hdot]
    · simp [hdot, encoded_eq_empty]

/-! ## Prefixes of requests -/

/-- When a base is a prefix. Its path ends with a slash exactly if its text closes the path; that is
also when the path of a request over it begins with the whole path of the base and the root of the
interface. A text without query and fragment closes its path. -/
theorem basePath_isPrefix_iff_closesPath {text : String} {base : Url} (h : baseOf text = .ok base) :
    ((∃ s, base.path.text = s ++ "/") ↔ closesPath text = true) ∧
      (∀ (c : Client) (o : Operation) (q : Request), c.base = base → o.isNamed = true →
        o.plan.request c = .ok q →
          ((∃ s, q.url.path.text = base.path.text ++ "api/v3/" ++ s) ↔ closesPath text = true)) ∧
      ('?' ∉ text.toList → '#' ∉ text.toList → closesPath text = true) := by
  obtain ⟨front, x, hpath, hslash, hiff⟩ := exists_path_eq h
  refine ⟨?_, ?_, closesPath_of_plain⟩
  · rw [hpath, ← hiff]
    exact text_endsWith_iff hslash
  · intro c o q hc ho hq
    have he := Operation.endpoint_mem_all ho
    have hurl := (Parameters.request_ok hq).1
    rw [hc, Parameters.url_eq (baseOf_ok h).2 hpath he] at hurl
    cases ht : o.plan.parameters.target o.plan.endpoint with
    | error fault =>
      rw [ht] at hurl
      cases hurl
    | ok t =>
      rw [ht] at hurl
      rw [← (Except.ok.inj hurl : Parameters.urlOver base (front ++ [x]) _ t = q.url), hpath,
        Parameters.urlOver, List.dropLast_concat, text_segments_append, ← hiff]
      exact text_append_root_iff hslash (Parameters.target_root he ht)

/-- With a query the slash closes the query, and requests leave the path at its last segment. -/
theorem basePath_of_queried_text :
    let base : Url :=
      ⟨"https", some ⟨"", "", "[::1]", none⟩, .segments ["authentik"], some "next=1/", none⟩
    baseOf "https://[::1]/authentik?next=1" = .ok base ∧ (¬ ∃ s, base.path.text = s ++ "/") ∧
      ∀ (o : Operation) (q : Request), o.isNamed = true → o.plan.request { base } = .ok q →
        ¬ ∃ s, q.url.path.text = base.path.text ++ "api/v3/" ++ s := by
  intro base
  have hbase : baseOf "https://[::1]/authentik?next=1" = .ok base := rfl
  have hopen : ¬ closesPath "https://[::1]/authentik?next=1" = true := by decide +kernel
  obtain ⟨hpath, hrequest, -⟩ := basePath_isPrefix_iff_closesPath hbase
  refine ⟨hbase, mt hpath.mp hopen, fun o q ho hq => ?_⟩
  exact mt (hrequest { base } o q rfl ho hq).mp hopen

end Client

end IdentityApi
