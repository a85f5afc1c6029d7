import IdentityApi.Proofs.Url.Authority

/-! # Regular URLs

In a regular URL no part but the fragment holds a mark that would end it, and what stands where an
authority is missing cannot be taken for one. Such a URL is told by its text (`eq_of_text_eq`). A
web address has a scheme of the web, an authority and segments; as it is sent it has no fragment,
and is regular.
-/
namespace IdentityApi

namespace Url

/-- No path holds a mark that would end it, and no segment the slash that parts segments. -/
def Path.IsRegular : Path → Prop
  | segments list => ∀ s ∈ list, Avoids ['/', '?', '#'] s
  | rigid s => Avoids ['?', '#'] s

/-- A path that may follow the scheme at once: segments, none of them a dot, or a text that begins
with no slash. -/
def Path.StandsAlone : Path → Prop
  | segments list => list ≠ [] ∧ "." ∉ list
  | rigid s => s.toList.head? ≠ some '/'

/-- Each part ends where its text ends, and what follows the scheme is an authority exactly if there
is one. The fragment is free: nothing follows it. -/
structure IsRegular (u : Url) : Prop where
  scheme : Avoids [':', '?', '#'] u.scheme
  authority : ∀ a, u.authority = some a → a.IsPlain
  path : u.path.IsRegular
  alone : u.authority = none → u.path.StandsAlone
  rigid : ∀ s, u.path = .rigid s → u.authority = none
  query : ∀ q, u.query = some q → '#' ∉ q.toList

/-! ## Texts of the parts -/

theorem toList_segments (list : List String) :
    (Path.segments list).text.toList = list.flatMap fun s => '/' :: s.toList := by
  simp [Path.text, List.flatMap_map]

theorem not_mem_text_segments (list : List String) {c : Char} (hc : c ≠ '/')
    (h : ∀ s ∈ list, c ∉ s.toList) : c ∉ (Path.segments list).text.toList := by
  rw [toList_segments]
  simp only [List.mem_flatMap, List.mem_cons, not_exists, not_and, not_or]
  exact fun s hs => ⟨hc, h s hs⟩

theorem head?_optionText {mark : String} {c : Char} (hmark : mark.toList = [c])
    (s : Option String) : ∀ d ∈ (optionText mark s).toList.head?, d = c := by
  cases s <;> simp [optionText, hmark, eq_comm]

theorem optionText_inj {mark : String} {c : Char} (hmark : mark.toList = [c])
    {s t : Option String} (h : (optionText mark s).toList = (optionText mark t).toList) :
    s = t := by
  cases s <;> cases t <;> simp [optionText, hmark] at h ⊢
  exact String.toList_inj.mp h

theorem not_mem_queryText (scheme : String) (s : List Char) :
    '#' ∉ (Reader.queryText scheme s).toList := by
  unfold Reader.queryText
  split_ifs
  · exact avoids_encoded ['#'] (by decide) (by decide) s '#' List.mem_cons_self
  · exact avoids_encoded ['#'] (by decide) (by decide) s '#' List.mem_cons_self

/-- The segments as they are written where there is no authority: a dot keeps two slashes at the
front apart from the scheme. -/
def shielded : List String → List String
  | "" :: s :: rest => "." :: "" :: s :: rest
  | list => list

theorem shielded_ne (list : List String) (s : String) (rest : List String) :
    shielded list ≠ "" :: s :: rest := by
  unfold shielded
  split
  · simp
  · rename_i hne
    intro h
    exact hne s rest h

theorem shielded_eq_or (list : List String) :
    shielded list = list ∨ shielded list = "." :: list := by
  unfold shielded
  split
  · exact Or.inr rfl
  · exact Or.inl rfl

theorem slash_not_mem_shielded {list : List String} (h : (Path.segments list).IsRegular) :
    ∀ s ∈ shielded list, '/' ∉ s.toList := by
  intro s hs
  rcases shielded_eq_or list with hself | hdot
  · exact h s (hself ▸ hs) '/' List.mem_cons_self
  · rw [hdot] at hs
    rcases List.mem_cons.mp hs with rfl | hs
    · decide
    · exact h s hs '/' List.mem_cons_self

theorem head?_shielded {list : List String} (h : list ≠ []) :
    (Path.segments (shielded list)).text.toList.head? = some '/' := by
  obtain ⟨s, rest, rfl⟩ := List.exists_cons_of_ne_nil h
  rcases shielded_eq_or (s :: rest) with hself | hdot
  · simp [hself, toList_segments]
  · simp [hdot, toList_segments]

theorem shielded_inj {l m : List String} (hl : "." ∉ l) (hm : "." ∉ m)
    (h : shielded l = shielded m) : l = m := by
  rcases shielded_eq_or l with hl' | hl' <;> rcases shielded_eq_or m with hm' | hm'
  all_goals rw [hl', hm'] at h
  · exact h
  · rw [h] at hl
    exact absurd List.mem_cons_self hl
  · rw [← h] at hm
    exact absurd List.mem_cons_self hm
  · exact (List.cons.inj h).2

/-- What stands between the colon of the scheme and the query. -/
def middle (u : Url) : List Char :=
  match u.authority, u.path with
  | some a, p => '/' :: '/' :: (a.text.toList ++ p.text.toList)
  | none, .segments list => (Path.segments (shielded list)).text.toList
  | none, .rigid s => s.toList

theorem middle_of_some (u : Url) {a : Authority} (h : u.authority = some a) :
    u.middle = '/' :: '/' :: (a.text.toList ++ u.path.text.toList) := by
  unfold middle
  rw [h]

theorem toList_text (u : Url) : u.text.toList =
    u.scheme.toList ++ ':' ::
      (u.middle ++ ((optionText "?" u.query).toList ++ (optionText "#" u.fragment).toList)) := by
  unfold Url.text origin middle
  cases u.authority with
  | some a => simp
  | none =>
    cases u.path with
    | rigid s => simp [Path.text]
    | segments list =>
      dsimp only
      split
      · rename_i heq
        rw [Path.segments.inj heq]
        simp [shielded, toList_segments]
      · rename_i hne
        have hself : shielded list = list := by
          unfold shielded
          split
          · rename_i s rest
            exact absurd rfl (hne s rest)
          · rfl
        simp [hself]

namespace IsRegular

variable {u v : Url}

/-- Another query and another fragment. -/
theorem withEnding (h : u.IsRegular) {query fragment : Option String}
    (hquery : ∀ q, query = some q → '#' ∉ q.toList) :
    IsRegular { u with query := query, fragment := fragment } :=
  ⟨h.scheme, h.authority, h.path, h.alone, h.rigid, hquery⟩

theorem exists_segments (h : u.IsRegular) {a : Authority} (ha : u.authority = some a) :
    ∃ list, u.path = .segments list := by
  cases hp : u.path with
  | segments list => exact ⟨list, rfl⟩
  | rigid s =>
    rw [h.rigid s hp] at ha
    cases ha

theorem not_mem_middle (h : u.IsRegular) {c : Char} (hc : c ∈ ['?', '#']) : c ∉ u.middle := by
  have hmarks : c ∈ ['/', '?', '#'] := List.mem_cons_of_mem '/' hc
  have hslash : c ≠ '/' := by
    rintro rfl
    revert hc
    decide
  have hpath := h.path
  unfold middle
  cases ha : u.authority with
  | some a =>
    have hauthority := Authority.not_mem_text (h.authority a ha) hmarks
    have hp : c ∉ u.path.text.toList := by
      cases hpath' : u.path with
      | segments list =>
        rw [hpath'] at hpath
        apply not_mem_text_segments list hslash
        intro s hs
        exact hpath s hs c hmarks
      | rigid s =>
        rw [hpath'] at hpath
        exact hpath c hc
    simp [hslash, hauthority, hp]
  | none =>
    cases hpath' : u.path with
    | segments list =>
      rw [hpath'] at hpath
      apply not_mem_text_segments _ hslash
      intro s hs
      rcases shielded_eq_or list with heq | heq
      · exact hpath s (heq ▸ hs) c hmarks
      · rw [heq] at hs
        rcases List.mem_cons.mp hs with rfl | hs
        · intro hmem
          obtain rfl := List.mem_singleton.mp hmem
          revert hc
          decide
        · exact hpath s hs c hmarks
    | rigid s =>
      rw [hpath'] at hpath
      exact hpath c hc

/-- Neither mark stands before the query. -/
theorem not_mem_start (h : u.IsRegular) {c : Char} (hc : c ∈ ['?', '#']) :
    c ∉ u.scheme.toList ++ ':' :: u.middle := by
  have hcolon : c ≠ ':' := by
    rintro rfl
    revert hc
    decide
  have hscheme := h.scheme c (List.mem_cons_of_mem ':' hc)
  have hmiddle := h.not_mem_middle hc
  simp [hcolon, hscheme, hmiddle]

/-- No `#` stands before the fragment. -/
theorem not_mem_front (h : u.IsRegular) :
    '#' ∉ (u.scheme.toList ++ ':' :: u.middle) ++ (optionText "?" u.query).toList := by
  have hback : '#' ∉ (optionText "?" u.query).toList := by
    cases hq : u.query with
    | none => simp [optionText]
    | some q => simpa [optionText] using h.query q hq
  rw [List.mem_append, not_or]
  exact ⟨h.not_mem_start (by simp), hback⟩

/-- Behind the scheme two slashes are there for an authority only. -/
theorem middle_ne_of_none (h : u.IsRegular) (hnone : u.authority = none) (r : List Char) :
    u.middle ≠ '/' :: '/' :: r := by
  have halone := h.alone hnone
  have hpath := h.path
  unfold middle
  rw [hnone]
  cases hp : u.path with
  | rigid s =>
    rw [hp] at halone
    intro heq
    dsimp only at heq
    apply halone
    rw [heq]
    rfl
  | segments list =>
    rw [hp] at hpath
    intro heq
    dsimp only at heq
    rw [toList_segments] at heq
    cases hlist : shielded list with
    | nil => simp [hlist] at heq
    | cons s rest =>
      rw [hlist, List.flatMap_cons, List.cons_append, List.cons.injEq] at heq
      have hs : '/' ∉ s.toList :=
        slash_not_mem_shielded hpath s (hlist ▸ List.mem_cons_self)
      cases hchars : s.toList with
      | cons c t =>
        rw [hchars, List.cons_append] at heq
        have hc := (List.cons.inj heq.2).1
        rw [hchars, hc] at hs
        exact hs List.mem_cons_self
      | nil =>
        obtain rfl : s = "" := String.toList_inj.mp hchars
        cases rest with
        | nil => simp at heq
        | cons t rest => exact shielded_ne list t rest hlist

/-- Without authorities the paths are the same. -/
theorem path_eq_of_none (hu : u.IsRegular) (hv : v.IsRegular) (ha : u.authority = none)
    (hb : v.authority = none) (h : u.middle = v.middle) : u.path = v.path := by
  have hualone := hu.alone ha
  have hvalone := hv.alone hb
  have hupath := hu.path
  have hvpath := hv.path
  unfold middle at h
  rw [ha, hb] at h
  cases hp : u.path with
  | rigid s =>
    cases hq : v.path with
    | rigid t =>
      rw [hp, hq] at h
      rw [String.toList_inj.mp h]
    | segments m =>
      rw [hp, hq] at h
      rw [hp] at hualone
      rw [hq] at hvalone
      dsimp only at h
      have hhead := head?_shielded hvalone.1
      rw [← h] at hhead
      exact absurd hhead hualone
  | segments l =>
    cases hq : v.path with
    | rigid t =>
      rw [hp, hq] at h
      rw [hp] at hualone
      rw [hq] at hvalone
      dsimp only at h
      have hhead := head?_shielded hualone.1
      rw [h] at hhead
      exact absurd hhead hvalone
    | segments m =>
      rw [hp, hq] at h
      rw [hp] at hualone hupath
      rw [hq] at hvalone hvpath
      dsimp only at h
      rw [toList_segments, toList_segments] at h
      have hshielded := flatMap_slash_inj (slash_not_mem_shielded hupath)
        (slash_not_mem_shielded hvpath) h
      rw [shielded_inj hualone.2 hvalone.2 hshielded]

/-- Behind two slashes the authority and the path are the same. -/
theorem parts_eq_of_some (hu : u.IsRegular) (hv : v.IsRegular) {a b : Authority}
    (ha : u.authority = some a) (hb : v.authority = some b) (h : u.middle = v.middle) :
    a = b ∧ u.path = v.path := by
  obtain ⟨l, hl⟩ := hu.exists_segments ha
  obtain ⟨m, hm⟩ := hv.exists_segments hb
  have hupath := hu.path
  have hvpath := hv.path
  rw [hl] at hupath
  rw [hm] at hvpath
  have hhead : ∀ k : List String, ∀ c ∈ (k.flatMap fun s => '/' :: s.toList).head?, c = '/' := by
    intro k
    cases k <;> simp
  rw [u.middle_of_some ha, v.middle_of_some hb, hl, hm, toList_segments, toList_segments] at h
  simp only [List.cons.injEq, true_and] at h
  obtain ⟨htext, hpath⟩ := cut_inj (Authority.not_mem_text (hu.authority a ha) (by simp))
    (Authority.not_mem_text (hv.authority b hb) (by simp)) (hhead l) (hhead m) h
  have hsegments := flatMap_slash_inj (fun s hs => hupath s hs '/' List.mem_cons_self)
    (fun s hs => hvpath s hs '/' List.mem_cons_self) hpath
  refine ⟨?_, by rw [hl, hm, hsegments]⟩
  exact Authority.eq_of_text_eq (hu.authority a ha) (hv.authority b hb)
    (String.toList_inj.mp htext)

/-- What stands between scheme and query tells authority and path. -/
theorem eq_of_middle_eq (hu : u.IsRegular) (hv : v.IsRegular) (h : u.middle = v.middle) :
    u.authority = v.authority ∧ u.path = v.path := by
  cases ha : u.authority with
  | none =>
    cases hb : v.authority with
    | none => exact ⟨rfl, hu.path_eq_of_none hv ha hb h⟩
    | some b =>
      rw [v.middle_of_some hb] at h
      exact absurd h (hu.middle_ne_of_none ha _)
  | some a =>
    cases hb : v.authority with
    | none =>
      rw [u.middle_of_some ha] at h
      exact absurd h.symm (hv.middle_ne_of_none hb _)
    | some b =>
      obtain ⟨hab, hpath⟩ := hu.parts_eq_of_some hv ha hb h
      exact ⟨congrArg some hab, hpath⟩

/-- Regular URLs with one text are one URL. -/
theorem eq_of_text_eq (hu : u.IsRegular) (hv : v.IsRegular) (h : u.text = v.text) : u = v := by
  have hview : ∀ w : Url, w.text.toList =
      (w.scheme.toList ++ ':' :: w.middle ++ (optionText "?" w.query).toList) ++
        (optionText "#" w.fragment).toList := by
    intro w
    rw [toList_text]
    simp
  have htext := String.toList_inj.mpr h
  rw [hview u, hview v] at htext
  -- the text is cut from its end: at `#`, at `?`, and behind the scheme
  obtain ⟨htext, hfragment⟩ := cut_inj (a := '#') hu.not_mem_front hv.not_mem_front
    (head?_optionText (by decide) u.fragment) (head?_optionText (by decide) v.fragment) htext
  obtain ⟨htext, hqueries⟩ := cut_inj (a := '?') (hu.not_mem_start (by simp))
    (hv.not_mem_start (by simp)) (head?_optionText (by decide) u.query)
    (head?_optionText (by decide) v.query) htext
  obtain ⟨hscheme, hmiddle⟩ := cut_cons_inj (hu.scheme ':' (by simp)) (hv.scheme ':' (by simp))
    htext
  obtain ⟨hauthority, hpath⟩ := hu.eq_of_middle_eq hv hmiddle
  have hscheme := String.toList_inj.mp hscheme
  have hqueries := optionText_inj (c := '?') (by decide) hqueries
  have hfragment := optionText_inj (c := '#') (by decide) hfragment
  cases u
  cases v
  simp_all

end IsRegular

end Url

/-! ## Web addresses -/

namespace Url

/-- What reading a base for the web gives, as far as its parts go. -/
structure IsWebAddress (u : Url) : Prop where
  scheme : Reader.IsWebScheme u.scheme
  authority : ∃ a, u.authority = some a ∧ a.IsPlain
  path : ∃ list, u.path = .segments list ∧ list ≠ [] ∧ ∀ s ∈ list, Avoids ['/', '?', '#'] s

/-- A web address as it is sent: there is no fragment, and nothing that reads as one. -/
structure IsSendable (u : Url) : Prop extends IsWebAddress u where
  query : ∀ q, u.query = some q → '#' ∉ q.toList
  fragment : u.fragment = none

namespace IsSendable

variable {u v : Url}

theorem isRegular (h : u.IsSendable) : u.IsRegular := by
  obtain ⟨a, ha, hplain⟩ := h.authority
  obtain ⟨list, hlist, -, hsegments⟩ := h.path
  refine ⟨?_, ?_, ?_, ?_, ?_, h.query⟩
  · have hletters : ∀ c ∈ u.scheme.toList, Char.isAlphanum c = true := by
      rcases h.scheme with hs | hs
      · simp [hs]
      · simp [hs]
    exact avoids_of_forall hletters (by decide)
  · intro b hb
    rw [ha] at hb
    exact Option.some.inj hb ▸ hplain
  · rw [hlist]
    exact hsegments
  · intro hnone
    rw [ha] at hnone
    cases hnone
  · intro s hs
    rw [hlist] at hs
    cases hs

/-- Addresses that are sent under one text are one address. -/
theorem eq_of_text_eq (hu : u.IsSendable) (hv : v.IsSendable) (h : u.text = v.text) : u = v :=
  hu.isRegular.eq_of_text_eq hv.isRegular h

end IsSendable

end Url

end IdentityApi
