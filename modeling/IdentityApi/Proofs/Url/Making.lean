import IdentityApi.Proofs.Url.Reading

/-! # URLs that are made

A URL comes from a text, read alone or against another URL, or from another URL by a query of its
own. Every URL that is made so is regular (`IsMade.isRegular`): its text tells it.
-/
namespace IdentityApi.Url

inductive IsMade : Url → Prop
  | parse {text : String} {u : Url} (h : Url.parse text = .ok u) : IsMade u
  | join {base u : Url} {text : String} (hbase : IsMade base) (h : base.join text = .ok u) :
    IsMade u
  | withQuery {u : Url} (hu : IsMade u) (query : String) : IsMade (u.withQuery query)

namespace Reader

variable {scheme host : String} {s : List Char} {base : Option Url} {b u : Url}

/-! ## Schemes and endings -/

theorem avoids_of_scheme? {r : List Char} (h : scheme? s = some (scheme, r)) :
    Avoids [':', '?', '#'] scheme := by
  unfold scheme? at h
  split at h
  · cases h
  · dsimp only at h
    split_ifs at h
    split at h
    · cases h
      intro m hm hmem
      rw [String.toList_ofList] at hmem
      obtain ⟨d, hd, hlower⟩ := List.mem_map.mp hmem
      have hpart := List.mem_takeWhile_imp hd
      -- the marks are no letters, so they come from themselves only
      simp only [List.mem_cons, List.not_mem_nil, or_false] at hm
      rcases hm with rfl | rfl | rfl
      all_goals
        obtain rfl := eq_of_toLower_eq hlower (by decide)
        revert hpart
        decide
    · cases h

theorem not_mem_ending (scheme : String) (s : List Char) :
    ∀ q, (ending scheme s).1 = some q → '#' ∉ q.toList := by
  intro q hq
  unfold ending at hq
  split at hq
  · cases hq
    exact not_mem_queryText scheme _
  · cases hq
  · cases hq

/-! ## Paths -/

/-- The segments that a text leads to. -/
def reached (scheme : String) (path : List String) (s : List Char) : List String :=
  withoutFront (scheme == "file")
    (walk (scheme == "file") path.reverse (segments (isSpecialScheme scheme) s))

theorem reached_ne_nil (scheme : String) (path : List String) (s : List Char) :
    reached scheme path s ≠ [] := by
  have hwalk := walk_ne_nil (scheme == "file") path.reverse
    (segments_ne_nil (isSpecialScheme scheme) s)
  unfold reached withoutFront
  split_ifs
  · split
    · simp
    · rename_i hne
      exact hne
  · exact hwalk

theorem forall_mem_reached {P : String → Prop} (h : IsWalked P) {path : List String}
    (hpath : ∀ x ∈ path, P x) (scheme : String) (s : List Char) :
    ∀ x ∈ reached scheme path s, P x := by
  have hstart : ∀ x ∈ path.reverse, P x := fun x hx => hpath x (List.mem_reverse.mp hx)
  have hwalk : ∀ x ∈ walk (scheme == "file") path.reverse (segments (isSpecialScheme scheme) s),
      P x := h.forall_mem_walk hstart (slash_not_mem_segments _ s)
  unfold reached withoutFront
  split_ifs
  · split
    · simpa using h.empty
    · intro x hx
      exact hwalk x ((List.dropWhile_suffix _).mem hx)
  · exact hwalk

theorem isRegular_withPath {authority : Option Authority} {path : List String}
    (hscheme : Avoids [':', '?', '#'] scheme) (hauthority : ∀ a, authority = some a → a.IsPlain)
    (hpath : ∀ x ∈ path, Avoids ['/', '?', '#'] x) (hdot : authority = none → "." ∉ path)
    (s : List Char) : (withPath scheme authority path s).IsRegular where
  scheme := hscheme
  authority := hauthority
  path := forall_mem_reached isWalked_avoids hpath scheme _
  alone := by
    intro hnone
    refine ⟨reached_ne_nil scheme path _, fun hmem => ?_⟩
    have hne : ∀ x ∈ path, x ≠ "." := by
      intro x hx he
      exact hdot hnone (he ▸ hx)
    exact forall_mem_reached isWalked_ne_dot hne scheme _ "." hmem rfl
  rigid := by
    intro t ht
    cases ht
  query := not_mem_ending scheme _

/-- A path that begins at the root. -/
theorem isRegular_withPath_nil {authority : Option Authority}
    (hscheme : Avoids [':', '?', '#'] scheme) (hauthority : ∀ a, authority = some a → a.IsPlain)
    (s : List Char) : (withPath scheme authority [] s).IsRegular := by
  apply isRegular_withPath hscheme hauthority
  · simp
  · simp

theorem mem_segmentsOf_folder {x : String} (h : x ∈ folder b) : x ∈ segmentsOf b := by
  unfold folder at h
  exact List.mem_reverse.mp (mem_leave (List.mem_reverse.mp h))

theorem avoids_of_mem_segmentsOf (hb : b.IsRegular) :
    ∀ x ∈ segmentsOf b, Avoids ['/', '?', '#'] x := by
  have hpath := hb.path
  unfold segmentsOf
  cases hp : b.path with
  | segments list =>
    rw [hp] at hpath
    exact hpath
  | rigid t => simp

/-- A path that begins in the folder of the base. -/
theorem isRegular_withPath_folder (hb : b.IsRegular) (hscheme : Avoids [':', '?', '#'] scheme)
    (s : List Char) : (withPath scheme b.authority (folder b) s).IsRegular := by
  apply isRegular_withPath hscheme hb.authority
  · exact fun x hx => avoids_of_mem_segmentsOf hb x (mem_segmentsOf_folder hx)
  · intro hnone hdot
    have halone := hb.alone hnone
    have hmem := mem_segmentsOf_folder hdot
    unfold segmentsOf at hmem
    split at hmem
    · rename_i list hlist
      rw [hlist] at halone
      exact halone.2 hmem
    · cases hmem

/-! ## Authorities -/

theorem isRegular_afterSlashes (hscheme : Avoids [':', '?', '#'] scheme)
    (h : afterSlashes scheme s = .ok u) : u.IsRegular := by
  unfold afterSlashes at h
  split at h
  · cases h
  · rename_i a rest hauthority
    have hplain : ∀ c, some a = some c → c.IsPlain := by
      intro c hc
      exact Option.some.inj hc ▸ isPlain_of_authority hauthority
    have hpathless : ∀ {query fragment : Option String},
        (∀ q, query = some q → '#' ∉ q.toList) →
          IsRegular ⟨scheme, some a, .segments [], query, fragment⟩ := by
      intro query fragment hquery
      refine ⟨hscheme, hplain, ?_, ?_, ?_, hquery⟩
      · simp [Path.IsRegular]
      · intro hnone
        cases hnone
      · intro t ht
        cases ht
    split at h
    · split_ifs at h
      · cases h
        exact isRegular_withPath_nil hscheme hplain []
      · cases h
        exact hpathless (by simp)
    · split_ifs at h
      · cases h
        exact isRegular_withPath_nil hscheme hplain _
      · cases h
        exact isRegular_withPath_nil hscheme hplain _
      · cases h
        exact hpathless (not_mem_ending scheme _)
      · cases h
        exact isRegular_withPath_nil hscheme hplain _

theorem isRegular_afterPlainScheme (hscheme : Avoids [':', '?', '#'] scheme)
    (h : afterPlainScheme scheme s = .ok u) : u.IsRegular := by
  unfold afterPlainScheme at h
  split at h
  · exact isRegular_afterSlashes hscheme h
  · cases h
    exact isRegular_withPath_nil hscheme (by simp) _
  · rename_i hslash
    cases h
    refine ⟨hscheme, by simp, ?_, ?_, by simp, not_mem_ending scheme _⟩
    · apply avoids_of_forall (p := fun c => !endsPath c)
      · intro c hc
        rw [encoded, String.toList_ofList] at hc
        rcases Percent.of_mem_encode (p := fun c => !endsPath c) (by decide) hc with ⟨hc, -⟩ | hc
        · have hopen := List.mem_takeWhile_imp hc
          exact hopen
        · exact hc
      · decide
    · intro _ hhead
      rw [encoded, String.toList_ofList] at hhead
      rcases Percent.eq_of_mem_head?_encode hhead with hhead | hhead
      · rw [List.head?_takeWhile] at hhead
        obtain ⟨r, hr⟩ := List.head?_eq_some_iff.mp (Option.mem_filter_iff.mp hhead).1
        exact hslash r hr
      · revert hhead
        decide

/-! ## Files -/

theorem isHostText_of_fileHost {rest : List Char} (h : fileHost s = .ok (host, rest)) :
    IsHostText host := by
  unfold fileHost at h
  dsimp only at h
  split_ifs at h
  · cases h
    exact Host.isHostText_empty
  · cases h
    exact Host.isHostText_empty
  · cases hname : Host.ofText true (s.takeWhile (!endsAuthority true ·)) with
    | error fault =>
      rw [hname] at h
      cases h
    | ok name =>
      rw [hname] at h
      cases h
      split_ifs
      · exact Host.isHostText_empty
      · exact Host.isHostText_ofText hname

theorem isHostText_hostOf (hb : b.IsRegular) : IsHostText (hostOf b) := by
  unfold hostOf
  cases ha : b.authority with
  | some a => exact (hb.authority a ha).host
  | none => exact Host.isHostText_empty

theorem avoids_file : Avoids [':', '?', '#'] "file" :=
  avoids_of_forall (p := Char.isAlpha) (by simp) (by decide)

theorem isRegular_file (hhost : IsHostText host) {path : List String}
    (hpath : ∀ x ∈ path, Avoids ['/', '?', '#'] x) (s : List Char) :
    (file host path s).IsRegular := by
  apply isRegular_withPath avoids_file
  · intro a ha
    cases ha
    exact ⟨by simp [Avoids], by simp [Avoids], hhost⟩
  · exact hpath
  · intro hnone
    cases hnone

theorem isRegular_file_nil (hhost : IsHostText host) (s : List Char) :
    (file host [] s).IsRegular :=
  isRegular_file hhost (by simp) s

theorem isRegular_afterFileSlashes (h : afterFileSlashes s = .ok u) : u.IsRegular := by
  unfold afterFileSlashes at h
  split at h
  · cases h
  · rename_i host rest hhost
    have hname := isHostText_of_fileHost hhost
    dsimp only at h
    split at h
    · cases h
      split_ifs
      · exact isRegular_file_nil Host.isHostText_empty _
      · exact isRegular_file_nil hname _
    · cases h
      exact isRegular_file_nil hname _
    · cases h
      exact isRegular_file_nil hname _

theorem isRegular_oneSlash (hbase : ∀ b, base = some b → b.IsRegular) {r : List Char}
    (h : fileUrl.oneSlash base r = .ok u) : u.IsRegular := by
  unfold fileUrl.oneSlash at h
  split at h
  · rename_i b
    have hb := hbase b rfl
    split_ifs at h
    · cases h
      exact isRegular_file_nil Host.isHostText_empty r
    · split at h
      · rename_i first rest hfirst
        have hmarks := avoids_of_mem_segmentsOf hb
        rw [hfirst, List.forall_mem_cons] at hmarks
        cases h
        split_ifs
        · apply isRegular_file Host.isHostText_empty
          simpa using hmarks.1
        · exact isRegular_file_nil (isHostText_hostOf hb) r
      · cases h
        exact isRegular_file_nil (isHostText_hostOf hb) r
  · cases h
    exact isRegular_file_nil Host.isHostText_empty r

theorem isRegular_noSlash (hbase : ∀ b, base = some b → b.IsRegular)
    (h : fileUrl.noSlash base s = .ok u) : u.IsRegular := by
  unfold fileUrl.noSlash at h
  split at h
  · cases h
    exact isRegular_file_nil Host.isHostText_empty s
  · rename_i b
    cases h
    exact (hbase b rfl).withEnding (hbase b rfl).query
  · rename_i b c r
    have hb := hbase b rfl
    split_ifs at h
    · cases h
      exact hb.withEnding (not_mem_ending "file" _)
    · cases h
      exact hb.withEnding hb.query
    · cases h
      exact isRegular_file_nil Host.isHostText_empty _
    · cases h
      exact isRegular_withPath_folder hb avoids_file _

theorem isRegular_fileUrl (hbase : ∀ b, base = some b → b.IsRegular)
    (h : fileUrl base s = .ok u) : u.IsRegular := by
  unfold fileUrl at h
  split at h
  · split_ifs at h
    · exact isRegular_afterFileSlashes h
    · exact isRegular_oneSlash hbase h
    · exact isRegular_noSlash hbase h
  · split_ifs at h
    · exact isRegular_oneSlash hbase h
    · exact isRegular_noSlash hbase h
  · exact isRegular_noSlash hbase h

/-! ## Whole texts -/

theorem isRegular_relative (hb : b.IsRegular) (h : relative b s = .ok u) : u.IsRegular := by
  unfold relative at h
  split at h
  · cases h
    exact hb.withEnding hb.query
  · split_ifs at h
    · cases h
      exact hb.withEnding (not_mem_ending b.scheme _)
    · cases h
      exact hb.withEnding hb.query
    · split at h
      · split_ifs at h
        · exact isRegular_afterSlashes hb.scheme h
        · exact isRegular_afterSlashes hb.scheme h
        · cases h
          exact isRegular_withPath_nil hb.scheme hb.authority _
      · cases h
        exact isRegular_withPath_nil hb.scheme hb.authority _
    · cases h
      exact isRegular_withPath_folder hb hb.scheme _

theorem isRegular_afterScheme (hbase : ∀ b, base = some b → b.IsRegular)
    (hscheme : Avoids [':', '?', '#'] scheme) (h : afterScheme base scheme s = .ok u) :
    u.IsRegular := by
  unfold afterScheme at h
  split_ifs at h
  · apply isRegular_fileUrl _ h
    intro b hb
    exact hbase b (Option.eq_some_of_filter_eq_some hb)
  · dsimp only at h
    split at h
    · rename_i b
      split_ifs at h
      · exact isRegular_relative (hbase b rfl) h
      · exact isRegular_afterSlashes hscheme h
    · exact isRegular_afterSlashes hscheme h
  · exact isRegular_afterPlainScheme hscheme h

/-- Whatever is read is regular, if the base was. -/
theorem isRegular_read (hbase : ∀ b, base = some b → b.IsRegular) {text : String}
    (h : read base text = .ok u) : u.IsRegular := by
  unfold read at h
  dsimp only at h
  split at h
  · rename_i scheme r hscheme
    exact isRegular_afterScheme hbase (avoids_of_scheme? hscheme) h
  · split at h
    · cases h
    · rename_i b
      have hb := hbase b rfl
      split at h
      · cases h
        exact hb.withEnding hb.query
      · cases h
      · split_ifs at h
        · exact isRegular_fileUrl hbase h
        · exact isRegular_relative hb h

end Reader

/-- However a URL is made, it is regular. -/
theorem IsMade.isRegular {u : Url} (h : u.IsMade) : u.IsRegular := by
  induction h with
  | parse h => exact Reader.isRegular_read (by simp) h
  | join hbase h ih =>
    apply Reader.isRegular_read _ h
    intro b hb
    exact Option.some.inj hb ▸ ih
  | @withQuery u hu query ih =>
    apply ih.withEnding
    intro q hq
    cases hq
    exact not_mem_queryText u.scheme _

end IdentityApi.Url
