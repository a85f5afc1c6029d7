import IdentityApi.Proofs.Url.Host
import IdentityApi.Proofs.Url.Walking

/-! # Reading web addresses

What `Url.parse` gives for a text with a scheme of the web: a plain authority, and the path that is
written behind it, walked segment by segment.
-/
namespace IdentityApi.Url.Reader

/-! ## Authority -/

variable {s : List Char}

/-- What does not end an authority of a special scheme. -/
def inAuthority (c : Char) : Bool := !endsAuthority true c

theorem dropWhile_hostPart (inside : Bool) (s : List Char) :
    (hostPart true inside s).2.dropWhile inAuthority = s.dropWhile inAuthority := by
  induction s generalizing inside with
  | nil => rfl
  | cons c s ih =>
    by_cases hc : ((c == ':' && !inside) || endsAuthority true c) = true
    · rw [hostPart, if_pos hc]
    · rw [hostPart, if_neg hc]
      rw [Bool.or_eq_true, not_or] at hc
      have hin : inAuthority c = true := by simp [inAuthority, hc.2]
      rw [List.dropWhile_cons_of_pos hin]
      exact ih _

theorem head?_hostPart (inside : Bool) (s : List Char) :
    ∀ c ∈ (hostPart true inside s).2.head?, c = ':' ∨ endsAuthority true c = true := by
  induction s generalizing inside with
  | nil => simp [hostPart]
  | cons c s ih =>
    by_cases hc : ((c == ':' && !inside) || endsAuthority true c) = true
    · rw [hostPart, if_pos hc]
      intro d hd
      obtain rfl : c = d := by simpa using hd
      rw [Bool.or_eq_true, Bool.and_eq_true, beq_iff_eq] at hc
      exact hc.imp And.left id
    · rw [hostPart, if_neg hc]
      exact ih _

theorem dropWhile_of_head? (h : ∀ c ∈ s.head?, endsAuthority true c = true) :
    s.dropWhile inAuthority = s := by
  cases s with
  | nil => rfl
  | cons c s =>
    have hc := h c rfl
    rw [List.dropWhile_cons_of_neg (by simp [inAuthority, hc])]

theorem inAuthority_of_isDigit {c : Char} (h : c.isDigit = true) : inAuthority c = true :=
  of_ascii (by decide +kernel) (toNat_lt_of_isAlphanum (by simp [Char.isAlphanum, h])) h

/-- A port is followed by the end of the authority. -/
theorem rest_of_portPart {scheme : String} {n : Option Nat} {rest : List Char}
    (hs : ∀ c ∈ s.head?, c = ':' ∨ endsAuthority true c = true)
    (h : portPart scheme s = .ok (n, rest)) : rest = s.dropWhile inAuthority := by
  unfold portPart at h
  split at h
  · rename_i r
    have hdigits : ∀ c ∈ r.takeWhile Char.isDigit, inAuthority c = true :=
      fun c hc => inAuthority_of_isDigit (List.mem_takeWhile_imp hc)
    have hskip : (':' :: r).dropWhile inAuthority =
        (r.dropWhile Char.isDigit).dropWhile inAuthority := by
      rw [List.dropWhile_cons_of_pos (by decide)]
      conv_lhs => rw [← List.takeWhile_append_dropWhile (p := Char.isDigit) (l := r)]
      exact List.dropWhile_append_of_pos hdigits
    rw [hskip]
    dsimp only at h
    split_ifs at h
    split at h
    · rename_i hnone
      cases h
      rw [List.head?_eq_none_iff.mp hnone]
      rfl
    · rename_i c hc
      split_ifs at h with hend
      cases h
      refine (dropWhile_of_head? fun d hd => ?_).symm
      rw [hc] at hd
      cases hd
      exact hend
  · rename_i hcolon
    cases h
    refine (dropWhile_of_head? fun c hc => ?_).symm
    rcases hs c hc with rfl | hend
    · cases s with
      | nil => cases hc
      | cons d s =>
        cases hc
        exact absurd rfl (hcolon s)
    · exact hend

/-- What stands behind the credentials, or everything if there are none. -/
theorem dropWhile_splitCredentials (s : List Char) :
    ((splitCredentials true s).getD ([], s)).2.dropWhile inAuthority = s.dropWhile inAuthority := by
  unfold splitCredentials
  dsimp only
  split_ifs
  · rw [Option.getD_some]
    generalize hn : (s.takeWhile fun c => !endsAuthority true c).length - _ = n
    have hle : n ≤ (s.takeWhile inAuthority).length := by
      rw [← hn]
      exact Nat.sub_le _ _
    conv_lhs => rw [← List.takeWhile_append_dropWhile (p := inAuthority) (l := s)]
    rw [List.drop_append_of_le_length hle, List.dropWhile_append_of_pos, List.dropWhile_idempotent]
    exact fun c hc => List.mem_takeWhile_imp (List.mem_of_mem_drop hc)
  · rfl

/-- What is read as an authority is plain. -/
theorem isPlain_of_authority {scheme : String} {a : Authority} {rest : List Char}
    (h : authority scheme s = .ok (a, rest)) : a.IsPlain := by
  have hmarks : ∀ t, Avoids ['/', '?', '#', '@', ':'] (encoded keepsCredentials t) :=
    avoids_encoded _ (by decide) (by decide)
  simp only [authority] at h
  split_ifs at h
  · cases h
    exact ⟨by simp [Avoids], by simp [Avoids], Host.isHostText_empty⟩
  · split at h
    · cases h
    · rename_i host hhost
      cases hport : portPart scheme (hostPart (isSpecialScheme scheme) false
          ((splitCredentials (isSpecialScheme scheme) s).getD ([], s)).2).2 with
      | error fault =>
        rw [hport] at h
        cases h
      | ok p =>
        rw [hport] at h
        cases h
        exact ⟨hmarks _, hmarks _, Host.isHostText_ofText hhost⟩

/-- In a scheme of the web the rest begins where the authority ends. -/
theorem rest_of_authority {scheme : String} (hscheme : IsWebScheme scheme) {a : Authority}
    {rest : List Char} (h : authority scheme s = .ok (a, rest)) :
    rest = s.dropWhile inAuthority := by
  simp only [authority, hscheme.isSpecial] at h
  split_ifs at h with hempty hbare
  · exact absurd (Or.inl trivial) hbare
  · split at h
    · cases h
    · cases hport : portPart scheme
          (hostPart true false ((splitCredentials true s).getD ([], s)).2).2 with
      | error fault =>
        rw [hport] at h
        cases h
      | ok p =>
        rw [hport] at h
        cases h
        rw [rest_of_portPart (head?_hostPart _ _) hport, dropWhile_hostPart,
          dropWhile_splitCredentials]

/-! ## Whole texts -/

/-- The path that is written behind an authority, without the slash in front. -/
def writtenPath (s : List Char) : List Char :=
  ((s.dropWhile inAuthority).takeWhile (!endsPath ·)).drop 1

theorem writtenPath_of_nil (h : s.dropWhile inAuthority = []) : writtenPath s = [] := by
  rw [writtenPath, h]
  rfl

theorem writtenPath_of_slash {c : Char} {r : List Char} (h : s.dropWhile inAuthority = c :: r)
    (hc : isSlash true c = true) : writtenPath s = r.takeWhile (!endsPath ·) := by
  have hopen : (!endsPath c) = true := by
    rw [isSlash, Bool.or_eq_true, Bool.true_and, beq_iff_eq, beq_iff_eq] at hc
    rcases hc with rfl | rfl <;> decide
  rw [writtenPath, h, List.takeWhile_cons_of_pos (p := (!endsPath ·)) hopen]
  rfl

theorem writtenPath_of_ending {c : Char} {r : List Char} (h : s.dropWhile inAuthority = c :: r)
    (hc : endsPath c = true) : writtenPath s = [] := by
  rw [writtenPath, h, List.takeWhile_cons_of_neg (p := (!endsPath ·)) (by simp [hc])]
  rfl

theorem pathFrom_nil {scheme : String} (h : IsWebScheme scheme) (s : List Char) :
    pathFrom scheme [] s = .segments (walk false [] (segments true s)) := by
  have hfile : (scheme == "file") = false := beq_eq_false_iff_ne.mpr h.ne_file
  simp [pathFrom, hfile, h.isSpecial, withoutFront]

theorem afterSlashes_ok {scheme : String} (h : IsWebScheme scheme) {u : Url}
    (hu : afterSlashes scheme s = .ok u) : ∃ a, a.IsPlain ∧ u.scheme = scheme ∧
      u.authority = some a ∧
      u.path = .segments (walk false [] (segments true (writtenPath s))) := by
  unfold afterSlashes at hu
  cases ha : authority scheme s with
  | error fault =>
    rw [ha] at hu
    cases hu
  | ok p =>
    obtain ⟨a, rest⟩ := p
    have hplain := isPlain_of_authority ha
    have hrest := rest_of_authority h ha
    have hpath : ∀ r, (withPath scheme (some a) [] r).path =
        .segments (walk false [] (segments true (r.takeWhile (!endsPath ·)))) :=
      fun r => pathFrom_nil h _
    rw [ha] at hu
    simp only [h.isSpecial, if_true] at hu
    cases rest with
    | nil =>
      cases hu
      refine ⟨a, hplain, rfl, rfl, ?_⟩
      rw [hpath, writtenPath_of_nil hrest.symm]
      rfl
    | cons c r =>
      simp only [List.head?_cons] at hu
      split_ifs at hu with hslash
      · cases hu
        refine ⟨a, hplain, rfl, rfl, ?_⟩
        rw [hpath, writtenPath_of_slash hrest.symm hslash]
        rfl
      · cases hu
        refine ⟨a, hplain, rfl, rfl, ?_⟩
        have hend : endsPath c = true := by
          have := List.head?_dropWhile_not inAuthority s
          rw [← hrest] at this
          simpa [inAuthority, endsAuthority, hslash] using this
        rw [hpath, writtenPath_of_ending hrest.symm hend,
          List.takeWhile_cons_of_neg (p := (!endsPath ·)) (by simp [hend])]

theorem scheme_fileUrl {s : List Char} {u : Url} (h : fileUrl none s = .ok u) :
    u.scheme = "file" := by
  have hslashes : ∀ {r : List Char}, afterFileSlashes r = .ok u → u.scheme = "file" := by
    intro r hr
    unfold afterFileSlashes at hr
    split at hr
    · cases hr
    · dsimp only at hr
      split at hr
      · cases hr
        split_ifs <;> rfl
      · cases hr
        rfl
      · cases hr
        rfl
  unfold fileUrl at h
  split at h
  · split_ifs at h
    · exact hslashes h
    · cases h
      rfl
    · cases h
      rfl
  · split_ifs at h <;> cases h <;> rfl
  · cases h
    rfl

theorem scheme_afterSlashes {scheme : String} {u : Url} (h : afterSlashes scheme s = .ok u) :
    u.scheme = scheme := by
  unfold afterSlashes at h
  split at h
  · cases h
  · split at h
    · split_ifs at h <;> cases h <;> rfl
    · split_ifs at h <;> cases h <;> rfl

theorem scheme_afterScheme {scheme : String} {u : Url} (h : afterScheme none scheme s = .ok u) :
    u.scheme = scheme := by
  unfold afterScheme at h
  split_ifs at h with hfile
  · rw [hfile]
    exact scheme_fileUrl h
  · exact scheme_afterSlashes h
  · unfold afterPlainScheme at h
    split at h
    · exact scheme_afterSlashes h
    · cases h
      rfl
    · cases h
      rfl

/-- The characters behind the scheme of a text, and behind the slashes that follow it. -/
def behindScheme (text : String) : List Char :=
  (((cleaned text.toList).dropWhile (· != ':')).drop 1).dropWhile (isSlash true)

theorem scheme?_some {s r : List Char} {scheme : String} (h : scheme? s = some (scheme, r)) :
    r = (s.dropWhile (· != ':')).drop 1 := by
  unfold scheme? at h
  split at h
  · cases h
  · rename_i c t
    dsimp only at h
    split_ifs at h
    split at h
    · rename_i q hq
      cases h
      generalize hp : (fun c : Char => c.isAlphanum || c == '+' || c == '-' || c == '.') = p at hq
      have hcolon : ∀ d ∈ (c :: t).takeWhile p, (d != ':') = true := by
        intro d hd
        have := List.mem_takeWhile_imp hd
        rw [bne_iff_ne]
        rintro rfl
        rw [← hp] at this
        revert this
        decide
      have hdrop : (c :: t).dropWhile (· != ':') = ':' :: r := by
        conv_lhs => rw [← List.takeWhile_append_dropWhile (p := p) (l := c :: t), hq]
        rw [List.dropWhile_append_of_pos hcolon, List.dropWhile_cons_of_neg (by decide)]
      rw [hdrop, List.drop_one, List.tail_cons]
    · cases h

/-- What a text with a scheme of the web stands for. -/
theorem parse_ok {text : String} {u : Url} (h : Url.parse text = .ok u)
    (hs : IsWebScheme u.scheme) : ∃ a, a.IsPlain ∧ u.authority = some a ∧
      u.path = .segments (walk false [] (segments true (writtenPath (behindScheme text)))) := by
  unfold Url.parse read at h
  dsimp only at h
  cases hscheme : scheme? (cleaned text.toList) with
  | none =>
    rw [hscheme] at h
    cases h
  | some p =>
    obtain ⟨scheme, r⟩ := p
    rw [hscheme] at h
    dsimp only at h
    rw [scheme_afterScheme h] at hs
    simp only [afterScheme, if_neg hs.ne_file, if_pos hs.isSpecial] at h
    obtain ⟨a, ha, -, hu, hp⟩ := afterSlashes_ok hs h
    refine ⟨a, ha, hu, ?_⟩
    rw [hp, scheme?_some hscheme]
    rfl

theorem isWebAddress_of_parse {text : String} {u : Url} (h : Url.parse text = .ok u)
    (hs : IsWebScheme u.scheme) : u.IsWebAddress := by
  obtain ⟨a, ha, hu, hp⟩ := parse_ok h hs
  refine ⟨hs, ⟨a, hu, ha⟩, _, hp, ?_, ?_⟩
  · exact walk_ne_nil false [] (segments_ne_nil true _)
  · apply isWalked_avoids.forall_mem_walk
    · simp
    · exact slash_not_mem_segments true _

end IdentityApi.Url.Reader
