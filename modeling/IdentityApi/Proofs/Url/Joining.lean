import IdentityApi.Proofs.Text.Percent
import IdentityApi.Proofs.Text.Utf8
import IdentityApi.Url.Reader

/-! # Joining a plain path

A relative path whose segments hold unreserved characters and triples only, and are no dot segments
in any spelling, is appended to the folder of a web address as it stands (`join_plain`). Values that
are encoded for a segment are such, unless they are dots themselves.
-/
namespace IdentityApi.Url.Reader

/-! ## Dot segments -/

/-- One or two dots, each plain or as a triple of either case. -/
def isDot (s : List Char) : Bool := isSingleDot s || isDoubleDot s

theorem toLower_cases (c : Char) :
    c.toLower = c ∨ (65 ≤ c.toNat ∧ c.toNat ≤ 90 ∧ c.toLower.toNat = c.toNat + 32) := by
  unfold Char.toLower
  split
  case isTrue h =>
    obtain ⟨hlow, hhigh⟩ := h
    have hlow : 65 ≤ c.val.toNat := hlow
    have hhigh : c.val.toNat ≤ 90 := hhigh
    refine Or.inr ⟨hlow, hhigh, ?_⟩
    change (c.val + 32).toNat = c.val.toNat + 32
    rw [UInt32.toNat_add]
    have : (32 : UInt32).toNat = 32 := rfl
    omega
  case isFalse => exact Or.inl rfl

/-- Only letters come from another character. -/
theorem eq_of_toLower_eq {c d : Char} (h : c.toLower = d) (hd : d.toNat < 97 ∨ 122 < d.toNat) :
    c = d := by
  rcases toLower_cases c with hc | ⟨hlow, hhigh, hc⟩
  · rw [← h, hc]
  · rw [h] at hc
    omega

theorem value?_of_toLower_eq_e {c : Char} (h : c.toLower = 'e') : Hex.value? c = some 14 := by
  have he : 'e'.toNat = 101 := rfl
  rcases toLower_cases c with hc | ⟨-, -, hc⟩
  · rw [← hc, h]
    decide
  · have hn : c.toNat = 69 := by rw [h] at hc; omega
    simp [Hex.value?, hn]

theorem decode_of_lower_dot {s t : List Char} (h : s.map Char.toLower = '.' :: t) :
    ∃ r, r.map Char.toLower = t ∧ Percent.decode s = 46 :: Percent.decode r := by
  obtain ⟨c, r, rfl, hc, hr⟩ := List.map_eq_cons_iff.mp h
  obtain rfl := eq_of_toLower_eq hc (by decide)
  exact ⟨r, hr, Percent.decode_cons_of_ne (by decide) r⟩

theorem decode_of_lower_triple {s t : List Char} (h : s.map Char.toLower = '%' :: '2' :: 'e' :: t) :
    ∃ r, r.map Char.toLower = t ∧ Percent.decode s = 46 :: Percent.decode r := by
  obtain ⟨a, s₁, rfl, ha, h⟩ := List.map_eq_cons_iff.mp h
  obtain ⟨b, s₂, rfl, hb, h⟩ := List.map_eq_cons_iff.mp h
  obtain ⟨c, r, rfl, hc, hr⟩ := List.map_eq_cons_iff.mp h
  obtain rfl := eq_of_toLower_eq ha (by decide)
  obtain rfl := eq_of_toLower_eq hb (by decide)
  refine ⟨r, hr, ?_⟩
  have htwo : Hex.value? '2' = some 2 := by decide
  simp [Percent.decode, htwo, value?_of_toLower_eq_e hc]

/-- In every spelling a dot segment decodes to one or two dots. -/
theorem decode_of_isDot {s : List Char} (h : isDot s = true) :
    Percent.decode s = [46] ∨ Percent.decode s = [46, 46] := by
  have hnil : ∀ {r : List Char}, r.map Char.toLower = [] → Percent.decode r = [] := by
    intro r hr
    rw [List.map_eq_nil_iff.mp hr]
    rfl
  simp only [isDot, isSingleDot, isDoubleDot, Bool.or_eq_true, beq_iff_eq] at h
  rcases h with (rfl | h) | ((h | h) | h) | h
  · exact Or.inl (by decide)
  · obtain ⟨r, hr, hd⟩ := decode_of_lower_triple h
    exact Or.inl (by rw [hd, hnil hr])
  · obtain ⟨r, hr, hd⟩ := decode_of_lower_dot h
    obtain ⟨q, hq, he⟩ := decode_of_lower_dot hr
    exact Or.inr (by rw [hd, he, hnil hq])
  · obtain ⟨r, hr, hd⟩ := decode_of_lower_dot h
    obtain ⟨q, hq, he⟩ := decode_of_lower_triple hr
    exact Or.inr (by rw [hd, he, hnil hq])
  · obtain ⟨r, hr, hd⟩ := decode_of_lower_triple h
    obtain ⟨q, hq, he⟩ := decode_of_lower_dot hr
    exact Or.inr (by rw [hd, he, hnil hq])
  · obtain ⟨r, hr, hd⟩ := decode_of_lower_triple h
    obtain ⟨q, hq, he⟩ := decode_of_lower_triple hr
    exact Or.inr (by rw [hd, he, hnil hq])

theorem eq_of_ofNat_eq_dot {n : Nat} (hn : n < 256) (h : UInt8.ofNat n = 46) : n = 46 := by
  have := congrArg UInt8.toNat h
  rwa [UInt8.toNat_ofNat_of_lt' hn] at this

/-- The octet of a dot stands for nothing but a dot. -/
theorem eq_dot_of_encodeChar {c : Char} {r t : Octets} (h : Utf8.encodeChar c ++ r = 46 :: t) :
    c = '.' ∧ r = t := by
  have hmax : c.toNat < 0x110000 := by
    have hvalid : c.toNat < 0xD800 ∨ 0xDFFF < c.toNat ∧ c.toNat < 0x110000 := c.valid
    omega
  unfold Utf8.encodeChar at h
  dsimp only at h
  split_ifs at h with hone htwo hthree
  · simp only [List.singleton_append, List.cons.injEq] at h
    exact ⟨Char.toNat_inj.mp (eq_of_ofNat_eq_dot (by omega) h.1), h.2⟩
  · have := eq_of_ofNat_eq_dot (by omega) (List.cons.inj h).1
    omega
  · have := eq_of_ofNat_eq_dot (by omega) (List.cons.inj h).1
    omega
  · have := eq_of_ofNat_eq_dot (by omega) (List.cons.inj h).1
    omega

theorem eq_dots_of_encode {n : Nat} {s : List Char} (h : Utf8.encode s = List.replicate n 46) :
    s = List.replicate n '.' := by
  induction n generalizing s with
  | zero =>
    cases s with
    | nil => rfl
    | cons c s =>
      rw [Utf8.encode, List.flatMap_cons, List.replicate_zero, List.append_eq_nil_iff] at h
      exact absurd h.1 (Utf8.encodeChar_ne_nil c)
  | succ n ih =>
    cases s with
    | nil => simp [Utf8.encode, List.replicate_succ] at h
    | cons c s =>
      rw [Utf8.encode, List.flatMap_cons, List.replicate_succ] at h
      obtain ⟨rfl, hs⟩ := eq_dot_of_encodeChar h
      rw [List.replicate_succ, ih hs]

/-- An encoded value is a dot segment only if the value itself is one or two dots. -/
theorem isDot_encode {s : List Char} (h : isDot (Percent.encode Percent.isUnreserved s) = true) :
    s = ['.'] ∨ s = ['.', '.'] := by
  have hd := decode_of_isDot h
  rw [Percent.decode_encode (by decide)] at hd
  rcases hd with hd | hd
  · exact Or.inl (eq_dots_of_encode (n := 1) hd)
  · exact Or.inr (eq_dots_of_encode (n := 2) hd)

/-! ## Plain segments -/

/-- A character of a segment that is never touched: unreserved, or the mark of a triple. -/
def isPlainChar (c : Char) : Bool := Percent.isUnreserved c || c == '%'

structure IsPlainSegment (s : List Char) : Prop where
  plain : ∀ c ∈ s, isPlainChar c = true
  noDot : isDot s = false

theorem toNat_lt_of_isPlainChar {c : Char} (h : isPlainChar c = true) : c.toNat < 128 := by
  simp only [isPlainChar, Percent.isUnreserved, Bool.or_eq_true, beq_iff_eq] at h
  rcases h with ((((h | rfl) | rfl) | rfl) | rfl) | rfl
  · exact toNat_lt_of_isAlphanum h
  all_goals decide

theorem keepsPath_of_isPlainChar {c : Char} (h : isPlainChar c = true) : keepsPath c = true :=
  of_ascii (by decide +kernel) (toNat_lt_of_isPlainChar h) h

theorem isPlainChar_of_isAlphanum {c : Char} (h : c.isAlphanum = true) : isPlainChar c = true := by
  simp [isPlainChar, Percent.isUnreserved, h]

theorem ne_of_isPlainChar {c d : Char} (h : isPlainChar c = true) (hd : isPlainChar d = false) :
    c ≠ d := by
  rintro rfl
  rw [h] at hd
  cases hd

theorem holdsTriples_isPlainChar : Percent.HoldsTriples isPlainChar := by
  refine ⟨by decide, ?_⟩
  decide

theorem isPlainSegment_encode {s : List Char} (h : s ≠ ['.'] ∧ s ≠ ['.', '.']) :
    IsPlainSegment (Percent.encode Percent.isUnreserved s) where
  plain := Percent.forall_mem_encode holdsTriples_isPlainChar
    (fun c hc => by simp [isPlainChar, hc]) s
  noDot := by
    rw [Bool.eq_false_iff]
    intro hdot
    rcases isDot_encode hdot with hs | hs
    · exact h.1 hs
    · exact h.2 hs

/-! ## Segments of a relative path -/

theorem segments_ne_nil (special : Bool) (s : List Char) : segments special s ≠ [] := by
  cases s with
  | nil => simp [segments]
  | cons c s =>
    rw [segments]
    split
    · simp
    · split_ifs <;> simp

theorem segments_eq_splitAt {special : Bool} {s : List Char} (h : '\\' ∉ s) :
    segments special s = splitAt '/' s := by
  induction s with
  | nil => rfl
  | cons c s ih =>
    have hc : c ≠ '\\' := fun he => h (he ▸ List.mem_cons_self)
    rw [segments, splitAt, ih fun hs => h (List.mem_cons_of_mem c hs)]
    cases splitAt '/' s with
    | nil => rfl
    | cons t rest => by_cases hs : c = '/' <;> simp [isSlash, hs, hc]

theorem enter_plain {path : List String} {s : List Char} (h : IsPlainSegment s) :
    enter false path s = String.ofList s :: path := by
  simp [enter, encoded,
    Percent.encode_eq_self fun c hc => keepsPath_of_isPlainChar (h.plain c hc)]

/-- Plain segments are added one by one. -/
theorem walk_plain {path : List String} {l : List (List Char)} (hl : l ≠ [])
    (h : ∀ s ∈ l, IsPlainSegment s) : walk false path l = path.reverse ++ l.map String.ofList := by
  induction l generalizing path with
  | nil => exact absurd rfl hl
  | cons s l ih =>
    have hs := h s List.mem_cons_self
    have hdot := hs.noDot
    rw [isDot, Bool.or_eq_false_iff] at hdot
    cases l with
    | nil => simp [walk, hdot.1, hdot.2, enter_plain hs]
    | cons t l =>
      rw [walk]
      · rw [if_neg (by simp [hdot.2]), if_neg (by simp [hdot.1]), enter_plain hs,
          ih (by simp) fun u hu => h u (List.mem_cons_of_mem s hu)]
        simp
      · simp

/-! ## Joining -/

/-- The schemes of the web. -/
def IsWebScheme (scheme : String) : Prop := scheme = "http" ∨ scheme = "https"

theorem IsWebScheme.isSpecial {scheme : String} (h : IsWebScheme scheme) :
    isSpecialScheme scheme = true := by
  rcases h with rfl | rfl <;> decide

theorem IsWebScheme.ne_file {scheme : String} (h : IsWebScheme scheme) : scheme ≠ "file" := by
  rcases h with rfl | rfl <;> decide

theorem leave_false (l : List String) : leave false l = l.tail := by
  match l with
  | [] => rfl
  | [_] => rfl
  | _ :: _ :: _ => rfl

theorem folder_eq {u : Url} (h : IsWebScheme u.scheme) {list : List String}
    (hp : u.path = .segments list) : folder u = list.dropLast := by
  have hfile : (u.scheme == "file") = false := beq_eq_false_iff_ne.mpr h.ne_file
  rw [folder, segmentsOf, hp, hfile, leave_false, List.tail_reverse, List.reverse_reverse]

/-- A text without blanks and controls is clean. -/
theorem cleaned_eq_self {s : List Char} (h : ∀ c ∈ s, 0x20 < c.toNat) : cleaned s = s := by
  have hedge : ∀ {t : List Char}, (∀ c ∈ t, 0x20 < c.toNat) →
      t.dropWhile (fun c => decide (c.toNat ≤ 0x20)) = t := by
    intro t ht
    cases t with
    | nil => rfl
    | cons c t =>
      have := ht c List.mem_cons_self
      rw [List.dropWhile_cons_of_neg (by simpa using this)]
  have hrev : ∀ c ∈ s.reverse, 0x20 < c.toNat := fun c hc => h c (List.mem_reverse.mp hc)
  simp only [cleaned]
  rw [hedge h, hedge hrev, List.reverse_reverse, List.filter_eq_self]
  intro c hc
  have := h c hc
  have htab : c ≠ '\t' := by rintro rfl; revert this; decide
  have hline : c ≠ '\n' := by rintro rfl; revert this; decide
  have hreturn : c ≠ '\r' := by rintro rfl; revert this; decide
  simp [htab, hline, hreturn]

/-- A slash behind letters and digits: no scheme. -/
theorem scheme?_eq_none {s r : List Char} (h : ∀ c ∈ s, c.isAlphanum = true) :
    scheme? (s ++ '/' :: r) = none := by
  have hdrop : ∀ p : Char → Bool, (∀ c ∈ s, p c = true) → p '/' = false →
      (s ++ '/' :: r).dropWhile p = '/' :: r := by
    intro p hp hslash
    rw [List.dropWhile_append_of_pos hp, List.dropWhile_cons_of_neg (by simp [hslash])]
  cases s with
  | nil => simp [scheme?]
  | cons c s =>
    simp only [List.cons_append, scheme?]
    split_ifs
    · have := hdrop (fun c => c.isAlphanum || c == '+' || c == '-' || c == '.')
        (fun d hd => by simp [h d hd]) (by decide)
      rw [← List.cons_append, this]
      rfl
    · rfl

theorem withPath_plain {scheme : String} (h : IsWebScheme scheme) (authority : Option Authority)
    (path : List String) {l : List (List Char)} (hl : l ≠ []) (hplain : ∀ s ∈ l, IsPlainSegment s) :
    withPath scheme authority path (['/'].intercalate l) =
      ⟨scheme, authority, .segments (path ++ l.map String.ofList), none, none⟩ := by
  have hchars : ∀ c ∈ ['/'].intercalate l, c = '/' ∨ isPlainChar c = true := by
    intro c hc
    rcases of_mem_intercalate hc with hc | ⟨s, hs, hc⟩
    · exact Or.inl hc
    · exact Or.inr ((hplain s hs).plain c hc)
  have hopen : ∀ c ∈ ['/'].intercalate l, (!endsPath c) = true := by
    intro c hc
    rcases hchars c hc with rfl | hc
    · decide
    · simp [endsPath, ne_of_isPlainChar hc (d := '?') (by decide),
        ne_of_isPlainChar hc (d := '#') (by decide)]
  have hback : '\\' ∉ ['/'].intercalate l := by
    intro hc
    rcases hchars _ hc with hc | hc
    · exact absurd hc (by decide)
    · exact absurd hc (by decide)
  have hcut : splitAt '/' (['/'].intercalate l) = l := by
    refine splitAt_intercalate (fun s hs hslash => ?_) hl
    exact absurd ((hplain s hs).plain _ hslash) (by decide)
  have hfile : (scheme == "file") = false := beq_eq_false_iff_ne.mpr h.ne_file
  simp only [withPath, List.dropWhile_eq_nil_iff.mpr hopen, List.takeWhile_eq_self_iff.mpr hopen,
    ending, pathFrom, hfile, withoutFront, segments_eq_splitAt hback, hcut, walk_plain hl hplain,
    List.reverse_reverse, Bool.false_eq_true, if_false]

/-- A plain path takes the place of what stands behind the last slash of the base. -/
theorem join_plain {base : Url} (h : IsWebScheme base.scheme) {list : List String}
    (hp : base.path = .segments list) {first : List Char} {rest : List (List Char)}
    (hne : first ≠ []) (hfirst : ∀ c ∈ first, c.isAlphanum = true) (hrest : rest ≠ [])
    (hplain : ∀ s ∈ first :: rest, IsPlainSegment s) :
    base.join (String.ofList (['/'].intercalate (first :: rest))) =
      .ok ⟨base.scheme, base.authority,
        .segments (list.dropLast ++ (first :: rest).map String.ofList), none, none⟩ := by
  have hclean : cleaned (['/'].intercalate (first :: rest)) =
      ['/'].intercalate (first :: rest) := by
    refine cleaned_eq_self fun c hc => ?_
    rcases of_mem_intercalate hc with rfl | ⟨s, hs, hc⟩
    · decide
    · have := of_ascii (q := fun c => decide (0x20 < c.toNat)) (by decide +kernel)
        (toNat_lt_of_isPlainChar ((hplain s hs).plain c hc)) ((hplain s hs).plain c hc)
      simpa using this
  have hscheme : scheme? (['/'].intercalate (first :: rest)) = none := by
    obtain ⟨s, l, rfl⟩ := List.exists_cons_of_ne_nil hrest
    rw [List.intercalate_cons_cons, List.append_assoc, List.singleton_append]
    exact scheme?_eq_none hfirst
  obtain ⟨c, f, rfl⟩ := List.exists_cons_of_ne_nil hne
  have hc := isPlainChar_of_isAlphanum (hfirst c List.mem_cons_self)
  obtain ⟨t, ht⟩ : ∃ t, ['/'].intercalate ((c :: f) :: rest) = c :: t := by
    rw [intercalate_eq_append_flatMap]
    exact ⟨_, rfl⟩
  have hmark : c ≠ '#' := ne_of_isPlainChar hc (by decide)
  have hslash : isSlash true c = false := by
    simp [isSlash, ne_of_isPlainChar hc (d := '/') (by decide),
      ne_of_isPlainChar hc (d := '\\') (by decide)]
  have hrelative : relative base (c :: t) =
      .ok (withPath base.scheme base.authority (folder base) (c :: t)) := by
    simp only [relative, if_neg (ne_of_isPlainChar hc (d := '?') (by decide)), if_neg hmark, hslash,
      Bool.false_eq_true, if_false]
  have hread : base.join (String.ofList (c :: t)) = relative base (c :: t) := by
    rw [ht] at hclean hscheme
    unfold join read
    rw [String.toList_ofList]
    simp only [hclean, hscheme, hp, if_neg h.ne_file]
    split
    · exact absurd (List.cons.inj ‹c :: t = _›).1 hmark
    · cases ‹Path.segments list = .rigid _›
    · rfl
  rw [ht, hread, hrelative, ← ht,
    withPath_plain h base.authority (folder base) (List.cons_ne_nil _ rest) hplain, folder_eq h hp]

end IdentityApi.Url.Reader
