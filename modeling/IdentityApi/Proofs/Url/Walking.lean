import IdentityApi.Proofs.Url.Authority

/-! # Walking along segments

A path is walked segment by segment. What is said of all that a segment can add, and of the path
where the walk begins, is true of the path that is reached (`IsWalked.forall_mem_walk`): its
segments hold no mark, and none of them is a dot.
-/
namespace IdentityApi.Url.Reader

theorem slash_not_mem_segments (special : Bool) (s : List Char) :
    ∀ t ∈ segments special s, '/' ∉ t := by
  induction s with
  | nil => simp [segments]
  | cons c s ih =>
    rw [segments]
    cases hs : segments special s with
    | nil => exact absurd hs (segments_ne_nil special s)
    | cons t rest =>
      rw [hs] at ih
      obtain ⟨ht, hrest⟩ := List.forall_mem_cons.mp ih
      dsimp only
      split_ifs with hc
      · exact List.forall_mem_cons.mpr ⟨by simp, List.forall_mem_cons.mpr ⟨ht, hrest⟩⟩
      · have hne : c ≠ '/' := by rintro rfl; exact hc (by simp [isSlash])
        exact List.forall_mem_cons.mpr ⟨by simp [Ne.symm hne, ht], hrest⟩

/-- One step on the way: a path whose last segment stands first, after a segment. -/
def follow (file : Bool) (path : List String) (s : List Char) : List String :=
  if isDoubleDot s then leave file path
  else if isSingleDot s then path
  else enter file path s

theorem walk_cons_cons (file : Bool) (path : List String) (s t : List Char)
    (l : List (List Char)) :
    walk file path (s :: t :: l) = walk file (follow file path s) (t :: l) := by
  rw [walk]
  · rfl
  · simp

/-- Behind dots the path ends with an empty segment. -/
theorem walk_singleton (file : Bool) (path : List String) (s : List Char) :
    walk file path [s] =
      (if isDot s then "" :: follow file path s else follow file path s).reverse := by
  simp only [walk, follow, isDot]
  by_cases hd : isDoubleDot s = true
  · simp [hd]
  · by_cases hs : isSingleDot s = true <;> simp [hd, hs]

theorem encoded_eq_empty {keep : Char → Bool} {s : List Char} : encoded keep s = "" ↔ s = [] := by
  constructor
  · intro h
    cases s with
    | nil => rfl
    | cons c s =>
      have hnil : Percent.encode keep (c :: s) = [] := by
        simpa [encoded] using congrArg String.toList h
      rw [Percent.encode_cons, List.append_eq_nil_iff, Percent.encodeChar] at hnil
      obtain ⟨hc, -⟩ := hnil
      split_ifs at hc
      obtain ⟨b, l, hb⟩ := List.exists_cons_of_ne_nil (Utf8.encodeChar_ne_nil c)
      simp [hb, Percent.encodeOctet] at hc
  · rintro rfl
    rfl

/-- The last segment of a path that was walked: empty behind a slash and behind dots. -/
def lastEntered (s : List Char) : String := if isDot s then "" else encoded keepsPath s

theorem exists_walk_eq (path : List String) {l : List (List Char)} (hl : l ≠ []) :
    ∃ front, walk false path l = front ++ [lastEntered (l.getLast hl)] := by
  induction l generalizing path with
  | nil => exact absurd rfl hl
  | cons s l ih =>
    cases l with
    | nil =>
      rw [walk_singleton, List.getLast_singleton, lastEntered]
      by_cases hdot : isDot s = true
      · exact ⟨(follow false path s).reverse, by simp [hdot]⟩
      · have hdots := hdot
        rw [isDot, Bool.or_eq_true, not_or] at hdots
        exact ⟨path.reverse, by simp [hdot, hdots, follow, enter]⟩
    | cons t l =>
      rw [walk_cons_cons, List.getLast_cons (by simp)]
      exact ih (follow false path s) (by simp)

theorem walk_ne_nil (file : Bool) (path : List String) {l : List (List Char)} (hl : l ≠ []) :
    walk file path l ≠ [] := by
  induction l generalizing path with
  | nil => exact absurd rfl hl
  | cons s l ih =>
    cases l with
    | nil =>
      rw [walk_singleton]
      intro hnil
      rw [List.reverse_eq_nil_iff] at hnil
      split_ifs at hnil with hdot
      rw [isDot, Bool.or_eq_true, not_or] at hdot
      simp only [follow, if_neg hdot.1, if_neg hdot.2, enter] at hnil
      split_ifs at hnil
    | cons t l =>
      rw [walk_cons_cons]
      exact ih (follow file path s) (by simp)

theorem mem_leave {file : Bool} {path : List String} {x : String} (h : x ∈ leave file path) :
    x ∈ path := by
  match path with
  | [] => exact h
  | [s] =>
    simp only [leave] at h
    split_ifs at h
    · exact h
    · cases h
  | s :: t :: path => exact List.mem_cons_of_mem s h

/-- What can be said of the empty segment, of the letter of a drive and of a segment that is entered
can be said of all that a walk adds. -/
structure IsWalked (P : String → Prop) : Prop where
  empty : P ""
  drive : ∀ c : Char, c.isAlpha = true → P (.ofList [c, ':'])
  entered : ∀ s : List Char, '/' ∉ s → isDot s = false → P (encoded keepsPath s)

namespace IsWalked

variable {P : String → Prop} {file : Bool} {path : List String}

theorem forall_mem_enter (h : IsWalked P) (hpath : ∀ x ∈ path, P x) {s : List Char}
    (hslash : '/' ∉ s) (hdot : isDot s = false) : ∀ x ∈ enter file path s, P x := by
  unfold enter
  split_ifs with hfile
  · rw [Bool.and_eq_true] at hfile
    have hdrive := hfile.2
    unfold isDriveLetter at hdrive
    split at hdrive
    · rename_i c d
      rw [Bool.and_eq_true] at hdrive
      exact List.forall_mem_cons.mpr ⟨h.drive c hdrive.1, hpath⟩
    · cases hdrive
  · exact List.forall_mem_cons.mpr ⟨h.entered s hslash hdot, hpath⟩

theorem forall_mem_follow (h : IsWalked P) (hpath : ∀ x ∈ path, P x) {s : List Char}
    (hslash : '/' ∉ s) : ∀ x ∈ follow file path s, P x := by
  unfold follow
  split_ifs with hdouble hsingle
  · exact fun x hx => hpath x (mem_leave hx)
  · exact hpath
  · apply h.forall_mem_enter hpath hslash
    simp [isDot, hdouble, hsingle]

theorem forall_mem_walk (h : IsWalked P) (hpath : ∀ x ∈ path, P x) {l : List (List Char)}
    (hl : ∀ s ∈ l, '/' ∉ s) : ∀ x ∈ walk file path l, P x := by
  induction l generalizing path with
  | nil => simpa [walk] using hpath
  | cons s l ih =>
    obtain ⟨hs, hl⟩ := List.forall_mem_cons.mp hl
    have hnext : ∀ x ∈ follow file path s, P x := h.forall_mem_follow hpath hs
    cases l with
    | nil =>
      intro x hx
      rw [walk_singleton, List.mem_reverse] at hx
      split_ifs at hx
      · rcases List.mem_cons.mp hx with rfl | hx
        · exact h.empty
        · exact hnext x hx
      · exact hnext x hx
    | cons t l =>
      rw [walk_cons_cons]
      exact ih hnext hl

end IsWalked

/-- No segment holds a mark that would end it. -/
theorem isWalked_avoids : IsWalked (Avoids ['/', '?', '#']) where
  empty := by simp [Avoids]
  drive := by
    intro c hc
    apply avoids_of_forall (p := fun d => d.isAlpha || d == ':')
    · simp [hc]
    · decide
  entered := by
    intro s hslash _
    have hmarks : Avoids ['?', '#'] (encoded keepsPath s) :=
      avoids_encoded _ (by decide) (by decide) s
    have hslash : '/' ∉ (encoded keepsPath s).toList := by
      rw [encoded, String.toList_ofList]
      intro hc
      rcases Percent.of_mem_encode (p := (· != '/')) (by decide) hc with ⟨hc, -⟩ | hc
      · exact hslash hc
      · simp at hc
    exact List.forall_mem_cons.mpr ⟨hslash, hmarks⟩

theorem eq_dot_of_encoded {s : List Char} (h : encoded keepsPath s = ".") : s = ['.'] := by
  have hchars : Percent.encode keepsPath s = ['.'] := by
    simpa [encoded] using congrArg String.toList h
  cases s with
  | nil => cases hchars
  | cons c s =>
    rw [Percent.encode_cons, Percent.encodeChar] at hchars
    split_ifs at hchars
    · rw [List.singleton_append, List.cons.injEq] at hchars
      have hrest : encoded keepsPath s = "" := by rw [encoded, hchars.2]
      rw [hchars.1, encoded_eq_empty.mp hrest]
    · obtain ⟨b, l, hb⟩ := List.exists_cons_of_ne_nil (Utf8.encodeChar_ne_nil c)
      simp [hb, Percent.encodeOctet] at hchars

/-- No segment is a dot. -/
theorem isWalked_ne_dot : IsWalked (· ≠ ".") where
  empty := by decide
  drive := by
    intro c _ h
    have hchars := congrArg String.toList h
    simp at hchars
  entered := by
    intro s _ hdot h
    rw [eq_dot_of_encoded h] at hdot
    revert hdot
    decide

end IdentityApi.Url.Reader
