import IdentityApi.Proofs.Url.Making
import IdentityApi.Transport

/-! # Keys of requests

With a token, the key of a request is the text of its URL with the fingerprint of the token behind a
`#`. That text is the text of another URL as well: of the one that has the fingerprint at the end of
its fragment. So a key tells URL and token up to one exception (`Request.cacheKey_eq_iff`). Requests
over URLs without a fragment are no exception.
-/
namespace IdentityApi

theorem Sha256.not_mem_fingerprint (s : String) : '#' ∉ (fingerprint s).toList := by
  have hdigit : ∀ n < 16, '#' ≠ Hex.digit n := by decide
  rw [fingerprint, String.toList_ofList, Hex.ofOctets]
  intro h
  obtain ⟨b, -, hb⟩ := List.mem_flatMap.mp h
  have := b.toNat_lt
  rcases List.mem_cons.mp hb with hb | hb
  · exact hdigit _ (by omega) hb
  · exact hdigit _ (by omega) (List.mem_singleton.mp hb)

/-! ## Marks -/

namespace Url

/-- The URL with a mark at the end of its fragment. -/
def marked (u : Url) (mark : String) : Url :=
  { u with fragment := some ((u.fragment.map (· ++ "#")).getD "" ++ mark) }

theorem text_marked (u : Url) (mark : String) : (u.marked mark).text = u.text ++ "#" ++ mark := by
  unfold Url.text marked
  cases u.fragment <;> simp [optionText, origin, String.append_assoc]

theorem IsRegular.marked {u : Url} (h : u.IsRegular) (mark : String) : (u.marked mark).IsRegular :=
  h.withEnding h.query

/-- A mark without `#` is cut off at the last one. -/
theorem fragment_inj {f g : Option String} {a b : String} (ha : '#' ∉ a.toList)
    (hb : '#' ∉ b.toList)
    (h : (f.map (· ++ "#")).getD "" ++ a = (g.map (· ++ "#")).getD "" ++ b) : f = g ∧ a = b := by
  cases f with
  | none =>
    cases g with
    | none => simpa using h
    | some t =>
      refine absurd ?_ ha
      have hchars : a = t ++ "#" ++ b := by simpa using h
      simp [hchars]
  | some s =>
    cases g with
    | none =>
      refine absurd ?_ hb
      have hchars : s ++ "#" ++ a = b := by simpa using h
      simp [← hchars]
    | some t =>
      have hchars : s.toList ++ '#' :: a.toList = t.toList ++ '#' :: b.toList := by
        simpa using congrArg String.toList h
      have hback : a.toList.reverse ++ '#' :: s.toList.reverse =
          b.toList.reverse ++ '#' :: t.toList.reverse := by
        simpa using congrArg List.reverse hchars
      obtain ⟨hmark, hfront⟩ := cut_cons_inj (by simpa using ha) (by simpa using hb) hback
      rw [String.toList_inj.mp (List.reverse_inj.mp hmark),
        String.toList_inj.mp (List.reverse_inj.mp hfront)]
      exact ⟨rfl, rfl⟩

theorem marked_inj {u v : Url} {a b : String} (ha : '#' ∉ a.toList) (hb : '#' ∉ b.toList) :
    u.marked a = v.marked b ↔ u = v ∧ a = b := by
  constructor
  · intro h
    unfold marked at h
    simp only [Url.mk.injEq, Option.some.injEq] at h
    obtain ⟨hscheme, hauthority, hpath, hquery, hfragment⟩ := h
    obtain ⟨hfragment, hmark⟩ := fragment_inj ha hb hfragment
    cases u
    cases v
    simp_all
  · rintro ⟨rfl, rfl⟩
    rfl

end Url

namespace Request

variable {q r : Request} {values : List String}

/-- The fingerprints of two values differ if the values do. -/
def FingerprintsApart (values : List String) : Prop :=
  ∀ a ∈ values, ∀ b ∈ values, Sha256.fingerprint a = Sha256.fingerprint b → a = b

instance (values : List String) : Decidable (FingerprintsApart values) :=
  inferInstanceAs (Decidable (∀ a ∈ values, ∀ b ∈ values, _ → _))

theorem fingerprintsApart_pair {a b : String} (h : Sha256.fingerprint a ≠ Sha256.fingerprint b) :
    FingerprintsApart [a, b] := by
  simp [FingerprintsApart, h, h.symm]

/-! ## Keys as URLs -/

/-- The URL whose text is the key. -/
def keyUrl (r : Request) : Url :=
  match r.authorization with
  | none => r.url
  | some value => r.url.marked (Sha256.fingerprint value)

theorem text_keyUrl (r : Request) : r.keyUrl.text = r.cacheKey := by
  unfold keyUrl cacheKey
  cases r.authorization with
  | none => rfl
  | some value => exact Url.text_marked r.url _

theorem isRegular_keyUrl (h : r.url.IsRegular) : r.keyUrl.IsRegular := by
  unfold keyUrl
  cases r.authorization with
  | none => exact h
  | some value => exact h.marked _

theorem cacheKey_eq_iff_keyUrl_eq (hq : q.url.IsRegular) (hr : r.url.IsRegular) :
    q.cacheKey = r.cacheKey ↔ q.keyUrl = r.keyUrl := by
  rw [← text_keyUrl, ← text_keyUrl]
  constructor
  · exact (isRegular_keyUrl hq).eq_of_text_eq (isRegular_keyUrl hr)
  · exact congrArg Url.text

/-- The first request has no token, and its URL is that of the second one with the fingerprint of
the token of the second one as a mark. -/
def Shadows (q r : Request) : Prop :=
  q.authorization = none ∧ ∃ value, r.authorization = some value ∧
    q.url = r.url.marked (Sha256.fingerprint value)

theorem not_shadows (h : q.url.fragment = none) : ¬ q.Shadows r := by
  rintro ⟨-, value, -, hurl⟩
  rw [hurl] at h
  cases h

theorem keyUrl_eq_iff (hapart : FingerprintsApart values) (hq : ∀ a ∈ q.authorization, a ∈ values)
    (hr : ∀ a ∈ r.authorization, a ∈ values) :
    q.keyUrl = r.keyUrl ↔
      (q.url = r.url ∧ q.authorization = r.authorization) ∨ q.Shadows r ∨ r.Shadows q := by
  unfold keyUrl Shadows
  cases ha : q.authorization with
  | none =>
    cases hb : r.authorization with
    | none => simp
    | some b => simp
  | some a =>
    cases hb : r.authorization with
    | none => simp [eq_comm]
    | some b =>
      have hprints : Sha256.fingerprint a = Sha256.fingerprint b ↔ a = b :=
        ⟨hapart a (hq a ha) b (hr b hb), congrArg _⟩
      simp [Url.marked_inj (Sha256.not_mem_fingerprint a) (Sha256.not_mem_fingerprint b), hprints]

/-! ## Keys -/

/-- For URLs that are sent the key tells URL and token. -/
theorem parts_eq_of_cacheKey_eq (hq : q.url.IsSendable) (hr : r.url.IsSendable)
    (hapart : FingerprintsApart values) (hqv : ∀ a ∈ q.authorization, a ∈ values)
    (hrv : ∀ a ∈ r.authorization, a ∈ values) (h : q.cacheKey = r.cacheKey) :
    q.url = r.url ∧ q.authorization = r.authorization := by
  rw [cacheKey_eq_iff_keyUrl_eq hq.isRegular hr.isRegular, keyUrl_eq_iff hapart hqv hrv] at h
  rcases h with h | h | h
  · exact h
  · exact absurd h (not_shadows hq.fragment)
  · exact absurd h (not_shadows hr.fragment)

/-- Which requests share a key: those with one URL and one token, and those without a token that
have in their fragment what a token puts behind the URL. -/
theorem cacheKey_eq_iff (hq : q.url.IsMade) (hr : r.url.IsMade)
    (hapart : FingerprintsApart (q.authorization.toList ++ r.authorization.toList)) :
    q.cacheKey = r.cacheKey ↔
      (q.url = r.url ∧ q.authorization = r.authorization) ∨ q.Shadows r ∨ r.Shadows q := by
  rw [cacheKey_eq_iff_keyUrl_eq hq.isRegular hr.isRegular]
  apply keyUrl_eq_iff hapart
  · intro a ha
    exact List.mem_append_left _ (Option.mem_toList.mpr ha)
  · intro a ha
    exact List.mem_append_right _ (Option.mem_toList.mpr ha)

/-- Without a token, but with the fingerprint of one behind the URL. -/
theorem cacheKey_of_marked_url :
    let u : Url :=
      ⟨"https", some ⟨"", "", "[::1]", none⟩, .segments ["api", "v3", "core", "users", "me", ""],
        none, none⟩
    let q : Request := ⟨"GET", u.marked (Sha256.fingerprint "Bearer t"), [], none⟩
    let r : Request := ⟨"GET", u, [⟨"authorization", "Bearer t", true⟩], none⟩
    q.url.IsMade ∧ r.url.IsMade ∧
      FingerprintsApart (q.authorization.toList ++ r.authorization.toList) ∧
      q.cacheKey = r.cacheKey ∧ q.url ≠ r.url ∧ q.authorization ≠ r.authorization := by
  intro u q r
  have hprint : Sha256.fingerprint "Bearer t" =
      "63a25a26464c310e30f3e4f90b7f2153a2aac6e236fd9d9e8782bd4139df0c26" := by decide +kernel
  have hplain : Url.parse "https://[::1]/api/v3/core/users/me/" = .ok r.url := by cbv
  have hmarked : Url.parse ("https://[::1]/api/v3/core/users/me/#" ++
      Sha256.fingerprint "Bearer t") = .ok q.url := by
    change _ = Except.ok (u.marked (Sha256.fingerprint "Bearer t"))
    rw [hprint]
    cbv
  have hq : q.url.IsMade := .parse hmarked
  have hr : r.url.IsMade := .parse hplain
  have hapart : FingerprintsApart (q.authorization.toList ++ r.authorization.toList) := by
    decide +kernel
  refine ⟨hq, hr, hapart, ?_, ?_, ?_⟩
  · apply (cacheKey_eq_iff hq hr hapart).mpr
    exact Or.inr (Or.inl ⟨rfl, "Bearer t", rfl, rfl⟩)
  · intro h
    have hfragment := congrArg Url.fragment h
    cases hfragment
  · decide

end Request

end IdentityApi
