import IdentityApi.Client
import IdentityApi.Proofs.Json.Tree
import IdentityApi.Proofs.Text.Basic

/-! # Which variables configure a client

There is a configuration exactly if the variable of the base URL is not blank and that of the
timeout, if it is there at all, says a number of seconds that is not zero and fits 64 bits. A missing
URL is told first, whatever the timeout is, and no other variables are looked at
(`ofLookup_decides`).
-/
namespace IdentityApi.Config

open Json (ok_of_map)

variable {s url : String} {n : Nat} {lookup : String → Option String} {c : Config}

/-! ## Seconds -/

/-- Blanks, perhaps a plus, decimal digits, and blanks. -/
inductive SaysSeconds (n : Nat) : String → Prop
  | intro {before sign ds after : List Char} : (∀ c ∈ before, isBlank c = true) →
    (sign = [] ∨ sign = ['+']) → Integer.IsNumeral n ds → (∀ c ∈ after, isBlank c = true) →
      SaysSeconds n (.ofList (before ++ (sign ++ ds ++ after)))

theorem saysSeconds_iff : SaysSeconds n s ↔ ∃ ds,
    (trimBlanks s.toList = ds ∨ trimBlanks s.toList = '+' :: ds) ∧ Integer.IsNumeral n ds := by
  constructor
  · rintro ⟨hbefore, hsign, hds, hafter⟩
    have hdigits := fun c hc => isBlank_of_isDigit (hds.isDigit c hc)
    refine ⟨_, ?_, hds⟩
    rw [String.toList_ofList]
    rcases hsign with rfl | rfl
    · exact Or.inl (trimBlanks_append hbefore hafter hdigits hds.ne_nil)
    · have hsigned : ∀ c ∈ '+' :: _, isBlank c = false := List.forall_mem_cons.mpr ⟨rfl, hdigits⟩
      exact Or.inr (trimBlanks_append hbefore hafter hsigned (List.cons_ne_nil _ _))
  · rintro ⟨ds, htrim, hds⟩
    obtain ⟨before, after, hbefore, hafter, htext⟩ := exists_eq_trimBlanks s.toList
    rw [← s.ofList_toList, htext]
    rcases htrim with htrim | htrim
    · rw [htrim]
      exact .intro hbefore (Or.inl (rfl : ([] : List Char) = [])) hds hafter
    · rw [htrim]
      exact .intro hbefore (Or.inr (rfl : ['+'] = ['+'])) hds hafter

theorem timeoutOf_eq_ok_iff : timeoutOf s = .ok n ↔ SaysSeconds n s ∧ 1 ≤ n ∧ n ≤ 2 ^ 64 - 1 := by
  have hread : ∀ {m : Nat}, Integer.natural (UInt64.size - 1) (trimBlanks s.toList) = .ok m ↔
      SaysSeconds m s ∧ m ≤ 2 ^ 64 - 1 := by
    intro m
    simp only [Integer.natural_eq_ok_iff, saysSeconds_iff, ← and_assoc, exists_and_right]
    rfl
  constructor
  · intro h
    unfold timeoutOf at h
    split at h
    next => cases h
    next => cases h
    next m hzero hnatural =>
      cases h
      obtain ⟨hseconds, hmost⟩ := hread.mp hnatural
      exact ⟨hseconds, Nat.one_le_iff_ne_zero.mpr hzero, hmost⟩
  · rintro ⟨hseconds, hleast, hmost⟩
    obtain ⟨m, rfl⟩ := Nat.exists_eq_add_of_le' hleast
    rw [timeoutOf, hread.mpr ⟨hseconds, hmost⟩]
    rfl

/-- Blanks of any alphabet, a plus and zeros may stand in front. -/
example : timeoutOf "\u3000+007\n" = .ok 7 := rfl

/-- What a variable says about the timeout: nothing when it is missing. -/
inductive IsTimeout : Option String → Option Nat → Prop
  | absent : IsTimeout none none
  | seconds {s : String} {n : Nat} : SaysSeconds n s → 1 ≤ n → n ≤ 2 ^ 64 - 1 →
    IsTimeout (some s) (some n)

/-- The timeout that a variable tells. -/
def readTimeout : Option String → Except TimeoutFault (Option Nat)
  | none => .ok none
  | some s => (timeoutOf s).map some

theorem readTimeout_eq_ok_iff {o : Option String} {t : Option Nat} :
    readTimeout o = .ok t ↔ IsTimeout o t := by
  constructor
  · intro h
    cases o with
    | none =>
      cases h
      exact .absent
    | some s =>
      obtain ⟨n, hn, rfl⟩ := ok_of_map h
      obtain ⟨hseconds, hleast, hmost⟩ := timeoutOf_eq_ok_iff.mp hn
      exact .seconds hseconds hleast hmost
  · rintro (_ | ⟨hseconds, hleast, hmost⟩)
    · rfl
    · rw [readTimeout, timeoutOf_eq_ok_iff.mpr ⟨hseconds, hleast, hmost⟩]
      rfl

/-! ## Variables -/

/-- The variable of the base URL has this value, which is not blank. -/
structure HasUrl (lookup : String → Option String) (url : String) : Prop where
  lookup : lookup urlVariable = some url
  notBlank : ∃ ch ∈ url.toList, isBlank ch = false

/-- The configuration that the variables tell. -/
structure IsTold (lookup : String → Option String) (c : Config) : Prop where
  url : HasUrl lookup c.baseUrl
  timeout : IsTimeout (lookup timeoutVariable) c.timeout
  token : c.token = (lookup tokenVariable).filter (· ≠ "")
  userAgent : c.userAgent = defaultUserAgent

theorem ofLookup_of_noUrl (h : ¬ ∃ url, HasUrl lookup url) :
    ofLookup lookup = .error (.missing urlVariable) := by
  unfold ofLookup
  cases hurl : lookup urlVariable with
  | none => rfl
  | some url =>
    have hblank : url.toList.all isBlank = true := by
      rw [List.all_eq_true]
      intro ch hch
      by_contra hnot
      exact h ⟨url, hurl, ch, hch, by simpa using hnot⟩
    dsimp only
    rw [if_pos hblank]
    rfl

/-- With a URL the timeout decides. -/
theorem ofLookup_of_hasUrl (h : HasUrl lookup url) : ofLookup lookup =
    ((readTimeout (lookup timeoutVariable)).mapError (.invalidTimeout timeoutVariable)).map
      fun timeout => ⟨url, (lookup tokenVariable).filter (· ≠ ""), timeout, defaultUserAgent⟩ := by
  have hfilter : (lookup tokenVariable).filter (· != "") =
      (lookup tokenVariable).filter (· ≠ "") := by
    cases lookup tokenVariable <;> simp [Option.filter]
  have hblank : ¬ url.toList.all isBlank = true := by
    obtain ⟨ch, hch, hnot⟩ := h.notBlank
    rw [List.all_eq_true]
    exact fun hall => by simp [hall ch hch] at hnot
  unfold ofLookup
  rw [h.lookup, hfilter]
  dsimp only
  rw [if_neg hblank]
  cases lookup timeoutVariable with
  | none => rfl
  | some s =>
    dsimp only
    rw [readTimeout]
    cases timeoutOf s <;> rfl

theorem ofLookup_eq_ok_iff : ofLookup lookup = .ok c ↔ IsTold lookup c := by
  constructor
  · intro h
    by_cases hurl : ∃ url, HasUrl lookup url
    · obtain ⟨url, hurl⟩ := hurl
      rw [ofLookup_of_hasUrl hurl] at h
      cases htimeout : readTimeout (lookup timeoutVariable) with
      | error fault =>
        rw [htimeout] at h
        cases h
      | ok timeout =>
        rw [htimeout] at h
        cases h
        exact ⟨hurl, readTimeout_eq_ok_iff.mp htimeout, rfl, rfl⟩
    · rw [ofLookup_of_noUrl hurl] at h
      cases h
  · rintro ⟨hurl, htimeout, htoken, hagent⟩
    rw [ofLookup_of_hasUrl hurl, readTimeout_eq_ok_iff.mpr htimeout, ← htoken, ← hagent]
    rfl

/-- The URL is there, and the timeout cannot be read. -/
theorem exists_invalidTimeout_iff :
    (∃ fault, ofLookup lookup = .error (.invalidTimeout timeoutVariable fault)) ↔
      (∃ url, HasUrl lookup url) ∧ ¬ ∃ t, IsTimeout (lookup timeoutVariable) t := by
  by_cases hurl : ∃ url, HasUrl lookup url
  · obtain ⟨url, hurl⟩ := hurl
    simp only [← readTimeout_eq_ok_iff, ofLookup_of_hasUrl hurl]
    cases readTimeout (lookup timeoutVariable) with
    | error fault => exact ⟨fun _ => ⟨⟨url, hurl⟩, nofun⟩, fun _ => ⟨fault, rfl⟩⟩
    | ok t => exact ⟨nofun, fun h => absurd ⟨t, rfl⟩ h.2⟩
  · rw [ofLookup_of_noUrl hurl]
    exact ⟨nofun, fun h => absurd h.1 hurl⟩

theorem missing_iff :
    ofLookup lookup = .error (.missing urlVariable) ↔ ¬ ∃ url, HasUrl lookup url := by
  refine ⟨fun h => ?_, ofLookup_of_noUrl⟩
  rintro ⟨url, hurl⟩
  rw [ofLookup_of_hasUrl hurl] at h
  cases htimeout : readTimeout (lookup timeoutVariable) with
  | error fault =>
    rw [htimeout] at h
    cases h
  | ok timeout =>
    rw [htimeout] at h
    cases h

/-- Each of the three variables decides what it is there for, and no other variable decides
anything. -/
theorem ofLookup_decides (lookup : String → Option String) :
    (∀ c, ofLookup lookup = .ok c ↔ IsTold lookup c) ∧
      (ofLookup lookup = .error (.missing urlVariable) ↔ ¬ ∃ url, HasUrl lookup url) ∧
      ((∃ fault, ofLookup lookup = .error (.invalidTimeout timeoutVariable fault)) ↔
        (∃ url, HasUrl lookup url) ∧ ¬ ∃ t, IsTimeout (lookup timeoutVariable) t) ∧
      ∀ others : String → Option String,
        ofLookup (fun name => if name ∈ [urlVariable, tokenVariable, timeoutVariable] then
          lookup name else others name) = ofLookup lookup := by
  refine ⟨fun c => ofLookup_eq_ok_iff, missing_iff, exists_invalidTimeout_iff, fun others => ?_⟩
  rfl

end IdentityApi.Config
