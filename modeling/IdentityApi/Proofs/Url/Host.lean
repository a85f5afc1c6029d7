import IdentityApi.Proofs.Url.Regular
import IdentityApi.Url.Reader

/-! # Hosts that are read

A host that is read is a name without the marks of a URL, or an address in brackets.
-/
namespace IdentityApi.Url

/-! ## Addresses -/

theorem exists_of_mem_toDigits {b n : Nat} (hb : 1 < b) {c : Char} (h : c ∈ Nat.toDigits b n) :
    ∃ d < b, c = Nat.digitChar d := by
  induction n using Nat.strongRecOn with
  | ind n ih =>
    rw [Nat.toDigits_eq_if hb] at h
    split_ifs at h with hn
    · exact ⟨n, hn, by simpa using h⟩
    · rcases List.mem_append.mp h with h | h
      · exact ih _ (Nat.div_lt_self (by omega) hb) h
      · exact ⟨n % b, Nat.mod_lt _ (by omega), by simpa using h⟩

theorem isAlphanum_of_mem_toDigits {b n : Nat} (hb : 1 < b) (hb' : b ≤ 16) {c : Char}
    (h : c ∈ Nat.toDigits b n) : c.isAlphanum = true := by
  obtain ⟨d, hd, rfl⟩ := exists_of_mem_toDigits hb h
  have hall : ∀ d < 16, (Nat.digitChar d).isAlphanum = true := by decide
  exact hall d (by omega)

/-- Letters, digits and what stands between the parts of an address. -/
def isAddressChar (mark c : Char) : Bool := c.isAlphanum || c == mark

theorem Ipv4.forall_mem_text (n : Nat) : ∀ c ∈ (Ipv4.text n).toList,
    isAddressChar '.' c = true := by
  intro c h
  rw [Ipv4.text, String.toList_intercalate] at h
  rcases of_mem_intercalate (c := '.') h with rfl | ⟨s, hs, h⟩
  · decide
  · rw [List.map_map] at hs
    obtain ⟨m, -, rfl⟩ := List.mem_map.mp hs
    have hm : c ∈ Nat.toDigits 10 m := by simpa using h
    simp [isAddressChar, isAlphanum_of_mem_toDigits (by decide) (by decide) hm]

theorem Ipv6.forall_mem_text (l : List Nat) : ∀ c ∈ (Ipv6.text l).toList,
    isAddressChar ':' c = true := by
  have hjoined : ∀ {k : List Nat}, ∀ c ∈ (joined k).toList, isAddressChar ':' c = true := by
    intro k c h
    rw [joined, String.toList_intercalate] at h
    rcases of_mem_intercalate (c := ':') h with rfl | ⟨s, hs, h⟩
    · decide
    · rw [List.map_map] at hs
      obtain ⟨m, -, rfl⟩ := List.mem_map.mp hs
      have hm : c ∈ Nat.toDigits 16 m := by simpa [pieceText] using h
      simp [isAddressChar, isAlphanum_of_mem_toDigits (by decide) (by decide) hm]
  intro c h
  unfold text at h
  dsimp only at h
  split_ifs at h
  · exact hjoined c h
  · simp only [String.toList_append, List.mem_append] at h
    rcases h with (h | h) | h
    · exact hjoined c h
    · have hcolon : c = ':' := by simpa using h
      rw [hcolon]
      decide
    · exact hjoined c h

/-! ## Hosts -/

theorem Domain.isForbidden_of_mem {s name : List Char} (h : toAscii? s = some name) :
    ∀ c ∈ name, isForbidden c = false := by
  unfold toAscii? at h
  cases hl : labels? s with
  | none => simp [hl] at h
  | some labels =>
    simp only [hl, Option.bind_eq_bind, Option.bind_some] at h
    split_ifs at h with hfree
    cases h
    rw [Bool.or_eq_true, not_or, List.any_eq_true] at hfree
    intro c hc
    rw [Bool.eq_false_iff]
    exact fun hf => hfree.1 ⟨c, hc, hf⟩

namespace Host

theorem isHostText_ofIpv6 {s : List Char} {host : String} (h : ofIpv6 s = .ok host) :
    IsHostText host := by
  unfold ofIpv6 at h
  split at h
  · rename_i pieces _
    cases h
    have hmarks : Avoids ['/', '?', '#', '@', ']'] (Ipv6.text pieces) :=
      avoids_of_forall (Ipv6.forall_mem_text pieces) (by decide)
    refine ⟨fun c hc => ?_, Or.inr ⟨_, fun c hc => hmarks c ?_, rfl⟩⟩
    · have hbody := hmarks c (List.mem_append_left [']'] hc)
      have hopen : c ≠ '[' := by rintro rfl; revert hc; decide
      have hclose : c ≠ ']' := by rintro rfl; revert hc; decide
      simp [hbody, hopen, hclose]
    · exact List.mem_append_right ['/', '?', '#', '@'] hc
  · cases h

theorem isHostText_of_avoids {host : String} (h : Avoids ['/', '?', '#', '@', ':', '['] host) :
    IsHostText host :=
  ⟨fun c hc => h c (List.mem_append_left [':', '['] hc),
    Or.inl fun c hc => h c (List.mem_append_right ['/', '?', '#', '@'] hc)⟩

theorem isHostText_empty : IsHostText "" := isHostText_of_avoids (by simp [Avoids])

theorem isHostText_ofName {s : List Char} {host : String} (h : ofName s = .ok host) :
    IsHostText host := by
  apply isHostText_of_avoids
  unfold ofName at h
  split at h
  · cases h
  · cases h
  · rename_i name _ hname
    split_ifs at h
    · split at h
      · cases h
        exact avoids_of_forall (Ipv4.forall_mem_text _) (by decide)
      · cases h
    · cases h
      obtain ⟨t, -, ht⟩ := Option.bind_eq_some_iff.mp hname
      refine avoids_of_forall (p := fun c => !Domain.isForbidden c) (fun c hc => ?_) (by decide)
      rw [String.toList_ofList] at hc
      rw [Domain.isForbidden_of_mem ht c hc]
      rfl

theorem isHostText_ofFree {s : List Char} {host : String} (h : ofFree s = .ok host) :
    IsHostText host := by
  apply isHostText_of_avoids
  unfold ofFree at h
  split_ifs at h with hfree
  cases h
  refine avoids_of_forall (p := fun c => !isForbidden c) (fun c hc => ?_) (by decide)
  rw [encoded, String.toList_ofList] at hc
  rcases Percent.of_mem_encode (p := fun c => !isForbidden c) (by decide) hc with ⟨hc, -⟩ | hc
  · have hall := List.any_eq_false.mp (Bool.eq_false_iff.mpr hfree) c hc
    simpa using hall
  · exact hc

theorem isHostText_ofText {special : Bool} {s : List Char} {host : String}
    (h : ofText special s = .ok host) : IsHostText host := by
  unfold ofText at h
  split_ifs at h
  · exact isHostText_ofIpv6 h
  · exact isHostText_ofName h
  · exact isHostText_ofFree h

end Host

end IdentityApi.Url
