import IdentityApi.Text.Percent
import IdentityApi.Uuid
import Mathlib

/-! # The text of a UUID

The hyphenated form is read back as the UUID it was written for (`ofText?_text`), so it tells the
UUID. It has 36 characters, hexadecimal digits and hyphens.
-/
namespace IdentityApi.Uuid

theorem digit?_digit (d : Fin 16) : digit? (Hex.digit d.val) = some d := by
  rw [digit?, Hex.value?_digit d.val d.isLt]
  simp

theorem digits?_map (ds : List (Fin 16)) :
    digits? (ds.map fun d => Hex.digit d.val) = some ds := by
  induction ds with
  | nil => rfl
  | cons d ds ih => rw [List.map_cons, digits?, digit?_digit, ih]

theorem ofDigits?_digits (u : Uuid) :
    ofDigits? (u.digits.map fun d => Hex.digit d.val) = some u := by
  rw [ofDigits?, digits?_map]
  exact dif_pos u.length_eq

/-- Taking the hyphens out undoes putting them in. -/
theorem unhyphen?_append {a b c d : List Char} (ha : a.length = 8) (hb : b.length = 4)
    (hc : c.length = 4) (hd : d.length = 4) (e : List Char) :
    unhyphen? (a ++ '-' :: b ++ '-' :: c ++ '-' :: d ++ '-' :: e) =
      some (a ++ b ++ c ++ d ++ e) := by
  simp only [unhyphen?, List.append_assoc, List.cons_append, List.take_left' ha,
    List.drop_left' ha, List.take_succ_cons, List.take_zero, List.drop_succ_cons, List.drop_zero,
    List.take_left' hb, List.drop_left' hb, List.take_left' hc, List.drop_left' hc,
    List.take_left' hd, List.drop_left' hd, and_self, if_true]

/-- Five groups of digits make up the whole. -/
theorem groups_eq {α : Type} (l : List α) :
    l.take 8 ++ (l.drop 8).take 4 ++ (l.drop 12).take 4 ++ (l.drop 16).take 4 ++ l.drop 20 = l := by
  have hstep : ∀ n, (l.drop n).take 4 ++ l.drop (n + 4) = l.drop n := by
    intro n
    rw [← List.drop_drop, List.take_append_drop]
  simp only [List.append_assoc]
  rw [hstep 16, hstep 12, hstep 8, List.take_append_drop]

theorem length_chars (u : Uuid) : u.chars.length = 36 := by
  have := u.length_eq
  simp [chars, this]

theorem ofChars?_chars (u : Uuid) : ofChars? u.chars = some u := by
  have hlength := u.length_eq
  have hunhyphen : unhyphen? u.chars = some (u.digits.map fun d => Hex.digit d.val) := by
    rw [chars, unhyphen?_append (by simp [hlength]) (by simp [hlength]) (by simp [hlength])
      (by simp [hlength]), groups_eq]
  rw [ofChars?, if_neg (by rw [length_chars]; decide), if_pos (length_chars u)]
  simp only [Option.bind_some, hunhyphen]
  exact ofDigits?_digits u

theorem ofText?_text (u : Uuid) : ofText? u.text = some u := by
  rw [ofText?, text, String.toList_ofList, ofChars?_chars]

theorem text_inj {u v : Uuid} (h : u.text = v.text) : u = v := by
  have := congrArg ofText? h
  rwa [ofText?_text, ofText?_text, Option.some.injEq] at this

theorem isUnreserved_of_mem_chars {u : Uuid} {c : Char} (h : c ∈ u.chars) :
    Percent.isUnreserved c = true := by
  have hdigit : ∀ d : Fin 16, Percent.isUnreserved (Hex.digit d.val) = true := by decide
  have hhyphen : Percent.isUnreserved '-' = true := by decide
  have hmap : ∀ {ds : List Char}, (∀ d ∈ ds, d ∈ u.digits.map fun d => Hex.digit d.val) →
      c ∈ ds → Percent.isUnreserved c = true := by
    intro ds hds hc
    obtain ⟨d, -, rfl⟩ := List.mem_map.mp (hds c hc)
    exact hdigit d
  simp only [chars, List.mem_append, List.mem_cons] at h
  rcases h with (((h | rfl | h) | rfl | h) | rfl | h) | rfl | h
  · exact hmap (fun _ => List.mem_of_mem_take) h
  · exact hhyphen
  · exact hmap (fun _ hd => List.mem_of_mem_drop (List.mem_of_mem_take hd)) h
  · exact hhyphen
  · exact hmap (fun _ hd => List.mem_of_mem_drop (List.mem_of_mem_take hd)) h
  · exact hhyphen
  · exact hmap (fun _ hd => List.mem_of_mem_drop (List.mem_of_mem_take hd)) h
  · exact hhyphen
  · exact hmap (fun _ => List.mem_of_mem_drop) h

end IdentityApi.Uuid
