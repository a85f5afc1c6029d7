import IdentityApi.Proofs.Url.Joining

/-! # Authorities and their texts

An authority keeps the marks that part a URL out of its parts. So its text can be cut back into the
parts in one way only (`Authority.eq_of_text_eq`).
-/
namespace IdentityApi.Url

/-- None of the marks stands in the text. -/
def Avoids (marks : List Char) (s : String) : Prop := ∀ c ∈ marks, c ∉ s.toList

theorem avoids_of_forall {marks : List Char} {p : Char → Bool} {s : String}
    (h : ∀ c ∈ s.toList, p c = true) (hm : marks.any p = false) : Avoids marks s := by
  intro c hc hs
  exact List.any_eq_false.mp hm c hc (h c hs)

/-- Marks that are encoded themselves do not occur in what is encoded. -/
theorem avoids_encoded (marks : List Char) {keep : Char → Bool}
    (htriples : (marks.all fun c => decide (Percent.HoldsTriples (· != c))) = true)
    (hkeep : marks.any keep = false) (s : List Char) : Avoids marks (encoded keep s) := by
  intro c hc
  rw [encoded, String.toList_ofList]
  refine Percent.not_mem_encode (of_decide_eq_true (List.all_eq_true.mp htriples c hc)) ?_ s
  exact Bool.eq_false_iff.mpr (List.any_eq_false.mp hkeep c hc)

/-- A host: a name without colons and brackets, or something in brackets. -/
def IsHostText (host : String) : Prop :=
  Avoids ['/', '?', '#', '@'] host ∧
    (Avoids [':', '['] host ∨ ∃ body, Avoids [']'] body ∧ host = "[" ++ body ++ "]")

structure Authority.IsPlain (a : Authority) : Prop where
  username : Avoids ['/', '?', '#', '@', ':'] a.username
  password : Avoids ['/', '?', '#', '@', ':'] a.password
  host : IsHostText a.host

/-! ## Cutting in one way -/

/-- Two texts that agree, each cut before its first `a` or at its end, agree in both parts. -/
theorem cut_inj {a : Char} {x y s t : List Char} (hx : a ∉ x) (hy : a ∉ y)
    (hs : ∀ c ∈ s.head?, c = a) (ht : ∀ c ∈ t.head?, c = a) (h : x ++ s = y ++ t) :
    x = y ∧ s = t := by
  induction x generalizing y with
  | nil =>
    cases y with
    | nil => exact ⟨rfl, h⟩
    | cons c y =>
      have hc : c = a := hs c (by rw [List.nil_append] at h; rw [h]; rfl)
      exact absurd (hc ▸ List.mem_cons_self) hy
  | cons c x ih =>
    cases y with
    | nil =>
      have hc : c = a := ht c (by rw [List.nil_append] at h; rw [← h]; rfl)
      exact absurd (hc ▸ List.mem_cons_self) hx
    | cons d y =>
      rw [List.cons_append, List.cons_append, List.cons.injEq] at h
      obtain ⟨hxy, hst⟩ := ih (fun hm => hx (List.mem_cons_of_mem c hm))
        (fun hm => hy (List.mem_cons_of_mem d hm)) h.2
      exact ⟨by rw [h.1, hxy], hst⟩

/-- The case of texts that both hold the character. -/
theorem cut_cons_inj {a : Char} {x y s t : List Char} (hx : a ∉ x) (hy : a ∉ y)
    (h : x ++ a :: s = y ++ a :: t) : x = y ∧ s = t := by
  obtain ⟨hxy, hst⟩ := cut_inj hx hy (by simp) (by simp) h
  exact ⟨hxy, (List.cons.inj hst).2⟩

/-- Segments behind slashes. -/
theorem flatMap_slash_inj {l m : List String} (hl : ∀ s ∈ l, '/' ∉ s.toList)
    (hm : ∀ s ∈ m, '/' ∉ s.toList)
    (h : l.flatMap (fun s => '/' :: s.toList) = m.flatMap (fun s => '/' :: s.toList)) : l = m := by
  have hhead : ∀ k : List String, ∀ c ∈ (k.flatMap fun s => '/' :: s.toList).head?, c = '/' := by
    intro k
    cases k <;> simp
  induction l generalizing m with
  | nil =>
    cases m with
    | nil => rfl
    | cons t m => simp at h
  | cons s l ih =>
    cases m with
    | nil => simp at h
    | cons t m =>
      rw [List.flatMap_cons, List.flatMap_cons, List.cons_append, List.cons_append,
        List.cons.injEq] at h
      obtain ⟨hst, hrest⟩ := cut_inj (hl s List.mem_cons_self) (hm t List.mem_cons_self) (hhead l)
        (hhead m) h.2
      rw [String.toList_inj.mp hst, ih (fun u hu => hl u (List.mem_cons_of_mem s hu))
        (fun u hu => hm u (List.mem_cons_of_mem t hu)) hrest]

/-! ## Authorities -/

namespace Authority

theorem isDigit_of_mem_portText {a : Authority} {c : Char} (h : c ∈ a.portText.toList) :
    c = ':' ∨ c.isDigit = true := by
  unfold portText at h
  cases hn : a.portNumber with
  | none => simp [hn] at h
  | some n =>
    rw [hn] at h
    simp only [String.toList_append, List.mem_append, Nat.toString_eq_ofList_toDigits,
      String.toList_ofList] at h
    rcases h with h | h
    · exact Or.inl (by simpa using h)
    · exact Or.inr (Nat.isDigit_of_mem_toDigits (by decide) (by decide) h)

theorem not_mem_portText (a : Authority) {c : Char} (hcolon : c ≠ ':')
    (hdigit : c.isDigit = false) : c ∉ a.portText.toList := by
  intro h
  rcases isDigit_of_mem_portText h with h | h
  · exact hcolon h
  · rw [hdigit] at h
    cases h

theorem head?_portText (a : Authority) : ∀ c ∈ a.portText.toList.head?, c = ':' := by
  unfold portText
  cases a.portNumber <;> simp

theorem portNumber_eq {a b : Authority} (h : a.portText.toList = b.portText.toList) :
    a.portNumber = b.portNumber := by
  unfold portText at h
  cases hm : a.portNumber with
  | none =>
    cases hn : b.portNumber with
    | none => rfl
    | some n => simp [hm, hn] at h
  | some m =>
    cases hn : b.portNumber with
    | none => simp [hm, hn] at h
    | some n =>
      have hdigits : Nat.toDigits 10 m = Nat.toDigits 10 n := by simpa [hm, hn] using h
      rw [← Nat.ofDigitChars_ten_toDigits (n := m), hdigits, Nat.ofDigitChars_ten_toDigits]

/-- A host and a port can be told apart. -/
theorem host_eq {a b : Authority} (ha : IsHostText a.host) (hb : IsHostText b.host)
    (h : a.host.toList ++ a.portText.toList = b.host.toList ++ b.portText.toList) :
    a.host = b.host ∧ a.portNumber = b.portNumber := by
  have hopen : ∀ {c d : Authority} {body : String}, Avoids [':', '['] c.host →
      d.host = "[" ++ body ++ "]" →
      c.host.toList ++ c.portText.toList ≠ d.host.toList ++ d.portText.toList := by
    intro c d body hc hd he
    have hfront : '[' ∈ c.host.toList ++ c.portText.toList := by rw [he, hd]; simp
    rcases List.mem_append.mp hfront with hm | hm
    · exact hc '[' (by simp) hm
    · exact not_mem_portText c (by decide) (by decide) hm
  rcases ha.2 with hfree | ⟨x, hx, hax⟩
  · rcases hb.2 with hname | ⟨y, -, hby⟩
    · obtain ⟨hhost, hport⟩ := cut_inj (hfree ':' (by simp)) (hname ':' (by simp))
        (head?_portText a) (head?_portText b) h
      exact ⟨String.toList_inj.mp hhost, portNumber_eq hport⟩
    · exact absurd h (hopen hfree hby)
  · rcases hb.2 with hfree | ⟨y, hy, hby⟩
    · exact absurd h.symm (hopen hfree hax)
    · have h' : x.toList ++ ']' :: a.portText.toList = y.toList ++ ']' :: b.portText.toList := by
        simpa [hax, hby] using h
      obtain ⟨hxy, hport⟩ := cut_cons_inj (hx ']' (by simp)) (hy ']' (by simp)) h'
      exact ⟨by rw [hax, hby, String.toList_inj.mp hxy], portNumber_eq hport⟩

/-- What stands before the `@`, if there is one. -/
def accountText (a : Authority) : String :=
  if a.password = "" then a.username else a.username ++ ":" ++ a.password

theorem credentials_eq (a : Authority) :
    a.credentials = if a.username = "" ∧ a.password = "" then "" else a.accountText ++ "@" := by
  unfold credentials accountText
  split_ifs <;> rfl

theorem not_mem_accountText {a : Authority} (h : a.IsPlain) {c : Char}
    (hc : c ∈ ['/', '?', '#', '@']) : c ∉ a.accountText.toList := by
  have huser := h.username c (List.mem_append_left [':'] hc)
  have hpass := h.password c (List.mem_append_left [':'] hc)
  have hcolon : c ≠ ':' := by rintro rfl; revert hc; decide
  unfold accountText
  split_ifs
  · exact huser
  · simp [huser, hpass, hcolon]

theorem account_eq {a b : Authority} (ha : a.IsPlain) (hb : b.IsPlain)
    (h : a.accountText = b.accountText) : a.username = b.username ∧ a.password = b.password := by
  have hview : ∀ c : Authority, c.accountText.toList = c.username.toList ++
      (if c.password = "" then [] else ':' :: c.password.toList) := by
    intro c
    unfold accountText
    split_ifs <;> simp
  have hhead : ∀ c : Authority,
      ∀ d ∈ (if c.password = "" then [] else ':' :: c.password.toList).head?, d = ':' := by
    intro c
    split_ifs <;> simp
  have htext := String.toList_inj.mpr h
  rw [hview a, hview b] at htext
  obtain ⟨huser, hpass⟩ := cut_inj (ha.username ':' (by simp)) (hb.username ':' (by simp)) (hhead a)
    (hhead b) htext
  refine ⟨String.toList_inj.mp huser, ?_⟩
  split_ifs at hpass with hpa hpb hpb
  · rw [hpa, hpb]
  · exact String.toList_inj.mp (List.cons.inj hpass).2

theorem not_mem_hostPort {a : Authority} (h : a.IsPlain) {c : Char}
    (hc : c ∈ ['/', '?', '#', '@']) : c ∉ a.host.toList ++ a.portText.toList := by
  have hport : c ∉ a.portText.toList := by
    simp only [List.mem_cons, List.not_mem_nil, or_false] at hc
    rcases hc with rfl | rfl | rfl | rfl <;> exact not_mem_portText a (by decide) (by decide)
  simpa [hport] using h.host.1 c hc

theorem not_mem_text {a : Authority} (h : a.IsPlain) {c : Char} (hc : c ∈ ['/', '?', '#']) :
    c ∉ a.text.toList := by
  have hc' : c ∈ ['/', '?', '#', '@'] := List.mem_append_left ['@'] hc
  have hat : c ≠ '@' := by rintro rfl; revert hc; decide
  have haccount : c ∉ a.credentials.toList := by
    rw [credentials_eq]
    split_ifs
    · simp
    · simp [not_mem_accountText h hc', hat]
  have := not_mem_hostPort h hc'
  simp only [text, String.toList_append, List.mem_append] at this ⊢
  rintro ((hm | hm) | hm)
  · exact haccount hm
  · exact this (Or.inl hm)
  · exact this (Or.inr hm)

/-- The text of an authority tells its parts. -/
theorem eq_of_text_eq {a b : Authority} (ha : a.IsPlain) (hb : b.IsPlain) (h : a.text = b.text) :
    a = b := by
  have hview : ∀ c : Authority, c.text.toList =
      (if c.username = "" ∧ c.password = "" then [] else c.accountText.toList ++ ['@']) ++
        (c.host.toList ++ c.portText.toList) := by
    intro c
    rw [text, credentials_eq]
    split_ifs <;> simp
  have hat : ∀ {c : Authority}, c.IsPlain → '@' ∉ c.host.toList ++ c.portText.toList :=
    fun hc => not_mem_hostPort hc (by simp)
  have hfree : ∀ {c : Authority}, c.IsPlain → '@' ∉ c.accountText.toList :=
    fun hc => not_mem_accountText hc (by simp)
  have htext := String.toList_inj.mpr h
  rw [hview a, hview b] at htext
  obtain ⟨⟨huser, hpass⟩, hhost, hport⟩ :
      (a.username = b.username ∧ a.password = b.password) ∧
        a.host = b.host ∧ a.portNumber = b.portNumber := by
    split_ifs at htext with hna hnb hnb
    · exact ⟨⟨hna.1.trans hnb.1.symm, hna.2.trans hnb.2.symm⟩, host_eq ha.host hb.host htext⟩
    · refine absurd ?_ (hat ha)
      rw [List.nil_append] at htext
      simp [htext]
    · refine absurd ?_ (hat hb)
      rw [List.nil_append] at htext
      simp [← htext]
    · simp only [List.append_assoc, List.singleton_append] at htext
      obtain ⟨haccount, hrest⟩ := cut_cons_inj (hfree ha) (hfree hb) htext
      exact ⟨account_eq ha hb (String.toList_inj.mp haccount), host_eq ha.host hb.host hrest⟩
  cases a
  cases b
  simp_all

end Authority

end IdentityApi.Url
