import IdentityApi.ErrorBody
import IdentityApi.Proofs.Json.Free

/-! # Error bodies are split without loss

An error body holds the members of an object, three of them apart from the fields
(`ErrorBody.IsSplit`). Written again they are the members of the object but for those that say
nothing, and so the text of an error body without rounded numbers is read as the same error body
(`ErrorBody.ofText?_splits`).
-/
namespace IdentityApi

open Json (Value Tree)

/-! ## Objects -/

namespace Json

/-- The whole text is an object; these are its members in the order of the text. -/
def IsObjectText (s : String) (ms : List (String × Value)) : Prop :=
  ∃ trees, read (octetsOf s) = ⟨.object trees .closed, false⟩ ∧
    Tree.memberValues 126 trees = .ok ms

theorem Tree.exists_of_value_object {t : Tree} {d : Nat} {o : Members}
    (h : t.value (d + 1) = .ok (.object o)) :
    ∃ trees ending ms, t = .object trees ending ∧ memberValues d trees = .ok ms ∧
      o = (KeyMap.ofPairs ms).pairs := by
  cases t with
  | object trees ending =>
    obtain ⟨ms, hms, h⟩ := ok_of_bind h
    obtain ⟨⟨⟩, -, h⟩ := ok_of_bind h
    cases h
    exact ⟨trees, ending, ms, rfl, hms, rfl⟩
  | array items ending =>
    obtain ⟨vs, -, h⟩ := ok_of_bind h
    obtain ⟨⟨⟩, -, h⟩ := ok_of_bind h
    cases h
  | number n =>
    obtain ⟨n, -, h⟩ := ok_of_map h
    cases h
  | string s =>
    obtain ⟨s, -, h⟩ := ok_of_map h
    cases h
  | _ => cases h

/-- The free value of a text is an object if the text is one; of several members with one name it
has the last. -/
theorem Value.ofText?_eq_object_iff {s : String} {o : Members} :
    ofText? s = some (.object o) ↔ ∃ ms, IsObjectText s ms ∧ o = (KeyMap.ofPairs ms).pairs := by
  rw [ofText?_eq_some_iff]
  constructor
  · rintro ⟨hroot, htrailing⟩
    obtain ⟨trees, ending, ms, hobject, hms, ho⟩ := Tree.exists_of_value_object hroot
    have hclosed := isClosed_root (Tree.skip_of_value _ hroot)
    rw [hobject] at hclosed
    obtain ⟨rfl, -⟩ := hclosed
    refine ⟨ms, ⟨trees, ?_, hms⟩, ho⟩
    rw [← hobject, ← htrailing]
  · rintro ⟨ms, ⟨trees, hread, hms⟩, rfl⟩
    have hvalue : (Tree.object trees .closed).value (126 + 1) =
        .ok (.object (KeyMap.ofPairs ms).pairs) := by
      rw [Tree.value, hms]
      rfl
    rw [hread]
    exact ⟨hvalue, rfl⟩

end Json

namespace ErrorBody

open Json (Members IsObjectText)

/-! ## Own members -/

/-- What stands in the place of a text. -/
inductive IsText : Option Value → Option String → Prop
  | missing : IsText none none
  | null : IsText (some .null) none
  | text (s : String) : IsText (some (.string s)) (some s)

/-- What stands in the place of a list of texts. -/
inductive AreTexts : Option Value → List String → Prop
  | missing : AreTexts none []
  | texts (l : List String) : AreTexts (some (.array (l.map .string))) l

theorem textOf?_eq_some_iff {x : Option Value} {t : Option String} :
    textOf? x = some t ↔ IsText x t := by
  constructor
  · intro h
    unfold textOf? at h
    split at h
    · cases h
      exact .missing
    · cases h
      exact .null
    · cases h
      exact .text _
    · cases h
  · rintro (_ | _ | s) <;> rfl

theorem mapM_asText?_eq_some_iff {items : List Value} {l : List String} :
    items.mapM asText? = some l ↔ items = l.map .string := by
  induction items generalizing l with
  | nil => cases l <;> simp
  | cons v items ih =>
    rw [List.mapM_cons, Option.bind_eq_bind, Option.bind_eq_some_iff]
    constructor
    · rintro ⟨s, hs, h⟩
      obtain ⟨rest, hrest, h⟩ := Option.bind_eq_some_iff.mp h
      cases h
      cases v with
      | string s' =>
        cases hs
        rw [ih.mp hrest]
        rfl
      | _ => cases hs
    · intro h
      cases l with
      | nil => cases h
      | cons s l =>
        obtain ⟨rfl, hrest⟩ := List.cons.inj h
        exact ⟨s, rfl, Option.bind_eq_some_iff.mpr ⟨l, ih.mpr hrest, rfl⟩⟩

theorem textsOf?_eq_some_iff {x : Option Value} {l : List String} :
    textsOf? x = some l ↔ AreTexts x l := by
  constructor
  · intro h
    unfold textsOf? at h
    split at h
    · cases h
      exact .missing
    · rw [mapM_asText?_eq_some_iff.mp h]
      exact .texts l
    · cases h
  · rintro (_ | l)
    · rfl
    · exact mapM_asText?_eq_some_iff.mpr rfl

/-- The members of an object are told apart: three of their own, and all others as fields. -/
structure IsSplit (o : KeyMap Value) (b : ErrorBody) : Prop where
  detail : IsText (o.get? "detail") b.detail
  code : IsText (o.get? "code") b.code
  nonFieldErrors : AreTexts (o.get? "non_field_errors") b.nonFieldErrors
  fieldErrors : ∀ key v, b.fieldErrors.get? key = some v ↔ key ∉ ownNames ∧ o.get? key = some v

theorem get?_fields_eq_some_iff {o : KeyMap Value} {key : String} {v : Value} :
    KeyMap.get? key (o.filter fun (k, _) => !ownNames.contains k) = some v ↔
      key ∉ ownNames ∧ o.get? key = some v := by
  rw [KeyMap.get?_filter, Option.filter_eq_some_iff, and_comm]
  simp

theorem ofMembers?_eq_some_iff {o : KeyMap Value} {b : ErrorBody} :
    ofMembers? o = some b ↔ IsSplit o b := by
  simp only [ofMembers?, Option.bind_eq_bind, Option.bind_eq_some_iff, textOf?_eq_some_iff,
    textsOf?_eq_some_iff]
  constructor
  · rintro ⟨detail, hdetail, code, hcode, texts, htexts, h⟩
    cases h
    exact ⟨hdetail, hcode, htexts, fun key v => get?_fields_eq_some_iff⟩
  · intro h
    refine ⟨_, h.detail, _, h.code, _, h.nonFieldErrors, ?_⟩
    have hfields : (o.filter fun (k, _) => !ownNames.contains k) = b.fieldErrors := by
      refine KeyMap.eq_of_mem_iff fun (key, v) => ?_
      rw [← KeyMap.get?_eq_some_iff, get?_fields_eq_some_iff, ← KeyMap.get?_eq_some_iff,
        h.fieldErrors]
    rw [hfields]
    rfl

/-! ## Written members -/

/-- An own member that says nothing. -/
def isIdle : String × Value → Bool
  | (name, .null) => name == "detail" || name == "code"
  | (name, .array []) => name == "non_field_errors"
  | _ => false

/-- The members of an error body as they are written. -/
def members (b : ErrorBody) : Members :=
  Codec.given "detail" .string b.detail ++ Codec.given "code" .string b.code ++
    Codec.given "non_field_errors" (.list .string)
      (if b.nonFieldErrors.isEmpty then none else some b.nonFieldErrors) ++ b.fieldErrors.pairs

theorem toJson_eq (b : ErrorBody) : b.toJson = .object b.members := rfl

theorem mem_given_iff {α : Type} {name : String} {c : Codec α} {a : Option α}
    {p : String × Value} : p ∈ Codec.given name c a ↔ ∃ x, a = some x ∧ p = (name, c.encode x) := by
  cases a with
  | none => simp [Codec.given]
  | some x => simp [Codec.given, Codec.field]

theorem isIdle_eq_false_iff {key : String} {v : Value} : isIdle (key, v) = false ↔
    (key = "detail" ∨ key = "code" → v ≠ .null) ∧ (key = "non_field_errors" → v ≠ .array []) := by
  unfold isIdle
  split
  next name heq =>
    cases heq
    simp
  next name heq =>
    cases heq
    simp
  next hnull harray =>
    simp only [true_iff]
    exact ⟨fun _ hv => hnull key (by rw [hv]), fun _ hv => harray key (by rw [hv])⟩

variable {o : KeyMap Value} {b : ErrorBody} {name key : String} {v : Value}

theorem mem_given_text_iff {t : Option String} (h : IsText (o.get? name) t) :
    (key, v) ∈ Codec.given name .string t ↔ key = name ∧ o.get? key = some v ∧ v ≠ .null := by
  rw [mem_given_iff]
  by_cases hkey : key = name
  · subst hkey
    generalize o.get? key = x at h
    cases h with
    | missing => simp
    | null => simp [eq_comm]
    | text s =>
      have hwritten : (∃ x, some s = some x ∧ (key, v) = (key, Codec.string.encode x)) ↔
          v = .string s := by simp [Codec.string]
      rw [hwritten]
      constructor
      · rintro rfl
        exact ⟨rfl, rfl, nofun⟩
      · rintro ⟨-, ⟨⟩, -⟩
        rfl
  · simp [hkey]

theorem mem_given_texts_iff {l : List String} (h : AreTexts (o.get? name) l) :
    (key, v) ∈ Codec.given name (.list .string) (if l.isEmpty then none else some l) ↔
      key = name ∧ o.get? key = some v ∧ v ≠ .array [] := by
  rw [mem_given_iff]
  by_cases hkey : key = name
  · subst hkey
    generalize o.get? key = x at h
    cases h with
    | missing => simp
    | texts l =>
      have hwritten : (∃ x, (if l.isEmpty then none else some l) = some x ∧
          (key, v) = (key, (Codec.list .string).encode x)) ↔
          l ≠ [] ∧ v = .array (l.map .string) := by
        cases l <;> simp [Codec.list, Codec.string]
      rw [hwritten]
      constructor
      · rintro ⟨hne, rfl⟩
        exact ⟨rfl, rfl, by simpa using hne⟩
      · rintro ⟨-, ⟨⟩, hne⟩
        exact ⟨by simpa using hne, rfl⟩
  · simp [hkey]

/-- Written are all members that say something. -/
theorem mem_members_iff (h : IsSplit o b) {p : String × Value} :
    p ∈ b.members ↔ p ∈ o.pairs ∧ isIdle p = false := by
  obtain ⟨key, v⟩ := p
  rw [members, List.mem_append, List.mem_append, List.mem_append, mem_given_text_iff h.detail,
    mem_given_text_iff h.code, mem_given_texts_iff h.nonFieldErrors,
    ← KeyMap.get?_eq_some_iff, h.fieldErrors, ← KeyMap.get?_eq_some_iff, isIdle_eq_false_iff]
  by_cases hdetail : key = "detail"
  · simp [hdetail, ownNames]
  · by_cases hcode : key = "code"
    · simp [hcode, ownNames]
    · by_cases htexts : key = "non_field_errors"
      · simp [htexts, ownNames]
      · simp [hdetail, hcode, htexts, ownNames]

/-- Written and sorted, the members are those of the object that say something. -/
theorem ofPairs_members (h : IsSplit o b) :
    KeyMap.ofPairs b.members = o.filter fun m => !isIdle m := by
  refine KeyMap.eq_of_mem_iff fun p => ?_
  -- all written members are members of the object, which has one for each name
  have hapart : ∀ p ∈ b.members, ∀ q ∈ b.members, p.1 = q.1 → p = q := by
    rintro ⟨key, v⟩ hp ⟨_, w⟩ hq rfl
    have hv := KeyMap.get?_eq_some_iff.mpr ((mem_members_iff h).mp hp).1
    have hw := KeyMap.get?_eq_some_iff.mpr ((mem_members_iff h).mp hq).1
    rw [Option.some.inj (hv.symm.trans hw)]
  rw [KeyMap.mem_ofPairs_iff hapart, mem_members_iff h, KeyMap.filter, List.mem_filter,
    Bool.not_eq_true']

/-- What is written is read as the object without the members that say nothing. -/
theorem value_toJson (h : IsSplit o b) {depth : Nat}
    (hread : ∀ m ∈ o.pairs, (Tree.ofValue m.2).value depth = .ok m.2) :
    (Tree.ofValue b.toJson).value (depth + 1) =
      .ok (.object (o.filter fun m => !isIdle m).pairs) := by
  rw [toJson_eq, Value.value_ofValue_object fun m hm => hread m ((mem_members_iff h).mp hm).1,
    ofPairs_members h]

theorem isWhole_toJson (h : IsSplit o b) (hwhole : (Value.object o.pairs).IsWhole) : b.toJson.IsWhole :=
  Value.holdWhole_iff.mpr fun m hm =>
    Value.holdWhole_iff.mp hwhole m ((mem_members_iff h).mp hm).1

theorem IsText.filter {x : Option Value} {t : Option String} (h : IsText x t) {f : Value → Bool}
    (hf : ∀ s, f (.string s) = true) : IsText (x.filter f) t := by
  cases h with
  | missing => exact .missing
  | null =>
    rw [Option.filter_some]
    split_ifs
    · exact .null
    · exact .missing
  | text s =>
    rw [Option.filter_some, if_pos (hf s)]
    exact .text s

theorem AreTexts.filter {x : Option Value} {l : List String} (h : AreTexts x l) {f : Value → Bool}
    (hf : ∀ v vs, f (.array (v :: vs)) = true) : AreTexts (x.filter f) l := by
  cases h with
  | missing => exact .missing
  | texts l =>
    rw [Option.filter_some]
    cases l with
    | nil =>
      split_ifs
      · exact .texts []
      · exact .missing
    | cons s l =>
      rw [List.map_cons, if_pos (hf _ _)]
      exact .texts (s :: l)

/-- Members that say nothing can be left out. -/
theorem IsSplit.filter (h : IsSplit o b) :
    IsSplit (o.filter fun m => !isIdle m) b where
  detail := by
    rw [KeyMap.get?_filter]
    exact h.detail.filter fun _ => rfl
  code := by
    rw [KeyMap.get?_filter]
    exact h.code.filter fun _ => rfl
  nonFieldErrors := by
    rw [KeyMap.get?_filter]
    exact h.nonFieldErrors.filter fun _ _ => rfl
  fieldErrors key v := by
    rw [h.fieldErrors, KeyMap.get?_filter, Option.filter_eq_some_iff, Bool.not_eq_true',
      isIdle_eq_false_iff]
    constructor
    · rintro ⟨hkey, hv⟩
      refine ⟨hkey, hv, ?_, ?_⟩
      · rintro (rfl | rfl) <;> simp [ownNames] at hkey
      · rintro rfl
        simp [ownNames] at hkey
    · rintro ⟨hkey, hv, -⟩
      exact ⟨hkey, hv⟩

/-! ## Texts -/

theorem ofText?_of_isObjectText {s : String} {ms : List (String × Value)} (h : IsObjectText s ms) :
    ofText? s = ofMembers? (KeyMap.ofPairs ms) := by
  rw [ofText?, Value.ofText?_eq_object_iff.mpr ⟨ms, h, rfl⟩]
  exact congrArg ofMembers? (KeyMap.ofPairs ms).ofPairs_pairs

theorem exists_isObjectText {s : String} {b : ErrorBody} (h : ofText? s = some b) :
    ∃ ms, IsObjectText s ms := by
  obtain ⟨v, hv, hb⟩ := Option.bind_eq_some_iff.mp h
  cases v with
  | object o =>
    obtain ⟨ms, hms, -⟩ := Value.ofText?_eq_object_iff.mp hv
    exact ⟨ms, hms⟩
  | _ => cases hb

/-- An error body that is read comes from the text of an object, whose members it holds apart; as a
free value it is the object without the members that say nothing. If the object has no binary64
numbers, the text that is written of the error body is read as the same one. A text that is no
object is no error body. -/
theorem ofText?_splits (s : String) :
    (∀ b, ofText? s = some b → ∃ ms, IsObjectText s ms ∧
      let o := KeyMap.ofPairs ms
      (∀ key, o.get? key = ((ms.filter fun m => m.1 == key).getLast?).map Prod.snd) ∧
      IsSplit o b ∧ b.toJson.sorted = .object (o.filter fun m => !isIdle m).pairs ∧
      ((∀ x, ¬ (Value.object o.pairs).HasNumber (.double x)) → ofText? b.toJson.compact = some b)) ∧
    ((∀ ms, ¬ IsObjectText s ms) → ofText? s = none) := by
  constructor
  · intro b hb
    obtain ⟨ms, hms⟩ := exists_isObjectText hb
    rw [ofText?_of_isObjectText hms] at hb
    have hsplit := ofMembers?_eq_some_iff.mp hb
    have hobject := Value.ofText?_eq_object_iff.mpr ⟨ms, hms, rfl⟩
    have ⟨trees, _, hvalues⟩ := hms
    have hread : ∀ m ∈ (KeyMap.ofPairs ms).pairs, (Tree.ofValue m.2).value 126 = .ok m.2 := fun m hm =>
      Value.value_ofValue_of_memberValues trees hvalues m (KeyMap.mem_of_mem_ofPairs hm)
    have hwritten := value_toJson hsplit hread
    refine ⟨ms, hms, fun key => KeyMap.get?_ofPairs ms, hsplit,
      (Value.eq_sorted_of_value _ hwritten).symm, fun hdouble => ?_⟩
    have hwhole := isWhole_toJson hsplit (Value.isWhole_of_ofText? hobject hdouble)
    rw [ofText?, Value.ofText?_compact hwhole hwritten]
    refine (congrArg ofMembers? (KeyMap.ofPairs_pairs _)).trans ?_
    exact ofMembers?_eq_some_iff.mpr hsplit.filter
  · intro h
    rw [Option.eq_none_iff_forall_ne_some]
    intro b hb
    obtain ⟨ms, hms⟩ := exists_isObjectText hb
    exact h ms hms

end ErrorBody

end IdentityApi
