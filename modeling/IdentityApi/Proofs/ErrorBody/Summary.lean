import IdentityApi.Proofs.ErrorBody.Splitting

/-! # Summaries say all messages

An object whose members are lists of messages is an error body unless its detail or its code is such
a list, and then the summary says every message (`ErrorBody.summary_of_messages`).
-/
namespace IdentityApi.ErrorBody

open Json (Value IsObjectText)

/-! ## Parts of texts -/

theorem mem_intersperse {α : Type} {x : α} (sep : α) {l : List α} (h : x ∈ l) :
    x ∈ l.intersperse sep := by
  induction l with
  | nil => cases h
  | cons y l ih =>
    cases l with
    | nil => simpa using h
    | cons z l =>
      rw [List.intersperse_cons_cons]
      rcases List.mem_cons.mp h with rfl | h
      · exact List.mem_cons_self
      · exact List.mem_cons_of_mem _ (List.mem_cons_of_mem _ (ih h))

theorem infix_intercalate {s : String} (sep : String) {parts : List String} (h : s ∈ parts) :
    s.toList <:+: (sep.intercalate parts).toList := by
  rw [String.toList_intercalate]
  exact List.infix_of_mem_flatten (mem_intersperse _ (List.mem_map_of_mem h))

variable {o : KeyMap Value} {b : ErrorBody} {name message : String} {messages : List String}

theorem infix_fieldText (h : message ∈ messages) :
    message.toList <:+: (fieldText (.array (messages.map .string))).toList := by
  refine infix_intercalate _ ?_
  rw [List.map_map]
  exact List.mem_map.mpr ⟨message, h, rfl⟩

/-- Without a detail, the summary says the messages of the whole request and of all fields. -/
theorem infix_summary (hdetail : b.detail = none) {part : String}
    (h : part ∈
      b.nonFieldErrors ++ b.fieldErrors.pairs.map fun (name, v) => name ++ ": " ++ fieldText v) :
    part.toList <:+: b.summary.toList := by
  rw [summary, hdetail]
  exact infix_intercalate _ h

/-! ## Lists of messages -/

/-- Every member is a list of messages; the code may be a text instead. -/
def HoldsMessages (o : KeyMap Value) : Prop :=
  ∀ name v, o.get? name = some v →
    (∃ messages : List String, v = .array (messages.map .string)) ∨
      name = "code" ∧ ∃ code, v = .string code

theorem IsText.not_array {vs : List Value} {t : Option String} : ¬ IsText (some (.array vs)) t :=
  nofun

theorem AreTexts.eq_of_array {l : List String}
    (h : AreTexts (some (.array (messages.map .string))) l) : l = messages := by
  have hread := textsOf?_eq_some_iff.mpr h
  have hsame : (messages.map Value.string).mapM asText? = some messages :=
    mapM_asText?_eq_some_iff.mpr rfl
  exact Option.some.inj (hread.symm.trans hsame)

/-- Where a list of messages may stand, it is read; nothing else may. -/
theorem HoldsMessages.exists_areTexts (h : HoldsMessages o) (name : String)
    (hname : name ≠ "code") : ∃ messages, AreTexts (o.get? name) messages := by
  cases hv : o.get? name with
  | none => exact ⟨[], .missing⟩
  | some v =>
    rcases h name v hv with ⟨messages, rfl⟩ | ⟨hcode, -⟩
    · exact ⟨messages, .texts messages⟩
    · exact absurd hcode hname

theorem HoldsMessages.get?_detail (h : HoldsMessages o) {t : Option String}
    (ht : IsText (o.get? "detail") t) : o.get? "detail" = none ∧ t = none := by
  obtain ⟨messages, htexts⟩ := h.exists_areTexts "detail" (by decide)
  generalize o.get? "detail" = x at ht htexts
  cases htexts with
  | missing =>
    cases ht
    exact ⟨rfl, rfl⟩
  | texts => exact absurd ht IsText.not_array

/-- Such an object is an error body unless its detail or its code is a list. -/
theorem HoldsMessages.exists_isSplit_iff (h : HoldsMessages o) :
    (∃ b, IsSplit o b) ↔ o.get? "detail" = none ∧ ∀ vs, o.get? "code" ≠ some (.array vs) := by
  constructor
  · rintro ⟨b, hb⟩
    refine ⟨(h.get?_detail hb.detail).1, fun vs hvs => ?_⟩
    have hcode := hb.code
    rw [hvs] at hcode
    exact IsText.not_array hcode
  · rintro ⟨hdetail, hcode⟩
    obtain ⟨texts, htexts⟩ := h.exists_areTexts "non_field_errors" (by decide)
    obtain ⟨code, hcode⟩ : ∃ code, IsText (o.get? "code") code := by
      cases hv : o.get? "code" with
      | none => exact ⟨none, .missing⟩
      | some v =>
        rcases h "code" v hv with ⟨messages, rfl⟩ | ⟨-, code, rfl⟩
        · exact absurd hv (hcode _)
        · exact ⟨some code, .text code⟩
    exact ⟨⟨none, code, texts, o.filter fun (k, _) => !ownNames.contains k⟩,
      hdetail ▸ .missing, hcode, htexts, fun _ _ => get?_fields_eq_some_iff⟩

/-- The summary says the messages of every member. -/
theorem IsSplit.infix_summary (hb : IsSplit o b) (h : HoldsMessages o)
    (hname : o.get? name = some (.array (messages.map .string))) (hmessage : message ∈ messages) :
    message.toList <:+: b.summary.toList := by
  obtain ⟨hdetail, hnone⟩ := h.get?_detail hb.detail
  by_cases hown : name ∈ ownNames
  -- of the own members only the messages for the whole request can be a list
  · simp only [ownNames, List.mem_cons, List.not_mem_nil, or_false] at hown
    rcases hown with rfl | rfl | rfl
    · rw [hdetail] at hname
      cases hname
    · have hcode := hb.code
      rw [hname] at hcode
      exact absurd hcode IsText.not_array
    · have htexts := hb.nonFieldErrors
      rw [hname] at htexts
      rw [← htexts.eq_of_array] at hmessage
      exact ErrorBody.infix_summary hnone (List.mem_append_left _ hmessage)
  · have hfield := (hb.fieldErrors name _).mpr ⟨hown, hname⟩
    have hmem := KeyMap.get?_eq_some_iff.mp hfield
    refine (infix_fieldText hmessage).trans (List.IsInfix.trans ?_ (ErrorBody.infix_summary hnone
      (List.mem_append_right _ (List.mem_map_of_mem hmem))))
    rw [String.toList_append]
    exact (List.suffix_append _ _).isInfix

/-! ## Texts -/

/-- The text of an object with messages is an error body unless the detail or the code is a list,
and then its summary says every message; of several members with one name the last counts. -/
theorem summary_of_messages {s : String} {ms : List (String × Value)} (hs : IsObjectText s ms)
    (h : HoldsMessages (KeyMap.ofPairs ms)) :
    let o := KeyMap.ofPairs ms
    ((ofText? s).isSome = true ↔
      o.get? "detail" = none ∧ ∀ vs, o.get? "code" ≠ some (.array vs)) ∧
    ∀ b, ofText? s = some b → ∀ (name : String) (messages : List String),
      o.get? name = some (.array (messages.map .string)) →
      ∀ message ∈ messages, message.toList <:+: b.summary.toList := by
  intro o
  have hsplit : ∀ b, ofText? s = some b ↔ IsSplit o b := by
    rw [ofText?_of_isObjectText hs]
    exact fun b => ofMembers?_eq_some_iff
  refine ⟨?_, fun b hb name messages hname message hmessage =>
    ((hsplit b).mp hb).infix_summary h hname hmessage⟩
  rw [Option.isSome_iff_exists, ← h.exists_isSplit_iff]
  exact exists_congr hsplit

theorem holdsMessages_singleton (name : String) (messages : List String) :
    HoldsMessages (KeyMap.ofPairs [(name, .array (messages.map .string))]) := by
  intro k v hv
  obtain ⟨-, rfl⟩ := Prod.mk.inj (List.mem_singleton.mp (KeyMap.get?_eq_some_iff.mp hv))
  exact Or.inl ⟨messages, rfl⟩

/-- The same message under two names: as a field it is said, as the detail nothing is read. -/
theorem summary_of_two_names :
    (∃ b, ofText? "\x7b\"name\": [\"Too short.\"]\x7d" = some b ∧
      "Too short.".toList <:+: b.summary.toList) ∧
    ofText? "\x7b\"detail\": [\"Too short.\"]\x7d" = none := by
  have hname : IsObjectText "\x7b\"name\": [\"Too short.\"]\x7d"
      [("name", .array (["Too short."].map .string))] :=
    ⟨[(.ok "name", .array [.string (.ok "Too short.")] .closed)], rfl, rfl⟩
  have hdetail : IsObjectText "\x7b\"detail\": [\"Too short.\"]\x7d"
      [("detail", .array (["Too short."].map .string))] :=
    ⟨[(.ok "detail", .array [.string (.ok "Too short.")] .closed)], rfl, rfl⟩
  constructor
  · obtain ⟨hsome, hsays⟩ := summary_of_messages hname (holdsMessages_singleton "name" _)
    have hread := hsome.mpr ⟨rfl, fun vs hvs => by cases hvs⟩
    obtain ⟨b, hb⟩ := Option.isSome_iff_exists.mp hread
    exact ⟨b, hb, hsays b hb "name" ["Too short."] rfl _ List.mem_cons_self⟩
  · obtain ⟨hsome, -⟩ := summary_of_messages hdetail (holdsMessages_singleton "detail" _)
    by_contra hne
    obtain ⟨habsent, -⟩ := hsome.mp (Option.isSome_iff_ne_none.mpr hne)
    cases habsent

end IdentityApi.ErrorBody
