import IdentityApi.Proofs.Query

/-! # Reading a query back

A query is filled by a sequence of additions. Each addition puts the texts that it leaves behind
those that are there (`entries_add`), so the entries of a whole sequence are what its additions
leave, one after the other (`entries_ofAdditions`). A reader that cuts the text at `&`, each part at
its first `=`, and decodes the values finds these entries again, whether or not it takes `+` for a
blank (`read?_text_ofAdditions`).
-/
namespace IdentityApi.Query

/-! ## Additions -/

/-- One call that adds to a query: a value that may be absent, or several values under one key. -/
inductive Addition : Type 1 where
  | one {α : Type} [QueryValue α] (key : String) (value : Option α)
  | several {α : Type} [QueryValue α] (key : String) (values : List α)

namespace Addition

def key : Addition → String
  | one key _ => key
  | several key _ => key

/-- The texts of the values that are present. -/
def texts : Addition → List String
  | one _ value => value.toList.map QueryValue.text
  | several _ values => values.map QueryValue.text

/-- What is to be found in the query: each text that is not empty, under the key. -/
def listed (a : Addition) : List (String × String) :=
  (a.texts.filter (· ≠ "")).map fun text => (a.key, text)

end Addition

def add (q : Query) : Addition → Query
  | @Addition.one _ _ key value => q.push key value
  | @Addition.several _ _ key values => q.pushAll key values

/-- The query that a sequence of additions makes. -/
def ofAdditions (l : List Addition) : Query := l.foldl add empty

theorem entries_add (q : Query) (a : Addition) : (q.add a).entries = q.entries ++ a.listed := by
  cases a with
  | one key value =>
    rw [add, entries_push, entry_eq]
    rfl
  | several key values =>
    rw [add, entries_pushAll, entryAll_eq]
    rfl

theorem entries_foldl_add (l : List Addition) (q : Query) :
    (l.foldl add q).entries = q.entries ++ l.flatMap Addition.listed := by
  induction l generalizing q with
  | nil => simp
  | cons a l ih => simp [ih, entries_add]

theorem entries_ofAdditions (l : List Addition) :
    (ofAdditions l).entries = l.flatMap Addition.listed := by
  have h := entries_foldl_add l empty
  rwa [empty, List.nil_append] at h

theorem mem_listed {a : Addition} {e : String × String} (h : e ∈ a.listed) :
    e.1 = a.key ∧ e.2 ≠ "" := by
  obtain ⟨text, htext, rfl⟩ := List.mem_map.mp h
  exact ⟨rfl, of_decide_eq_true (List.mem_filter.mp htext).2⟩

/-! ## A reader -/

/-- The key and the value of a part, cut at its first `=`. The value is decoded; where `+` is taken
for a blank, this comes first. -/
def readPart? (plusIsBlank : Bool) (part : List Char) : Option (String × String) :=
  let value := (part.dropWhile (· != '=')).drop 1
  let value := if plusIsBlank then value.map fun c => if c = '+' then ' ' else c else value
  (Utf8.decode? (Percent.decode value)).map fun text =>
    (.ofList (part.takeWhile (· != '=')), .ofList text)

/-- The parts between `&`; an empty text has none. -/
def read? (plusIsBlank : Bool) (text : String) : Option (List (String × String)) :=
  if text = "" then some [] else (splitAt '&' text.toList).mapM (readPart? plusIsBlank)

theorem readPart?_entryText (plusIsBlank : Bool) {e : String × String} (h : IsPlainKey e.1) :
    readPart? plusIsBlank (entryText e).toList = some e := by
  have hkey : ∀ c ∈ e.1.toList, (c != '=') = true := by
    intro c hc
    rw [bne_iff_ne]
    rintro rfl
    exact h.1 hc
  have hplus : (Percent.encode Percent.isUnreserved e.2.toList).map
      (fun c => if c = '+' then ' ' else c) = Percent.encode Percent.isUnreserved e.2.toList := by
    conv_rhs => rw [← List.map_id (Percent.encode Percent.isUnreserved e.2.toList)]
    apply List.map_congr_left
    intro c hc
    apply if_neg
    rintro rfl
    exact Percent.not_mem_encode (by decide) (by decide) _ hc
  have hvalue : Utf8.decode? (Percent.decode (Percent.encode Percent.isUnreserved e.2.toList)) =
      some e.2.toList := by
    rw [Percent.decode_encode (by decide), Utf8.decode?_encode]
  unfold readPart?
  rw [toList_entryText, List.takeWhile_append_of_pos hkey, List.dropWhile_append_of_pos hkey]
  cases plusIsBlank <;> simp [hplus, hvalue]

theorem mapM_map_of_forall {α β : Type} {f : α → β} {g : β → Option α} {l : List α}
    (h : ∀ a ∈ l, g (f a) = some a) : (l.map f).mapM g = some l := by
  induction l with
  | nil => rfl
  | cons a l ih =>
    rw [List.forall_mem_cons] at h
    simp [h.1, ih h.2]

theorem text_eq_empty_iff (q : Query) : q.text = "" ↔ q.isEmpty = true := by
  rw [isEmpty, List.isEmpty_iff]
  constructor
  · intro h
    cases hentries : q.entries with
    | nil => rfl
    | cons e l =>
      have htext : q.text.toList = (entryText e).toList ++
          (l.map fun e => (entryText e).toList).flatMap ('&' :: ·) := by
        rw [text, String.toList_intercalate, List.map_map, hentries, List.map_cons]
        exact intercalate_eq_append_flatMap '&' _ _
      rw [h] at htext
      have hempty := (List.append_eq_nil_iff.mp htext.symm).1
      exact absurd hempty (entryText_ne_nil e)
  · intro h
    rw [text, h]
    rfl

/-- The text of a query with plain keys reads as its entries. -/
theorem read?_text (plusIsBlank : Bool) {q : Query} (h : ∀ e ∈ q.entries, IsPlainKey e.1) :
    read? plusIsBlank q.text = some q.entries := by
  unfold read?
  by_cases hnil : q.entries = []
  · have hempty : q.text = "" := (text_eq_empty_iff q).mpr (List.isEmpty_iff.mpr hnil)
    rw [if_pos hempty, hnil]
  · have htext : q.text ≠ "" := by
      intro hempty
      exact hnil (List.isEmpty_iff.mp ((text_eq_empty_iff q).mp hempty))
    rw [if_neg htext, splitAt_text h, if_neg hnil]
    apply mapM_map_of_forall
    intro e he
    exact readPart?_entryText plusIsBlank (h e he)

theorem get?_eq_find? (q : Query) (key : String) :
    q.get? key = (q.entries.find? (·.1 = key)).map Prod.snd := by
  rw [get?]
  induction q.entries with
  | nil => rfl
  | cons e l ih =>
    rw [List.lookup_cons, List.find?_cons]
    by_cases hkey : e.1 = key
    · simp [hkey]
    · have hkey' : (key == e.1) = false := beq_eq_false_iff_ne.mpr (Ne.symm hkey)
      simp [hkey, hkey', ih]

/-! ## What a sequence of additions makes -/

theorem isPlainKey_of_word {key : String} (h : ∀ c ∈ key.toList, c.isAlphanum = true ∨ c = '_') :
    IsPlainKey key := by
  constructor
  · intro hc
    exact absurd (h _ hc) (by decide)
  · intro hc
    exact absurd (h _ hc) (by decide)

/-- A query that was filled under words for keys. Its text reads as what the additions leave, in
their order; there are as many entries, none with an empty value; only a query without entries has
the empty text; and a key gives the first value that was added under it. -/
theorem read?_text_ofAdditions (l : List Addition)
    (hk : ∀ a ∈ l, ∀ c ∈ a.key.toList, c.isAlphanum = true ∨ c = '_') :
    (∀ plusIsBlank, read? plusIsBlank (ofAdditions l).text = some (l.flatMap Addition.listed)) ∧
      (ofAdditions l).length = (l.flatMap Addition.listed).length ∧
      ((ofAdditions l).text = "" ↔ (ofAdditions l).isEmpty = true) ∧
      (∀ e ∈ (ofAdditions l).entries, e.2 ≠ "") ∧
      ∀ key, (ofAdditions l).get? key =
        ((l.flatMap Addition.listed).find? (·.1 = key)).map Prod.snd := by
  have hentries := entries_ofAdditions l
  refine ⟨?_, ?_, text_eq_empty_iff _, ?_, ?_⟩
  · intro plusIsBlank
    rw [← hentries]
    apply read?_text
    intro e he
    rw [hentries] at he
    obtain ⟨a, ha, he⟩ := List.mem_flatMap.mp he
    rw [(mem_listed he).1]
    exact isPlainKey_of_word (hk a ha)
  · rw [length, hentries]
  · intro e he
    rw [hentries] at he
    obtain ⟨a, -, he⟩ := List.mem_flatMap.mp he
    exact (mem_listed he).2
  · intro key
    rw [get?_eq_find?, hentries]

/-- Marks in a value, an empty and an absent one, and values that are no texts. -/
theorem read?_text_of_mixedAdditions :
    let l : List Addition := [.one "search" (some "a&b=c+d %é"),
      .several "groups_by_name" ["x", "", "y"], .one "user" (none : Option Int64),
      .one "is_active" (some true), .one "page" (some (-3 : Int))]
    (∀ a ∈ l, ∀ c ∈ a.key.toList, c.isAlphanum = true ∨ c = '_') ∧
      ∀ plusIsBlank, read? plusIsBlank (ofAdditions l).text =
        some [("search", "a&b=c+d %é"), ("groups_by_name", "x"), ("groups_by_name", "y"),
          ("is_active", "true"), ("page", "-3")] := by
  intro l
  have hk : ∀ a ∈ l, ∀ c ∈ a.key.toList, c.isAlphanum = true ∨ c = '_' := by
    intro a ha c hc
    have hwords : (l.all fun a => a.key.toList.all fun c => c.isAlphanum || c == '_') = true := by
      rfl
    simpa using List.all_eq_true.mp (List.all_eq_true.mp hwords a ha) c hc
  have hlisted : l.flatMap Addition.listed =
      [("search", "a&b=c+d %é"), ("groups_by_name", "x"), ("groups_by_name", "y"),
        ("is_active", "true"), ("page", "-3")] := by
    rfl
  refine ⟨hk, ?_⟩
  rw [← hlisted]
  exact (read?_text_ofAdditions l hk).1

end IdentityApi.Query
