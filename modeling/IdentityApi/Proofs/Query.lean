import IdentityApi.Proofs.PathTemplate.Filling
import IdentityApi.Proofs.Url.Regular
import IdentityApi.Proofs.Uuid
import IdentityApi.Query

/-! # What the text of a query tells

A value is written without `=` and `&`. So the text of a query tells its entries (`text_inj`), as
long as the keys hold none of the two marks. Entries that were gathered column by column tell the
columns (`spread_inj`), as long as no two columns share a key.
-/
namespace IdentityApi.Query

open PathTemplate Url

/-! ## From the text to the entries -/

/-- The key is kept apart from what follows it. -/
def IsPlainKey (key : String) : Prop := '=' ∉ key.toList ∧ '&' ∉ key.toList

instance (key : String) : Decidable (IsPlainKey key) :=
  inferInstanceAs (Decidable ('=' ∉ key.toList ∧ '&' ∉ key.toList))

theorem toList_entryText (e : String × String) :
    (entryText e).toList =
      e.1.toList ++ '=' :: Percent.encode Percent.isUnreserved e.2.toList := by
  simp [entryText, Percent.encodeValue]

theorem entryText_ne_nil (e : String × String) : (entryText e).toList ≠ [] := by
  simp [toList_entryText]

theorem and_not_mem_entryText {e : String × String} (h : IsPlainKey e.1) :
    '&' ∉ (entryText e).toList := by
  rw [toList_entryText, List.mem_append, List.mem_cons]
  rintro (hkey | hmark | hvalue)
  · exact h.2 hkey
  · cases hmark
  · exact Percent.not_mem_encode (by decide) (by decide) _ hvalue

theorem entryText_inj {e f : String × String} (he : IsPlainKey e.1) (hf : IsPlainKey f.1)
    (h : (entryText e).toList = (entryText f).toList) : e = f := by
  rw [toList_entryText, toList_entryText] at h
  obtain ⟨hkey, hvalue⟩ := cut_cons_inj he.1 hf.1 h
  exact Prod.ext (String.toList_inj.mp hkey) (String.toList_inj.mp (encode_inj (by decide) hvalue))

/-- Cutting the text at `&` gives the entries back, or one empty part where there are none. -/
theorem splitAt_text {q : Query} (h : ∀ e ∈ q.entries, IsPlainKey e.1) :
    splitAt '&' q.text.toList =
      if q.entries = [] then [[]] else q.entries.map fun e => (entryText e).toList := by
  have htext : q.text.toList = ['&'].intercalate (q.entries.map fun e => (entryText e).toList) := by
    rw [text, String.toList_intercalate, List.map_map]
    rfl
  by_cases hnil : q.entries = []
  · rw [if_pos hnil, htext, hnil]
    rfl
  · rw [if_neg hnil, htext, splitAt_intercalate _ (by simpa using hnil)]
    intro s hs
    obtain ⟨e, he, rfl⟩ := List.mem_map.mp hs
    exact and_not_mem_entryText (h e he)

theorem text_inj {q q' : Query} (h : ∀ e ∈ q.entries, IsPlainKey e.1)
    (h' : ∀ e ∈ q'.entries, IsPlainKey e.1) (ht : q.text = q'.text) :
    q.entries = q'.entries := by
  have hparts := splitAt_text h
  rw [ht, splitAt_text h'] at hparts
  -- no entry is written as the empty text
  have hone : ∀ l : List (String × String), l.map (fun e => (entryText e).toList) ≠ [[]] := by
    intro l hl
    obtain ⟨e, -, he⟩ := List.mem_map.mp (hl ▸ List.mem_singleton_self [])
    exact entryText_ne_nil e he
  split_ifs at hparts with hnil' hnil hnil
  · rw [hnil, hnil']
  · exact absurd hparts.symm (hone _)
  · exact absurd hparts (hone _)
  · exact eq_of_map_eq (fun e he f hf => entryText_inj (h e he) (h' f hf)) hparts.symm

/-! ## From the entries to the columns -/

/-- What stands under each key, entry after entry. -/
def spread (columns : List (String × List String)) : List (String × String) :=
  columns.flatMap fun c => c.2.map fun value => (c.1, value)

theorem fst_of_mem_spread {columns : List (String × List String)} {e : String × String}
    (h : e ∈ spread columns) : e.1 ∈ columns.map Prod.fst := by
  obtain ⟨c, hc, he⟩ := List.mem_flatMap.mp h
  obtain ⟨value, -, rfl⟩ := List.mem_map.mp he
  exact List.mem_map_of_mem hc

/-- The entries of the first column are those with its key. -/
theorem filter_spread {key : String} {values : List String}
    {columns : List (String × List String)} (h : key ∉ columns.map Prod.fst) :
    (spread ((key, values) :: columns)).filter (·.1 == key) = values.map fun v => (key, v) := by
  have hrest : (spread columns).filter (·.1 == key) = [] := by
    refine List.filter_eq_nil_iff.mpr fun e he hkey => h ?_
    exact beq_iff_eq.mp hkey ▸ fst_of_mem_spread he
  have hfirst : (values.map fun v => (key, v)).filter (·.1 == key) =
      values.map fun v => (key, v) := by
    refine List.filter_eq_self.mpr fun e he => ?_
    obtain ⟨v, -, rfl⟩ := List.mem_map.mp he
    exact beq_self_eq_true key
  rw [spread, List.flatMap_cons, List.filter_append, hfirst]
  exact (congrArg _ hrest).trans (List.append_nil _)

theorem spread_inj {columns columns' : List (String × List String)}
    (hkeys : columns.map Prod.fst = columns'.map Prod.fst) (hnodup : (columns.map Prod.fst).Nodup)
    (h : spread columns = spread columns') : columns = columns' := by
  induction columns generalizing columns' with
  | nil => exact (List.map_eq_nil_iff.mp hkeys.symm).symm
  | cons c columns ih =>
    cases columns' with
    | nil => cases hkeys
    | cons c' columns' =>
      obtain ⟨key, values⟩ := c
      obtain ⟨key', values'⟩ := c'
      rw [List.map_cons, List.map_cons, List.cons.injEq] at hkeys
      obtain ⟨rfl, hkeys⟩ : key = key' ∧ _ := hkeys
      rw [List.map_cons, List.nodup_cons] at hnodup
      have hvalues : values = values' := by
        have := congrArg (List.filter (·.1 == key)) h
        rw [filter_spread hnodup.1, filter_spread (hkeys ▸ hnodup.1)] at this
        exact List.map_injective_iff.mpr (Prod.mk_right_injective key) this
      subst hvalues
      rw [ih hkeys hnodup.2 (List.append_cancel_left h)]

/-! ## From the columns to the values -/

variable {α : Type} [QueryValue α]

/-- Values leave the texts that are not empty. -/
def shownAll (values : List α) : List String := (values.map QueryValue.text).filter (· ≠ "")

def shown (value : Option α) : List String := shownAll value.toList

theorem entryAll_eq (key : String) (values : List α) :
    entryAll key values = (shownAll values).map fun v => (key, v) := by
  induction values with
  | nil => rfl
  | cons a values ih =>
    rw [entryAll, List.flatMap_cons, ← entryAll, ih, entry, shownAll, shownAll, List.map_cons,
      List.filter_cons]
    by_cases ha : QueryValue.text a = "" <;> simp [ha]

theorem entry_eq (key : String) (value : Option α) :
    entry key value = (shown value).map fun v => (key, v) := by
  cases value with
  | none => rfl
  | some a =>
    rw [shown, ← entryAll_eq, Option.toList_some, entryAll, List.flatMap_singleton]

/-- Values that are told by their texts, none of them empty. -/
class Faithful (α : Type) [QueryValue α] : Prop where
  text_ne_empty : ∀ a : α, QueryValue.text a ≠ ""
  text_inj : ∀ a b : α, QueryValue.text a = QueryValue.text b → a = b

theorem shownAll_inj [Faithful α] {l m : List α} : shownAll l = shownAll m ↔ l = m := by
  have hall : ∀ l : List α, shownAll l = l.map QueryValue.text := by
    intro l
    refine List.filter_eq_self.mpr fun s hs => ?_
    obtain ⟨a, -, rfl⟩ := List.mem_map.mp hs
    exact decide_eq_true (Faithful.text_ne_empty a)
  rw [hall, hall]
  exact List.map_inj_right Faithful.text_inj

theorem toList_inj {β : Type} {o o' : Option β} : o.toList = o'.toList ↔ o = o' := by
  cases o <;> cases o' <;> simp

theorem shown_inj [Faithful α] {o o' : Option α} : shown o = shown o' ↔ o = o' := by
  rw [shown, shown, shownAll_inj, toList_inj]

/-- Of texts the empty ones are dropped. -/
theorem shownAll_texts (l : List String) : shownAll l = l.filter (· ≠ "") := by
  have htext : l.map QueryValue.text = l := List.map_id l
  rw [shownAll, htext]

theorem shown_texts {o o' : Option String} :
    shown o = shown o' ↔ o.filter (· ≠ "") = o'.filter (· ≠ "") := by
  have htoList : ∀ o : Option String, shown o = (o.filter (· ≠ "")).toList := by
    intro o
    rw [shown, shownAll_texts]
    cases o with
    | none => rfl
    | some s => by_cases hs : s = "" <;> simp [Option.filter, hs]
  rw [htoList, htoList, toList_inj]

instance : Faithful Bool where
  text_ne_empty b := by cases b <;> decide
  text_inj a b := by cases a <;> cases b <;> decide

instance : Faithful UInt32 where
  text_ne_empty _ := Nat.repr_ne_empty
  text_inj _ _ h := UInt32.toNat_inj.mp (Nat.repr_inj.mp h)

instance : Faithful Int64 where
  text_ne_empty n := by
    have htext : QueryValue.text n = n.toInt.repr := rfl
    rw [htext, Int.repr_eq_if]
    split
    · exact Nat.repr_ne_empty
    · simp
  text_inj _ _ h := Int64.toInt_inj.mp (Int.repr_inj.mp h)

instance : Faithful Uuid where
  text_ne_empty u h := by
    have hread : Uuid.ofText? (QueryValue.text u) = some u := Uuid.ofText?_text u
    have hnone : Uuid.ofText? "" = none := by decide
    rw [h, hnone] at hread
    cases hread
  text_inj _ _ := Uuid.text_inj

/-- The names of a choice. -/
theorem faithful_of_names {α : Type} [Choice α] (hempty : "" ∉ Choice.names α)
    (hnodup : (Choice.names α).Nodup) (hall : ∀ a : α, a ∈ Choice.all) : Faithful α where
  text_ne_empty a h := hempty (List.mem_map.mpr ⟨a, hall a, h⟩)
  text_inj a b h := List.inj_on_of_nodup_map hnodup (hall a) (hall b) h

end IdentityApi.Query
