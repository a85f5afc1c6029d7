import IdentityApi.Proofs.Json.Grammar

/-! # Texts that are put together from texts

The text of an array is made of the texts of its items, with brackets around them and commas between
them; the text of an object is made in the same way of fields, each a name, a colon and a content.
Every part brings the blanks around it. What is put together so has the tree that is put together of
the trees of the parts (`IsArrayOf.isText`, `IsObjectOf.isText`).
-/
namespace IdentityApi.Json

open Reader

/-- Nothing but blanks. -/
def IsBlank (s : Octets) : Prop := skipBlanks s = []

/-- The text of an array of these texts. -/
inductive IsArrayOf (es : List Octets) : Octets → Prop
  | intro {before inside after : Octets} : IsBlank before → IsBlank inside → IsBlank after →
    IsArrayOf es (before ++ 91 :: (inside ++ ([44].intercalate es ++ 93 :: after)))

/-- A member of an object in writing: `key` is the text of the name. -/
structure Field where
  name : String
  key : Octets
  content : Octets

namespace Field

def text (f : Field) : Octets := f.key ++ 58 :: f.content

/-- The field has this tree, in which its key says its name. -/
structure Holds (f : Field) (t : Tree) : Prop where
  key : IsText f.key (.string (.ok f.name))
  content : IsText f.content t

/-- The member of an object. -/
def member (f : Field) (t : Tree) : Except Fault String × Tree := (.ok f.name, t)

end Field

/-- The text of an object of these fields. -/
inductive IsObjectOf (fields : List Field) : Octets → Prop
  | intro {before inside after : Octets} : IsBlank before → IsBlank inside → IsBlank after →
    IsObjectOf fields
      (before ++ 123 :: (inside ++ ([44].intercalate (fields.map Field.text) ++ 125 :: after)))

variable {s e w u : Octets} {t : Tree} {es : List Octets} {ts : List Tree} {fields : List Field}

/-! ## Blanks in front and behind -/

theorem IsBlank.skipBlanks_append (h : IsBlank w) (s : Octets) :
    skipBlanks (w ++ s) = skipBlanks s := by
  rw [skipBlanks, List.dropWhile_append, ← skipBlanks, ← skipBlanks, h]
  rfl

/-- What may stand behind an item or a member. -/
structure Follows (u : Octets) : Prop where
  notBlank : skipBlanks u = u
  endsNumber : EndsNumber u

theorem follows_comma (s : Octets) : Follows (44 :: s) := ⟨rfl, by rintro b ⟨⟩; decide⟩

theorem follows_bracket (s : Octets) : Follows (93 :: s) := ⟨rfl, by rintro b ⟨⟩; decide⟩

theorem follows_brace (s : Octets) : Follows (125 :: s) := ⟨rfl, by rintro b ⟨⟩; decide⟩

/-- A text keeps its tree in front of what may follow it. -/
theorem IsText.exists_forms_append (h : IsText e t) (hu : Follows u) :
    ∃ r, Forms (skipBlanks (e ++ u)) t r ∧ skipBlanks r = u := by
  obtain ⟨r, hforms, hr⟩ := h
  refine ⟨r ++ u, ?_, ?_⟩
  · rw [hforms.skipBlanks_append]
    exact hforms.append hu.endsNumber
  · rw [IsBlank.skipBlanks_append hr, hu.notBlank]

/-! ## Arrays -/

theorem formsItems_intercalate (h : List.Forall₂ IsText es ts) (after : Octets) :
    FormsItems ([44].intercalate es ++ 93 :: after) ts after := by
  induction h with
  | nil => exact .none rfl
  | @cons e t es ts he hes ih =>
    cases hes with
    | nil =>
      obtain ⟨r, hforms, hr⟩ := he.exists_forms_append (follows_bracket after)
      rw [List.intercalate_singleton]
      exact .last hforms hr
    | @cons e' t' es ts he' hes =>
      obtain ⟨r, hforms, hr⟩ := he.exists_forms_append
        (follows_comma ([44].intercalate (e' :: es) ++ 93 :: after))
      rw [List.intercalate_cons_cons, List.append_assoc, List.append_assoc]
      exact .more hforms hr ih

theorem IsArrayOf.isText (hs : IsArrayOf es s) (h : List.Forall₂ IsText es ts) :
    IsText s (.array ts .closed) := by
  obtain ⟨hbefore, hinside, hafter⟩ := hs
  refine ⟨_, ?_, hafter⟩
  rw [hbefore.skipBlanks_append]
  apply Forms.array
  exact (formsItems_intercalate h _).congr (hinside.skipBlanks_append _).symm

/-! ## Objects -/

/-- The text of a name stands in front of a colon. -/
theorem IsText.names {key : Octets} {name : String} (h : IsText key (.string (.ok name)))
    (s : Octets) : Names (key ++ 58 :: s) (.ok name) s := by
  obtain ⟨r, hforms, hr⟩ := h
  generalize hk : skipBlanks key = k at hforms
  cases hforms with
  | @leaf b k r _ hleaf =>
    obtain ⟨hb, htext, hend⟩ := string_of_leaf hleaf
    obtain rfl := eq_of_char (d := 34) hb
    have hcolon : skipBlanks (r ++ 58 :: s) = 58 :: s := IsBlank.skipBlanks_append hr _
    obtain ⟨p, hp, rfl⟩ := exists_between_of_stringEnd hend
    refine ⟨_, r ++ 58 :: s, skipBlanks_append_of_cons hk _, ?_, ?_, hcolon⟩
    · rw [List.append_assoc, List.cons_append, stringText_between hp _ r]
      exact htext
    · rw [List.append_assoc]
      exact stringEnd_between hp _

/-- A field keeps its tree in front of what may follow it. -/
theorem Field.Holds.exists_forms_append {f : Field} (h : f.Holds t) (hu : Follows u) :
    ∃ r, Names (f.text ++ u) (.ok f.name) (f.content ++ u) ∧
      Forms (skipBlanks (f.content ++ u)) t r ∧ skipBlanks r = u := by
  obtain ⟨r, hforms, hr⟩ := h.content.exists_forms_append hu
  refine ⟨r, ?_, hforms, hr⟩
  rw [Field.text, List.append_assoc]
  exact h.key.names _

theorem formsMembers_intercalate (h : List.Forall₂ Field.Holds fields ts) (after : Octets) :
    FormsMembers ([44].intercalate (fields.map Field.text) ++ 125 :: after)
      (List.zipWith Field.member fields ts) after := by
  induction h with
  | nil => exact .none rfl
  | @cons f t fields ts hf hfields ih =>
    cases hfields with
    | nil =>
      obtain ⟨r, hname, hforms, hr⟩ := hf.exists_forms_append (follows_brace after)
      rw [List.map_singleton, List.intercalate_singleton]
      exact .last hname hforms hr
    | @cons f' t' fields ts hf' hfields =>
      obtain ⟨r, hname, hforms, hr⟩ := hf.exists_forms_append
        (follows_comma ([44].intercalate ((f' :: fields).map Field.text) ++ 125 :: after))
      rw [List.map_cons, List.map_cons, List.intercalate_cons_cons, List.append_assoc,
        List.append_assoc]
      exact .more hname hforms hr ih

theorem IsObjectOf.isText (hs : IsObjectOf fields s) (h : List.Forall₂ Field.Holds fields ts) :
    IsText s (.object (List.zipWith Field.member fields ts) .closed) := by
  obtain ⟨hbefore, hinside, hafter⟩ := hs
  refine ⟨_, ?_, hafter⟩
  rw [hbefore.skipBlanks_append]
  apply Forms.object
  exact (formsMembers_intercalate h _).congr (hinside.skipBlanks_append _).symm

end IdentityApi.Json
