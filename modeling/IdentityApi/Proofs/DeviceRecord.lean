import IdentityApi.Proofs.Codec.Members
import IdentityApi.Proofs.Elements
import IdentityApi.Proofs.Json.Integer

/-! # Device records keep every member

A device record is read from an object of distinct names exactly if the object has an integer of 64
bits for its key and a text for its name, wherever they stand. All other members are kept with their
values, and written again with the two the record is the object that was read
(`DeviceRecord.keeps_every_member`).
-/
namespace IdentityApi

open Codec
open Json (Field IsIntegerText IsObjectOf IsText Tree Value ok_of_bind ok_of_map map_eq_ok_iff)
open Json.Tree (Says named)

/-! ## Members of objects that are read -/

/-- Values that were read are sorted. -/
theorem Json.Tree.sorted_of_values {d : Nat} {members : List (Except Json.Fault String × Tree)}
    {ps : List (String × Value)}
    (h : List.Forall₂ (Says fun t v => t.value d = .ok v) members ps) :
    ∀ p ∈ ps, p.2.sorted = p.2 := by
  induction h with
  | nil => exact List.forall_mem_nil _
  | cons hmp _ ih =>
    have hown := Value.value_ofValue_of_value _ hmp.2
    exact List.forall_mem_cons.mpr ⟨(Value.eq_sorted_of_value _ hown).symm, ih⟩

/-- A column that must be there is filled from the field of its name. -/
theorem Codec.isFilled_required_fields_iff {α : Type} {c : Codec α} {d : Nat} {ts : List Tree}
    {name : String} {fields : List Field} (h : List.Forall₂ Field.Holds fields ts)
    (hnodup : (fields.map Field.name).Nodup) {a : α} :
    (required name c).IsFilled d (named name (List.zipWith Field.member fields ts)) a ↔
      ∃ f ∈ fields, f.name = name ∧ ∃ t, IsText f.content t ∧ c.decode d t = .ok a := by
  rw [isFilled_required_iff]
  constructor
  · rintro ⟨t, hnamed, ha⟩
    have hname : name ∈ fields.map Field.name := by
      rw [← names_zipWith_member h]
      have hmem : t ∈ named name (List.zipWith Field.member fields ts) :=
        hnamed ▸ List.mem_singleton_self t
      exact Json.Tree.mem_names_of_mem (Json.Tree.mem_named_iff.mp hmem)
    obtain ⟨f, hf, rfl⟩ := List.mem_map.mp hname
    obtain ⟨t', ht', hnamed'⟩ := exists_named_eq h hnodup hf
    obtain rfl := List.singleton_inj.mp (hnamed.symm.trans hnamed')
    exact ⟨f, hf, rfl, t, ht'.content, ha⟩
  · rintro ⟨f, hf, rfl, t, ht, ha⟩
    obtain ⟨t', ht', hnamed⟩ := exists_named_eq h hnodup hf
    obtain rfl := ht.tree_eq ht'.content
    exact ⟨t, hnamed, ha⟩

namespace DeviceRecord

variable {d : Nat} {members : List (Except Json.Fault String × Tree)} {ps : List (String × Value)}
  {r : DeviceRecord}

/-- What is kept beside the key and the name. -/
def isExtra (m : String × Value) : Bool := m.1 != "pk" && m.1 != "name"

theorem isExtra_eq (m : String × Value) : isExtra m = !namesColumn columns (.ok m.1) := by
  change (m.1 != "pk" && m.1 != "name") = !("pk" == m.1 || ("name" == m.1 || false))
  rw [Bool.or_false, Bool.not_or, bne, bne, BEq.comm, BEq.comm (a := m.1) (b := "name")]

theorem isStrict_columns : ∀ c ∈ columns, c.codec.IsStrict := by
  simp [columns, required]

/-- The key and the name fill their columns, and all other members are free values. -/
theorem decode_iff (hps : List.Forall₂ (Says fun t v => t.value d = .ok v) members ps) :
    codec.decode (d + 1) (.object members .closed) = .ok r ↔
      (required "pk" int64).IsFilled d (named "pk" members) r.pk ∧
        (required "name" string).IsFilled d (named "name" members) r.name ∧
          r.extra = KeyMap.ofPairs (ps.filter isExtra) := by
  have hrow : ∀ values others, (openRow "DeviceRecord" columns).decode (d + 1)
      (.object members .closed) = .ok (values, others) ↔
        Row.IsNamed d members columns values ∧ others = KeyMap.ofPairs (ps.filter isExtra) := by
    intro values others
    rw [decode_openRow_iff_of_values (by decide) isStrict_columns hps]
    simp only [← isExtra_eq]
  constructor
  · intro h
    obtain ⟨⟨⟨pk, name, ⟨⟩⟩, others⟩, hread, rfl⟩ := ok_of_map h
    obtain ⟨⟨hpk, hname, -⟩, hothers⟩ := (hrow _ _).mp hread
    exact ⟨hpk, hname, hothers⟩
  · rintro ⟨hpk, hname, hextra⟩
    exact map_eq_ok_iff.mpr
      ⟨((r.pk, r.name, ()), r.extra), (hrow _ _).mpr ⟨⟨hpk, hname, trivial⟩, hextra⟩, rfl⟩

/-! ## Bodies -/

/-- The body is an object of these fields, their names are distinct, and read as a free value it has
these members. -/
structure IsObjectBody (fields : List Field) (ms : KeyMap Value) (body : Octets) : Prop where
  isObject : IsObjectOf fields body
  holds : ∀ f ∈ fields, ∃ t, f.Holds t
  nodup : (fields.map Field.name).Nodup
  reads : value.Reads body (.object ms.pairs)

/-- The fields of a body and their trees, and what these are as free values. -/
structure Parts (fields : List Field) (ts : List Tree) (ps : List (String × Value)) : Prop where
  holds : List.Forall₂ Field.Holds fields ts
  values : List.Forall₂ (Says fun t v => t.value (Json.maxDepth - 1) = .ok v)
    (List.zipWith Field.member fields ts) ps

variable {fields : List Field} {body : Octets} {ms : KeyMap Value} {ts : List Tree} {f : Field}
  {t : Tree} {v : Value}

theorem IsObjectBody.exists_parts (h : IsObjectBody fields ms body) :
    ∃ ts ps, Parts fields ts ps ∧ ms = KeyMap.ofPairs ps ∧
      IsText body (.object (List.zipWith Field.member fields ts) .closed) := by
  obtain ⟨ts, hts⟩ := exists_forall₂_iff.mpr h.holds
  have htree := h.isObject.isText hts
  have hvalue := (Shape.read_iff_of_isText (by decide) htree).mp h.reads
  obtain ⟨ps, hps, hms⟩ := Json.Tree.value_object_eq_ok_iff.mp (ok_of_liftJson hvalue)
  exact ⟨ts, ps, ⟨hts, hps⟩, KeyMap.ext (Value.object.inj hms), htree⟩

theorem Parts.nodup (h : Parts fields ts ps) (hnodup : (fields.map Field.name).Nodup) :
    (ps.map Prod.fst).Nodup := by
  rw [← Json.Tree.names_eq_map_fst h.values, names_zipWith_member h.holds]
  exact hnodup

/-- A field is a member under its name. -/
theorem Parts.mem (h : Parts fields ts ps) (hf : f ∈ fields) (ht : IsText f.content t)
    (hv : t.value (Json.maxDepth - 1) = .ok v) : (f.name, v) ∈ ps := by
  obtain ⟨t', ht', hmem⟩ := exists_mem_zipWith_member h.holds hf
  obtain rfl := ht.tree_eq ht'.content
  obtain ⟨p, hp, hkey, hvalue⟩ := Json.Tree.exists_said_of_mem h.values hmem
  have heq : (f.name, v) = p :=
    Prod.ext (Except.ok.inj hkey) (Except.ok.inj (hv.symm.trans hvalue))
  exact heq ▸ hp

theorem fits_toInt (n : Int64) : Json.Fits n.toInt := by
  have hlow := n.le_toInt
  have hhigh := n.toInt_lt
  constructor <;> omega

/-- A device record is read from the fields of its key and its name, and keeps the others. -/
theorem reads_iff (h : IsObjectBody fields ms body) : codec.Reads body r ↔
    (∃ f ∈ fields, f.name = "pk" ∧ IsIntegerText r.pk.toInt f.content) ∧
      (∃ f ∈ fields, f.name = "name" ∧ IsText f.content (.string (.ok r.name))) ∧
        r.extra = ms.filter isExtra := by
  obtain ⟨ts, ps, hparts, rfl, htree⟩ := h.exists_parts
  rw [Reads, Shape.read_iff_of_isText (by decide) htree,
    ← KeyMap.ofPairs_filter (hparts.nodup h.nodup)]
  refine (decode_iff hparts.values).trans ?_
  simp only [isFilled_required_fields_iff hparts.holds h.nodup, decode_int64_iff,
    decode_string_iff, exists_eq_right, Json.isText_integer_iff, and_iff_left (fits_toInt r.pk)]

/-- The key and the name are members of the object, like all others. -/
theorem mem_of_reads (h : IsObjectBody fields ms body) (hr : codec.Reads body r) :
    ("pk", Value.ofInt r.pk.toInt) ∈ ms.pairs ∧ ("name", Value.string r.name) ∈ ms.pairs := by
  obtain ⟨⟨f, hf, hpk, hint⟩, ⟨g, hg, hname, htext⟩, -⟩ := (reads_iff h).mp hr
  obtain ⟨ts, ps, hparts, rfl, -⟩ := h.exists_parts
  have hdistinct : ∀ p ∈ ps, ∀ q ∈ ps, p.1 = q.1 → p = q := fun _ hp _ hq =>
    List.inj_on_of_nodup_map (hparts.nodup h.nodup) hp hq
  rw [KeyMap.mem_ofPairs_iff hdistinct, KeyMap.mem_ofPairs_iff hdistinct, ← hpk, ← hname]
  exact ⟨hparts.mem hf (Json.isText_integer_iff.mpr ⟨hint, fits_toInt r.pk⟩) rfl,
    hparts.mem hg htext rfl⟩

theorem IsObjectBody.sorted_of_mem (h : IsObjectBody fields ms body) :
    ∀ m ∈ ms.pairs, m.2.sorted = m.2 := by
  obtain ⟨ts, ps, hparts, rfl, -⟩ := h.exists_parts
  exact fun m hm => Json.Tree.sorted_of_values hparts.values m (KeyMap.mem_of_mem_ofPairs hm)

/-- Written again, a record is the object that it was read from. -/
theorem sorted_encode (h : IsObjectBody fields ms body) (hr : codec.Reads body r) :
    (codec.encode r).sorted = .object ms.pairs := by
  obtain ⟨-, -, hextra⟩ := (reads_iff h).mp hr
  obtain ⟨hpk, hname⟩ := mem_of_reads h hr
  have hmembers : codec.encode r =
      .object (("pk", .ofInt r.pk.toInt) :: ("name", .string r.name) :: r.extra.pairs) := rfl
  have hsorted : r.extra.pairs.map (fun m => (m.1, m.2.sorted)) = r.extra.pairs := by
    have hsame : ∀ m ∈ r.extra.pairs, (m.1, m.2.sorted) = m := fun m hm =>
      Prod.ext rfl (h.sorted_of_mem m (List.mem_filter.mp (hextra ▸ hm)).1)
    exact (List.map_congr_left hsame).trans (List.map_id _)
  rw [hmembers, Value.sorted, Value.sortedMembers_eq_map, List.map_cons, List.map_cons, hsorted]
  refine congrArg (Value.object ·.pairs) (KeyMap.ofPairs_eq_of_mem_iff fun m => ?_)
  rw [hextra, KeyMap.filter, List.mem_cons, List.mem_cons, List.mem_filter]
  constructor
  · rintro (rfl | rfl | ⟨hm, -⟩)
    · exact hpk
    · exact hname
    · exact hm
  · intro hm
    by_cases hkey : m.1 = "pk"
    · exact Or.inl (KeyMap.eq_of_key_eq hm hpk hkey)
    · by_cases hkey' : m.1 = "name"
      · exact Or.inr (Or.inl (KeyMap.eq_of_key_eq hm hname hkey'))
      · exact Or.inr (Or.inr ⟨hm, by simp [isExtra, hkey, hkey']⟩)

/-- A device record is read from an object of distinct names exactly if the field `pk` is an integer
of 64 bits and the field `name` a text. It keeps all other members with their values, nothing is a
member of a kind under these two names, and written again it is the object. -/
theorem keeps_every_member (h : IsObjectBody fields ms body) :
    ((∃ r, codec.Reads body r) ↔
      (∃ f ∈ fields, f.name = "pk" ∧ ∃ n : Int64, IsIntegerText n.toInt f.content) ∧
        ∃ f ∈ fields, f.name = "name" ∧ ∃ s, IsText f.content (.string (.ok s))) ∧
    ∀ r, codec.Reads body r →
      (∀ m, m ∈ r.extra.pairs ↔ m ∈ ms.pairs ∧ m.1 ≠ "pk" ∧ m.1 ≠ "name") ∧
      (∀ name, r.field name =
        if name = "pk" ∨ name = "name" then none else (Value.object ms.pairs).get? name) ∧
      (codec.encode r).sorted = .object ms.pairs := by
  constructor
  · constructor
    · rintro ⟨r, hr⟩
      obtain ⟨⟨f, hf, hpk, hint⟩, ⟨g, hg, hname, htext⟩, -⟩ := (reads_iff h).mp hr
      exact ⟨⟨f, hf, hpk, r.pk, hint⟩, g, hg, hname, r.name, htext⟩
    · rintro ⟨⟨f, hf, hpk, n, hint⟩, g, hg, hname, s, htext⟩
      exact ⟨⟨n, s, ms.filter isExtra⟩,
        (reads_iff h).mpr ⟨⟨f, hf, hpk, hint⟩, ⟨g, hg, hname, htext⟩, rfl⟩⟩
  · intro r hr
    obtain ⟨-, -, hextra⟩ := (reads_iff h).mp hr
    refine ⟨fun m => ?_, fun name => ?_, sorted_encode h hr⟩
    · rw [hextra, KeyMap.filter, List.mem_filter]
      simp [isExtra]
    · rw [field, hextra, KeyMap.get?_filter]
      change _ = if name = "pk" ∨ name = "name" then none else KeyMap.get? name ms
      split_ifs with hname
      · have hno : ∀ v, isExtra (name, v) = false := by
          rcases hname with rfl | rfl <;> exact fun _ => rfl
        cases KeyMap.get? name ms <;> simp [hno]
      · have hyes : ∀ v, isExtra (name, v) = true := by
          intro v
          simpa [isExtra] using hname
        cases KeyMap.get? name ms <;> simp [hyes]

/-- The fields of a device, its key and name between members of its kind. -/
def keyFields : List Field := [
  ⟨"zone", octetsOf "\"zone\"", octetsOf "[1,\x7b\"b\":2,\"a\":null\x7d]"⟩,
  ⟨"name", octetsOf "\"name\"", octetsOf "\"key\""⟩,
  ⟨"counter", octetsOf "\"counter\"", octetsOf "18446744073709551615"⟩,
  ⟨"pk", octetsOf "\"pk\"", octetsOf " -7 "⟩,
  ⟨"aaguid", octetsOf "\"aaguid\"", octetsOf "\"\""⟩]

def keyBody : Octets := 123 :: ([44].intercalate (keyFields.map Field.text) ++ [125])

/-- What the record of the device keeps. -/
def keyExtra : KeyMap Value := .ofPairs [
  ("aaguid", .string ""),
  ("counter", .ofInt 18446744073709551615),
  ("zone", .array [.ofInt 1, .object [("a", .null), ("b", .ofInt 2)]])]

def keyMembers : KeyMap Value := .ofPairs [
  ("aaguid", .string ""),
  ("counter", .ofInt 18446744073709551615),
  ("name", .string "key"),
  ("pk", .ofInt (-7)),
  ("zone", .array [.ofInt 1, .object [("a", .null), ("b", .ofInt 2)]])]

set_option maxRecDepth 10000 in
theorem keeps_every_member_of_key :
    IsObjectBody keyFields keyMembers keyBody ∧
      codec.Reads keyBody ⟨-7, "key", keyExtra⟩ ∧
      (codec.encode ⟨-7, "key", keyExtra⟩).sorted = .object keyMembers.pairs := by
  have hkey : ∀ {s : Octets} {k : Except Json.Fault String},
      Json.read s = ⟨.string k, false⟩ → IsText s (.string k) :=
    fun hread => Json.isText_iff.mpr ⟨hread, trivial⟩
  have hnumber : ∀ {s : Octets} {n : Except Json.Fault Json.Number},
      Json.read s = ⟨.number n, false⟩ → IsText s (.number n) :=
    fun hread => Json.isText_iff.mpr ⟨hread, trivial⟩
  have hzone : IsText keyFields[0].content (.array [.number (.ok (.integer 1)),
      .object [(.ok "b", .number (.ok (.integer 2))), (.ok "a", .null)] .closed] .closed) :=
    Json.isText_iff.mpr ⟨rfl, by simp [Tree.IsClosed, Tree.AreClosed, Tree.HoldClosed]⟩
  have hname : IsText keyFields[1].content (.string (.ok "key")) := hkey rfl
  have hcounter : IsText keyFields[2].content (.number (.ok (.integer 18446744073709551615))) :=
    hnumber rfl
  have hpk : IsText keyFields[3].content (.number (.ok (.integer (-7)))) := hnumber rfl
  have haaguid : IsText keyFields[4].content (.string (.ok "")) := hkey rfl
  have hfields := List.Forall₂.cons (R := Field.Holds) (a := keyFields[0]) ⟨hkey rfl, hzone⟩
    (.cons (a := keyFields[1]) ⟨hkey rfl, hname⟩
      (.cons (a := keyFields[2]) ⟨hkey rfl, hcounter⟩
        (.cons (a := keyFields[3]) ⟨hkey rfl, hpk⟩
          (.cons (a := keyFields[4]) ⟨hkey rfl, haaguid⟩ .nil))))
  have hnames : (keyFields.map Field.name).Nodup := by
    change ["zone", "name", "counter", "pk", "aaguid"].Nodup
    decide
  have hobject : IsObjectOf keyFields keyBody := @IsObjectOf.intro _ [] [] [] rfl rfl rfl
  have htree := hobject.isText hfields
  have hbody : IsObjectBody keyFields keyMembers keyBody :=
    ⟨hobject, exists_forall₂_iff.mp ⟨_, hfields⟩, hnames,
      (Shape.read_iff_of_isText (by decide) htree).mpr rfl⟩
  have hread : codec.Reads keyBody ⟨-7, "key", keyExtra⟩ :=
    (Shape.read_iff_of_isText (by decide) htree).mpr rfl
  exact ⟨hbody, hread, ((keeps_every_member hbody).2 _ hread).2.2⟩

end DeviceRecord

end IdentityApi
