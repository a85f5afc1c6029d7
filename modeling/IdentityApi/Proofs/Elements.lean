import IdentityApi.Proofs.Codec.Depth
import IdentityApi.Proofs.Json.Assembly
import IdentityApi.Proofs.Page

/-! # Lists and pages are read element by element

The body of a list is an array of texts, the body of a page an object that holds such an array. Each
element is decoded in its place as it would be from a body of its own, as long as nothing nests too
deep. So a list or a page is decoded exactly if all its elements are, and holds their values in
their order (`Resource.reads_elementwise`).
-/
namespace IdentityApi

open Codec
open Json (IsText IsArrayOf IsObjectOf Field Tree)
open Json.Tree (named names)

/-! ## No record asks for spare depth -/

@[simp] theorem GroupMember.ignoresDepth_codec : GroupMember.codec.IgnoresDepth :=
  ignoresDepth_record (by simp [columns])

@[simp] theorem UserGroup.ignoresDepth_codec : UserGroup.codec.IgnoresDepth :=
  ignoresDepth_record (by simp [columns])

@[simp] theorem UserSelfGroup.ignoresDepth_codec : UserSelfGroup.codec.IgnoresDepth :=
  ignoresDepth_record (by simp [columns])

@[simp] theorem UserSelf.ignoresDepth_codec : UserSelf.codec.IgnoresDepth :=
  ignoresDepth_record (by simp [columns])

@[simp] theorem SystemRuntime.ignoresDepth_codec : SystemRuntime.codec.IgnoresDepth :=
  ignoresDepth_record (by simp [columns])

@[simp] theorem PaginationMeta.ignoresDepth_codec : PaginationMeta.codec.IgnoresDepth :=
  ignoresDepth_record (by simp [columns])

namespace Resource

theorem ignoresDepth_columns (m : Resource) : ∀ c ∈ m.columns, c.codec.IgnoresDepth := by
  cases m <;>
    simp [columns, App.columns, Application.columns, Device.columns, DeviceRecord.columns,
      Event.columns, EventTopPerUser.columns, Flow.columns, Group.columns, GroupMember.columns,
      PolicyTestResult.columns, SessionUser.columns, SystemInfo.columns, SystemRuntime.columns,
      Token.columns, TokenView.columns, TypeCreate.columns, UsedBy.columns, User.columns,
      UserGroup.columns, UserPath.columns, UserSelf.columns, UserSelfGroup.columns,
      Version.columns]

theorem ignoresDepth_codec (m : Resource) : m.codec.IgnoresDepth :=
  codec_of_columns (L := IgnoresDepth) ignoresDepth_map
    (fun _ => ignoresDepth_row m.ignoresDepth_columns)
    fun _ => ignoresDepth_openRow m.ignoresDepth_columns

end Resource

/-! ## Lists of the same length -/

section Forall₂

variable {α β γ : Type} {R : α → β → Prop} {as : List α}

/-- Partners can be found for a list if they can be found for each of its elements. -/
theorem exists_forall₂_iff : (∃ bs, List.Forall₂ R as bs) ↔ ∀ a ∈ as, ∃ b, R a b := by
  induction as with
  | nil => exact ⟨fun _ => nofun, fun _ => ⟨[], .nil⟩⟩
  | cons a as ih =>
    rw [List.forall_mem_cons, ← ih]
    constructor
    · rintro ⟨_, hb | ⟨hb, hbs⟩⟩
      exact ⟨⟨_, hb⟩, _, hbs⟩
    · rintro ⟨⟨b, hb⟩, bs, hbs⟩
      exact ⟨b :: bs, .cons hb hbs⟩

/-- What is said of the partners can be said of the elements. -/
theorem forall₂_iff_of_forall₂ {S : β → γ → Prop} {S' : α → γ → Prop} {bs : List β} {cs : List γ}
    (h : List.Forall₂ R as bs) (hS : ∀ {a b c}, R a b → (S b c ↔ S' a c)) :
    List.Forall₂ S bs cs ↔ List.Forall₂ S' as cs := by
  induction h generalizing cs with
  | nil => simp
  | cons hab _ ih => cases cs <;> simp [hS hab, ih]

end Forall₂

/-! ## Bodies of their own -/

variable {α : Type} {c : Codec α} {a : α} {d : Nat} {body e : Octets} {es : List Octets} {t : Tree}
  {ts : List Tree}

/-- The codec reads the value from a body of its own. -/
def Codec.Reads (c : Codec α) (body : Octets) (a : α) : Prop := Shape.object.read c body = .ok a

/-- The octets are a text with a tree that nests at most so deep. -/
def Json.NestsWithin (d : Nat) (s : Octets) : Prop := ∃ t, IsText s t ∧ t.nesting ≤ d

theorem Shape.read_iff_of_isText {shape : Shape} (hshape : shape ≠ .empty) (h : IsText body t) :
    shape.read c body = .ok a ↔ c.decode Json.maxDepth t = .ok a := by
  have hbody : body.all isBlankOctet = false := by
    obtain ⟨b, hb, hstarts⟩ := h.exists_starts
    apply List.all_eq_false.mpr
    exact ⟨b, hb, by simp [isBlankOctet_of_starts hstarts]⟩
  rw [Shape.read_eq_ok_iff hshape hbody, Codec.read_eq_ok_iff, h.read_eq]
  constructor
  · rintro ⟨t', ⟨⟩, ha⟩
    exact ha
  · intro ha
    exact ⟨t, rfl, ha⟩

/-- A text is read in a place where it fits as it is read alone. -/
theorem Codec.IgnoresDepth.decode_iff_reads (hc : c.IgnoresDepth) (h : IsText e t)
    (ht : t.nesting ≤ d) (hd : d ≤ Json.maxDepth) : c.decode d t = .ok a ↔ c.Reads e a := by
  rw [Reads, Shape.read_iff_of_isText (by decide) h, hc ht (ht.trans hd)]

/-- The texts of a list that fit are read in their places as they are read alone. -/
theorem Codec.IgnoresDepth.forall₂_decode_iff (hc : c.IgnoresDepth) {as : List α}
    (h : List.Forall₂ (fun e t => IsText e t ∧ t.nesting ≤ d) es ts) (hd : d ≤ Json.maxDepth) :
    List.Forall₂ (fun t a => c.decode d t = .ok a) ts as ↔ List.Forall₂ c.Reads es as :=
  forall₂_iff_of_forall₂ h fun ⟨he, ht⟩ => hc.decode_iff_reads he ht hd

/-! ## Lists -/

/-- The values of a list are those of its elements, in their order. -/
theorem Codec.IgnoresDepth.read_list_iff (hc : c.IgnoresDepth) (hbody : IsArrayOf es body)
    (hes : ∀ e ∈ es, Json.NestsWithin (Json.maxDepth - 1) e) {as : List α} :
    Shape.list.read (Codec.list c) body = .ok as ↔ List.Forall₂ c.Reads es as := by
  obtain ⟨ts, hts⟩ := exists_forall₂_iff.mpr hes
  have htree : IsText body (.array ts .closed) := hbody.isText (hts.imp fun _ _ h => h.1)
  rw [Shape.read_iff_of_isText (by decide) htree, ← hc.forall₂_decode_iff hts (by decide)]
  exact decode_list_iff

/-! ## Pages -/

/-- The body is an object of these fields, one of which is the list of these texts. -/
structure IsPageOf (es : List Octets) (fields : List Field) (body : Octets) : Prop where
  isObject : IsObjectOf fields body
  holds : ∀ f ∈ fields, ∃ t, f.Holds t
  nodup : (fields.map Field.name).Nodup
  results : ∃ f ∈ fields, f.name = "results" ∧ IsArrayOf es f.content

/-- Nothing in the list and in what is said about it nests too deep for its place. -/
structure FitsPage (es : List Octets) (fields : List Field) : Prop where
  results : ∀ e ∈ es, Json.NestsWithin (Json.maxDepth - 2) e
  pagination : ∀ f ∈ fields, f.name = "pagination" → Json.NestsWithin (Json.maxDepth - 1) f.content

/-- The values of the page are those of the texts, in their order; other fields than those of the
list and of what is said about it do not matter. -/
structure Paginated.TellsTexts (c : Codec α) (es : List Octets) (fields : List Field)
    (p : Paginated α) : Prop where
  results : List.Forall₂ c.Reads es p.results
  length : p.length = es.length
  pagination : ∀ f ∈ fields, f.name = "pagination" →
    PaginationMeta.codec.Reads f.content p.pagination
  noPagination : (∀ f ∈ fields, f.name ≠ "pagination") → p.pagination = ⟨0, 0, 0, 0, 0, 0, 0⟩

variable {fields : List Field} {p : Paginated α}

section Members

variable {f : Field} (h : List.Forall₂ Field.Holds fields ts)
include h

theorem names_zipWith_member : names (List.zipWith Field.member fields ts) =
    fields.map Field.name := by
  induction h with
  | nil => rfl
  | cons _ _ ih => exact congrArg (List.cons _) ih

theorem exists_mem_zipWith_member (hf : f ∈ fields) :
    ∃ t, f.Holds t ∧ f.member t ∈ List.zipWith Field.member fields ts := by
  induction h with
  | nil => cases hf
  | cons hft _ ih =>
    rw [List.zipWith_cons_cons]
    rcases List.mem_cons.mp hf with rfl | hf
    · exact ⟨_, hft, List.mem_cons_self⟩
    · obtain ⟨t, ht, hmem⟩ := ih hf
      exact ⟨t, ht, List.mem_cons_of_mem _ hmem⟩

theorem exists_key_of_mem_zipWith_member {m : Except Json.Fault String × Tree}
    (hm : m ∈ List.zipWith Field.member fields ts) : ∃ k, m.1 = .ok k := by
  induction h with
  | nil => cases hm
  | cons _ _ ih =>
    rw [List.zipWith_cons_cons] at hm
    rcases List.mem_cons.mp hm with rfl | hm
    · exact ⟨_, rfl⟩
    · exact ih hm

/-- A field of distinct names is found under its name. -/
theorem exists_named_eq (hnodup : (fields.map Field.name).Nodup) (hf : f ∈ fields) :
    ∃ t, f.Holds t ∧ named f.name (List.zipWith Field.member fields ts) = [t] := by
  obtain ⟨t, ht, hmem⟩ := exists_mem_zipWith_member h hf
  rw [← names_zipWith_member h] at hnodup
  exact ⟨t, ht, Tree.named_eq_singleton hnodup hmem⟩

end Members

namespace Paginated

theorem areResults_array_iff {as : List α} : AreResults c [.array ts .closed] as ↔
    List.Forall₂ (fun t a => c.decode (Json.maxDepth - 2) t = .ok a) ts as := by
  constructor
  · intro h
    cases h with
    | items h => exact h
  · exact .items

theorem areResults_named_iff (hc : c.IgnoresDepth) (hbody : IsPageOf es fields body)
    (hfits : FitsPage es fields) (hts : List.Forall₂ Field.Holds fields ts) {as : List α} :
    AreResults c (named "results" (List.zipWith Field.member fields ts)) as ↔
      List.Forall₂ c.Reads es as := by
  obtain ⟨f, hf, hname, hcontent⟩ := hbody.results
  obtain ⟨t, ht, hnamed⟩ := exists_named_eq hts hbody.nodup hf
  obtain ⟨items, hitems⟩ := exists_forall₂_iff.mpr hfits.results
  obtain rfl := ht.content.tree_eq (hcontent.isText (hitems.imp fun _ _ h => h.1))
  rw [← hname, hnamed, areResults_array_iff, hc.forall₂_decode_iff hitems (by decide)]

theorem isFilled_metaColumn_singleton {a : PaginationMeta} :
    metaColumn.IsFilled d [t] a ↔ PaginationMeta.codec.decode d t = .ok a :=
  Column.isFilled_cons_iff.trans (and_iff_left rfl)

theorem isFilled_metaColumn_nil {a : PaginationMeta} :
    metaColumn.IsFilled d [] a ↔ a = ⟨0, 0, 0, 0, 0, 0, 0⟩ := by
  apply Column.isFilled_nil_iff.trans
  constructor
  · intro h
    exact (Option.some.inj h).symm
  · rintro rfl
    rfl

theorem isFilled_metaColumn_iff (hbody : IsPageOf es fields body) (hfits : FitsPage es fields)
    (hts : List.Forall₂ Field.Holds fields ts) {a : PaginationMeta} :
    metaColumn.IsFilled (Json.maxDepth - 1)
        (named "pagination" (List.zipWith Field.member fields ts)) a ↔
      (∀ f ∈ fields, f.name = "pagination" → PaginationMeta.codec.Reads f.content a) ∧
        ((∀ f ∈ fields, f.name ≠ "pagination") → a = ⟨0, 0, 0, 0, 0, 0, 0⟩) := by
  by_cases hfield : ∃ f ∈ fields, f.name = "pagination"
  · obtain ⟨f, hf, hname⟩ := hfield
    obtain ⟨t, ht, hnamed⟩ := exists_named_eq hts hbody.nodup hf
    obtain ⟨t', ht', hnests⟩ := hfits.pagination f hf hname
    obtain rfl := ht.content.tree_eq ht'
    have honly : ∀ g ∈ fields, g.name = "pagination" → g = f := fun g hg hgname =>
      List.inj_on_of_nodup_map hbody.nodup hg hf (hgname.trans hname.symm)
    have hreads : PaginationMeta.codec.decode (Json.maxDepth - 1) t = .ok a ↔
        PaginationMeta.codec.Reads f.content a :=
      PaginationMeta.ignoresDepth_codec.decode_iff_reads ht.content hnests (by decide)
    rw [hname] at hnamed
    rw [hnamed, isFilled_metaColumn_singleton, hreads]
    constructor
    · intro ha
      refine ⟨fun g hg hgname => ?_, fun hnone => absurd hname (hnone f hf)⟩
      rw [honly g hg hgname]
      exact ha
    · rintro ⟨ha, -⟩
      exact ha f hf hname
  · have hnone : ∀ f ∈ fields, f.name ≠ "pagination" := fun f hf hname => hfield ⟨f, hf, hname⟩
    have hnames : "pagination" ∉ names (List.zipWith Field.member fields ts) := by
      rw [names_zipWith_member hts, List.mem_map]
      rintro ⟨f, hf, hname⟩
      exact hnone f hf hname
    rw [Tree.named_eq_nil hnames, isFilled_metaColumn_nil]
    constructor
    · intro ha
      exact ⟨fun f hf hname => absurd hname (hnone f hf), fun _ => ha⟩
    · rintro ⟨-, ha⟩
      exact ha hnone

theorem read_iff_tellsTexts (hstrict : c.IsStrict) (hc : c.IgnoresDepth)
    (hbody : IsPageOf es fields body) (hfits : FitsPage es fields) :
    Shape.paginated.read (codec c) body = .ok p ↔ TellsTexts c es fields p := by
  obtain ⟨ts, hts⟩ := exists_forall₂_iff.mpr hbody.holds
  have htree := hbody.isObject.isText hts
  rw [Shape.read_iff_of_isText (by decide) htree, decode_iff hstrict htree.isClosed]
  constructor
  · rintro (⟨-, hmeta, hresults⟩ | -)
    rw [isFilled_metaColumn_iff hbody hfits hts] at hmeta
    rw [areResults_named_iff hc hbody hfits hts] at hresults
    exact ⟨hresults, hresults.length_eq.symm, hmeta.1, hmeta.2⟩
  · rintro ⟨hresults, -, hmeta, hnone⟩
    refine .object (fun m => exists_key_of_mem_zipWith_member hts) ⟨?_, ?_⟩
    · exact (isFilled_metaColumn_iff hbody hfits hts).mpr ⟨hmeta, hnone⟩
    · exact (areResults_named_iff hc hbody hfits hts).mpr hresults

/-- There is a page of the texts exactly if each can be read. -/
theorem exists_tellsTexts_iff (hnodup : (fields.map Field.name).Nodup) :
    (∃ p, TellsTexts c es fields p) ↔ (∀ e ∈ es, ∃ a, c.Reads e a) ∧
      ∀ f ∈ fields, f.name = "pagination" → ∃ a, PaginationMeta.codec.Reads f.content a := by
  constructor
  · rintro ⟨p, hp⟩
    exact ⟨exists_forall₂_iff.mp ⟨p.results, hp.results⟩,
      fun f hf hname => ⟨p.pagination, hp.pagination f hf hname⟩⟩
  · rintro ⟨hes, hmeta⟩
    obtain ⟨as, has⟩ := exists_forall₂_iff.mpr hes
    by_cases hfield : ∃ f ∈ fields, f.name = "pagination"
    · obtain ⟨f, hf, hname⟩ := hfield
      obtain ⟨a, ha⟩ := hmeta f hf hname
      refine ⟨⟨a, as⟩, has, has.length_eq.symm, fun g hg hgname => ?_, fun hnone => ?_⟩
      · rw [List.inj_on_of_nodup_map hnodup hg hf (hgname.trans hname.symm)]
        exact ha
      · exact absurd hname (hnone f hf)
    · have hnone : ∀ f ∈ fields, f.name ≠ "pagination" := fun f hf hname => hfield ⟨f, hf, hname⟩
      exact ⟨⟨⟨0, 0, 0, 0, 0, 0, 0⟩, as⟩, has, has.length_eq.symm,
        fun f hf hname => absurd hname (hnone f hf), fun _ => rfl⟩

end Paginated

/-- A list of records is read exactly if each of its elements is, and a page exactly if each element
of its list and what is said about the list are. What is read has the value of each element once, in
their order. An element may nest as deep as its place allows, which is less deep than in a body of
its own. -/
theorem Resource.reads_elementwise (m : Resource) {es : List Octets} :
    (∀ {body}, IsArrayOf es body → (∀ e ∈ es, Json.NestsWithin (Json.maxDepth - 1) e) →
      ((∃ as, Shape.list.read (list m.codec) body = .ok as) ↔ ∀ e ∈ es, ∃ a, m.codec.Reads e a) ∧
        ∀ as, Shape.list.read (list m.codec) body = .ok as ↔ List.Forall₂ m.codec.Reads es as) ∧
      ∀ {fields body}, IsPageOf es fields body → FitsPage es fields →
        ((∃ p, Shape.paginated.read (Paginated.codec m.codec) body = .ok p) ↔
            (∀ e ∈ es, ∃ a, m.codec.Reads e a) ∧
              ∀ f ∈ fields, f.name = "pagination" → ∃ a, PaginationMeta.codec.Reads f.content a) ∧
          ∀ p, Shape.paginated.read (Paginated.codec m.codec) body = .ok p ↔
            Paginated.TellsTexts m.codec es fields p := by
  have hdepth := m.ignoresDepth_codec
  constructor
  · intro body hbody hes
    simp only [hdepth.read_list_iff hbody hes, exists_forall₂_iff, true_and, implies_true]
  · intro fields body hbody hfits
    simp only [Paginated.read_iff_tellsTexts m.isStrict_codec hdepth hbody hfits, implies_true,
      and_true]
    exact Paginated.exists_tellsTexts_iff hbody.nodup

/-- The texts of two apps; the second has a member that no app has. -/
def appTexts : List Octets := [
  octetsOf "\x7b\"name\":\"mail\",\"label\":\"Mail\"\x7d",
  octetsOf "\n \x7b\"label\":\"Notes\",\"beta\":[1],\"name\":\"notes\"\x7d"]

/-- The fields of a page of the apps, the name of the list spelled with an escape. -/
def appFields : List Field := [
  ⟨"autocomplete", octetsOf "\"autocomplete\"", octetsOf "\x7b\x7d"⟩,
  ⟨"results", octetsOf " \"\\u0072esults\" ", 91 :: ([44].intercalate appTexts ++ [93])⟩,
  ⟨"pagination", octetsOf "\"pagination\"", octetsOf "\x7b\"count\":2\x7d"⟩]

def appPage : Octets := 123 :: ([44].intercalate (appFields.map Field.text) ++ [125])

set_option maxRecDepth 10000 in
theorem Resource.reads_elementwise_apps :
    IsPageOf appTexts appFields appPage ∧ FitsPage appTexts appFields ∧
      Paginated.TellsTexts App.codec appTexts appFields
        ⟨⟨0, 0, 2, 0, 0, 0, 0⟩, [⟨"mail", "Mail"⟩, ⟨"notes", "Notes"⟩]⟩ ∧
      Shape.list.read (list App.codec) appFields[1].content =
        .ok [⟨"mail", "Mail"⟩, ⟨"notes", "Notes"⟩] := by
  have hclosed : ∀ {s : Octets} {members : List (Except Json.Fault String × Tree)},
      Json.read s = ⟨.object members .closed, false⟩ → Tree.HoldClosed members →
        IsText s (.object members .closed) :=
    fun hread h => Json.isText_iff.mpr ⟨hread, rfl, h⟩
  have hkey : ∀ {s : Octets} {name : String}, Json.read s = ⟨.string (.ok name), false⟩ →
      IsText s (.string (.ok name)) := fun hread => Json.isText_iff.mpr ⟨hread, trivial⟩
  have hmail : IsText appTexts[0] (.object [(.ok "name", .string (.ok "mail")),
      (.ok "label", .string (.ok "Mail"))] .closed) :=
    hclosed rfl (by simp [Tree.HoldClosed, Tree.IsClosed])
  have hnotes : IsText appTexts[1] (.object [(.ok "label", .string (.ok "Notes")),
      (.ok "beta", .array [.number (.ok (.integer 1))] .closed),
      (.ok "name", .string (.ok "notes"))] .closed) :=
    hclosed rfl (by simp [Tree.HoldClosed, Tree.IsClosed, Tree.AreClosed])
  have hcount : IsText appFields[2].content (.object [(.ok "count", .number (.ok (.integer 2)))]
      .closed) := hclosed rfl (by simp [Tree.HoldClosed, Tree.IsClosed])
  have hnone : IsText appFields[0].content (.object [] .closed) := hclosed rfl trivial
  have hlist : IsArrayOf appTexts appFields[1].content := @IsArrayOf.intro _ [] [] [] rfl rfl rfl
  have hresults := hlist.isText (.cons hmail (.cons hnotes .nil))
  have hfields := List.Forall₂.cons (R := Field.Holds) (a := appFields[0]) ⟨hkey rfl, hnone⟩
    (.cons (a := appFields[1]) ⟨hkey (by cbv), hresults⟩
      (.cons (a := appFields[2]) ⟨hkey rfl, hcount⟩ .nil))
  have hnames : (appFields.map Field.name).Nodup := by
    change ["autocomplete", "results", "pagination"].Nodup
    decide
  have hobject : IsObjectOf appFields appPage := @IsObjectOf.intro _ [] [] [] rfl rfl rfl
  have hpage : IsPageOf appTexts appFields appPage :=
    ⟨hobject, exists_forall₂_iff.mp ⟨_, hfields⟩, hnames,
      appFields[1], List.getElem_mem _, rfl, hlist⟩
  have hfits : FitsPage appTexts appFields := by
    constructor
    · simp only [appTexts, List.forall_mem_cons]
      exact ⟨⟨_, hmail, by decide⟩, ⟨_, hnotes, by decide⟩, List.forall_mem_nil _⟩
    · simp only [appFields, List.forall_mem_cons]
      exact ⟨by simp, by simp, fun _ => ⟨_, hcount, by decide⟩, List.forall_mem_nil _⟩
  have hread : Shape.paginated.read (Paginated.codec App.codec) appPage =
      .ok ⟨⟨0, 0, 2, 0, 0, 0, 0⟩, [⟨"mail", "Mail"⟩, ⟨"notes", "Notes"⟩]⟩ :=
    (Shape.read_iff_of_isText (by decide) (hobject.isText hfields)).mpr (by cbv)
  have htells := (((Resource.reads_elementwise .app).2 hpage hfits).2 _).mp hread
  have hshallow : ∀ e ∈ appTexts, Json.NestsWithin (Json.maxDepth - 1) e := fun e he =>
    (hfits.results e he).imp fun _ => And.imp_right fun h => h.trans (by decide)
  exact ⟨hpage, hfits, htells,
    (((Resource.reads_elementwise .app).1 hlist hshallow).2 _).mpr htells.results⟩

end IdentityApi
