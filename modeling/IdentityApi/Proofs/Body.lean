import IdentityApi.Operation
import IdentityApi.Proofs.Json.Spelling
import IdentityApi.Proofs.Request.Building
import IdentityApi.Proofs.Resource
import IdentityApi.Proofs.Uuid

/-! # Bodies tell the fields that are set

Every body that is sent has a table of what stands under which name: nothing for a field that is not
set, null for one that is set to nothing. The body is read as an object with exactly the members of
that table, and two bodies of a kind are equal only if all their fields are
(`BodyKind.read_body`). Moments are the one exception: within a minute a leap second has the text of
the next second.
-/
namespace IdentityApi

open Json (Tree Value)

/-! ## From the table to the text -/

namespace Json

/-- The members of a table; what is absent has none. -/
def present (columns : List (String × Option Value)) : List (String × Value) :=
  columns.filterMap fun c => c.2.map fun v => (c.1, v)

theorem mem_present {columns : List (String × Option Value)} {name : String} {v : Value} :
    (name, v) ∈ present columns ↔ (name, some v) ∈ columns := by
  simp [present, and_comm]

theorem present_nil : present [] = [] := rfl

theorem present_cons (name : String) (v : Option Value) (columns : List (String × Option Value)) :
    present ((name, v) :: columns) = (v.map (Prod.mk name)).toList ++ present columns := by
  cases v <;> rfl

theorem fst_of_mem_present {columns : List (String × Option Value)} {m : String × Value}
    (h : m ∈ present columns) : m.1 ∈ columns.map Prod.fst :=
  List.mem_map_of_mem (mem_present.mp h)

theorem nodup_present {columns : List (String × Option Value)}
    (h : (columns.map Prod.fst).Nodup) : ((present columns).map Prod.fst).Nodup := by
  induction columns with
  | nil => exact List.nodup_nil
  | cons c columns ih =>
    obtain ⟨name, v⟩ := c
    obtain ⟨hname, hrest⟩ := List.nodup_cons.mp h
    rw [present_cons]
    cases v with
    | none => exact ih hrest
    | some v =>
      refine List.nodup_cons.mpr ⟨fun hmem => hname ?_, ih hrest⟩
      obtain ⟨m, hm, hfst⟩ := List.mem_map.mp hmem
      exact hfst ▸ fst_of_mem_present hm

theorem present_inj {columns columns' : List (String × Option Value)}
    (hkeys : columns.map Prod.fst = columns'.map Prod.fst) (hnodup : (columns.map Prod.fst).Nodup)
    (h : present columns = present columns') : columns = columns' := by
  induction columns generalizing columns' with
  | nil => exact (List.map_eq_nil_iff.mp hkeys.symm).symm
  | cons c columns ih =>
    cases columns' with
    | nil => cases hkeys
    | cons c' columns' =>
      obtain ⟨name, v⟩ := c
      obtain ⟨name', v'⟩ := c'
      obtain ⟨rfl, hrest⟩ : name = name' ∧ columns.map Prod.fst = columns'.map Prod.fst :=
        List.cons.inj hkeys
      obtain ⟨hname, hdistinct⟩ := List.nodup_cons.mp hnodup
      -- No later member has the name, so a first one is there in both or in neither.
      have hlater : ∀ u, (name, u) ∉ present columns := fun u hu => hname (fst_of_mem_present hu)
      have hlater' : ∀ u, (name, u) ∉ present columns' := fun u hu =>
        hname (hrest ▸ fst_of_mem_present hu)
      rw [present_cons, present_cons] at h
      cases v with
      | none =>
        cases v' with
        | none => rw [ih hrest hdistinct h]
        | some v' =>
          have hpresent : present columns = (name, v') :: present columns' := h
          exact absurd (hpresent ▸ List.mem_cons_self) (hlater v')
      | some v =>
        cases v' with
        | none =>
          have hpresent : (name, v) :: present columns = present columns' := h
          exact absurd (hpresent ▸ List.mem_cons_self) (hlater' v)
        | some v' =>
          obtain ⟨hfirst, h⟩ := List.cons.inj h
          rw [(Prod.mk.inj hfirst).2, ih hrest hdistinct h]

end Json

/-! ## Values of fields -/

namespace Json.Value

/-- An integer of 64 bits. -/
def ofInt64 (n : Int64) : Value := .ofInt n.toInt

def ofUuid (u : Uuid) : Value := .string u.text

def ofTimestamp (t : Timestamp) : Value := .string t.text

def ofName {α : Type} [Choice α] (a : α) : Value := .string (Choice.name a)

def ofList {α : Type} (f : α → Value) (l : List α) : Value := .array (l.map f)

/-- Null for nothing. -/
def ofOption {α : Type} (f : α → Value) (o : Option α) : Value := o.elim .null f

variable {α : Type} {f : α → Value}

theorem isWhole_string (s : String) : (string s).IsWhole := trivial

theorem isWhole_bool (b : Bool) : (bool b).IsWhole := trivial

theorem isWhole_ofInt64 (n : Int64) : (ofInt64 n).IsWhole := (Codec.isSettled_int64 0 n).isWhole

theorem isWhole_ofUuid (u : Uuid) : (ofUuid u).IsWhole := trivial

theorem isWhole_ofTimestamp (t : Timestamp) : (ofTimestamp t).IsWhole := trivial

theorem isWhole_ofName [Choice α] (a : α) : (ofName a).IsWhole := trivial

theorem isWhole_ofList (h : ∀ a, (f a).IsWhole) (l : List α) : (ofList f l).IsWhole :=
  areWhole_iff.mpr (List.forall_mem_map.mpr fun a _ => h a)

theorem isWhole_ofOption (h : ∀ a, (f a).IsWhole) (o : Option α) : (ofOption f o).IsWhole := by
  cases o with
  | none => trivial
  | some a => exact h a

theorem string_injective : Function.Injective Value.string := fun _ _ => string.inj

theorem ofInt64_injective : Function.Injective ofInt64 := fun _ _ h =>
  Int64.toInt_inj.mp (Number.integer.inj (number.inj h))

theorem ofUuid_injective : Function.Injective ofUuid := fun _ _ h => Uuid.text_inj (string.inj h)

theorem ofName_injective [Choice α] [Choice.Lawful α] : Function.Injective (ofName (α := α)) := by
  intro a b h
  have hname : Choice.name a = Choice.name b := string.inj h
  exact Option.some.inj (by rw [← Choice.Lawful.ofName?_name a, hname, Choice.Lawful.ofName?_name])

theorem ofList_injective (h : Function.Injective f) : Function.Injective (ofList f) :=
  fun _ _ heq => List.map_injective_iff.mpr h (array.inj heq)

/-- Nothing is told from something that is not written as null. -/
theorem ofOption_injective (h : Function.Injective f) (hnull : ∀ a, f a ≠ .null) :
    Function.Injective (ofOption f) := by
  intro o o' heq
  cases o with
  | none =>
    cases o' with
    | none => rfl
    | some b => exact absurd heq.symm (hnull b)
  | some a =>
    cases o' with
    | none => exact absurd heq (hnull a)
    | some b => rw [h heq]

/-- Moments of the calendar have one text if they are carried to one. -/
theorem map_ofTimestamp_inj {o o' : Option Timestamp} (h : ∀ t ∈ o, t.IsValid)
    (h' : ∀ t ∈ o', t.IsValid) :
    o.map ofTimestamp = o'.map ofTimestamp ↔
      o.map Timestamp.carried = o'.map Timestamp.carried := by
  cases o with
  | none => cases o' <;> simp
  | some t =>
    cases o' with
    | none => simp
    | some t' => simp [ofTimestamp, Timestamp.text_inj (h t rfl) (h' t' rfl)]

theorem map_ofTimestamp_carried {o : Option Timestamp} (h : ∀ t ∈ o, t.IsValid) :
    (o.map Timestamp.carried).map ofTimestamp = o.map ofTimestamp := by
  cases o with
  | none => rfl
  | some t => simp [ofTimestamp, Timestamp.text_carried (h t rfl)]

/-- Regular moments are carried to one only if they are one. -/
theorem eq_of_map_carried_eq {o o' : Option Timestamp} (h : ∀ t ∈ o, t.IsValid)
    (h' : ∀ t ∈ o', t.IsValid) (hregular : ∀ t ∈ o, t.IsRegular)
    (hregular' : ∀ t ∈ o', t.IsRegular)
    (heq : o.map Timestamp.carried = o'.map Timestamp.carried) : o = o' := by
  cases o with
  | none =>
    cases o' with
    | none => rfl
    | some t' => cases heq
  | some t =>
    cases o' with
    | none => cases heq
    | some t' =>
      have htext := (Timestamp.text_inj (h t rfl) (h' t' rfl)).mpr (Option.some.inj heq)
      exact congrArg some (Timestamp.eq_of_text_eq (h t rfl) (h' t' rfl) (hregular t rfl)
        (hregular' t' rfl) htext)

theorem map_inj (h : Function.Injective f) {o o' : Option α} : o.map f = o'.map f ↔ o = o' :=
  (Option.map_injective h).eq_iff

/-- A list may have no member when it is empty. -/
theorem someUnlessEmpty_inj (h : Function.Injective f) {l l' : List α} :
    ((if l = [] then none else some (ofList f l)) =
      if l' = [] then none else some (ofList f l')) ↔ l = l' := by
  refine ⟨fun heq => ?_, fun heq => by rw [heq]⟩
  split_ifs at heq with hl hl' hl'
  · rw [hl, hl']
  · exact ofList_injective h (Option.some.inj heq)

end Json.Value

namespace Codec

variable {α : Type}

theorem given_eq (name : String) (c : Codec α) (o : Option α) :
    given name c o = ((o.map c.encode).map (Prod.mk name)).toList := by
  cases o <;> rfl

theorem encode_string : string.encode = Value.string := rfl

theorem encode_bool : bool.encode = Value.bool := rfl

theorem encode_int64 : int64.encode = Value.ofInt64 := rfl

theorem encode_uuid : uuid.encode = Value.ofUuid := rfl

theorem encode_moment : timestamp.encode = Value.ofTimestamp := rfl

theorem encode_value : value.encode = id := rfl

theorem encode_choice [Choice α] : (choice α).encode = Value.ofName := rfl

theorem encode_list (c : Codec α) : (list c).encode = Value.ofList c.encode := rfl

theorem encode_nullable (c : Codec α) : (nullable c).encode = Value.ofOption c.encode := by
  funext o
  cases o <;> rfl

end Codec

/-! ## Tables -/

open Json.Value (ofInt64 ofUuid ofTimestamp ofName ofList ofOption)

def UserRequest.columns (r : UserRequest) : List (String × Option Value) :=
  [("username", some (.string r.username)), ("name", some (.string r.name)),
    ("is_active", r.isActive.map .bool), ("path", r.path.map .string),
    ("email", r.email.map .string),
    ("groups", if r.groups = [] then none else some (ofList ofUuid r.groups)),
    ("attributes", r.attributes), ("type", r.userType.map ofName)]

def PatchedUserRequest.columns (r : PatchedUserRequest) : List (String × Option Value) :=
  [("username", r.username.map .string), ("name", r.name.map .string),
    ("is_active", r.isActive.map .bool), ("path", r.path.map .string),
    ("email", r.email.map .string), ("groups", r.groups.map (ofList ofUuid)),
    ("attributes", r.attributes), ("type", r.userType.map ofName)]

def UserPasswordSetRequest.columns (r : UserPasswordSetRequest) : List (String × Option Value) :=
  [("password", some (.string r.password))]

def GroupRequest.columns (r : GroupRequest) : List (String × Option Value) :=
  [("name", some (.string r.name)), ("is_superuser", r.isSuperuser.map .bool),
    ("parent", r.parent.map ofUuid), ("users", r.users.map (ofList ofInt64)),
    ("attributes", r.attributes), ("roles", r.roles.map (ofList ofUuid))]

def PatchedGroupRequest.columns (r : PatchedGroupRequest) : List (String × Option Value) :=
  [("name", r.name.map .string), ("is_superuser", r.isSuperuser.map .bool),
    ("parent", r.parent.map (ofOption ofUuid)), ("users", r.users.map (ofList ofInt64)),
    ("attributes", r.attributes), ("roles", r.roles.map (ofList ofUuid))]

def UserAccountRequest.columns (r : UserAccountRequest) : List (String × Option Value) :=
  [("pk", some (ofInt64 r.pk))]

def ApplicationRequest.columns (r : ApplicationRequest) : List (String × Option Value) :=
  [("name", some (.string r.name)), ("slug", some (.string r.slug)),
    ("provider", r.provider.map ofInt64),
    ("backchannel_providers", r.backchannelProviders.map (ofList ofInt64)),
    ("open_in_new_tab", r.openInNewTab.map .bool),
    ("meta_launch_url", r.metaLaunchUrl.map .string),
    ("meta_description", r.metaDescription.map .string),
    ("meta_publisher", r.metaPublisher.map .string),
    ("policy_engine_mode", r.policyEngineMode.map ofName), ("group", r.group.map .string)]

def PatchedApplicationRequest.columns (r : PatchedApplicationRequest) :
    List (String × Option Value) :=
  [("name", r.name.map .string), ("slug", r.slug.map .string),
    ("provider", r.provider.map (ofOption ofInt64)),
    ("backchannel_providers", r.backchannelProviders.map (ofList ofInt64)),
    ("open_in_new_tab", r.openInNewTab.map .bool),
    ("meta_launch_url", r.metaLaunchUrl.map .string),
    ("meta_description", r.metaDescription.map .string),
    ("meta_publisher", r.metaPublisher.map .string),
    ("policy_engine_mode", r.policyEngineMode.map ofName), ("group", r.group.map .string)]

def TokenRequest.columns (r : TokenRequest) : List (String × Option Value) :=
  [("identifier", some (.string r.identifier)), ("intent", r.intent.map ofName),
    ("user", r.user.map ofInt64), ("description", r.description.map .string),
    ("expires", r.expires.map ofTimestamp), ("expiring", r.expiring.map .bool)]

def PatchedTokenRequest.columns (r : PatchedTokenRequest) : List (String × Option Value) :=
  [("identifier", r.identifier.map .string), ("intent", r.intent.map ofName),
    ("user", r.user.map ofInt64), ("description", r.description.map .string),
    ("expires", r.expires.map ofTimestamp), ("expiring", r.expiring.map .bool)]

/-- The request as it is written, with its moment carried. -/
def TokenRequest.carried (r : TokenRequest) : TokenRequest :=
  { r with expires := r.expires.map .carried }

/-- The change as it is written, with its moment carried. -/
def PatchedTokenRequest.carried (r : PatchedTokenRequest) : PatchedTokenRequest :=
  { r with expires := r.expires.map .carried }

def TokenSetKeyRequest.columns (r : TokenSetKeyRequest) : List (String × Option Value) :=
  [("key", some (.string r.key))]

/-! ## All kinds of bodies -/

/-- What is sent in a body. -/
inductive BodyKind where
  | user | patchedUser | password | group | patchedGroup | account | application
  | patchedApplication | token | patchedToken | tokenKey

namespace BodyKind

/-- The fields of a kind. -/
def Fields : BodyKind → Type
  | user => UserRequest
  | patchedUser => PatchedUserRequest
  | password => UserPasswordSetRequest
  | group => GroupRequest
  | patchedGroup => PatchedGroupRequest
  | account => UserAccountRequest
  | application => ApplicationRequest
  | patchedApplication => PatchedApplicationRequest
  | token => TokenRequest
  | patchedToken => PatchedTokenRequest
  | tokenKey => TokenSetKeyRequest

def toJson : (k : BodyKind) → k.Fields → Value
  | user => UserRequest.toJson
  | patchedUser => PatchedUserRequest.toJson
  | password => UserPasswordSetRequest.toJson
  | group => GroupRequest.toJson
  | patchedGroup => PatchedGroupRequest.toJson
  | account => UserAccountRequest.toJson
  | application => ApplicationRequest.toJson
  | patchedApplication => PatchedApplicationRequest.toJson
  | token => TokenRequest.toJson
  | patchedToken => PatchedTokenRequest.toJson
  | tokenKey => TokenSetKeyRequest.toJson

/-- What stands under each name, if anything. -/
def columns : (k : BodyKind) → k.Fields → List (String × Option Value)
  | user => UserRequest.columns
  | patchedUser => PatchedUserRequest.columns
  | password => UserPasswordSetRequest.columns
  | group => GroupRequest.columns
  | patchedGroup => PatchedGroupRequest.columns
  | account => UserAccountRequest.columns
  | application => ApplicationRequest.columns
  | patchedApplication => PatchedApplicationRequest.columns
  | token => TokenRequest.columns
  | patchedToken => PatchedTokenRequest.columns
  | tokenKey => TokenSetKeyRequest.columns

def names : BodyKind → List String
  | user | patchedUser =>
    ["username", "name", "is_active", "path", "email", "groups", "attributes", "type"]
  | password => ["password"]
  | group | patchedGroup => ["name", "is_superuser", "parent", "users", "attributes", "roles"]
  | account => ["pk"]
  | application | patchedApplication =>
    ["name", "slug", "provider", "backchannel_providers", "open_in_new_tab", "meta_launch_url",
      "meta_description", "meta_publisher", "policy_engine_mode", "group"]
  | token | patchedToken =>
    ["identifier", "intent", "user", "description", "expires", "expiring"]
  | tokenKey => ["key"]

/-- The free part has whole numbers, and the moments are of the calendar, leap seconds among them. -/
def IsSound : (k : BodyKind) → k.Fields → Prop
  | user, r => ∀ v ∈ UserRequest.attributes r, v.IsWhole
  | patchedUser, r => ∀ v ∈ PatchedUserRequest.attributes r, v.IsWhole
  | group, r => ∀ v ∈ GroupRequest.attributes r, v.IsWhole
  | patchedGroup, r => ∀ v ∈ PatchedGroupRequest.attributes r, v.IsWhole
  | token, r => ∀ t ∈ TokenRequest.expires r, t.IsValid
  | patchedToken, r => ∀ t ∈ PatchedTokenRequest.expires r, t.IsValid
  | password, _ | account, _ | application, _ | patchedApplication, _ | tokenKey, _ => True

/-- The fields as they are written, with moments carried. -/
def carried : (k : BodyKind) → k.Fields → k.Fields
  | token, r => TokenRequest.carried r
  | patchedToken, r => PatchedTokenRequest.carried r
  | user, r | patchedUser, r | password, r | group, r | patchedGroup, r | account, r
  | application, r | patchedApplication, r | tokenKey, r => r

/-- Leap seconds stand at the ends of minutes. -/
def IsRegular : (k : BodyKind) → k.Fields → Prop
  | token, r => ∀ t ∈ TokenRequest.expires r, t.IsRegular
  | patchedToken, r => ∀ t ∈ PatchedTokenRequest.expires r, t.IsRegular
  | user, _ | patchedUser, _ | password, _ | group, _ | patchedGroup, _ | account, _
  | application, _ | patchedApplication, _ | tokenKey, _ => True

/-- The text of the body. -/
def body (k : BodyKind) (r : k.Fields) : Octets := octetsOf (k.toJson r).compact

variable {k : BodyKind}

theorem map_fst_columns (r : k.Fields) : (k.columns r).map Prod.fst = k.names := by
  cases k <;> rfl

theorem names_nodup (k : BodyKind) : k.names.Nodup := by
  cases k <;> decide

theorem toJson_eq (r : k.Fields) : k.toJson r = .object (Json.present (k.columns r)) := by
  cases k <;>
    simp [toJson, columns, UserRequest.toJson, UserRequest.columns, PatchedUserRequest.toJson,
      PatchedUserRequest.columns, UserPasswordSetRequest.toJson, UserPasswordSetRequest.columns,
      GroupRequest.toJson, GroupRequest.columns, PatchedGroupRequest.toJson,
      PatchedGroupRequest.columns, UserAccountRequest.toJson, UserAccountRequest.columns,
      ApplicationRequest.toJson, ApplicationRequest.columns, PatchedApplicationRequest.toJson,
      PatchedApplicationRequest.columns, TokenRequest.toJson, TokenRequest.columns,
      PatchedTokenRequest.toJson, PatchedTokenRequest.columns, TokenSetKeyRequest.toJson,
      TokenSetKeyRequest.columns, Json.present_cons, Json.present_nil, Codec.field, Codec.given_eq,
      Codec.encode_string, Codec.encode_bool, Codec.encode_int64, Codec.encode_uuid,
      Codec.encode_moment, Codec.encode_value, Codec.encode_choice, Codec.encode_list,
      Codec.encode_nullable, apply_ite (Option.map _)]

open Json.Value in
theorem isWhole_of_mem_columns {r : k.Fields} (h : k.IsSound r) {name : String} {v : Value}
    (hv : (name, some v) ∈ k.columns r) : v.IsWhole := by
  have hall : ∀ c ∈ k.columns r, ∀ v, c.2 = some v → v.IsWhole := by
    cases k <;>
      simp [columns, UserRequest.columns, PatchedUserRequest.columns,
        UserPasswordSetRequest.columns, GroupRequest.columns, PatchedGroupRequest.columns,
        UserAccountRequest.columns, ApplicationRequest.columns,
        PatchedApplicationRequest.columns, TokenRequest.columns, PatchedTokenRequest.columns,
        TokenSetKeyRequest.columns, or_imp, forall_and, isWhole_string, isWhole_bool,
        isWhole_ofInt64, isWhole_ofUuid, isWhole_ofTimestamp, isWhole_ofName, isWhole_ofList,
        isWhole_ofOption]
    -- The free parts are left.
    all_goals exact h
  exact hall _ hv v rfl

open Json.Value in
theorem columns_carried {r : k.Fields} (h : k.IsSound r) :
    k.columns (k.carried r) = k.columns r := by
  cases k with
  | token =>
    exact congrArg (fun v => (TokenRequest.columns r).set 4 ("expires", v))
      (map_ofTimestamp_carried h)
  | patchedToken =>
    exact congrArg (fun v => (PatchedTokenRequest.columns r).set 4 ("expires", v))
      (map_ofTimestamp_carried h)
  | _ => rfl

open Json.Value in
theorem columns_inj {r r' : k.Fields} (h : k.IsSound r) (h' : k.IsSound r') :
    k.columns r = k.columns r' ↔ k.carried r = k.carried r' := by
  refine ⟨fun hcolumns => ?_, fun hcarried => ?_⟩
  · have hint64 : ∀ n, ofInt64 n ≠ .null := nofun
    have huuid : ∀ u, ofUuid u ≠ .null := nofun
    cases k <;> obtain ⟨⟩ := r <;> obtain ⟨⟩ := r' <;>
      simp [columns, UserRequest.columns, PatchedUserRequest.columns,
        UserPasswordSetRequest.columns, GroupRequest.columns, PatchedGroupRequest.columns,
        UserAccountRequest.columns, ApplicationRequest.columns,
        PatchedApplicationRequest.columns, TokenRequest.columns, PatchedTokenRequest.columns,
        TokenSetKeyRequest.columns, map_inj, someUnlessEmpty_inj, ofInt64_injective.eq_iff,
        string_injective, ofInt64_injective, ofUuid_injective, ofName_injective, ofList_injective,
        ofOption_injective, hint64, huuid] at hcolumns
    case token =>
      obtain ⟨rfl, rfl, rfl, rfl, hexpires, rfl⟩ := hcolumns
      exact congrArg (TokenRequest.mk _ _ _ _ · _) ((map_ofTimestamp_inj h h').mp hexpires)
    case patchedToken =>
      obtain ⟨rfl, rfl, rfl, rfl, hexpires, rfl⟩ := hcolumns
      exact congrArg (PatchedTokenRequest.mk _ _ _ _ · _) ((map_ofTimestamp_inj h h').mp hexpires)
    all_goals simp only [hcolumns]
  · rw [← columns_carried h, hcarried, columns_carried h']

open Json.Value in
theorem eq_of_carried_eq {r r' : k.Fields} (h : k.IsSound r) (h' : k.IsSound r')
    (hregular : k.IsRegular r) (hregular' : k.IsRegular r')
    (hcarried : k.carried r = k.carried r') : r = r' := by
  cases k with
  | token =>
    obtain ⟨⟩ := r
    obtain ⟨⟩ := r'
    obtain ⟨rfl, rfl, rfl, rfl, hexpires, rfl⟩ := TokenRequest.mk.inj hcarried
    exact congrArg (TokenRequest.mk _ _ _ _ · _)
      (eq_of_map_carried_eq h h' hregular hregular' hexpires)
  | patchedToken =>
    obtain ⟨⟩ := r
    obtain ⟨⟩ := r'
    obtain ⟨rfl, rfl, rfl, rfl, hexpires, rfl⟩ := PatchedTokenRequest.mk.inj hcarried
    exact congrArg (PatchedTokenRequest.mk _ _ _ _ · _)
      (eq_of_map_carried_eq h h' hregular hregular' hexpires)
  | _ => exact hcarried

theorem read_compact {r : k.Fields} (h : k.IsSound r) :
    Json.read (k.body r) = ⟨.ofValue (k.toJson r), false⟩ := by
  refine Json.read_compact ?_
  rw [toJson_eq]
  exact Value.holdWhole_iff.mpr fun m hm => isWhole_of_mem_columns h (Json.mem_present.mp hm)

/-- Bodies are equal if what is written in them is. -/
theorem body_eq_iff {r r' : k.Fields} (h : k.IsSound r) (h' : k.IsSound r') :
    k.body r = k.body r' ↔ k.carried r = k.carried r' := by
  refine ⟨fun hbody => ?_, fun hcarried => ?_⟩
  · have htree : Tree.ofValue (k.toJson r) = Tree.ofValue (k.toJson r') :=
      congrArg Json.Document.root ((read_compact h).symm.trans (hbody ▸ read_compact h'))
    have hpresent := Tree.ofValue_inj htree
    rw [toJson_eq, toJson_eq, Value.object.injEq] at hpresent
    exact (columns_inj h h').mp (Json.present_inj
      ((map_fst_columns r).trans (map_fst_columns r').symm)
      (map_fst_columns r ▸ k.names_nodup) hpresent)
  · rw [body, body, toJson_eq, toJson_eq, (columns_inj h h').mpr hcarried]

/-- The body is read to its end as an object of distinct names. Its members are the fields that are
set, each under its name and as its value. Bodies tell all fields, moments up to what they are
carried to; so bodies whose leap seconds stand at the ends of minutes are equal only if all fields
are. -/
theorem read_body (r : k.Fields) (h : k.IsSound r) :
    (∃ members, Json.read (k.body r) = ⟨.object members .closed, false⟩ ∧
      (members.map Prod.fst).Nodup ∧
      ∀ key t, (key, t) ∈ members ↔
        ∃ name v, key = .ok name ∧ t = .ofValue v ∧ (name, some v) ∈ k.columns r) ∧
    (∀ r', k.IsSound r' → (k.body r' = k.body r ↔ k.carried r' = k.carried r)) ∧
    ∀ r', k.IsSound r' → k.IsRegular r → k.IsRegular r' → k.body r' = k.body r → r' = r := by
  refine ⟨⟨Tree.ofMembers (Json.present (k.columns r)), ?_, ?_, ?_⟩,
    fun r' h' => body_eq_iff h' h, fun r' h' hregular hregular' hbody => ?_⟩
  · rw [read_compact h, toJson_eq]
    rfl
  · have hnames : (Tree.ofMembers (Json.present (k.columns r))).map Prod.fst =
        ((Json.present (k.columns r)).map Prod.fst).map (Except.ok (ε := Json.Fault)) := by
      rw [Tree.ofMembers_eq_map, List.map_map, List.map_map]
      rfl
    rw [hnames]
    exact (Json.nodup_present (map_fst_columns r ▸ k.names_nodup)).map fun _ _ => Except.ok.inj
  · intro key t
    rw [Tree.ofMembers_eq_map, List.mem_map]
    constructor
    · rintro ⟨⟨name, v⟩, hm, heq⟩
      obtain ⟨rfl, rfl⟩ := Prod.mk.inj heq
      exact ⟨name, v, rfl, rfl, Json.mem_present.mp hm⟩
    · rintro ⟨name, v, rfl, rfl, hv⟩
      exact ⟨(name, v), Json.mem_present.mpr hv, rfl⟩
  · exact eq_of_carried_eq h' h hregular' hregular ((body_eq_iff h' h).mp hbody)

/-- A token that expires in the leap second at the end of a year, and no other token has its body. -/
theorem read_body_of_leap_second :
    let r : TokenRequest :=
      { identifier := "é\"", expires := some ⟨⟨2016, 12, 31⟩, 23, 59, 59, 1500000000⟩ }
    token.IsSound r ∧ token.IsRegular r ∧
      (∃ members, Json.read (token.body r) = ⟨.object members .closed, false⟩ ∧
        (members.map Prod.fst).Nodup ∧
        ∀ key t, (key, t) ∈ members ↔
          ∃ name v, key = .ok name ∧ t = .ofValue v ∧ (name, some v) ∈ token.columns r) ∧
      ∀ r' : TokenRequest, token.IsSound r' → token.IsRegular r' →
        token.body r' = token.body r → r' = r := by
  intro r
  have hsound : token.IsSound r := by
    rintro t ⟨⟩
    decide
  have hregular : token.IsRegular r := by
    rintro t ⟨⟩
    exact Or.inr rfl
  obtain ⟨hmembers, -, hsame⟩ := read_body (k := token) r hsound
  exact ⟨hsound, hregular, hmembers, fun r' h' => hsame r' h' hregular⟩

/-- A leap second behind the third second of a minute has the text of the fourth. -/
theorem body_of_early_leap_second :
    let r : TokenRequest :=
      { identifier := "t", expires := some ⟨⟨1970, 1, 1⟩, 0, 0, 3, 1500000000⟩ }
    let r' : TokenRequest :=
      { identifier := "t", expires := some ⟨⟨1970, 1, 1⟩, 0, 0, 4, 500000000⟩ }
    token.IsSound r ∧ token.IsSound r' ∧ r ≠ r' ∧ token.body r = token.body r' := by
  intro r r'
  have hsound : token.IsSound r := by
    rintro t ⟨⟩
    decide
  have hsound' : token.IsSound r' := by
    rintro t ⟨⟩
    decide
  refine ⟨hsound, hsound', fun h => ?_, (body_eq_iff (k := token) hsound hsound').mpr rfl⟩
  cases congrArg (fun q => q.expires.map Timestamp.second) h

end BodyKind

/-! ## Operations with a body -/

namespace Operation

/-- The fields that an operation sends in its body. -/
def content : Operation → Option ((k : BodyKind) × k.Fields)
  | .user (.create r) | .user (.update _ r) => some ⟨.user, r⟩
  | .user (.partialUpdate _ r) => some ⟨.patchedUser, r⟩
  | .user (.setPassword _ r) => some ⟨.password, r⟩
  | .group (.create r) | .group (.update _ r) => some ⟨.group, r⟩
  | .group (.partialUpdate _ r) => some ⟨.patchedGroup, r⟩
  | .group (.addUser _ pk) | .group (.removeUser _ pk) => some ⟨.account, UserAccountRequest.mk pk⟩
  | .application (.create r) | .application (.update _ r) => some ⟨.application, r⟩
  | .application (.partialUpdate _ r) => some ⟨.patchedApplication, r⟩
  | .token (.create r) | .token (.update _ r) => some ⟨.token, r⟩
  | .token (.partialUpdate _ r) => some ⟨.patchedToken, r⟩
  | .token (.setKey _ r) => some ⟨.tokenKey, r⟩
  | _ => none

/-- The fields are sent as the body of their kind. -/
theorem body_of_request {o : Operation} {c : Client} {q : Request} {k : BodyKind} {r : k.Fields}
    (hcontent : o.content = some ⟨k, r⟩) (hq : o.plan.request c = .ok q) :
    q.body = some (k.body r) := by
  have hbody : o.plan.parameters.body = some (k.toJson r) := by
    cases o with
    | administration o | device o | event o | flow o => cases o <;> cases hcontent
    | application o | group o | token o | user o => cases o <;> cases hcontent <;> rfl
    | free endpoint parameters => cases hcontent
  rw [(Parameters.request_ok hq).2.2.2.1, hbody]
  rfl

end Operation

end IdentityApi
