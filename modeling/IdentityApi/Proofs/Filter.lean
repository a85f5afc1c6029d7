import IdentityApi.Proofs.Query
import IdentityApi.Resource

/-! # Filters are told by their queries

Each filter is gathered column by column, every column under a key of its own. So the text of its
query tells what every field holds (`text_eq_iff_normal_eq`), up to empty texts: an empty text is
not sent, alone or in a list.
-/
namespace IdentityApi

open Query

/-! ## Up to empty texts -/

instance : Faithful UserType :=
  faithful_of_names (by decide) (by decide) fun t => by cases t <;> decide

instance : Faithful TokenIntent :=
  faithful_of_names (by decide) (by decide) fun t => by cases t <;> decide

instance : Faithful FlowDesignation :=
  faithful_of_names (by decide) (by decide) fun t => by cases t <;> decide

namespace Paging

/-- An empty text asks for no more than an absent one. -/
def normal (p : Paging) : Paging :=
  { p with ordering := p.ordering.filter (· ≠ ""), search := p.search.filter (· ≠ "") }

def columns (p : Paging) : List (String × List String) :=
  [("ordering", shown p.ordering), ("page", shown p.page), ("page_size", shown p.pageSize),
    ("search", shown p.search)]

theorem entries_eq (p : Paging) : p.entries = spread p.columns := by
  simp [entries, columns, spread, entry_eq]

theorem columns_eq_iff {p q : Paging} : p.columns = q.columns ↔ p.normal = q.normal := by
  simp [columns, normal, shown_inj, shown_texts]

end Paging

def UserFilter.normal (f : UserFilter) : UserFilter :=
  { f with
    username := f.username.filter (· ≠ "")
    email := f.email.filter (· ≠ "")
    name := f.name.filter (· ≠ "")
    path := f.path.filter (· ≠ "")
    pathStartswith := f.pathStartswith.filter (· ≠ "")
    groupsByName := f.groupsByName.filter (· ≠ "")
    paging := f.paging.normal }

def UserFilter.columns (f : UserFilter) : List (String × List String) :=
  [("username", shown f.username), ("email", shown f.email), ("name", shown f.name),
    ("is_active", shown f.isActive), ("is_superuser", shown f.isSuperuser),
    ("path", shown f.path), ("path_startswith", shown f.pathStartswith), ("uuid", shown f.uuid),
    ("type", shownAll f.userTypes), ("groups_by_name", shownAll f.groupsByName),
    ("groups_by_pk", shownAll f.groupsByPk), ("include_groups", shown f.includeGroups)] ++
  f.paging.columns

def GroupFilter.normal (f : GroupFilter) : GroupFilter :=
  { f with
    name := f.name.filter (· ≠ "")
    membersByUsername := f.membersByUsername.filter (· ≠ "")
    paging := f.paging.normal }

def GroupFilter.columns (f : GroupFilter) : List (String × List String) :=
  [("name", shown f.name), ("is_superuser", shown f.isSuperuser),
    ("members_by_pk", shownAll f.membersByPk),
    ("members_by_username", shownAll f.membersByUsername),
    ("include_users", shown f.includeUsers), ("include_children", shown f.includeChildren)] ++
  f.paging.columns

def ApplicationFilter.normal (f : ApplicationFilter) : ApplicationFilter :=
  { f with
    name := f.name.filter (· ≠ "")
    slug := f.slug.filter (· ≠ "")
    group := f.group.filter (· ≠ "")
    metaPublisher := f.metaPublisher.filter (· ≠ "")
    metaLaunchUrl := f.metaLaunchUrl.filter (· ≠ "")
    paging := f.paging.normal }

def ApplicationFilter.columns (f : ApplicationFilter) : List (String × List String) :=
  [("name", shown f.name), ("slug", shown f.slug), ("group", shown f.group),
    ("meta_publisher", shown f.metaPublisher), ("meta_launch_url", shown f.metaLaunchUrl),
    ("superuser_full_list", shown f.superuserFullList), ("for_user", shown f.forUser),
    ("only_with_launch_url", shown f.onlyWithLaunchUrl)] ++
  f.paging.columns

def TokenFilter.normal (f : TokenFilter) : TokenFilter :=
  { f with
    identifier := f.identifier.filter (· ≠ "")
    description := f.description.filter (· ≠ "")
    managed := f.managed.filter (· ≠ "")
    userUsername := f.userUsername.filter (· ≠ "")
    paging := f.paging.normal }

def TokenFilter.columns (f : TokenFilter) : List (String × List String) :=
  [("identifier", shown f.identifier), ("intent", shown f.intent),
    ("description", shown f.description), ("managed", shown f.managed),
    ("user__username", shown f.userUsername)] ++
  f.paging.columns

def EventFilter.normal (f : EventFilter) : EventFilter :=
  { f with
    action := f.action.filter (· ≠ "")
    actions := f.actions.filter (· ≠ "")
    username := f.username.filter (· ≠ "")
    clientIp := f.clientIp.filter (· ≠ "")
    brandName := f.brandName.filter (· ≠ "")
    contextAuthorizedApp := f.contextAuthorizedApp.filter (· ≠ "")
    contextModelApp := f.contextModelApp.filter (· ≠ "")
    contextModelName := f.contextModelName.filter (· ≠ "")
    contextModelPk := f.contextModelPk.filter (· ≠ "")
    paging := f.paging.normal }

def EventFilter.columns (f : EventFilter) : List (String × List String) :=
  [("action", shown f.action), ("actions", shownAll f.actions), ("username", shown f.username),
    ("client_ip", shown f.clientIp), ("brand_name", shown f.brandName),
    ("context_authorized_app", shown f.contextAuthorizedApp),
    ("context_model_app", shown f.contextModelApp),
    ("context_model_name", shown f.contextModelName),
    ("context_model_pk", shown f.contextModelPk)] ++
  f.paging.columns

def TopPerUserFilter.normal (f : TopPerUserFilter) : TopPerUserFilter :=
  { f with action := f.action.filter (· ≠ "") }

def TopPerUserFilter.columns (f : TopPerUserFilter) : List (String × List String) :=
  [("action", shown f.action), ("top_n", shown f.topN)]

def FlowFilter.normal (f : FlowFilter) : FlowFilter :=
  { f with
    name := f.name.filter (· ≠ "")
    slug := f.slug.filter (· ≠ "")
    paging := f.paging.normal }

def FlowFilter.columns (f : FlowFilter) : List (String × List String) :=
  [("designation", shown f.designation), ("name", shown f.name), ("slug", shown f.slug)] ++
  f.paging.columns

def DeviceFilter.normal (f : DeviceFilter) : DeviceFilter :=
  { f with name := f.name.filter (· ≠ ""), paging := f.paging.normal }

def DeviceFilter.columns (f : DeviceFilter) : List (String × List String) :=
  [("name", shown f.name)] ++ f.paging.columns

/-! ## All kinds of filters -/

/-- What a list can be narrowed by. -/
inductive FilterKind where
  | users | groups | applications | tokens | events | topPerUser | flows | devices

namespace FilterKind

/-- The filters of a kind. -/
def Filter : FilterKind → Type
  | users => UserFilter
  | groups => GroupFilter
  | applications => ApplicationFilter
  | tokens => TokenFilter
  | events => EventFilter
  | topPerUser => TopPerUserFilter
  | flows => FlowFilter
  | devices => DeviceFilter

/-- The query that a filter is sent as. -/
def toQuery : (k : FilterKind) → k.Filter → Query
  | users => UserFilter.toQuery
  | groups => GroupFilter.toQuery
  | applications => ApplicationFilter.toQuery
  | tokens => TokenFilter.toQuery
  | events => EventFilter.toQuery
  | topPerUser => TopPerUserFilter.toQuery
  | flows => FlowFilter.toQuery
  | devices => DeviceFilter.toQuery

/-- The filter without empty texts: an option that holds one is absent, a list drops it. -/
def normal : (k : FilterKind) → k.Filter → k.Filter
  | users => UserFilter.normal
  | groups => GroupFilter.normal
  | applications => ApplicationFilter.normal
  | tokens => TokenFilter.normal
  | events => EventFilter.normal
  | topPerUser => TopPerUserFilter.normal
  | flows => FlowFilter.normal
  | devices => DeviceFilter.normal

/-- The texts that each field leaves, under its key. -/
def columns : (k : FilterKind) → k.Filter → List (String × List String)
  | users => UserFilter.columns
  | groups => GroupFilter.columns
  | applications => ApplicationFilter.columns
  | tokens => TokenFilter.columns
  | events => EventFilter.columns
  | topPerUser => TopPerUserFilter.columns
  | flows => FlowFilter.columns
  | devices => DeviceFilter.columns

def pagingKeys : List String := ["ordering", "page", "page_size", "search"]

def keys : FilterKind → List String
  | users =>
    ["username", "email", "name", "is_active", "is_superuser", "path", "path_startswith", "uuid",
      "type", "groups_by_name", "groups_by_pk", "include_groups"] ++ pagingKeys
  | groups =>
    ["name", "is_superuser", "members_by_pk", "members_by_username", "include_users",
      "include_children"] ++ pagingKeys
  | applications =>
    ["name", "slug", "group", "meta_publisher", "meta_launch_url", "superuser_full_list",
      "for_user", "only_with_launch_url"] ++ pagingKeys
  | tokens => ["identifier", "intent", "description", "managed", "user__username"] ++ pagingKeys
  | events =>
    ["action", "actions", "username", "client_ip", "brand_name", "context_authorized_app",
      "context_model_app", "context_model_name", "context_model_pk"] ++ pagingKeys
  | topPerUser => ["action", "top_n"]
  | flows => ["designation", "name", "slug"] ++ pagingKeys
  | devices => ["name"] ++ pagingKeys

variable {k : FilterKind}

theorem map_fst_columns (f : k.Filter) : (k.columns f).map Prod.fst = k.keys := by
  cases k <;> rfl

theorem keys_nodup (k : FilterKind) : k.keys.Nodup := by
  cases k <;> decide

theorem isPlainKey_of_mem_keys {key : String} (h : key ∈ k.keys) : IsPlainKey key := by
  have hall : (k.keys.all fun key => decide (IsPlainKey key)) = true := by
    cases k <;> decide
  exact of_decide_eq_true (List.all_eq_true.mp hall key h)

theorem entries_toQuery (f : k.Filter) : (k.toQuery f).entries = spread (k.columns f) := by
  cases k <;>
    simp [toQuery, columns, UserFilter.toQuery, UserFilter.columns, GroupFilter.toQuery,
      GroupFilter.columns, ApplicationFilter.toQuery, ApplicationFilter.columns,
      TokenFilter.toQuery, TokenFilter.columns, EventFilter.toQuery, EventFilter.columns,
      TopPerUserFilter.toQuery, TopPerUserFilter.columns, FlowFilter.toQuery, FlowFilter.columns,
      DeviceFilter.toQuery, DeviceFilter.columns, Paging.entries_eq, entry_eq, entryAll_eq, spread]

theorem columns_eq_iff {f g : k.Filter} : k.columns f = k.columns g ↔ k.normal f = k.normal g := by
  cases k <;>
    simp [Filter, columns, normal, UserFilter.columns, UserFilter.normal, GroupFilter.columns,
      GroupFilter.normal, ApplicationFilter.columns, ApplicationFilter.normal,
      TokenFilter.columns, TokenFilter.normal, EventFilter.columns, EventFilter.normal,
      TopPerUserFilter.columns, TopPerUserFilter.normal, FlowFilter.columns, FlowFilter.normal,
      DeviceFilter.columns, DeviceFilter.normal, Paging.columns_eq_iff, shown_inj, shownAll_inj,
      shown_texts, shownAll_texts]

/-- Two filters of a kind are sent as the same text exactly when they agree in every field, empty
texts taken as absent. -/
theorem text_eq_iff_normal_eq (f g : k.Filter) :
    (k.toQuery f).text = (k.toQuery g).text ↔ k.normal f = k.normal g := by
  have hplain : ∀ f : k.Filter, ∀ e ∈ (k.toQuery f).entries, IsPlainKey e.1 := by
    intro f e he
    rw [entries_toQuery] at he
    exact isPlainKey_of_mem_keys (map_fst_columns f ▸ fst_of_mem_spread he)
  rw [← columns_eq_iff]
  constructor
  · intro h
    have hentries := text_inj (hplain f) (hplain g) h
    rw [entries_toQuery, entries_toQuery] at hentries
    refine spread_inj ?_ ?_ hentries
    · rw [map_fst_columns, map_fst_columns]
    · rw [map_fst_columns]
      exact keys_nodup k
  · intro h
    rw [Query.text, Query.text, entries_toQuery, entries_toQuery, h]

end FilterKind

end IdentityApi
