import IdentityApi.CommandLine.Grammar
import IdentityApi.Proofs.Filter
import IdentityApi.Proofs.Operation.Routing
import IdentityApi.Proofs.Printing

/-! # What commands ask for

Every command asks one endpoint for something, without a body (`plan_endpoint`, `plan_parameters`).
Its options stand in the query under the keys of the service, empty ones left out. Over one base
commands of one kind that differ in more than an empty text have different URLs
(`normal_eq_of_text_eq`), and what a command prints is read as what it was told.
-/
namespace IdentityApi

open Query Url Url.Reader

/-! ## Queries of URLs -/

namespace Parameters

variable {e : Endpoint} {p : Parameters} {base u : Url}

theorem query_of_url (hbase : base.IsWebAddress) (he : e ∈ Endpoint.all)
    (h : p.url base e = .ok u) : u.query = p.urlQuery base.scheme := by
  obtain ⟨list, hlist, -, -⟩ := hbase.path
  rw [url_eq hbase.scheme hlist he] at h
  obtain ⟨t, -, rfl⟩ := Json.ok_of_map h
  rfl

theorem urlQuery_eq (hk : ∀ x ∈ p.query.entries, ∀ c ∈ x.1.toList, isKeyChar c = true)
    {scheme : String} (hs : IsWebScheme scheme) :
    p.urlQuery scheme = if p.query.entries = [] then none else some p.query.text := by
  simp only [urlQuery, queryText_text hk hs, isEmpty_iff]

/-- Without a body the URL is all that can fail. -/
theorem exists_request_of_url (hbody : p.body = none) (h : p.url base e = .ok u)
    (authorization : Option String) :
    ∃ q, p.request base authorization e = .ok q ∧ q.url = u := by
  refine ⟨⟨e.method.name, u, headers authorization false, none⟩, ?_, rfl⟩
  simp [request, hbody, h, bind, Except.bind, pure, Except.pure]

end Parameters

namespace Command

/-! ## Endpoints, places and options -/

def endpoint : Command → Endpoint
  | listUsers .. => .usersList
  | getUser _ => .usersRetrieve
  | me => .usersMe
  | listGroups .. => .groupsList
  | listApps .. => .applicationsList
  | checkAccess .. => .applicationsCheckAccess
  | listDevices _ => .authenticatorsAdminAll
  | listEvents .. => .eventsList
  | version => .adminVersion
  | system => .adminSystem

/-- What stands in the path: the number of a user, or the slug of an application. -/
def place : Command → List (String × String)
  | getUser id => [("id", QueryValue.text id)]
  | checkAccess slug _ => [("slug", slug)]
  | _ => []

/-- The texts of the options, each under its key; an option that is missing or empty has none. -/
def options : Command → List (String × List String)
  | listUsers search active page pageSize =>
    [("is_active", shown active), ("page", shown page), ("page_size", shown pageSize),
      ("search", shown search)]
  | listGroups search page pageSize | listApps search page pageSize =>
    [("page", shown page), ("page_size", shown pageSize), ("search", shown search)]
  | checkAccess _ user => [("for_user", shown (some user))]
  | listDevices user => [("user", shown user)]
  | listEvents action username page pageSize =>
    [("action", shown action), ("username", shown username), ("page", shown page),
      ("page_size", shown pageSize)]
  | getUser _ | me | version | system => []

def parameters (c : Command) : Parameters := { path := c.place, query := ⟨spread c.options⟩ }

variable {c d : Command}

theorem isNamed_operation (c : Command) : c.operation.isNamed = true := by
  cases c <;> rfl

theorem plan_endpoint (c : Command) : c.operation.plan.endpoint = c.endpoint := by
  cases c <;> rfl

/-- The entries of a query are those of the options. -/
theorem entries_plan (c : Command) :
    c.operation.plan.parameters.query.entries = spread c.options := by
  have hnone : ∀ {α : Type} [QueryValue α] (key : String), entry key (none : Option α) = [] :=
    fun _ => rfl
  have hnil : ∀ {α : Type} [QueryValue α] (key : String), entryAll key ([] : List α) = [] :=
    fun _ => rfl
  cases c <;>
    simp [operation, Operation.plan, UserOperation.plan, GroupOperation.plan,
      ApplicationOperation.plan, DeviceOperation.plan, EventOperation.plan,
      AdministrationOperation.plan, UserFilter.toQuery, GroupFilter.toQuery,
      ApplicationFilter.toQuery, EventFilter.toQuery, Paging.entries, Query.empty, hnone, hnil,
      entry_eq, options, spread]

theorem plan_parameters (c : Command) : c.operation.plan.parameters = c.parameters := by
  have hquery : c.operation.plan.parameters.query = ⟨spread c.options⟩ :=
    congrArg Query.mk (entries_plan c)
  have hparts : c.operation.plan.parameters.path = c.place ∧
      c.operation.plan.parameters.body = none := by
    cases c <;> exact ⟨rfl, rfl⟩
  rw [parameters, ← hquery, ← hparts.1, ← hparts.2]

theorem endpoint_mem_all (c : Command) : c.endpoint ∈ Endpoint.all :=
  plan_endpoint c ▸ Operation.endpoint_mem_all (isNamed_operation c)

theorem method_endpoint (c : Command) : c.endpoint.method = .get := by
  cases c <;> rfl

/-! ## URLs -/

theorem isPlainKey_options (c : Command) : ∀ key ∈ c.options.map Prod.fst,
    IsPlainKey key ∧ ∀ ch ∈ key.toList, isKeyChar ch = true := by
  have hlisted : ∀ key ∈ c.options.map Prod.fst, key ∈ ["is_active", "page", "page_size", "search",
      "for_user", "user", "action", "username"] := by
    cases c <;> simp [options]
  have hplain : ∀ key ∈ ["is_active", "page", "page_size", "search", "for_user", "user", "action",
      "username"], IsPlainKey key ∧ key.toList.all isKeyChar = true := by
    decide
  intro key hkey
  exact (hplain key (hlisted key hkey)).imp_right List.all_eq_true.mp

theorem nodup_keys (c : Command) : (c.options.map Prod.fst).Nodup := by
  cases c <;> simp [options]

/-- The query of a URL holds the options, and there is none if they leave nothing. -/
theorem query_of_url {text : String} {base u : Url} (hbase : Client.baseOf text = .ok base)
    (h : c.parameters.url base c.endpoint = .ok u) :
    u.query = if spread c.options = [] then none else some (Query.text ⟨spread c.options⟩) := by
  have haddress := Client.isWebAddress_of_baseOf hbase
  have hkeys : ∀ x ∈ spread c.options, ∀ ch ∈ x.1.toList, isKeyChar ch = true :=
    fun x hx => (isPlainKey_options c x.1 (fst_of_mem_spread hx)).2
  rw [Parameters.query_of_url haddress (endpoint_mem_all c) h]
  exact Parameters.urlQuery_eq hkeys haddress.scheme

/-! ## Commands of one kind -/

/-- Two commands that differ in their values at most. -/
inductive IsLike : Command → Command → Prop
  | listUsers {search search' active active' page page' pageSize pageSize'} :
    IsLike (listUsers search active page pageSize) (listUsers search' active' page' pageSize')
  | getUser {id id'} : IsLike (getUser id) (getUser id')
  | me : IsLike me me
  | listGroups {search search' page page' pageSize pageSize'} :
    IsLike (listGroups search page pageSize) (listGroups search' page' pageSize')
  | listApps {search search' page page' pageSize pageSize'} :
    IsLike (listApps search page pageSize) (listApps search' page' pageSize')
  | checkAccess {slug slug' user user'} : IsLike (checkAccess slug user) (checkAccess slug' user')
  | listDevices {user user'} : IsLike (listDevices user) (listDevices user')
  | listEvents {action action' username username' page page' pageSize pageSize'} :
    IsLike (listEvents action username page pageSize)
      (listEvents action' username' page' pageSize')
  | version : IsLike version version
  | system : IsLike system system

/-- A command of which empty texts are left out. -/
def normal : Command → Command
  | listUsers search active page pageSize =>
    listUsers (search.filter (· ≠ "")) active page pageSize
  | listGroups search page pageSize => listGroups (search.filter (· ≠ "")) page pageSize
  | listApps search page pageSize => listApps (search.filter (· ≠ "")) page pageSize
  | listEvents action username page pageSize =>
    listEvents (action.filter (· ≠ "")) (username.filter (· ≠ "")) page pageSize
  | c => c

namespace IsLike

theorem endpoint_eq (h : IsLike c d) : c.endpoint = d.endpoint := by
  cases h <;> rfl

theorem keys_eq (h : IsLike c d) : c.options.map Prod.fst = d.options.map Prod.fst := by
  cases h <;> simp only [options, List.map_cons, List.map_nil]

theorem normal_eq (h : IsLike c d) (hplace : c.place = d.place)
    (hoptions : c.options = d.options) : c.normal = d.normal := by
  cases h with
  | getUser =>
    have hid := (Prod.mk.inj (List.cons.inj hplace).1).2
    exact congrArg Command.getUser (Faithful.text_inj _ _ hid)
  | checkAccess =>
    simp only [place, options, shown_inj, List.cons.injEq, Prod.mk.injEq, and_true, true_and,
      Option.some.injEq] at hplace hoptions
    rw [hplace, hoptions]
  | me | version | system => rfl
  | listUsers | listGroups | listApps | listDevices | listEvents =>
    simpa [normal, options, shown_inj, shown_texts, and_assoc, and_comm, and_left_comm]
      using hoptions

end IsLike

/-- The queries of commands of one kind tell the options. -/
theorem options_eq_of_query_eq (hlike : IsLike c d)
    (h : (if spread c.options = [] then none else some (Query.text ⟨spread c.options⟩)) =
      if spread d.options = [] then none else some (Query.text ⟨spread d.options⟩)) :
    c.options = d.options := by
  have hplain : ∀ (c : Command), ∀ x ∈ spread c.options, IsPlainKey x.1 :=
    fun c x hx => (isPlainKey_options c x.1 (fst_of_mem_spread hx)).1
  apply spread_inj hlike.keys_eq (nodup_keys c)
  split_ifs at h with hc hd hd
  · rw [hc, hd]
  · exact Query.text_inj (hplain c) (hplain d) (Option.some.inj h)

/-- The paths of commands of one kind tell what stands in them. -/
theorem place_eq_of_path_eq {text : String} {base u v : Url}
    (hbase : Client.baseOf text = .ok base) (hlike : IsLike c d)
    (hu : c.parameters.url base c.endpoint = .ok u)
    (hv : d.parameters.url base d.endpoint = .ok v) (hpath : u.path.text = v.path.text) :
    c.place = d.place := by
  have hrequest : ∀ {c : Command} {u : Url}, c.parameters.url base c.endpoint = .ok u →
      ∃ q, c.operation.plan.request { base } = .ok q ∧ q.url = u := by
    intro c u hu
    rw [Plan.request, plan_parameters, plan_endpoint]
    exact Parameters.exists_request_of_url rfl hu none
  obtain ⟨q, hq, rfl⟩ := hrequest hu
  obtain ⟨r, hr, rfl⟩ := hrequest hv
  have hc := isNamed_operation c
  have hd := isNamed_operation d
  have hendpoint : c.operation.plan.endpoint = d.operation.plan.endpoint := by
    rw [plan_endpoint, plan_endpoint, hlike.endpoint_eq]
  have hsegments := Operation.segments_eq_of_path_eq (c := { base }) hbase hc hd hq hr hpath
  have harguments := Operation.arguments_eq_of_segments_eq hc hd hendpoint hsegments
  have hplace : ∀ c : Command, c.place = c.operation.arguments.map fun p => (p.1, p.2.value) := by
    intro c
    rw [← Operation.path_eq (isNamed_operation c), plan_parameters]
    rfl
  rw [hplace, hplace, harguments]

/-- Over one base commands of one kind with the same URL differ in empty texts at most. -/
theorem normal_eq_of_text_eq {text : String} {base u v : Url}
    (hbase : Client.baseOf text = .ok base) (hlike : IsLike c d)
    (hu : c.parameters.url base c.endpoint = .ok u)
    (hv : d.parameters.url base d.endpoint = .ok v) (htext : u.text = v.text) :
    c.normal = d.normal := by
  have haddress := Client.isWebAddress_of_baseOf hbase
  have hsendable := Parameters.isSendable_of_url haddress (endpoint_mem_all c) hu
  have hsendable' := Parameters.isSendable_of_url haddress (endpoint_mem_all d) hv
  obtain rfl := hsendable.eq_of_text_eq hsendable' htext
  have hquery := (query_of_url hbase hu).symm.trans (query_of_url hbase hv)
  exact hlike.normal_eq (place_eq_of_path_eq hbase hlike hu hv rfl)
    (options_eq_of_query_eq hlike hquery)

/-! ## Printed results -/

/-- What a command is told by a body with whole numbers, it is also told by the text it prints. -/
theorem read_print (c : Command) {body : Octets} (hwhole : Json.HasWholeNumbers body)
    {a : c.operation.Result}
    (h : c.endpoint.shape.read c.operation.plan.codec body = .ok a) :
    c.endpoint.shape.read c.operation.plan.codec (c.operation.plan.codec.print a) = .ok a := by
  cases c with
  | listUsers => exact Packing.read_print (m := .user) (by decide) .page hwhole h
  | getUser => exact Packing.read_print (m := .user) (by decide) .alone hwhole h
  | me => exact Packing.read_print (m := .sessionUser) (by decide) .alone hwhole h
  | listGroups => exact Packing.read_print (m := .group) (by decide) .page hwhole h
  | listApps => exact Packing.read_print (m := .application) (by decide) .page hwhole h
  | checkAccess => exact Packing.read_print (m := .policyTestResult) (by decide) .alone hwhole h
  | listDevices => exact Packing.read_print (m := .device) (by decide) .list hwhole h
  | listEvents => exact Packing.read_print (m := .event) (by decide) .page hwhole h
  | version => exact Packing.read_print (m := .version) (by decide) .alone hwhole h
  | system => exact Packing.read_print (m := .systemInfo) (by decide) .alone hwhole h

end Command

end IdentityApi
