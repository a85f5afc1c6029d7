import IdentityApi.Proofs.Json.Writing
import IdentityApi.Proofs.KeyMap
import IdentityApi.Proofs.Operation.Building

/-! # Bodies about devices

What is sent about a device is an object with the name, if one is set, and behind it the entries of
its kind, whatever these are and whatever their values hold. The entries may have one for `name` too:
then the body has two members of that name, and in no other case are two of its names equal
(`DeviceOperation.body_names_nodup_iff`).
-/
namespace IdentityApi.DeviceOperation

open Json (IsText IsTreeOf Value)
open Json.Tree (Says)

/-- The name and the entries of its kind that are sent about a device. -/
def sent? : DeviceOperation → Option (Option String × KeyMap Value)
  | adminCreate _ r | adminUpdate _ _ r | update _ _ r => some (some r.name, r.extra)
  | adminPartialUpdate _ _ r | partialUpdate _ _ r => some (r.name, r.extra)
  | _ => none

/-- The name, if one is set, and the entries behind it. -/
def members (name : Option String) (extra : KeyMap Value) : Json.Members :=
  (name.map fun s => ("name", .string s)).toList ++ extra.pairs

/-- The text of the body. -/
def body (name : Option String) (extra : KeyMap Value) : Octets :=
  octetsOf (Value.object (members name extra)).compact

variable {o : DeviceOperation} {name : Option String} {extra : KeyMap Value} {c : Client}
  {q : Request}

theorem parameters_body (h : o.sent? = some (name, extra)) :
    (Operation.device o).plan.parameters.body = some (.object (members name extra)) := by
  cases o with
  | adminCreate | adminUpdate | update =>
    cases h
    rfl
  | adminPartialUpdate _ _ r | partialUpdate _ _ r =>
    cases h
    obtain ⟨name, extra⟩ := r
    cases name <;> rfl
  | _ => cases h

theorem body_of_request (h : o.sent? = some (name, extra))
    (hq : (Operation.device o).plan.request c = .ok q) : q.body = some (body name extra) := by
  rw [(Parameters.request_ok hq).2.2.2.1, parameters_body h]
  rfl

/-- A kind and a key are never dropped from a path. -/
theorem not_isDropped (o : DeviceOperation) :
    ∀ p ∈ (Operation.device o).arguments, ¬ p.2.IsDropped := by
  cases o <;> simp [Operation.arguments, arguments, Argument.IsDropped]

theorem nodup_members_iff : ((members name extra).map Prod.fst).Nodup ↔
    name = none ∨ ∀ v, ("name", v) ∉ extra.pairs := by
  cases name with
  | none => simpa [members] using extra.nodup_keys
  | some s => simp [members, extra.nodup_keys]

/-- Whatever is sent about a device, there is a request for it, and its body is read to the end as an
object: the name as a string, if one is set, and behind it every entry under its key, with the tree of
its value's own text. The names of the members are distinct exactly if no name is set or no entry has
the key `name`. -/
theorem body_names_nodup_iff {text : String} (hsent : o.sent? = some (name, extra))
    (hc : Client.baseOf text = .ok c.base) :
    ∃ q ms, (Operation.device o).plan.request c = .ok q ∧ q.body = some (body name extra) ∧
      IsText (body name extra) (.object ms .closed) ∧
      List.Forall₂ (Says IsTreeOf) ms (members name extra) ∧
      (∀ s ∈ name, (.ok "name", .string (.ok s)) ∈ ms) ∧
      ((ms.map Prod.fst).Nodup ↔ name = none ∨ ∀ v, ("name", v) ∉ extra.pairs) := by
  obtain ⟨q, hq⟩ := Operation.exists_request hc rfl (not_isDropped o)
  obtain ⟨ms, htext, hms⟩ := Json.exists_isText_object (members name extra)
  refine ⟨q, ms, hq, body_of_request hsent hq, htext, hms, ?_, ?_⟩
  · rintro s rfl
    obtain ⟨⟨key, t⟩, rest, hm, -, rfl⟩ := List.forall₂_cons_right_iff.mp hms
    obtain ⟨rfl, ht⟩ := hm
    obtain rfl := (Json.isTreeOf_iff (v := .string s) trivial).mp ht
    exact List.mem_cons_self
  · rw [Json.Tree.map_fst_eq hms, List.nodup_map_iff fun _ _ => Except.ok.inj,
      nodup_members_iff]

/-- A key is made with a name, and once more a name in the entries of its kind. -/
theorem body_names_of_second_name :
    let base : Url := ⟨"https", some ⟨"", "", "[::1]", none⟩, .segments ["sso", ""], none, none⟩
    let extra : KeyMap Value := .ofPairs [("name", .string "key")]
    let o : DeviceOperation := .adminCreate .totp ⟨"key", extra⟩
    o.sent? = some (some "key", extra) ∧
      Client.baseOf "https://[::1]/sso" = .ok base ∧
      ∃ q ms, (Operation.device o).plan.request { base } = .ok q ∧
        q.body = some (octetsOf "\x7b\"name\":\"key\",\"name\":\"key\"\x7d") ∧
        IsText (body (some "key") extra) (.object ms .closed) ∧ ¬ (ms.map Prod.fst).Nodup := by
  intro base extra o
  have hsent : o.sent? = some (some "key", extra) := rfl
  have hbase : Client.baseOf "https://[::1]/sso" = .ok base := Client.baseOf_sso
  obtain ⟨q, ms, hq, hbody, htext, -, -, hnodup⟩ :=
    body_names_nodup_iff (c := { base }) hsent hbase
  have hsame : body (some "key") extra =
      octetsOf "\x7b\"name\":\"key\",\"name\":\"key\"\x7d" := rfl
  refine ⟨hsent, hbase, q, ms, hq, hsame ▸ hbody, htext, ?_⟩
  rw [hnodup]
  rintro (hnone | hno)
  · cases hnone
  · exact hno _ List.mem_cons_self

end IdentityApi.DeviceOperation
