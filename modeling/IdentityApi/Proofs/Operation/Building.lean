import IdentityApi.Proofs.Client.Base
import IdentityApi.Proofs.Operation.Arguments

/-! # Requests of operations

Over the base of a client the request of an operation with a name fails to be built only because of
a slug or an identifier that URL resolution would drop (`request_error_iff`). Its path is the base
up to the last slash and the filled pieces of the endpoint (`request_eq`).
-/
namespace IdentityApi

open PathTemplate Url.Reader

/-- A slug or an identifier that URL resolution would drop as a segment. -/
def Argument.IsDropped : Argument → Prop
  | text s => s = "" ∨ s = "." ∨ s = ".."
  | number _ | uuid _ | kind _ => False

theorem Argument.isRefused_value_iff (a : Argument) :
    isRefused a.value = true ↔ a.IsDropped := by
  cases a with
  | text s => exact isRefused_iff s
  | _ => rw [isRefused_value (by simp)]; simp [IsDropped]

namespace Operation

variable {o : Operation} {c : Client}

/-- The segments of an operation's path below the base. -/
def segments (o : Operation) : List (List Char) :=
  (pieces o.plan.endpoint.path).map (Piece.filled o.plan.parameters.path)

theorem isSegmented_of_named (h : o.isNamed = true) :
    isSegmented o.plan.endpoint.path = true := by
  obtain ⟨segments, hroute, htame⟩ := Endpoint.exists_route (endpoint_mem_all h)
  rw [hroute]
  exact Endpoint.isSegmented_route htame

/-- The target of an operation: the first refused argument is its only fault. -/
theorem target_eq (h : o.isNamed = true) :
    o.plan.parameters.target o.plan.endpoint =
      match o.arguments.find? fun p => isRefused p.2.value with
      | some p => .error (.path o.plan.endpoint.path (.refused p.1 p.2.value))
      | none => .ok (String.ofList (['/'].intercalate o.segments)) := by
  have hpath := path_eq h
  have hmap : o.plan.parameters.path.map Prod.fst = o.arguments.map Prod.fst := by
    rw [hpath, List.map_map]
    rfl
  have hfind : (o.plan.parameters.path.find? fun p => isRefused p.2) =
      (o.arguments.find? fun p => isRefused p.2.value).map fun p => (p.1, p.2.value) := by
    rw [hpath, List.find?_map]
    rfl
  rw [Parameters.target, render_of_names (isSegmented_of_named h) (hmap.trans (names_eq h).symm)
    (hmap ▸ names_nodup h), hfind]
  cases o.arguments.find? fun p => isRefused p.2.value <;> rfl

/-- A request fails with the target, and only then. -/
theorem request_eq {text : String} (hc : Client.baseOf text = .ok c.base) (h : o.isNamed = true) :
    ∃ front last, c.base.path = .segments (front ++ [last]) ∧ o.plan.request c =
      (o.plan.parameters.target o.plan.endpoint).map fun t => {
        method := o.plan.endpoint.method.name
        url := Parameters.urlOver c.base (front ++ [last]) o.plan.parameters t
        headers := Parameters.headers c.authorization o.plan.parameters.body.isSome
        body := o.plan.parameters.body.map fun v => octetsOf v.compact } := by
  obtain ⟨front, last, hpath, -⟩ := Client.exists_path_eq hc
  refine ⟨front, last, hpath, ?_⟩
  have hstray : (o.plan.parameters.body.isSome && !o.plan.endpoint.method.allowsBody) = false := by
    cases hbody : o.plan.parameters.body.isSome with
    | false => rfl
    | true => rw [allowsBody_of_body h hbody]; rfl
  rw [Plan.request, Parameters.request, hstray,
    Parameters.url_eq (Client.baseOf_ok hc).2 hpath (endpoint_mem_all h)]
  cases o.plan.parameters.target o.plan.endpoint <;> rfl

/-- The first refused argument is the fault. -/
theorem request_of_refused {text : String} (hc : Client.baseOf text = .ok c.base)
    (h : o.isNamed = true) {p : String × Argument}
    (hfind : (o.arguments.find? fun p => isRefused p.2.value) = some p) :
    p ∈ o.arguments ∧ p.2.IsDropped ∧
      o.plan.request c = .error (.path o.plan.endpoint.path (.refused p.1 p.2.value)) := by
  have hrefused : isRefused p.2.value = true := by simpa using List.find?_some hfind
  obtain ⟨front, last, -, hrequest⟩ := request_eq hc h
  rw [target_eq h, hfind] at hrequest
  exact ⟨List.mem_of_find?_eq_some hfind, (Argument.isRefused_value_iff p.2).mp hrefused, hrequest⟩

theorem exists_request {text : String} (hc : Client.baseOf text = .ok c.base)
    (h : o.isNamed = true) (hkept : ∀ p ∈ o.arguments, ¬ p.2.IsDropped) :
    ∃ q, o.plan.request c = .ok q := by
  have hnone : (o.arguments.find? fun p => isRefused p.2.value) = none := by
    refine List.find?_eq_none.mpr fun p hp hrefused => ?_
    exact hkept p hp ((Argument.isRefused_value_iff p.2).mp hrefused)
  obtain ⟨front, last, -, hrequest⟩ := request_eq hc h
  rw [target_eq h, hnone] at hrequest
  exact ⟨_, hrequest⟩

/-- When a request can be built. It fails exactly if a slug or an identifier is empty or made of one
or two dots, and then with the fault that names this argument; the call ends with that fault and
leaves the world as it is. In every other case there is a request. -/
theorem request_error_iff {text : String} (hc : Client.baseOf text = .ok c.base)
    (h : o.isNamed = true) :
    ((∃ fault, o.plan.request c = .error fault) ↔ ∃ p ∈ o.arguments, p.2.IsDropped) ∧
      ((∃ q, o.plan.request c = .ok q) ↔ ∀ p ∈ o.arguments, ¬ p.2.IsDropped) ∧
      ∀ fault, o.plan.request c = .error fault →
        (∃ p ∈ o.arguments, p.2.IsDropped ∧
          fault = .path o.plan.endpoint.path (.refused p.1 p.2.value)) ∧
        ∀ {σ : Type} (t : Transport σ) (isThrown : σ → String → Bool) (s : σ),
          c.call t isThrown o.plan s = (some (.error (.invalidRequest fault)), s) := by
  cases hfind : o.arguments.find? fun p => isRefused p.2.value with
  | some p =>
    obtain ⟨hmem, hdropped, hrequest⟩ := request_of_refused hc h hfind
    refine ⟨⟨fun _ => ⟨p, hmem, hdropped⟩, fun _ => ⟨_, hrequest⟩⟩, ⟨?_, ?_⟩, ?_⟩
    · rintro ⟨q, hq⟩
      rw [hrequest] at hq
      cases hq
    · intro hall
      exact absurd hdropped (hall p hmem)
    · intro fault hfault
      obtain rfl := Except.error.inj (hrequest.symm.trans hfault)
      refine ⟨⟨p, hmem, hdropped, rfl⟩, fun t isThrown s => ?_⟩
      rw [Client.call, hrequest]
  | none =>
    have hkept : ∀ p ∈ o.arguments, ¬ p.2.IsDropped := by
      intro p hp hdropped
      exact List.find?_eq_none.mp hfind p hp ((Argument.isRefused_value_iff p.2).mpr hdropped)
    obtain ⟨q, hrequest⟩ := exists_request hc h hkept
    refine ⟨⟨?_, ?_⟩, ⟨fun _ => hkept, fun _ => ⟨q, hrequest⟩⟩, ?_⟩
    · rintro ⟨fault, hfault⟩
      rw [hrequest] at hfault
      cases hfault
    · rintro ⟨p, hp, hdropped⟩
      exact absurd hdropped (hkept p hp)
    · intro fault hfault
      rw [hrequest] at hfault
      cases hfault

/-- An identifier of two dots is refused with a body at hand. -/
theorem request_error_of_dots :
    let base : Url := ⟨"https", some ⟨"", "", "[::1]", none⟩, .segments ["sso", ""], none, none⟩
    let o : Operation := .token (.setKey ".." ⟨"secret"⟩)
    Client.baseOf "https://[::1]/sso" = .ok base ∧ o.isNamed = true ∧
      ∃ fault, o.plan.request { base } = .error fault := by
  intro base o
  have hbase : Client.baseOf "https://[::1]/sso" = .ok base := Client.baseOf_sso
  have hnamed : o.isNamed = true := rfl
  refine ⟨hbase, hnamed, ?_⟩
  exact (request_error_iff (c := { base }) hbase hnamed).1.mpr
    ⟨("identifier", .text ".."), List.mem_singleton_self _, Or.inr (Or.inr rfl)⟩

end Operation

end IdentityApi
