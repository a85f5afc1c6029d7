import IdentityApi.Proofs.Endpoint
import IdentityApi.Proofs.PathTemplate.Filling
import IdentityApi.Proofs.Request.Building
import IdentityApi.Proofs.Text.Basic
import IdentityApi.Proofs.Uuid

/-! # Arguments of operations

An operation names its object with arguments, each under the name of a placeholder. They are exactly
what its endpoint asks for (`names_eq`, `path_eq`), and an operation sends a body only where the
method of its endpoint carries one (`allowsBody_of_body`). Of all arguments only texts can be
refused in a path.
-/
namespace IdentityApi

open PathTemplate

/-- What stands for a placeholder. -/
inductive Argument where
  | text (s : String)
  | number (n : Int64)
  | uuid (u : Uuid)
  | kind (k : DeviceKind)
  deriving DecidableEq

namespace Argument

/-- The value before encoding. -/
def value : Argument → String
  | text s => s
  | number n => QueryValue.text n
  | uuid u => u.text
  | kind k => Choice.name k

/-- The placeholder is one for arguments of this kind. -/
def fits (name : String) : Argument → Bool
  | text _ => name == "slug" || name == "identifier"
  | number _ => name == "id"
  | uuid _ => name == "group_uuid" || name == "event_uuid"
  | kind _ => name == "kind"

/-! ## Values -/

theorem isUnreserved_of_isDigit {c : Char} (h : c.isDigit = true) :
    Percent.isUnreserved c = true := by
  simp [Percent.isUnreserved, Char.isAlphanum, h]

/-- Only texts hold characters that are encoded. -/
theorem encode_value {a : Argument} (h : ∀ s, a ≠ text s) :
    Percent.encode Percent.isUnreserved a.value.toList = a.value.toList := by
  refine Percent.encode_eq_self fun c hc => ?_
  cases a with
  | text s => exact absurd rfl (h s)
  | number n =>
    rcases Integer.eq_or_isDigit_of_mem_repr hc with rfl | hd
    · decide
    · exact isUnreserved_of_isDigit hd
  | uuid u =>
    rw [value, Uuid.text, String.toList_ofList] at hc
    exact Uuid.isUnreserved_of_mem_chars hc
  | kind k =>
    have hall : ∀ k : DeviceKind, (Choice.name k).toList.all Percent.isUnreserved = true := by
      intro k
      cases k <;> decide
    exact List.all_eq_true.mp (hall k) c hc

/-- A refused value has less than 36 characters and no digit. -/
theorem of_isRefused {s : String} (h : isRefused s = true) :
    s.toList.length < 36 ∧ s.toList.any Char.isDigit = false := by
  rcases (isRefused_iff s).mp h with rfl | rfl | rfl <;> decide

/-- Numbers, UUIDs and kinds are never refused. -/
theorem isRefused_value {a : Argument} (h : ∀ s, a ≠ text s) : isRefused a.value = false := by
  refine Bool.eq_false_iff.mpr fun hrefused => ?_
  cases a with
  | text s => exact h s rfl
  | number n =>
    obtain ⟨c, hc, hd⟩ := Integer.exists_digit_mem_repr n.toInt
    have hany : n.toInt.repr.toList.any Char.isDigit = true := List.any_eq_true.mpr ⟨c, hc, hd⟩
    exact Bool.eq_false_iff.mp (of_isRefused hrefused).2 hany
  | uuid u =>
    have := (of_isRefused hrefused).1
    rw [value, Uuid.text, String.toList_ofList, Uuid.length_chars] at this
    exact Nat.lt_irrefl 36 this
  | kind k => cases k <;> revert hrefused <;> decide

/-- At one placeholder the value tells the argument. -/
theorem eq_of_value_eq {name : String} {a b : Argument} (ha : a.fits name = true)
    (hb : b.fits name = true) (h : a.value = b.value) : a = b := by
  cases a <;> cases b
  case text.text => exact congrArg text h
  case number.number => exact congrArg number (Int64.toInt_inj.mp (Int.repr_inj.mp h))
  case uuid.uuid => exact congrArg uuid (Uuid.text_inj h)
  case kind.kind k l => revert h; cases k <;> cases l <;> decide
  -- arguments of two kinds have no placeholder in common
  all_goals
    simp only [fits, Bool.or_eq_true, beq_iff_eq] at ha hb
    grind

end Argument

/-! ## The arguments of each operation -/

def ApplicationOperation.arguments : ApplicationOperation → List (String × Argument)
  | .retrieve slug | .update slug _ | .partialUpdate slug _ | .destroy slug | .checkAccess slug _
  | .usedBy slug => [("slug", .text slug)]
  | .list _ | .create _ => []

def DeviceOperation.arguments : DeviceOperation → List (String × Argument)
  | .adminRetrieve kind id | .adminUpdate kind id _ | .adminPartialUpdate kind id _
  | .adminDestroy kind id | .retrieve kind id | .update kind id _ | .partialUpdate kind id _
  | .destroy kind id => [("kind", .kind kind), ("id", .number id)]
  | .adminList kind _ | .adminCreate kind _ | .list kind _ => [("kind", .kind kind)]
  | .all | .adminAll _ => []

def EventOperation.arguments : EventOperation → List (String × Argument)
  | .retrieve uuid => [("event_uuid", .uuid uuid)]
  | .list _ | .topPerUser _ | .actions => []

def FlowOperation.arguments : FlowOperation → List (String × Argument)
  | .retrieve slug | .destroy slug | .usedBy slug => [("slug", .text slug)]
  | .list _ => []

def GroupOperation.arguments : GroupOperation → List (String × Argument)
  | .retrieve uuid | .update uuid _ | .partialUpdate uuid _ | .destroy uuid | .addUser uuid _
  | .removeUser uuid _ | .usedBy uuid => [("group_uuid", .uuid uuid)]
  | .list _ | .create _ => []

def TokenOperation.arguments : TokenOperation → List (String × Argument)
  | .retrieve identifier | .update identifier _ | .partialUpdate identifier _ | .destroy identifier
  | .viewKey identifier | .setKey identifier _ | .usedBy identifier =>
    [("identifier", .text identifier)]
  | .list _ | .create _ => []

def UserOperation.arguments : UserOperation → List (String × Argument)
  | .retrieve id | .update id _ | .partialUpdate id _ | .destroy id | .setPassword id _
  | .usedBy id => [("id", .number id)]
  | .list _ | .create _ | .me | .paths _ => []

namespace Operation

/-- What an operation names its object with, each argument under the name of its placeholder. -/
def arguments : Operation → List (String × Argument)
  | application o => o.arguments
  | device o => o.arguments
  | event o => o.arguments
  | flow o => o.arguments
  | group o => o.arguments
  | token o => o.arguments
  | user o => o.arguments
  | administration _ | free _ _ => []

variable {o : Operation}

theorem names_of_route {path : String} {segments : List String} {l : List String}
    (hpath : path = Endpoint.route segments) (htame : segments.all Endpoint.isTameSegment = true)
    (h : names (Endpoint.routePieces segments) = l) : names (pieces path) = l := by
  rw [hpath, Endpoint.pieces_route htame, h]

/-- The arguments fill the placeholders of the endpoint, in their order. -/
theorem names_eq (h : o.isNamed = true) :
    names (pieces o.plan.endpoint.path) = o.arguments.map Prod.fst := by
  cases o with
  | free endpoint parameters => cases h
  | _ o =>
    cases o <;> simp only [plan, AdministrationOperation.plan, ApplicationOperation.plan,
      DeviceOperation.plan, EventOperation.plan, FlowOperation.plan, GroupOperation.plan,
      TokenOperation.plan, UserOperation.plan, arguments, ApplicationOperation.arguments,
      DeviceOperation.arguments, EventOperation.arguments, FlowOperation.arguments,
      GroupOperation.arguments, TokenOperation.arguments, UserOperation.arguments, List.map_cons,
      List.map_nil] <;> exact names_of_route rfl (by decide +kernel) (by decide +kernel)

/-- The values of a request's path are those of the arguments. -/
theorem path_eq (h : o.isNamed = true) :
    o.plan.parameters.path = o.arguments.map fun p => (p.1, p.2.value) := by
  cases o with
  | free endpoint parameters => cases h
  | _ o => cases o <;> rfl

theorem fits_of_mem {p : String × Argument} (h : p ∈ o.arguments) : p.2.fits p.1 = true := by
  revert p
  cases o with
  | free endpoint parameters => nofun
  | administration o => nofun
  | _ o => cases o <;> simp [arguments, Argument.fits, ApplicationOperation.arguments,
      DeviceOperation.arguments, EventOperation.arguments, FlowOperation.arguments,
      GroupOperation.arguments, TokenOperation.arguments, UserOperation.arguments]

theorem names_nodup (h : o.isNamed = true) : (o.arguments.map Prod.fst).Nodup := by
  cases o with
  | free endpoint parameters => cases h
  | administration o => exact List.nodup_nil
  | _ o => cases o <;> simp [arguments, ApplicationOperation.arguments,
      DeviceOperation.arguments, EventOperation.arguments, FlowOperation.arguments,
      GroupOperation.arguments, TokenOperation.arguments, UserOperation.arguments]

/-- Operations with a body have a method that carries one. -/
theorem allowsBody_of_body (h : o.isNamed = true) (hbody : o.plan.parameters.body.isSome = true) :
    o.plan.endpoint.method.allowsBody = true := by
  cases o with
  | free endpoint parameters => cases h
  | _ o => cases o <;> first | rfl | cases hbody

end Operation

end IdentityApi
