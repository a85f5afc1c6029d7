import IdentityApi.Proofs.Client.Replies
import IdentityApi.Proofs.Endpoint
import IdentityApi.Proofs.Reply

/-! # What operations make of blank bodies

Every operation with a name reads its replies as the form of its results asks: records of one kind,
in a list, in a page or alone, or nothing (`Operation.fits_plan`). So it is the form of the results
that tells what a blank body means (`Operation.takesBlanks`): an empty page, an empty list, nothing,
or a fault.
-/
namespace IdentityApi

/-- What results are made of: records of one kind in a packing, or nothing. -/
inductive ResultForm : Type → Type 1
  | records (packing : Packing) (m : Resource) : ResultForm (packing.Carrier m)
  | nothing : ResultForm Unit

namespace ResultForm

def shape : {α : Type} → ResultForm α → Shape
  | _, records packing _ => packing.shape
  | _, nothing => .empty

def codec : {α : Type} → ResultForm α → Codec α
  | _, records packing m => packing.codec m
  | _, nothing => .unit

end ResultForm

/-- A plan reads its replies in the shape of a form and as what the form is made of. -/
structure Plan.Fits {α : Type} (p : Plan α) (form : ResultForm α) : Prop where
  shape : p.endpoint.shape = form.shape
  codec : p.codec = form.codec

/-! ## The forms of all results -/

section

open ResultForm

def AdministrationOperation.form : (o : AdministrationOperation) → ResultForm o.Result
  | .system => records .alone .systemInfo
  | .version => records .alone .version
  | .apps => records .list .app

def ApplicationOperation.form : (o : ApplicationOperation) → ResultForm o.Result
  | .list _ => records .page .application
  | .retrieve _ | .create _ | .update _ _ | .partialUpdate _ _ => records .alone .application
  | .destroy _ => nothing
  | .checkAccess _ _ => records .alone .policyTestResult
  | .usedBy _ => records .list .usedBy

def DeviceOperation.form : (o : DeviceOperation) → ResultForm o.Result
  | .all | .adminAll _ => records .list .device
  | .adminList _ _ | .list _ _ => records .page .deviceRecord
  | .adminRetrieve _ _ | .adminCreate _ _ | .adminUpdate _ _ _ | .adminPartialUpdate _ _ _
  | .retrieve _ _ | .update _ _ _ | .partialUpdate _ _ _ => records .alone .deviceRecord
  | .adminDestroy _ _ | .destroy _ _ => nothing

def EventOperation.form : (o : EventOperation) → ResultForm o.Result
  | .list _ => records .page .event
  | .retrieve _ => records .alone .event
  | .topPerUser _ => records .list .eventTopPerUser
  | .actions => records .list .typeCreate

def FlowOperation.form : (o : FlowOperation) → ResultForm o.Result
  | .list _ => records .page .flow
  | .retrieve _ => records .alone .flow
  | .destroy _ => nothing
  | .usedBy _ => records .list .usedBy

def GroupOperation.form : (o : GroupOperation) → ResultForm o.Result
  | .list _ => records .page .group
  | .retrieve _ | .create _ | .update _ _ | .partialUpdate _ _ => records .alone .group
  | .destroy _ | .addUser _ _ | .removeUser _ _ => nothing
  | .usedBy _ => records .list .usedBy

def TokenOperation.form : (o : TokenOperation) → ResultForm o.Result
  | .list _ => records .page .token
  | .retrieve _ | .create _ | .update _ _ | .partialUpdate _ _ => records .alone .token
  | .destroy _ | .setKey _ _ => nothing
  | .viewKey _ => records .alone .tokenView
  | .usedBy _ => records .list .usedBy

def UserOperation.form : (o : UserOperation) → ResultForm o.Result
  | .list _ => records .page .user
  | .retrieve _ | .create _ | .update _ _ | .partialUpdate _ _ => records .alone .user
  | .destroy _ | .setPassword _ _ => nothing
  | .me => records .alone .sessionUser
  | .usedBy _ => records .list .usedBy
  | .paths _ => records .alone .userPath

end

namespace Operation

/-- The form of what an operation with a name gives. -/
def form : (o : Operation) → o.isNamed = true → ResultForm o.Result
  | administration o, _ => o.form
  | application o, _ => o.form
  | device o, _ => o.form
  | event o, _ => o.form
  | flow o, _ => o.form
  | group o, _ => o.form
  | token o, _ => o.form
  | user o, _ => o.form
  | free _ _, h => (Bool.false_ne_true h).elim

theorem fits_plan {o : Operation} (h : o.isNamed = true) : o.plan.Fits (o.form h) := by
  cases o with
  | free endpoint parameters => cases h
  | administration o => cases o <;> exact ⟨rfl, rfl⟩
  | application o => cases o <;> exact ⟨rfl, rfl⟩
  | device o => cases o <;> exact ⟨rfl, rfl⟩
  | event o => cases o <;> exact ⟨rfl, rfl⟩
  | flow o => cases o <;> exact ⟨rfl, rfl⟩
  | group o => cases o <;> exact ⟨rfl, rfl⟩
  | token o => cases o <;> exact ⟨rfl, rfl⟩
  | user o => cases o <;> exact ⟨rfl, rfl⟩

end Operation

/-! ## Blank bodies -/

/-- A body of nothing but spaces, tabs, line feeds, form feeds and carriage returns. -/
def IsBlank (body : Octets) : Prop := ∀ b ∈ body, b ∈ [32, 9, 10, 12, 13]

theorem all_isBlankOctet_of_isBlank {body : Octets} (h : IsBlank body) :
    body.all Shape.isBlankOctet = true := by
  rw [List.all_eq_true]
  intro b hb
  simpa [Shape.isBlankOctet, or_assoc] using h b hb

/-- What bodies without content give, by the form of the results: a page without results and with
zero for all numbers, an empty list, or a fault; where nothing is asked for, every body will do. -/
def ResultForm.TakesBlanks :
    {α : Type} → ResultForm α → (Octets → Except CallFault α) → Prop
  | _, records .page m, result => ∀ body, IsBlank body →
    result body = .ok (⟨⟨0, 0, 0, 0, 0, 0, 0⟩, []⟩ : Paginated m.Record)
  | _, records .list m, result => ∀ body, IsBlank body → result body = .ok ([] : List m.Record)
  | _, records .alone _, result => ∀ body, IsBlank body →
    ∃ fault, result body = .error (.decode fault)
  | _, nothing, result => ∀ body, result body = .ok ()

/-- The result of a whole body that comes with success. -/
def Plan.ofBody {α : Type} (p : Plan α) (body : Octets) : Except CallFault α :=
  (p.endpoint.shape.read p.codec body).mapError .decode

namespace Shape

variable {α : Type} {c : Codec α} {shape : Shape} {body : Octets}

/-- The fallback of the shape stands for a blank body. -/
theorem read_of_isBlank (hbody : IsBlank body) {text : String}
    (hfallback : shape.blankFallback = some text) :
    shape.read c body = (c.read (octetsOf text)).mapError .content := by
  cases hempty : decide (shape = .empty) with
  | true =>
    obtain rfl := of_decide_eq_true hempty
    cases hfallback
    rfl
  | false =>
    rw [read, if_neg (of_decide_eq_false hempty), all_isBlankOctet_of_isBlank hbody, hfallback]
    rfl

theorem read_blank_object (hbody : IsBlank body) :
    object.read c body = .error (.blank .object) := by
  rw [read, if_neg (by decide), all_isBlankOctet_of_isBlank hbody]
  rfl

theorem read_blank_list (hbody : IsBlank body) : list.read (Codec.list c) body = .ok [] := by
  rw [read_of_isBlank hbody rfl]
  rfl

theorem read_blank_paginated (hbody : IsBlank body) :
    paginated.read (Paginated.codec c) body = .ok {} := by
  rw [read_of_isBlank hbody rfl]
  rfl

theorem read_empty (body : Octets) : empty.read .unit body = .ok () := rfl

end Shape

theorem Plan.Fits.ofBody_takesBlanks {α : Type} {p : Plan α} {form : ResultForm α}
    (h : p.Fits form) : form.TakesBlanks p.ofBody := by
  obtain ⟨hshape, hcodec⟩ := h
  cases form with
  | nothing =>
    intro body
    rw [Plan.ofBody, hshape, hcodec]
    exact congrArg _ (Shape.read_empty body)
  | records packing m =>
    cases packing with
    | alone =>
      intro body hbody
      refine ⟨.blank .object, ?_⟩
      rw [Plan.ofBody, hshape, hcodec]
      exact congrArg _ (Shape.read_blank_object hbody)
    | list =>
      intro body hbody
      rw [Plan.ofBody, hshape, hcodec]
      exact congrArg _ (Shape.read_blank_list hbody)
    | page =>
      intro body hbody
      rw [Plan.ofBody, hshape, hcodec]
      exact congrArg _ (Shape.read_blank_paginated hbody)

theorem Plan.result_of_body {α : Type} (p : Plan α) {status : Status}
    (hstatus : status.isSuccess = true) (headers : List Header) (body : Octets) :
    p.result ⟨status, headers, some body⟩ = p.ofBody body := by
  rw [result, Reply.result, if_pos hstatus]
  rfl

/-- What an operation with a name makes of a body that comes with success, on a blank one as the
form of its results asks. -/
theorem Operation.takesBlanks {o : Operation} (h : o.isNamed = true) :
    (o.form h).TakesBlanks o.plan.ofBody ∧
      ∀ {σ : Type} {c : Client} {t : Transport σ} {isThrown : σ → String → Bool} {s : σ}
        {status : Status} {headers : List Header} {body : Octets},
        status.code ∈ Set.Ico 200 300 →
        c.Meets t isThrown o.plan s (.reply ⟨status, headers, some body⟩) →
          (c.call t isThrown o.plan s).1 = some (o.plan.ofBody body) := by
  refine ⟨(fits_plan h).ofBody_takesBlanks, fun hstatus hmeets => ?_⟩
  rw [Client.call_of_reply hmeets, Plan.result_of_body _ (Status.isSuccess_iff.mpr hstatus)]

/-- A form feed and a space stand for a page without groups. -/
theorem Operation.takesBlanks_groups :
    let base : Url := ⟨"https", some ⟨"", "", "[::1]", none⟩, .segments [""], none, none⟩
    let c : Client := { base }
    let o : Operation := .group (.list {})
    let t : Transport Unit := .ofServer fun _ => .reply ⟨⟨206⟩, [], some [12, 32]⟩
    o.isNamed = true ∧ (o.form rfl).TakesBlanks o.plan.ofBody ∧
      (c.call t (fun _ _ => false) o.plan ()).1 = some (.ok (⟨{}, []⟩ : Paginated Group)) := by
  intro base c o t
  obtain ⟨htakes, hcall⟩ := Operation.takesBlanks (o := o) rfl
  obtain ⟨q, hq⟩ : ∃ q, o.plan.request c = .ok q := ⟨_, by cbv⟩
  have hblank : IsBlank [12, 32] := by simp [IsBlank]
  exact ⟨rfl, htakes,
    (hcall (by decide) ⟨rfl, q, hq, rfl⟩).trans (congrArg some (htakes _ hblank))⟩

end IdentityApi
