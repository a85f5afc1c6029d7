import IdentityApi.Proofs.Cache
import IdentityApi.Proofs.Client.Base

/-! # What a call hands to its transport

A call ends before anything is sent when its request cannot be built, and next when its switch is
thrown. In every other case the request reaches the transport, once.
-/
namespace IdentityApi

/-- The requests of named operations over an accepted base are known to the cache. -/
theorem Operation.isIssued_of_request {o : Operation} (ho : o.isNamed = true) {c : Client}
    (hbase : ∃ text, Client.baseOf text = .ok c.base) {values : List String}
    (hvalues : ∀ a ∈ c.authorization, a ∈ values) {q : Request}
    (h : o.plan.request c = .ok q) : q.IsIssued values := by
  have hauthorization : q.authorization = c.authorization := Parameters.authorization_of_request h
  obtain ⟨text, hbase⟩ := hbase
  refine ⟨?_, fun hget => ?_, ?_⟩
  · exact Parameters.isSendable_of_request (Client.isWebAddress_of_baseOf hbase)
      (Operation.endpoint_mem_all ho) h
  · rw [hauthorization]
    exact Parameters.request_get h hget
  · rw [hauthorization]
    exact hvalues

/-! ## Faults of replies -/

namespace CallFault

/-- The kinds of refusals: the codes with a fault of their own, and all others. -/
theorem refused_cases (status : Status) (body : String) :
    (status = ⟨400⟩ ∧ refused status body = .validation body) ∨
    (status = ⟨401⟩ ∧ refused status body = .unauthorized body) ∨
    (status = ⟨403⟩ ∧ refused status body = .forbidden body) ∨
    (status = ⟨404⟩ ∧ refused status body = .notFound body) ∨
    (status = ⟨409⟩ ∧ refused status body = .conflict body) ∨
    (status.code ∉ [400, 401, 403, 404, 409] ∧
      refused status body = .unexpected status body) := by
  obtain ⟨code⟩ := status
  unfold refused
  split <;> simp_all

@[simp] theorem status?_refused (status : Status) (body : String) :
    (refused status body).status? = some status := by
  rcases refused_cases status body with ⟨rfl, h⟩ | ⟨rfl, h⟩ | ⟨rfl, h⟩ | ⟨rfl, h⟩ | ⟨rfl, h⟩ | ⟨-, h⟩
  all_goals
    rw [h]
    rfl

@[simp] theorem body?_refused (status : Status) (body : String) :
    (refused status body).body? = some body := by
  rcases refused_cases status body with ⟨-, h⟩ | ⟨-, h⟩ | ⟨-, h⟩ | ⟨-, h⟩ | ⟨-, h⟩ | ⟨-, h⟩
  all_goals
    rw [h]
    rfl

theorem isNotFound_refused_iff {status : Status} {body : String} :
    (refused status body).isNotFound = true ↔ status.code = 404 := by
  rcases refused_cases status body with ⟨rfl, h⟩ | ⟨rfl, h⟩ | ⟨rfl, h⟩ | ⟨rfl, h⟩ | ⟨rfl, h⟩ |
    ⟨hcode, h⟩
  all_goals
    rw [h]
    simp_all [isNotFound]

theorem refused_ne_cancelled (status : Status) (body : String) :
    refused status body ≠ .cancelled := by
  intro h
  have hstatus := status?_refused status body
  rw [h] at hstatus
  cases hstatus

end CallFault

/-- A reply never says that the call was cancelled. -/
theorem Reply.result_ne_cancelled {α : Type} (r : Reply) (shape : Shape) (codec : Codec α) :
    r.result shape codec ≠ .error .cancelled := by
  unfold Reply.result
  split_ifs
  · cases r.body with
    | none => nofun
    | some body => cases hread : shape.read codec body <;> simp [hread, Except.mapError]
  · exact fun h => CallFault.refused_ne_cancelled _ _ (Except.error.inj h)

namespace Client

variable {σ α : Type} {c : Client} {p : Plan α} {t : Transport σ} {isThrown : σ → String → Bool}
  {s : σ} {q : Request}

theorem call_of_fault {fault : Request.Fault} (h : p.request c = .error fault) :
    c.call t isThrown p s = (some (.error (.invalidRequest fault)), s) := by
  rw [call, h]

theorem call_of_thrown (h : p.request c = .ok q)
    (hthrown : c.cancellation.any (isThrown s) = true) :
    c.call t isThrown p s = (some (.error .cancelled), s) := by
  rw [call, h]
  exact if_pos hthrown

/-- A call that is not ended before leaves what the exchange of its request leaves. -/
theorem snd_call_of_sent (h : p.request c = .ok q)
    (hthrown : c.cancellation.any (isThrown s) = false) :
    (c.call t isThrown p s).2 = (t q s).2 := by
  rw [call, h]
  dsimp only
  rw [if_neg (by simp [hthrown])]
  obtain ⟨outcome, s', hs⟩ : ∃ outcome s', t q s = (outcome, s') := ⟨_, _, rfl⟩
  rw [hs]
  cases outcome <;> rfl

/-- What a call gives is told by the outcome, and by whether the switch is thrown afterwards. -/
theorem fst_call_congr {τ : Type} {c' : Client} {t' : Transport τ}
    {isThrown' : τ → String → Bool} {s' : τ} {q' : Request} (h : p.request c = .ok q)
    (h' : p.request c' = .ok q') (hthrown : c.cancellation.any (isThrown s) = false)
    (hthrown' : c'.cancellation.any (isThrown' s') = false) (houtcome : (t' q' s').1 = (t q s).1)
    (hafter : c'.cancellation.any (isThrown' (t' q' s').2) =
      c.cancellation.any (isThrown (t q s).2)) :
    (c'.call t' isThrown' p s').1 = (c.call t isThrown p s).1 := by
  rw [call, call, h, h']
  dsimp only
  rw [if_neg (Bool.eq_false_iff.mp hthrown), if_neg (Bool.eq_false_iff.mp hthrown')]
  revert houtcome hafter
  obtain ⟨outcome, after, hs⟩ : ∃ outcome after, t q s = (outcome, after) := ⟨_, _, rfl⟩
  obtain ⟨outcome', after', hs'⟩ : ∃ outcome after, t' q' s' = (outcome, after) := ⟨_, _, rfl⟩
  rw [hs, hs']
  intro houtcome hafter
  dsimp only at houtcome hafter
  subst houtcome
  cases outcome' with
  | reply r => rfl
  | failed fault => rfl
  | silence => exact congrArg (fun b : Bool => if b then _ else none) hafter

/-- The log of a call: nothing, or the one exchange of the request that was built. -/
theorem log_of_call (c : Client) (p : Plan α) (t : Transport σ)
    (isThrown : σ × List Exchange → String → Bool) (s : σ) (log : List Exchange) :
    (c.call t.logged isThrown p (s, log)).2.2 = log ∨
      ∃ q, p.request c = .ok q ∧
        (c.call t.logged isThrown p (s, log)).2.2 = log ++ [(q, (t q s).1)] := by
  cases hq : p.request c with
  | error fault =>
    rw [call_of_fault hq]
    exact Or.inl rfl
  | ok q =>
    cases hthrown : c.cancellation.any (isThrown (s, log)) with
    | true =>
      rw [call_of_thrown hq hthrown]
      exact Or.inl rfl
    | false =>
      rw [snd_call_of_sent hq hthrown]
      exact Or.inr ⟨q, rfl, rfl⟩

end Client

end IdentityApi
