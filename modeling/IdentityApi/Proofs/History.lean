import IdentityApi.Proofs.Client.Calling

/-! # Histories over one cache

Any number of clients call operations over one cached transport, and entries are forgotten in
between. Over a server without a memory the cache cannot be seen; over any transport a call only
gets replies that its own request got.
-/
namespace IdentityApi.History

open Request (FingerprintsApart IsIssued)

/-- A call of a named operation by a client whose base was accepted. -/
structure Call (σ : Type) where
  client : Client
  operation : Operation
  /-- Which switches are thrown in which state of the world. -/
  isThrown : σ → String → Bool := fun _ _ => false
  accepted : ∃ text, Client.baseOf text = .ok client.base
  named : operation.isNamed = true

inductive Step (σ : Type) where
  | call (c : Call σ)
  | forget (key : String)
  | forgetAll

/-- What a call came to. There is no result if it never ended. -/
abbrev Answer (σ : Type) := (c : Call σ) × Option (Except CallFault c.operation.Result)

variable {σ : Type}

/-- What a call comes to over a transport, with what is left of its state. -/
def Call.make {τ : Type} (c : Call σ) (t : Transport τ) (world : τ → σ) (s : τ) :
    Option (Except CallFault c.operation.Result) × τ :=
  c.client.call t (fun s => c.isThrown (world s)) c.operation.plan s

/-- One step over a transport behind a cache. -/
def step (t : Transport σ) : Step σ → σ × Cache → List (Answer σ) × (σ × Cache)
  | .call c, s =>
    let (result, s) := c.make t.cached Prod.fst s
    ([⟨c, result⟩], s)
  | .forget key, (s, cache) => ([], s, cache.remove key)
  | .forgetAll, (s, _) => ([], s, ∅)

def run (t : Transport σ) : List (Step σ) → σ × Cache → List (Answer σ) × (σ × Cache)
  | [], s => ([], s)
  | x :: steps, s =>
    let (answers, s) := step t x s
    let (later, s) := run t steps s
    (answers ++ later, s)

/-- What a step comes to when it is made alone, without a cache. -/
def alone (t : Transport σ) (s : σ) : Step σ → List (Answer σ)
  | .call c => [⟨c, (c.make t id s).1⟩]
  | .forget _ | .forgetAll => []

/-- The values of the header that carries tokens. -/
def tokens (steps : List (Step σ)) : List String :=
  steps.flatMap fun
    | .call c => c.client.authorization.toList
    | .forget _ | .forgetAll => []

/-! ## Calls -/

namespace Call

variable (c : Call σ) {τ : Type} {q : Request}

def request : Except Request.Fault Request := c.operation.plan.request c.client

/-- What an outcome means to a call that waits for it. -/
def reading (isCancelled : Bool) : Outcome → Option (Except CallFault c.operation.Result)
  | .reply r => some (c.operation.plan.result r)
  | .failed fault => some (.error (.network fault))
  | .silence => if isCancelled then some (.error .cancelled) else none

theorem make_of_fault {fault : Request.Fault} (h : c.request = .error fault) (t : Transport τ)
    (world : τ → σ) (s : τ) : c.make t world s = (some (.error (.invalidRequest fault)), s) :=
  Client.call_of_fault h

theorem make_of_request (h : c.request = .ok q) (t : Transport τ) (world : τ → σ) (s : τ) :
    c.make t world s =
      if c.client.cancellation.any (c.isThrown (world s)) then (some (.error .cancelled), s)
      else (c.reading (c.client.cancellation.any (c.isThrown (world (t q s).2))) (t q s).1,
        (t q s).2) := by
  unfold request at h
  simp only [make, Client.call, h]
  split_ifs
  · rfl
  · cases t q s with
    | mk outcome s' => cases outcome <;> rfl

theorem authorization_of_request (h : c.request = .ok q) :
    q.authorization = c.client.authorization :=
  Parameters.authorization_of_request h

theorem isIssued (h : c.request = .ok q) {values : List String}
    (hvalues : ∀ a ∈ c.client.authorization, a ∈ values) : q.IsIssued values :=
  Operation.isIssued_of_request c.named c.accepted hvalues h

end Call

/-- A client of the own machine asks who it is. -/
def whoAmI (token : String) : Call σ where
  client :=
    { base := ⟨"https", some { host := "[::1]" }, .segments [""], none, none⟩
      authorization := some ("Bearer " ++ token) }
  operation := .user .me
  accepted := ⟨"https://[::1]", rfl⟩
  named := rfl

theorem mem_tokens {steps : List (Step σ)} {c : Call σ} (h : .call c ∈ steps) :
    ∀ a ∈ c.client.authorization, a ∈ tokens steps :=
  fun a ha => List.mem_flatMap.mpr ⟨_, h, by simpa using ha⟩

/-! ## Over a server without a memory -/

section Server

variable {server : Request → Outcome} {values : List String} {cache : Cache}

/-- One call gives the same with the cache as alone, and leaves a cache of the same kind. -/
theorem call_mirrors (c : Call Unit) (hapart : FingerprintsApart values)
    (hvalues : ∀ a ∈ c.client.authorization, a ∈ values) (h : cache.Mirrors server values) :
    ∃ cache', c.make (Transport.ofServer server).cached Prod.fst ((), cache) =
      ((c.make (Transport.ofServer server) id ()).1, (), cache') ∧
        cache'.Mirrors server values := by
  cases hq : c.request with
  | error fault =>
    refine ⟨cache, ?_, h⟩
    rw [c.make_of_fault hq, c.make_of_fault hq]
  | ok q =>
    rw [c.make_of_request hq, c.make_of_request hq]
    by_cases hthrown : c.client.cancellation.any (c.isThrown ()) = true
    · exact ⟨cache, by simp [hthrown], h⟩
    · obtain ⟨cache', he, h'⟩ := Transport.cached_ofServer hapart (c.isIssued hq hvalues) h
      refine ⟨cache', ?_, h'⟩
      rw [he]
      simp only [id, hthrown]
      rfl

theorem run_mirrors (hapart : FingerprintsApart values) (steps : List (Step Unit))
    (hvalues : ∀ c, .call c ∈ steps → ∀ a ∈ c.client.authorization, a ∈ values)
    (h : cache.Mirrors server values) :
    (run (Transport.ofServer server) steps ((), cache)).1 =
      steps.flatMap (alone (Transport.ofServer server) ()) := by
  induction steps generalizing cache with
  | nil => rfl
  | cons x steps ih =>
    have hrest : ∀ c, .call c ∈ steps → ∀ a ∈ c.client.authorization, a ∈ values :=
      fun c hc => hvalues c (List.mem_cons_of_mem x hc)
    rw [run, List.flatMap_cons]
    cases x with
    | call c =>
      obtain ⟨cache', he, h'⟩ := call_mirrors c hapart (hvalues c List.mem_cons_self) h
      simp only [step, he, alone, ih hrest h']
    | forget key => exact ih hrest (h.remove key)
    | forgetAll => exact ih hrest Cache.IsOf.empty

/-- Over a server without a memory every call comes to what it comes to when it is made alone and
without a cache. -/
theorem answers_eq_alone (server : Request → Outcome) (steps : List (Step Unit))
    (hapart : FingerprintsApart (tokens steps)) :
    (run (Transport.ofServer server) steps ((), ∅)).1 =
      steps.flatMap (alone (Transport.ofServer server) ()) :=
  run_mirrors hapart steps (fun _ hc => mem_tokens hc) Cache.IsOf.empty

/-- Two tokens and a server that tells who asks. -/
theorem answers_of_two_tokens :
    let server : Request → Outcome := fun q => .reply ⟨⟨200⟩, [], q.authorization.map octetsOf⟩
    let steps : List (Step Unit) :=
      [.call (whoAmI "a"), .call (whoAmI "b"), .call (whoAmI "a"), .forgetAll, .call (whoAmI "b")]
    FingerprintsApart (tokens steps) ∧
      (run (Transport.ofServer server) steps ((), ∅)).1 =
        steps.flatMap (alone (Transport.ofServer server) ()) := by
  intro server steps
  have hapart : FingerprintsApart (tokens steps) := by decide +kernel
  exact ⟨hapart, answers_eq_alone server steps hapart⟩

end Server

/-! ## Over any transport -/

section Log

variable {t : Transport σ} {values : List String} {s : σ} {log : List Exchange} {cache : Cache}

/-- The call got no reply, or one from the log to its own request: to the same URL with the same
token. -/
def Answer.IsFrom (log : List Exchange) (a : Answer σ) : Prop :=
  (∃ q r, a.1.request = .ok q ∧ q.authorization = a.1.client.authorization ∧
    (q, .reply r) ∈ log ∧ a.2 = some (a.1.operation.plan.result r)) ∨
  (∃ fault, a.2 = some (.error (.invalidRequest fault))) ∨
  (∃ fault, a.2 = some (.error (.network fault))) ∨
  a.2 = some (.error .cancelled) ∨ a.2 = none

theorem Answer.IsFrom.mono {a : Answer σ} (h : a.IsFrom log) {log' : List Exchange}
    (hlog : log ⊆ log') : a.IsFrom log' := by
  refine h.imp_left ?_
  rintro ⟨q, r, hq, hauthorization, hr, ha⟩
  exact ⟨q, r, hq, hauthorization, hlog hr, ha⟩

/-- What a history that goes on from a log comes to: the log has grown, entries are replies from it,
and so is all that calls got if fingerprints do not clash. -/
structure IsSound (values : List String) (log : List Exchange)
    (out : List (Answer (σ × List Exchange)) × ((σ × List Exchange) × Cache)) : Prop where
  grown : log ⊆ out.2.1.2
  quotes : out.2.2.Quotes out.2.1.2 values
  answers : FingerprintsApart values → ∀ a ∈ out.1, a.IsFrom out.2.1.2

/-- Nothing was asked. -/
theorem IsSound.idle (h : cache.Quotes log values) : IsSound values log ([], (s, log), cache) where
  grown := List.Subset.refl _
  quotes := h
  answers := fun _ _ ha => by cases ha

theorem IsSound.append {answers later : List (Answer (σ × List Exchange))} {log' : List Exchange}
    {cache' : Cache} {out : (σ × List Exchange) × Cache}
    (h : IsSound values log (answers, (s, log'), cache')) (h' : IsSound values log' (later, out)) :
    IsSound values log (answers ++ later, out) where
  grown := List.Subset.trans h.grown h'.grown
  quotes := h'.quotes
  answers := by
    intro hapart a ha
    rcases List.mem_append.mp ha with ha | ha
    · exact (h.answers hapart a ha).mono h'.grown
    · exact h'.answers hapart a ha

theorem isSound_of_call (c : Call (σ × List Exchange))
    (hvalues : ∀ a ∈ c.client.authorization, a ∈ values) (h : cache.Quotes log values) :
    IsSound values log (step t.logged (.call c) ((s, log), cache)) := by
  have hquiet : ∀ {result}, Answer.IsFrom log ⟨c, result⟩ →
      IsSound values log ([⟨c, result⟩], (s, log), cache) := by
    intro result hresult
    refine ⟨List.Subset.refl _, h, fun _ a ha => ?_⟩
    obtain rfl := List.mem_singleton.mp ha
    exact hresult
  rw [step]
  cases hq : c.request with
  | error fault =>
    rw [c.make_of_fault hq]
    exact hquiet (Or.inr (Or.inl ⟨fault, rfl⟩))
  | ok q =>
    rw [c.make_of_request hq]
    split_ifs
    · exact hquiet (Or.inr (Or.inr (Or.inr (Or.inl rfl))))
    · obtain ⟨outcome, s', new, cache', he, hquotes, hfrom⟩ :=
        Transport.cached_logged (t := t) (s := s) (c.isIssued hq hvalues) h
      rw [he]
      refine ⟨List.subset_append_left _ _, hquotes, fun hapart a ha => ?_⟩
      obtain rfl := List.mem_singleton.mp ha
      cases outcome with
      | reply r =>
        exact Or.inl ⟨q, r, hq, c.authorization_of_request hq, hfrom hapart r rfl, rfl⟩
      | failed fault => exact Or.inr (Or.inr (Or.inl ⟨fault, rfl⟩))
      | silence =>
        refine Or.inr (Or.inr (Or.inr ?_))
        simp only [Call.reading]
        split_ifs
        · exact Or.inl rfl
        · exact Or.inr rfl

theorem isSound_of_step (x : Step (σ × List Exchange))
    (hvalues : ∀ c, x = .call c → ∀ a ∈ c.client.authorization, a ∈ values)
    (h : cache.Quotes log values) : IsSound values log (step t.logged x ((s, log), cache)) := by
  cases x with
  | call c => exact isSound_of_call c (hvalues c rfl) h
  | forget key => exact IsSound.idle (h.remove key)
  | forgetAll => exact IsSound.idle Cache.IsOf.empty

theorem isSound_of_run (steps : List (Step (σ × List Exchange)))
    (hvalues : ∀ c, .call c ∈ steps → ∀ a ∈ c.client.authorization, a ∈ values)
    (h : cache.Quotes log values) : IsSound values log (run t.logged steps ((s, log), cache)) := by
  induction steps generalizing s log cache with
  | nil => exact IsSound.idle h
  | cons x steps ih =>
    have hstep : IsSound values log (step t.logged x ((s, log), cache)) :=
      isSound_of_step x (fun c hc => hvalues c (hc ▸ List.mem_cons_self)) h
    rw [run]
    generalize step t.logged x ((s, log), cache) = reached at hstep ⊢
    obtain ⟨answers, ⟨s', log'⟩, cache'⟩ := reached
    exact hstep.append (ih (fun c hc => hvalues c (List.mem_cons_of_mem x hc)) hstep.quotes)

/-- Over any transport, every entry is the reply of success that the transport gave to a `GET` under
that key, and if fingerprints do not clash a call never gets a reply to another's request. -/
theorem replies_from_log (t : Transport σ) (s : σ) (steps : List (Step (σ × List Exchange))) :
    (∀ key r, KeyMap.get? key (run t.logged steps ((s, []), ∅)).2.2 = some r →
      r.status.isSuccess = true ∧ ∃ q : Request,
        (q, .reply r) ∈ (run t.logged steps ((s, []), ∅)).2.1.2 ∧
          q.method = "GET" ∧ q.cacheKey = key) ∧
    (FingerprintsApart (tokens steps) → ∀ a ∈ (run t.logged steps ((s, []), ∅)).1,
      a.IsFrom (run t.logged steps ((s, []), ∅)).2.1.2) := by
  have hempty : Cache.Quotes [] (tokens steps) ∅ := Cache.IsOf.empty
  have hrun := isSound_of_run (t := t) (s := s) steps (fun _ hc => mem_tokens hc) hempty
  refine ⟨fun key r hr => ?_, hrun.answers⟩
  obtain ⟨hkept, q, hget, hkey, hq, -⟩ := hrun.quotes key r hr
  rw [Reply.isKept, Bool.and_eq_true] at hkept
  exact ⟨hkept.1, q, hq, hget, hkey⟩

/-- Two tokens and a server that counts. -/
theorem replies_to_two_tokens :
    let t : Transport Nat := fun _ n => (.reply ⟨⟨200⟩, [], some (octetsOf (toString n))⟩, n + 1)
    let steps : List (Step (Nat × List Exchange)) :=
      [.call (whoAmI "a"), .call (whoAmI "b"), .call (whoAmI "a")]
    FingerprintsApart (tokens steps) ∧ ∀ a ∈ (run t.logged steps ((0, []), ∅)).1,
      a.IsFrom (run t.logged steps ((0, []), ∅)).2.1.2 := by
  intro t steps
  have hapart : FingerprintsApart (tokens steps) := by decide +kernel
  exact ⟨hapart, (replies_from_log t 0 steps).2 hapart⟩

end Log

end IdentityApi.History
