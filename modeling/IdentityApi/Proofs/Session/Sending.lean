import IdentityApi.Proofs.Client.Calling
import IdentityApi.Session.Basic

/-! # What a call of a session sends

A call sends its request once, or not at all: it sends nothing exactly if the request cannot be
built, the client is cancelled, or an entry of the cache answers (`arrived_of_call`). What the
prepared answers are has no influence on this.
-/
namespace IdentityApi.Session

variable {α : Type} {s : Session} {c : Client} {p : Plan α} {q : Request}

/-! ## What is behind the clients -/

/-- There is caching, and an entry answers the request. -/
def IsHit (s : Session) (q : Request) : Prop :=
  s.caching = true ∧ q.method = "GET" ∧ (s.cache.get? q.cacheKey).isSome = true

/-- A request that arrives is put on record, and takes the next answer whatever that is. -/
theorem seen_transport (q : Request) (script : Script) :
    (Script.transport q script).2.seen = script.seen ++ [q] ∧
      (Script.transport q script).2.pending = script.pending.tail := by
  obtain ⟨pending, seen, thrown⟩ := script
  cases pending with
  | nil => exact ⟨rfl, rfl⟩
  | cons a rest =>
    obtain ⟨throws, outcome⟩ := a
    cases throws <;> exact ⟨rfl, rfl⟩

/-- An entry that answers leaves the script alone. -/
theorem script_of_hit (h : s.IsHit q) :
    (transport s.caching q s.backstage).2.1 = s.script := by
  obtain ⟨hcaching, hget, hentry⟩ := h
  obtain ⟨r, hr⟩ := Option.isSome_iff_exists.mp hentry
  simp [transport, backstage, hcaching, Transport.cached, hget, hr]

/-- Otherwise the request reaches the script. -/
theorem script_of_miss (h : ¬ s.IsHit q) :
    (transport s.caching q s.backstage).2.1 = (Script.transport q s.script).2 := by
  cases hcaching : s.caching with
  | false => rfl
  | true =>
    rw [transport, if_pos rfl, backstage]
    rcases Transport.cached_cases Script.transport q s.script s.cache with
      ⟨r, hget, hentry, -⟩ | ⟨r, -, -, -, he⟩ | he
    · exact absurd ⟨hcaching, hget, by rw [hentry]; rfl⟩ h
    · rw [he]
    · rw [he]

/-! ## Calls -/

/-- The client's switch is thrown. -/
def IsCancelled (s : Session) (c : Client) : Prop :=
  c.cancellation.any s.script.isThrown = true

theorem callFor_of_fault {fault : Request.Fault} (h : p.request c = .error fault) :
    s.callFor c p = (some (.error (.invalidRequest fault)), s) := by
  rw [callFor, Client.call_of_fault h]
  rfl

theorem callFor_of_cancelled (h : p.request c = .ok q) (hcancelled : s.IsCancelled c) :
    s.callFor c p = (some (.error .cancelled), s) := by
  have hcall : c.call (transport s.caching) (fun b switch => b.1.isThrown switch) p s.backstage =
      (some (.error .cancelled), s.backstage) := Client.call_of_thrown h hcancelled
  rw [callFor, hcall]
  rfl

theorem snd_callFor (h : p.request c = .ok q) (hfree : ¬ s.IsCancelled c) :
    (s.callFor c p).2 = s.withBackstage (transport s.caching q s.backstage).2 := by
  have hstate : (c.call (transport s.caching) (fun b switch => b.1.isThrown switch) p
      s.backstage).2 = (transport s.caching q s.backstage).2 :=
    Client.snd_call_of_sent h (Bool.eq_false_iff.mpr hfree)
  exact congrArg s.withBackstage hstate

theorem script_callFor (h : p.request c = .ok q) (hfree : ¬ s.IsCancelled c) :
    (s.callFor c p).2.script = (transport s.caching q s.backstage).2.1 := by
  rw [snd_callFor h hfree]
  rfl

/-- A call that is settled without the transport. -/
inductive IsSettled (s : Session) (c : Client) (p : Plan α) : Prop where
  | unbuilt {fault : Request.Fault} (h : p.request c = .error fault)
  | cancelled {q : Request} (h : p.request c = .ok q) (hcancelled : s.IsCancelled c)
  | hit {q : Request} (h : p.request c = .ok q) (hhit : s.IsHit q)

theorem script_of_isSettled (h : s.IsSettled c p) : (s.callFor c p).2.script = s.script := by
  cases h with
  | unbuilt h => rw [callFor_of_fault h]
  | cancelled h hcancelled => rw [callFor_of_cancelled h hcancelled]
  | hit h hhit =>
    by_cases hcancelled : s.IsCancelled c
    · rw [callFor_of_cancelled h hcancelled]
    · rw [script_callFor h hcancelled, script_of_hit hhit]

/-- A call that is not settled has a request, and leaves the script as that leaves it. -/
theorem script_of_not_isSettled (h : ¬ s.IsSettled c p) :
    ∃ q, p.request c = .ok q ∧ (s.callFor c p).2.script = (Script.transport q s.script).2 := by
  cases hq : p.request c with
  | error fault => exact absurd (.unbuilt hq) h
  | ok q =>
    have hfree : ¬ s.IsCancelled c := fun hcancelled => h (.cancelled hq hcancelled)
    have hmiss : ¬ s.IsHit q := fun hhit => h (.hit hq hhit)
    exact ⟨q, rfl, (script_callFor hq hfree).trans (script_of_miss hmiss)⟩

/-- What arrives during a call. It is nothing, exactly if the call is settled, or else the request
of the call, once, which takes one answer. A request that cannot be built is the fault of the call
also of a cancelled client, and a cancelled client with a request is told that it is cancelled;
neither leaves a trace. -/
theorem arrived_of_call {name : String} (hc : s.clients.get? name = some c) (o : Operation) :
    (∃ arrived : List Request,
      (s.step (.call name o)).2.script.seen = s.script.seen ++ arrived ∧
      (s.step (.call name o)).2.script.pending = s.script.pending.drop arrived.length ∧
      arrived.length ≤ 1 ∧
      (∀ q ∈ arrived, o.plan.request c = .ok q) ∧
      (arrived = [] ↔
        (∃ fault, o.plan.request c = .error fault) ∨
        ∃ q, o.plan.request c = .ok q ∧ (s.IsCancelled c ∨ s.IsHit q))) ∧
    (∀ fault, o.plan.request c = .error fault →
      s.step (.call name o) = (some (.error (.invalidRequest fault)), s)) ∧
    (∀ q, o.plan.request c = .ok q → s.IsCancelled c →
      s.step (.call name o) = (some (.error .cancelled), s)) := by
  have hstep : s.step (.call name o) = s.callFor c o.plan := by
    simp only [step, hc]
    rfl
  have hsettled : s.IsSettled c o.plan ↔ (∃ fault, o.plan.request c = .error fault) ∨
      ∃ q, o.plan.request c = .ok q ∧ (s.IsCancelled c ∨ s.IsHit q) := by
    constructor
    · rintro (⟨h⟩ | ⟨h, hcancelled⟩ | ⟨h, hhit⟩)
      · exact Or.inl ⟨_, h⟩
      · exact Or.inr ⟨_, h, Or.inl hcancelled⟩
      · exact Or.inr ⟨_, h, Or.inr hhit⟩
    · rintro (⟨fault, h⟩ | ⟨q, h, hcancelled | hhit⟩)
      · exact .unbuilt h
      · exact .cancelled h hcancelled
      · exact .hit h hhit
  rw [hstep, ← hsettled]
  refine ⟨?_, fun fault h => callFor_of_fault h, fun q h => callFor_of_cancelled h⟩
  by_cases h : s.IsSettled c o.plan
  · refine ⟨[], ?_, ?_, Nat.zero_le 1, by simp, fun _ => h, fun _ => rfl⟩
    · rw [script_of_isSettled h, List.append_nil]
    · rw [script_of_isSettled h, List.length_nil, List.drop_zero]
  · obtain ⟨q, hq, hscript⟩ := script_of_not_isSettled h
    obtain ⟨hseen, hpending⟩ := seen_transport q s.script
    refine ⟨[q], ?_, ?_, Nat.le_refl 1, by simpa using hq, by simp [h]⟩
    · rw [hscript, hseen]
    · rw [hscript, hpending, List.length_singleton, List.drop_one]

/-- A broken reply is not asked for again, though a whole one is prepared. -/
theorem arrived_of_broken_reply :
    let base : Url := ⟨"https", some ⟨"", "", "[::1]", none⟩, .segments [""], none, none⟩
    let c : Client := { base, cancellation := some "c" }
    let whole : PreparedAnswer := { outcome := .reply ⟨⟨200⟩, [], some []⟩ }
    let broken : PreparedAnswer := { outcome := .reply ⟨⟨200⟩, [], none⟩ }
    let s : Session :=
      { caching := true, clients := [("c", c)], script := { pending := [broken, whole] } }
    s.clients.get? "c" = some c ∧
      ∃ q, (s.step (.call "c" (.user .me))).2.script.seen = [q] ∧
        (s.step (.call "c" (.user .me))).2.script.pending = [whole] := by
  intro base c whole broken s
  have hc : s.clients.get? "c" = some c := rfl
  obtain ⟨q, hq⟩ : ∃ q, (Operation.user .me).plan.request c = .ok q := ⟨_, rfl⟩
  obtain ⟨⟨arrived, hseen, hpending, hlength, -, hnone⟩, -, -⟩ := arrived_of_call hc (.user .me)
  have hne : arrived ≠ [] := by
    intro h
    rcases hnone.mp h with ⟨fault, hfault⟩ | ⟨r, -, hcancelled | ⟨-, -, hentry⟩⟩
    · cases hq.symm.trans hfault
    · cases hcancelled
    · cases hentry
  obtain ⟨r, rfl⟩ := List.length_eq_one_iff.mp
    (Nat.le_antisymm hlength (List.length_pos_of_ne_nil hne))
  exact ⟨hc, r, hseen, hpending⟩

end IdentityApi.Session
