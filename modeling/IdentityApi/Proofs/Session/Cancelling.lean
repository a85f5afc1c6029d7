import IdentityApi.Proofs.Json.Tree
import IdentityApi.Proofs.Session.Sending

/-! # Cancelled clients stay silent

Once the switch of a client is thrown it stays thrown until the client's name is taken again, and a
call of the client then gives a fault and leaves the whole session as it is. So such calls can be
left out of a run (`run_of_cancelled`). The other clients do not notice the switch: two sessions
that agree but for one switch give the same to all who are not bound to it (`AgreeBut.run`).
-/
namespace IdentityApi

theorem Client.cancellation_of_create {text : String} {token : Option String} {c : Client}
    (h : Client.create text token = .ok c) : c.cancellation = none := by
  cases hbase : baseOf text with
  | error fault => cases token <;> simp [create, ofBase, hbase, Except.map, bind, Except.bind] at h
  | ok base =>
    cases token with
    | none =>
      rw [create, ofBase, hbase] at h
      cases h
      rfl
    | some t =>
      rw [create, ofBase, hbase] at h
      have htoken : withToken { base } t = .ok c := h
      rw [withToken] at htoken
      split_ifs at htoken
      cases htoken
      rfl

/-- A call says that it was cancelled only when the client's switch is thrown in the end. -/
theorem Client.isThrown_of_call_cancelled {σ α : Type} {c : Client} {t : Transport σ}
    {isThrown : σ → String → Bool} {p : Plan α} {s : σ}
    (h : (c.call t isThrown p s).1 = some (.error .cancelled)) :
    c.cancellation.any (isThrown (c.call t isThrown p s).2) = true := by
  cases hq : p.request c with
  | error fault =>
    rw [call_of_fault hq] at h
    cases h
  | ok q =>
    by_cases hthrown : c.cancellation.any (isThrown s) = true
    · rw [call_of_thrown hq hthrown]
      exact hthrown
    · rw [snd_call_of_sent hq (Bool.eq_false_iff.mpr hthrown)]
      rw [call, hq] at h
      dsimp only at h
      rw [if_neg hthrown] at h
      cases hsent : t q s with
      | mk outcome after =>
        rw [hsent] at h
        cases outcome with
        | reply r => exact absurd (Option.some.inj h) (r.result_ne_cancelled _ _)
        | failed fault => cases h
        | silence =>
          dsimp only at h
          split_ifs at h with hafter
          exact hafter

namespace Session

variable {s s' : Session} {c : Client} {name switch : String} {t : Step} {q : Request}

/-! ## Runs -/

/-- A step, and what it gave. -/
abbrev Given := (t : Step) × t.Result

/-- Makes the steps one after the other. -/
def run : List Step → Session → List Given × Session
  | [], s => ([], s)
  | t :: steps, s =>
    let (result, s) := s.step t
    let (later, s) := run steps s
    (⟨t, result⟩ :: later, s)

theorem run_append (steps more : List Step) (s : Session) :
    run (steps ++ more) s =
      ((run steps s).1 ++ (run more (run steps s).2).1, (run more (run steps s).2).2) := by
  induction steps generalizing s with
  | nil => rfl
  | cons t steps ih =>
    have hrest := ih (s.step t).2
    simp only [List.cons_append, run, hrest]

/-! ## Names and switches -/

namespace Step

/-- A new client takes the name. -/
def Takes (name : String) : Step → Prop
  | create n base token cancellable =>
    n = name ∧ ∃ c, createClient n base token cancellable = .ok c
  | _ => False

def Calls (name : String) : Step → Prop
  | call n _ => n = name
  | _ => False

end Step

theorem cancellation_of_createClient {base : String} {token : Option String} {cancellable : Bool}
    (h : createClient name base token cancellable = .ok c) :
    c.cancellation = if cancellable then some name else none := by
  obtain ⟨d, hd, rfl⟩ := Json.ok_of_map h
  cases cancellable with
  | false => exact Client.cancellation_of_create hd
  | true => rfl

/-- Every client that can be cancelled is so by the switch of its own name. -/
def HasOwnSwitches (s : Session) : Prop :=
  ∀ name c, s.clients.get? name = some c → ∀ switch ∈ c.cancellation, switch = name

theorem clients_call {o : Operation} : (s.step (.call name o)).2.clients = s.clients := by
  simp only [step]
  cases s.clients.get? name <;> rfl

theorem HasOwnSwitches.step (h : s.HasOwnSwitches) (t : Step) : (s.step t).2.HasOwnSwitches := by
  cases t with
  | create n base token cancellable =>
    simp only [Session.step]
    cases hcreate : createClient n base token cancellable with
    | error fault => exact h
    | ok d =>
      intro name c hc switch hswitch
      have hput : (s.clients.put n d).get? name = some c := hc
      rw [KeyMap.get?_put] at hput
      split_ifs at hput with hname
      · obtain rfl := Option.some.inj hput
        subst hname
        rw [cancellation_of_createClient hcreate] at hswitch
        cases cancellable with
        | false => cases hswitch
        | true => exact (Option.some.inj hswitch).symm
      · exact h name c hput switch hswitch
  | call n o =>
    unfold HasOwnSwitches
    rw [clients_call]
    exact h
  | _ => exact h

theorem HasOwnSwitches.run (h : s.HasOwnSwitches) (steps : List Step) :
    (run steps s).2.HasOwnSwitches := by
  induction steps generalizing s with
  | nil => exact h
  | cons t steps ih => exact ih (h.step t)

/-! ## A thrown switch stays thrown -/

theorem isThrown_of_arrival {script : Script} (h : script.isThrown switch = true) (q : Request) :
    (Script.transport q script).2.isThrown switch = true := by
  obtain ⟨pending, seen, thrown⟩ := script
  cases pending with
  | nil => exact h
  | cons a rest =>
    obtain ⟨throws, outcome⟩ := a
    cases throws with
    | none => exact h
    | some w =>
      have hthrown : switch ∈ thrown := List.contains_iff_mem.mp h
      exact List.contains_iff_mem.mpr (List.mem_cons_of_mem w hthrown)

theorem isThrown_of_transport (h : s.script.isThrown switch = true) (q : Request) :
    (transport s.caching q s.backstage).2.1.isThrown switch = true := by
  by_cases hhit : s.IsHit q
  · rw [script_of_hit hhit]
    exact h
  · rw [script_of_miss hhit]
    exact isThrown_of_arrival h q

theorem isThrown_of_callFor {α : Type} {p : Plan α} (h : s.script.isThrown switch = true) :
    (s.callFor c p).2.script.isThrown switch = true := by
  by_cases hsettled : s.IsSettled c p
  · rw [script_of_isSettled hsettled]
    exact h
  · obtain ⟨q, -, hscript⟩ := script_of_not_isSettled hsettled
    rw [hscript]
    exact isThrown_of_arrival h q

theorem isThrown_step (h : s.script.isThrown switch = true) (ht : ¬ t.Takes switch) :
    (s.step t).2.script.isThrown switch = true := by
  cases t with
  | create n base token cancellable =>
    simp only [step]
    cases hcreate : createClient n base token cancellable with
    | error fault => exact h
    | ok d =>
      have hne : switch ≠ n := fun hn => ht ⟨hn.symm, d, hcreate⟩
      cases cancellable with
      | false => exact h
      | true =>
        have hthrown : switch ∈ s.script.thrown := List.contains_iff_mem.mp h
        exact List.contains_iff_mem.mpr (List.mem_filter.mpr ⟨hthrown, by simpa using hne⟩)
  | enqueue a => exact h
  | cancel n =>
    have hthrown : switch ∈ s.script.thrown := List.contains_iff_mem.mp h
    exact List.contains_iff_mem.mpr (List.mem_cons_of_mem n hthrown)
  | call n o =>
    simp only [step]
    cases s.clients.get? n with
    | none => exact h
    | some d => exact isThrown_of_callFor h
  | send q => exact isThrown_of_transport h q
  | _ => exact h

theorem get?_clients_step (ht : ¬ t.Takes name) :
    (s.step t).2.clients.get? name = s.clients.get? name := by
  cases t with
  | create n base token cancellable =>
    simp only [step]
    cases hcreate : createClient n base token cancellable with
    | error fault => rfl
    | ok d =>
      have hne : name ≠ n := fun hn => ht ⟨hn.symm, d, hcreate⟩
      exact KeyMap.get?_put_of_ne hne d s.clients
  | call n o => rw [clients_call]
  | _ => rfl

/-- The name belongs to a client whose switch is thrown. -/
structure HasCancelled (s : Session) (name : String) (c : Client) : Prop where
  client : s.clients.get? name = some c
  cancelled : s.IsCancelled c

theorem HasCancelled.step (h : s.HasCancelled name c) (hown : s.HasOwnSwitches)
    (ht : ¬ t.Takes name) : (s.step t).2.HasCancelled name c := by
  obtain ⟨switch, hswitch, hthrown⟩ := (Option.any_eq_true _ _).mp h.cancelled
  refine ⟨(get?_clients_step ht).trans h.client, (Option.any_eq_true _ _).mpr ⟨switch, hswitch, ?_⟩⟩
  obtain rfl := hown name c h.client switch hswitch
  exact isThrown_step hthrown ht

theorem HasCancelled.run (h : s.HasCancelled name c) (hown : s.HasOwnSwitches) {steps : List Step}
    (hsteps : ∀ t ∈ steps, ¬ t.Takes name) : (run steps s).2.HasCancelled name c := by
  induction steps generalizing s with
  | nil => exact h
  | cons t steps ih =>
    obtain ⟨ht, hsteps⟩ := List.forall_mem_cons.mp hsteps
    exact ih (h.step hown ht) (hown.step t) hsteps

/-! ## Calls of cancelled clients -/

/-- Why a call of a cancelled client fails: because its request cannot be built, or else because the
client is cancelled. -/
def refusal (c : Client) (o : Operation) : CallFault :=
  match o.plan.request c with
  | .error fault => .invalidRequest fault
  | .ok _ => .cancelled

/-- A call of a cancelled client fails and leaves everything as it is. -/
theorem HasCancelled.call (h : s.HasCancelled name c) (o : Operation) :
    s.step (.call name o) = (some (.error (refusal c o)), s) := by
  have hstep : s.step (.call name o) = s.callFor c o.plan := by
    simp only [Session.step, h.client]
    rfl
  rw [hstep, refusal]
  cases hq : o.plan.request c with
  | error fault => exact callFor_of_fault hq
  | ok q => exact callFor_of_cancelled hq h.cancelled

/-! ## Sessions that differ in one switch -/

/-- The same but for one switch. -/
structure Script.AgreeBut (switch : String) (a b : Script) : Prop where
  pending : b.pending = a.pending
  seen : b.seen = a.seen
  thrown : ∀ w ≠ switch, b.isThrown w = a.isThrown w

theorem Script.AgreeBut.transport {a b : Script} (h : Script.AgreeBut switch a b) (q : Request) :
    (Script.transport q b).1 = (Script.transport q a).1 ∧
      Script.AgreeBut switch (Script.transport q a).2 (Script.transport q b).2 := by
  obtain ⟨pending, seen, thrown⟩ := a
  obtain ⟨pending', seen', thrown'⟩ := b
  obtain ⟨hpending, hseen, hthrown⟩ := h
  dsimp only at hpending hseen
  subst hpending hseen
  cases pending' with
  | nil => exact ⟨rfl, rfl, rfl, hthrown⟩
  | cons x rest =>
    obtain ⟨throws, outcome⟩ := x
    cases throws with
    | none => exact ⟨rfl, rfl, rfl, hthrown⟩
    | some v =>
      refine ⟨rfl, rfl, rfl, fun w hw => ?_⟩
      have hrest : thrown'.contains w = thrown.contains w := hthrown w hw
      change (v :: thrown').contains w = (v :: thrown).contains w
      rw [List.contains_cons, List.contains_cons, hrest]

/-- The same but for one switch. -/
structure AgreeBut (switch : String) (s s' : Session) : Prop where
  caching : s'.caching = s.caching
  clients : s'.clients = s.clients
  script : Script.AgreeBut switch s.script s'.script
  cache : s'.cache = s.cache

namespace AgreeBut

/-- A request comes to the same. -/
theorem transport (h : s.AgreeBut switch s') (q : Request) :
    (Session.transport s'.caching q s'.backstage).1 =
        (Session.transport s.caching q s.backstage).1 ∧
      (s.withBackstage (Session.transport s.caching q s.backstage).2).AgreeBut switch
        (s'.withBackstage (Session.transport s'.caching q s'.backstage).2) := by
  obtain ⟨houtcome, hscript⟩ := h.script.transport q
  rw [h.caching, backstage, backstage, h.cache]
  cases hcaching : s.caching with
  | false => exact ⟨houtcome, h.caching, h.clients, hscript, rfl⟩
  | true =>
    have hcached : Session.transport true = Script.transport.cached := if_pos rfl
    rw [hcached]
    by_cases hget : q.method = "GET"
    · cases hfound : s.cache.get? q.cacheKey with
      | some r =>
        rw [Transport.cached_of_some hget hfound, Transport.cached_of_some hget hfound]
        exact ⟨rfl, h.caching, h.clients, h.script, rfl⟩
      | none =>
        rw [Transport.cached_of_none hget hfound, Transport.cached_of_none hget hfound, houtcome]
        exact ⟨rfl, h.caching, h.clients, hscript, rfl⟩
    · rw [Transport.cached_of_other hget, Transport.cached_of_other hget]
      exact ⟨houtcome, h.caching, h.clients, hscript, rfl⟩

theorem isCancelled_iff (h : s.AgreeBut switch s') (hc : c.cancellation ≠ some switch) :
    s'.IsCancelled c ↔ s.IsCancelled c := by
  unfold IsCancelled
  cases hswitch : c.cancellation with
  | none => exact Iff.rfl
  | some w =>
    have hne : w ≠ switch := fun hw => hc (hw ▸ hswitch)
    rw [Option.any_some, Option.any_some, h.script.thrown w hne]

/-- A call of a client that is not bound to the switch comes to the same. -/
theorem callFor (h : s.AgreeBut switch s') (hc : c.cancellation ≠ some switch) {α : Type}
    (p : Plan α) :
    (s'.callFor c p).1 = (s.callFor c p).1 ∧
      (s.callFor c p).2.AgreeBut switch (s'.callFor c p).2 := by
  cases hq : p.request c with
  | error fault =>
    rw [callFor_of_fault hq, callFor_of_fault hq]
    exact ⟨rfl, h⟩
  | ok q =>
    by_cases hcancelled : s.IsCancelled c
    · rw [callFor_of_cancelled hq hcancelled,
        callFor_of_cancelled hq ((h.isCancelled_iff hc).mpr hcancelled)]
      exact ⟨rfl, h⟩
    · have hfree' := mt (h.isCancelled_iff hc).mp hcancelled
      obtain ⟨houtcome, hafter⟩ := h.transport q
      rw [snd_callFor hq hcancelled, snd_callFor hq hfree']
      refine ⟨?_, hafter⟩
      change (c.call (Session.transport s'.caching) (fun b w => b.1.isThrown w) p s'.backstage).1 =
        (c.call (Session.transport s.caching) (fun b w => b.1.isThrown w) p s.backstage).1
      exact Client.fst_call_congr hq hq (Bool.eq_false_iff.mpr hcancelled)
        (Bool.eq_false_iff.mpr hfree') houtcome (Bool.eq_iff_iff.mpr (hafter.isCancelled_iff hc))

theorem store (h : s.AgreeBut switch s') (name : String) (c : Client) (cancellable : Bool) :
    (s.store name c cancellable).AgreeBut switch (s'.store name c cancellable) := by
  have hclients : s'.clients.put name c = s.clients.put name c := by rw [h.clients]
  cases cancellable with
  | false => exact ⟨h.caching, hclients, h.script, h.cache⟩
  | true =>
    refine ⟨h.caching, hclients, ⟨h.script.pending, h.script.seen, fun w hw => ?_⟩, h.cache⟩
    have hthrown : s'.script.thrown.contains w = s.script.thrown.contains w :=
      h.script.thrown w hw
    rw [Bool.eq_iff_iff, List.contains_iff_mem, List.contains_iff_mem] at hthrown
    change (s'.script.thrown.filter _).contains w = (s.script.thrown.filter _).contains w
    rw [Bool.eq_iff_iff, List.contains_iff_mem, List.contains_iff_mem, List.mem_filter,
      List.mem_filter, hthrown]

/-- A step that calls no client of the name gives the same, whether its switch is thrown or not. -/
theorem step (h : s.AgreeBut name s') (hown : s.HasOwnSwitches) (ht : ¬ t.Calls name) :
    (s'.step t).1 = (s.step t).1 ∧ (s.step t).2.AgreeBut name (s'.step t).2 := by
  cases t with
  | create n base token cancellable =>
    simp only [Session.step]
    cases createClient n base token cancellable with
    | error fault => exact ⟨rfl, h⟩
    | ok d => exact ⟨rfl, h.store n d cancellable⟩
  | enqueue a =>
    exact ⟨rfl, h.caching, h.clients,
      ⟨congrArg (· ++ [a]) h.script.pending, h.script.seen, h.script.thrown⟩, h.cache⟩
  | cancel n =>
    refine ⟨rfl, h.caching, h.clients, ⟨h.script.pending, h.script.seen, fun w hw => ?_⟩, h.cache⟩
    have hthrown : s'.script.thrown.contains w = s.script.thrown.contains w :=
      h.script.thrown w hw
    change (n :: s'.script.thrown).contains w = (n :: s.script.thrown).contains w
    rw [List.contains_cons, List.contains_cons, hthrown]
  | call n o =>
    simp only [Session.step, h.clients]
    cases hclient : s.clients.get? n with
    | none => exact ⟨rfl, h⟩
    | some d =>
      refine h.callFor (fun hswitch => ?_) o.plan
      exact ht (hown n d hclient name hswitch).symm
  | send q => exact h.transport q
  | lookUp key => exact ⟨congrArg (KeyMap.get? key) h.cache, h⟩
  | keep key r => exact ⟨rfl, { h with cache := congrArg (KeyMap.put key r) h.cache }⟩
  | forget key => exact ⟨rfl, { h with cache := congrArg (KeyMap.remove key) h.cache }⟩
  | forgetRequest q =>
    exact ⟨rfl, { h with cache := congrArg (KeyMap.remove q.cacheKey) h.cache }⟩
  | forgetAll => exact ⟨rfl, { h with cache := rfl }⟩

theorem run (h : s.AgreeBut name s') (hown : s.HasOwnSwitches) {steps : List Step}
    (hsteps : ∀ t ∈ steps, ¬ t.Calls name) : (run steps s').1 = (run steps s).1 := by
  induction steps generalizing s s' with
  | nil => rfl
  | cons t steps ih =>
    obtain ⟨ht, hsteps⟩ := List.forall_mem_cons.mp hsteps
    obtain ⟨hresult, hafter⟩ := h.step hown ht
    simp only [Session.run, hresult, ih hafter (hown.step t) hsteps]

end AgreeBut

/-- The same session with a switch that is not thrown. -/
def rearm (s : Session) (switch : String) : Session :=
  { s with script := s.script.renew switch }

theorem agreeBut_rearm (s : Session) (switch : String) : s.AgreeBut switch (s.rearm switch) where
  caching := rfl
  clients := rfl
  cache := rfl
  script := by
    refine ⟨rfl, rfl, fun w hw => ?_⟩
    change (s.script.thrown.filter _).contains w = s.script.thrown.contains w
    rw [Bool.eq_iff_iff, List.contains_iff_mem, List.contains_iff_mem, List.mem_filter]
    exact and_iff_left (by simpa using hw)

/-- A call says that it was cancelled only to a client whose own switch is thrown. -/
theorem isThrown_of_call_cancelled (hown : s.HasOwnSwitches) {o : Operation}
    (h : (s.step (.call name o)).1 = some (.error .cancelled)) :
    ∃ c, s.clients.get? name = some c ∧ c.cancellation = some name ∧
      (s.step (.call name o)).2.script.isThrown name = true := by
  cases hclient : s.clients.get? name with
  | none =>
    simp only [Session.step, hclient] at h
    cases h
  | some c =>
    have hstep : s.step (.call name o) = s.callFor c o.plan := by
      simp only [Session.step, hclient]
      rfl
    have hcall : (c.call (transport s.caching) (fun b w => b.1.isThrown w) o.plan s.backstage).1 =
        some (.error .cancelled) := by
      rw [hstep] at h
      exact h
    rw [hstep]
    have hswitch : ∀ {a : Session}, a.IsCancelled c →
        c.cancellation = some name ∧ a.script.isThrown name = true := by
      intro a ha
      obtain ⟨w, hw, hthrown⟩ := (Option.any_eq_true _ _).mp ha
      obtain rfl := hown name c hclient w hw
      exact ⟨hw, hthrown⟩
    exact ⟨c, rfl, hswitch (Client.isThrown_of_call_cancelled hcall)⟩

/-! ## Runs with a cancelled client -/

/-- From the moment when the switch of a client is thrown, until a new client takes its name: its
calls fail and leave the session as it is, so that a run goes on as if they were left out. What does
not call it gives what it would give if the switch were not thrown, and no other call says that it
was cancelled but for a switch of its own. -/
theorem run_of_cancelled (caching : Bool) {steps more : List Step} {name : String} {c : Client}
    (hclient : (run steps { caching }).2.clients.get? name = some c)
    (hcancelled : (run steps { caching }).2.IsCancelled c)
    (hmore : ∀ t ∈ more, ¬ t.Takes name) :
    let front := run (steps ++ more) { caching }
    (∀ o, front.2.step (.call name o) = (some (.error (refusal c o)), front.2)) ∧
    (∀ o rest, ∃ later last,
      run (steps ++ more ++ .call name o :: rest) { caching } =
        (front.1 ++ ⟨.call name o, some (.error (refusal c o))⟩ :: later, last) ∧
      run (steps ++ more ++ rest) { caching } = (front.1 ++ later, last)) ∧
    (∀ rest, (∀ t ∈ rest, ¬ t.Calls name) →
      (run rest (front.2.rearm name)).1 = (run rest front.2).1) ∧
    ∀ other o, (front.2.step (.call other o)).1 = some (.error .cancelled) →
      ∃ d, front.2.clients.get? other = some d ∧ d.cancellation = some other ∧
        (front.2.step (.call other o)).2.script.isThrown other = true := by
  intro front
  have hempty : HasOwnSwitches { caching } := fun _ c hc => absurd hc (Option.not_mem_none c)
  have hfront : front.2 = (run more (run steps { caching }).2).2 := by
    simp only [front, run_append]
  have hown : front.2.HasOwnSwitches := hempty.run (steps ++ more)
  have hquiet : front.2.HasCancelled name c := by
    rw [hfront]
    exact HasCancelled.run ⟨hclient, hcancelled⟩ (hempty.run steps) hmore
  refine ⟨hquiet.call, fun o rest => ?_, fun rest hrest => ?_, fun other o h => ?_⟩
  · refine ⟨(run rest front.2).1, (run rest front.2).2, ?_, run_append _ _ _⟩
    rw [run_append, run, hquiet.call o]
  · exact (agreeBut_rearm front.2 name).run hown hrest
  · exact isThrown_of_call_cancelled hown h

/-- The second client's request is answered, and the answer throws the switch of the first one. -/
def thrownMeanwhile : List Step := [
  .create "a" "https://[::1]" (some "one") true,
  .create "b" "https://[::1]" none false,
  .enqueue { throws := some "a", outcome := .reply ⟨⟨200⟩, [], some [123, 125]⟩ },
  .call "b" (.user .me)]

/-- A client that could not be created does not take the name. -/
theorem run_of_thrownMeanwhile :
    let c : Client :=
      { base := ⟨"https", some ⟨"", "", "[::1]", none⟩, .segments [""], none, none⟩
        authorization := some "Bearer one"
        cancellation := some "a" }
    let more : List Step := [.create "a" "nowhere" none true, .call "b" (.user .me)]
    let front := run (thrownMeanwhile ++ more) {}
    (run thrownMeanwhile {}).2.clients.get? "a" = some c ∧
      (run thrownMeanwhile {}).2.IsCancelled c ∧ (∀ t ∈ more, ¬ t.Takes "a") ∧
      front.2.step (.call "a" (.user .me)) = (some (.error .cancelled), front.2) := by
  intro c more front
  have hclient : (run thrownMeanwhile {}).2.clients.get? "a" = some c := rfl
  have hcancelled : (run thrownMeanwhile {}).2.IsCancelled c := by
    unfold IsCancelled
    rfl
  have hmore : ∀ t ∈ more, ¬ t.Takes "a" := by
    have hfails : (createClient "a" "nowhere" none true).toOption = none := rfl
    intro t ht
    rcases List.mem_cons.mp ht with rfl | ht
    · rintro ⟨-, d, hd⟩
      rw [hd] at hfails
      cases hfails
    · obtain rfl := List.mem_singleton.mp ht
      exact id
  refine ⟨hclient, hcancelled, hmore, ?_⟩
  have hcall := (run_of_cancelled false hclient hcancelled hmore).1 (.user .me)
  have hrefusal : refusal c (.user .me) = .cancelled := rfl
  rw [hrefusal] at hcall
  exact hcall

end Session

end IdentityApi
