import IdentityApi.Proofs.Json.Tree
import IdentityApi.Proofs.Request.Contents
import IdentityApi.Proofs.Session.Twins

/-! # What is seen of a session does not tell its tokens

A session is watched step by step: what a step shows, what arrives, whether the cache answers, and
how much is kept. With other tokens in their places the same is seen (`watch_of_other_tokens`),
because every step shows the same in twins and leaves twins.
-/
namespace IdentityApi

open Request (FingerprintsApart)

variable {f : String → String} {values : List String}

namespace Session

variable {s s' : Session} {c : Client}

/-! ## Steps -/

/-- The value of the header that carries a token, after the token was replaced. -/
def bearer (ρ : String → String) (value : String) : String :=
  "Bearer " ++ ρ (.ofList (value.toList.drop "Bearer ".length))

theorem bearer_append (ρ : String → String) (token : String) :
    bearer ρ ("Bearer " ++ token) = "Bearer " ++ ρ token := by
  have hdrop : ("Bearer " ++ token).toList.drop "Bearer ".length = token.toList := by
    rw [String.toList_append]
    exact List.drop_left
  rw [bearer, hdrop, String.ofList_toList]

/-- A token that every client may be given. -/
def IsAccepted (token : String) : Prop := ∀ c : Client, ∃ d, c.withToken token = .ok d

theorem withToken_of_isAccepted {token : String} (h : IsAccepted token) (c : Client) :
    c.withToken token = .ok { c with authorization := some ("Bearer " ++ token) } := by
  obtain ⟨d, hd⟩ := h c
  unfold Client.withToken at hd ⊢
  split_ifs at hd ⊢
  rfl

namespace Step

/-- The step reaches the cache only through calls of operations, or as a whole. -/
def IsOpen : Step → Prop
  | create _ _ _ _ | enqueue _ | cancel _ | forgetAll => True
  | call _ o => o.isNamed = true
  | send _ | lookUp _ | keep _ _ | forget _ | forgetRequest _ => False

/-- The token that a step gives to a client. -/
def token : Step → Option String
  | create _ _ token _ => token
  | _ => none

/-- The same step with another token. -/
def retoken (ρ : String → String) : Step → Step
  | create name base token cancellable => create name base (token.map ρ) cancellable
  | t => t

/-- The value of the header of the client that a step creates. -/
def authorization : Step → Option String
  | create name base token cancellable =>
    (createClient name base token cancellable).toOption.bind Client.authorization
  | _ => none

end Step

/-- What is shown of the result of a step. -/
inductive Shown where
  /-- A client was created: its base, and its form in diagnostics. -/
  | client (base debug : String)
  | refused (fault : Config.Fault)
  | called (o : Operation) (result : Option (Except CallFault o.Result))
  | outcome (o : Outcome)
  | entry (r : Option Reply)
  | done

def Step.shown : (t : Step) → t.Result → Shown
  | create _ _ _ _, .ok c => .client c.base.text c.debugText
  | create _ _ _ _, .error fault => .refused fault
  | call _ o, result => .called o result
  | send _, o => .outcome o
  | lookUp _, r => .entry r
  | enqueue _, () | cancel _, () | keep _ _, () => .done
  | forget _, () | forgetRequest _, () | forgetAll, () => .done

instance (s : Session) (c : Client) : Decidable (s.IsCancelled c) :=
  inferInstanceAs (Decidable (_ = true))

instance (s : Session) (q : Request) : Decidable (s.IsHit q) :=
  inferInstanceAs (Decidable (_ ∧ _ ∧ _))

/-- The call is answered by an entry of the cache. -/
def hits (s : Session) : Step → Bool
  | .call name o =>
    (s.clients.get? name).any fun c =>
      match o.plan.request c with
      | .ok q => decide (¬ s.IsCancelled c ∧ s.IsHit q)
      | .error _ => false
  | _ => false

/-- All that is seen of a step. -/
structure Sight where
  shown : Shown
  /-- What arrived during the step, without the tokens. -/
  arrived : List Request
  hit : Bool
  /-- How many answers are left. -/
  pending : Nat
  /-- How many entries are kept. -/
  kept : Nat

/-- Makes a step and watches it. -/
def view (s : Session) (t : Step) : Sight × Session :=
  let (result, after) := s.step t
  ({ shown := t.shown result
     arrived := (after.script.seen.drop s.script.seen.length).map Request.conceal
     hit := s.hits t
     pending := after.script.pending.length
     kept := after.cache.length }, after)

/-- Makes the steps one after the other and watches them. -/
def watch : List Step → Session → List Sight × Session
  | [], s => ([], s)
  | t :: steps, s =>
    let (sight, s) := s.view t
    let (sights, s) := watch steps s
    (sight :: sights, s)

/-! ## Twins go the same way -/

variable {ρ : String → String} {t : Step}

theorem createClient_retoken {name base : String} {token : Option String} {cancellable : Bool}
    (htoken : ∀ a ∈ token, IsAccepted a ∧ IsAccepted (ρ a)) :
    createClient name base (token.map ρ) cancellable =
      (createClient name base token cancellable).map (Client.rename (bearer ρ)) := by
  have hcreate : Client.create base (token.map ρ) =
      (Client.create base token).map (Client.rename (bearer ρ)) := by
    unfold Client.create Client.ofBase
    cases Client.baseOf base with
    | error fault => cases token <;> rfl
    | ok u =>
      cases token with
      | none => rfl
      | some a =>
        obtain ⟨ha, ha'⟩ := htoken a rfl
        change Client.withToken _ (ρ a) = (Client.withToken _ a).map _
        rw [withToken_of_isAccepted ha, withToken_of_isAccepted ha']
        refine congrArg Except.ok ?_
        rw [Client.rename, Option.map_some, bearer_append]
  unfold createClient
  rw [hcreate]
  cases Client.create base token with
  | error fault => rfl
  | ok c => cases cancellable <;> rfl

theorem base_of_createClient {name base : String} {token : Option String} {cancellable : Bool}
    (h : createClient name base token cancellable = .ok c) :
    Client.baseOf base = .ok c.base ∧ c.authorization = token.map ("Bearer " ++ ·) := by
  obtain ⟨d, hd, rfl⟩ := Json.ok_of_map h
  obtain ⟨hbase, hauthorization, -⟩ := Client.create_ok hd
  cases cancellable <;> exact ⟨hbase, hauthorization⟩

theorem Step.authorization_of_createClient {name base : String} {token : Option String}
    {cancellable : Bool} (h : createClient name base token cancellable = .ok c) :
    (create name base token cancellable).authorization = c.authorization := by
  rw [authorization, h]
  rfl

theorem AreTwins.store (h : s.AreTwins f values s') (hc : IsCreated values c) (name : String)
    (cancellable : Bool) :
    Lead f values s s' (s.store name c cancellable) (s'.store name (c.rename f) cancellable) := by
  have hclients : s'.clients.put name (c.rename f) =
      (s.clients.put name c).mapValues (Client.rename f) := by
    rw [KeyMap.mapValues_put, h.clients]
  have hcreated : ∀ p ∈ (s.clients.put name c).pairs, IsCreated values p.2 := by
    intro p hp
    rcases KeyMap.mem_of_mem_put hp with rfl | hp
    · exact hc
    · exact h.created p hp
  have hrenewed : (s.script.renew name).AreTwins (s'.script.renew name) :=
    ⟨h.script.pending, congrArg (List.filter _) h.script.thrown⟩
  cases cancellable with
  | false => exact ⟨⟨h.caching, hclients, hcreated, h.script, h.cache⟩, .of_eq rfl rfl⟩
  | true => exact ⟨⟨h.caching, hclients, hcreated, hrenewed, h.cache⟩, .of_eq rfl rfl⟩

/-- What a step has to fulfil: it is open, its token is accepted before and after, and what clients
make of it is known. -/
structure Step.IsFit (ρ : String → String) (values : List String) (t : Step) : Prop where
  isOpen : t.IsOpen
  token : ∀ a ∈ t.token, IsAccepted a ∧ IsAccepted (ρ a)
  authorization : ∀ a ∈ t.authorization, a ∈ values

/-- A step shows the same in both sessions, and leads twins to twins. -/
def GoesOn (ρ : String → String) (values : List String) (s s' : Session) (t : Step) : Prop :=
  (t.retoken ρ).shown (s'.step (t.retoken ρ)).1 = t.shown (s.step t).1 ∧
    Lead (bearer ρ) values s s' (s.step t).2 (s'.step (t.retoken ρ)).2

section Steps

variable (h : s.AreTwins (bearer ρ) values s')

include h

theorem AreTwins.goesOn_create {name base : String} {token : Option String} {cancellable : Bool}
    (htoken : ∀ a ∈ token, IsAccepted a ∧ IsAccepted (ρ a))
    (hvalues : ∀ a ∈ (Step.create name base token cancellable).authorization, a ∈ values) :
    GoesOn ρ values s s' (.create name base token cancellable) := by
  have hcreate : createClient name base (token.map ρ) cancellable = _ :=
    createClient_retoken htoken
  unfold GoesOn
  simp only [Step.retoken, Session.step]
  cases hclient : createClient name base token cancellable with
  | error fault =>
    rw [hclient] at hcreate
    rw [hcreate]
    exact ⟨rfl, h.idle⟩
  | ok c =>
    rw [Step.authorization_of_createClient hclient] at hvalues
    have hc : IsCreated values c := ⟨⟨base, (base_of_createClient hclient).1⟩, hvalues⟩
    rw [hclient] at hcreate
    rw [hcreate]
    refine ⟨?_, h.store hc name cancellable⟩
    -- the form in diagnostics only tells whether there is a token
    have hdebug : (c.rename (bearer ρ)).debugText = c.debugText := by
      unfold Client.debugText Client.rename
      rw [Option.isSome_map]
    exact congrArg (Shown.client c.base.text) hdebug

theorem AreTwins.goesOn_call (hapart : StayApart (bearer ρ) values) {name : String}
    {o : Operation} (ho : o.isNamed = true) : GoesOn ρ values s s' (.call name o) := by
  have hclient := h.get?_clients name
  unfold GoesOn
  simp only [Step.retoken, Session.step]
  cases hc : s.clients.get? name with
  | none =>
    rw [hc] at hclient
    rw [hclient]
    exact ⟨rfl, h.idle⟩
  | some c =>
    rw [hc] at hclient
    rw [hclient]
    have hcreated := h.created _ (KeyMap.get?_eq_some_iff.mp hc)
    obtain ⟨hresult, hlead⟩ := h.callFor hapart (p := o.plan) (c := c) fun q hq =>
      Operation.isIssued_of_request ho hcreated.base hcreated.authorization hq
    exact ⟨congrArg (Shown.called o) hresult, hlead⟩

theorem AreTwins.goesOn (hapart : StayApart (bearer ρ) values) (ht : t.IsFit ρ values) :
    GoesOn ρ values s s' t := by
  obtain ⟨hopen, htoken, hvalues⟩ := ht
  cases t with
  | create name base token cancellable => exact h.goesOn_create htoken hvalues
  | call name o => exact h.goesOn_call hapart hopen
  | enqueue a =>
    have hscript : (s.script.enqueue a).AreTwins (s'.script.enqueue a) :=
      ⟨congrArg (· ++ [a]) h.script.pending, h.script.thrown⟩
    exact ⟨rfl, { h with script := hscript }, .of_eq rfl rfl⟩
  | cancel name =>
    have hscript : (s.script.throw name).AreTwins (s'.script.throw name) :=
      ⟨h.script.pending, congrArg (name :: ·) h.script.thrown⟩
    exact ⟨rfl, { h with script := hscript }, .of_eq rfl rfl⟩
  | forgetAll => exact ⟨rfl, { h with cache := .empty }, .of_eq rfl rfl⟩
  | _ => exact hopen.elim

theorem AreTwins.hits_eq (hapart : StayApart (bearer ρ) values) (ht : t.IsFit ρ values) :
    s'.hits (t.retoken ρ) = s.hits t := by
  cases t with
  | call name o =>
    simp only [Step.retoken, hits, h.get?_clients name]
    cases hc : s.clients.get? name with
    | none => rfl
    | some c =>
      have hcreated := h.created _ (KeyMap.get?_eq_some_iff.mp hc)
      have hrequest := o.plan.request_rename (f := bearer ρ) c
      simp only [Option.map_some, Option.any_some, hrequest]
      cases hq : o.plan.request c with
      | error fault => rfl
      | ok q =>
        have hissued := Operation.isIssued_of_request ht.isOpen hcreated.base
          hcreated.authorization hq
        exact decide_eq_decide.mpr
          (and_congr (not_congr h.isCancelled_iff) (h.isHit_iff hapart hissued))
  | create name base token cancellable => rfl
  | enqueue a => rfl
  | cancel name => rfl
  | forgetAll => rfl
  | _ => exact ht.isOpen.elim

/-- Twins cannot be told apart by what is seen of a step. -/
theorem AreTwins.view (hapart : StayApart (bearer ρ) values) (ht : t.IsFit ρ values) :
    (s'.view (t.retoken ρ)).1 = (s.view t).1 ∧
      (s.view t).2.AreTwins (bearer ρ) values (s'.view (t.retoken ρ)).2 := by
  obtain ⟨hshown, htwins, l, hseen, hseen'⟩ := h.goesOn hapart ht
  have hconceal : Request.conceal ∘ Request.rename (bearer ρ) = Request.conceal :=
    funext Request.conceal_rename
  refine ⟨?_, htwins⟩
  unfold Session.view
  simp only [hshown, h.hits_eq hapart ht, hseen, hseen', htwins.script.pending,
    htwins.cache.length_eq, List.drop_left, List.map_map, hconceal]

end Steps

theorem AreTwins.watch (hapart : StayApart (bearer ρ) values) {steps : List Step}
    (h : s.AreTwins (bearer ρ) values s') (hsteps : ∀ t ∈ steps, t.IsFit ρ values) :
    (Session.watch (steps.map (Step.retoken ρ)) s').1 = (Session.watch steps s).1 ∧
      (Session.watch steps s).2.AreTwins (bearer ρ) values
        (Session.watch (steps.map (Step.retoken ρ)) s').2 := by
  induction steps generalizing s s' with
  | nil => exact ⟨rfl, h⟩
  | cons t steps ih =>
    obtain ⟨ht, hsteps⟩ := List.forall_mem_cons.mp hsteps
    obtain ⟨hsight, htwins⟩ := h.view hapart ht
    obtain ⟨hsights, hlast⟩ := ih htwins hsteps
    exact ⟨congrArg₂ List.cons hsight hsights, hlast⟩

/-! ## All tokens of a session -/

namespace Step

/-- The tokens that a session gives to clients. -/
def tokens (steps : List Step) : List String := steps.filterMap token

/-- The values of the header that carries tokens, of all clients that a session creates. -/
def bearers (steps : List Step) : List String := steps.filterMap authorization

theorem exists_token_of_authorization {a : String} (ha : a ∈ t.authorization) :
    ∃ token ∈ t.token, a = "Bearer " ++ token := by
  cases t with
  | create name base token cancellable =>
    cases hclient : createClient name base token cancellable with
    | error fault =>
      rw [authorization, hclient] at ha
      cases ha
    | ok c =>
      rw [authorization_of_createClient hclient, (base_of_createClient hclient).2] at ha
      obtain ⟨b, hb, rfl⟩ := Option.map_eq_some_iff.mp ha
      exact ⟨b, hb, rfl⟩
  | _ => cases ha

theorem authorization_retoken (h : ∀ a ∈ t.token, IsAccepted a ∧ IsAccepted (ρ a)) :
    (t.retoken ρ).authorization = t.authorization.map (bearer ρ) := by
  cases t with
  | create name base token cancellable =>
    have hcreate : createClient name base (token.map ρ) cancellable = _ := createClient_retoken h
    rw [retoken, authorization, hcreate, authorization]
    cases createClient name base token cancellable <;> rfl
  | _ => rfl

theorem bearers_retoken {steps : List Step}
    (h : ∀ a ∈ tokens steps, IsAccepted a ∧ IsAccepted (ρ a)) :
    bearers (steps.map (retoken ρ)) = (bearers steps).map (bearer ρ) := by
  unfold bearers
  rw [List.filterMap_map, List.map_filterMap]
  apply List.filterMap_congr
  intro t ht
  apply authorization_retoken
  intro a ha
  exact h a (List.mem_filterMap.mpr ⟨t, ht, ha⟩)

theorem bearer_inj {steps : List Step}
    (h : ∀ a ∈ tokens steps, ∀ b ∈ tokens steps, ρ a = ρ b → a = b) :
    ∀ a ∈ bearers steps, ∀ b ∈ bearers steps, bearer ρ a = bearer ρ b → a = b := by
  intro a ha b hb hab
  obtain ⟨t, ht, hat⟩ := List.mem_filterMap.mp ha
  obtain ⟨u, hu, hbu⟩ := List.mem_filterMap.mp hb
  obtain ⟨c, hc, rfl⟩ := exists_token_of_authorization hat
  obtain ⟨d, hd, rfl⟩ := exists_token_of_authorization hbu
  rw [bearer_append, bearer_append] at hab
  rw [h c (List.mem_filterMap.mpr ⟨t, ht, hc⟩) d (List.mem_filterMap.mpr ⟨u, hu, hd⟩)
    (String.append_right_inj _ |>.mp hab)]

end Step

end Session

/-- The same replies, one by one, under keys that agree up to their last `#`. -/
def Cache.Correspond (cache cache' : Cache) : Prop :=
  ∃ l : List (String × String × Reply), cache.pairs.Perm (l.map fun e => (e.1, e.2.2)) ∧
    cache'.pairs.Perm (l.map fun e => (e.2.1, e.2.2)) ∧ ∀ e ∈ l, AgreeToMark e.1 e.2.1

theorem Cache.AreTwins.correspond {cache cache' : Cache} (h : AreTwins f values cache cache') :
    cache.Correspond cache' := by
  obtain ⟨l, -, hcache, hcache'⟩ := h
  refine ⟨l.map fun e => (e.1.cacheKey, (e.1.rename f).cacheKey, e.2), ?_, ?_, ?_⟩
  · rw [List.map_map]
    exact hcache
  · rw [List.map_map]
    exact hcache'
  · intro e he
    obtain ⟨p, -, rfl⟩ := List.mem_map.mp he
    exact p.1.cacheKey_rename

namespace Session

/-- What is seen of a session does not tell the tokens. With other tokens in their places, every
step shows the same, and in the end the caches hold the same but for the fingerprints. -/
theorem watch_of_other_tokens (caching : Bool) {steps : List Step} {ρ : String → String}
    (hopen : ∀ t ∈ steps, t.IsOpen)
    (haccepted : ∀ a ∈ Step.tokens steps, IsAccepted a ∧ IsAccepted (ρ a))
    (hinj : ∀ a ∈ Step.tokens steps, ∀ b ∈ Step.tokens steps, ρ a = ρ b → a = b)
    (hapart : FingerprintsApart (Step.bearers steps))
    (hapart' : FingerprintsApart (Step.bearers (steps.map (Step.retoken ρ)))) :
    (watch (steps.map (Step.retoken ρ)) { caching }).1 = (watch steps { caching }).1 ∧
      (watch steps { caching }).2.cache.Correspond
        (watch (steps.map (Step.retoken ρ)) { caching }).2.cache := by
  have hstay : StayApart (bearer ρ) (Step.bearers steps) :=
    ⟨Step.bearer_inj hinj, hapart, Step.bearers_retoken haccepted ▸ hapart'⟩
  have hstart : AreTwins (bearer ρ) (Step.bearers steps) { caching } { caching } :=
    ⟨rfl, rfl, List.forall_mem_nil _, ⟨rfl, rfl⟩, Cache.AreTwins.empty⟩
  have hfit : ∀ t ∈ steps, t.IsFit ρ (Step.bearers steps) := by
    intro t ht
    constructor
    · exact hopen t ht
    · intro a ha
      exact haccepted a (List.mem_filterMap.mpr ⟨t, ht, ha⟩)
    · intro a ha
      exact List.mem_filterMap.mpr ⟨t, ht, ha⟩
  obtain ⟨hsights, htwins⟩ := hstart.watch hstay hfit
  exact ⟨hsights, htwins.cache.correspond⟩

/-- Two clients ask who they are. The second one cannot use the entry of the first, which the first
one uses in the end. -/
def askTwice : List Step := [
  .create "a" "https://[::1]" (some "one") false,
  .create "b" "https://[::1]" (some "two") true,
  .enqueue { outcome := .reply ⟨⟨200⟩, [], some [123, 125]⟩ },
  .call "a" (.user .me), .call "b" (.user .me), .call "a" (.user .me)]

/-- The first token becomes longer, and the second one becomes what the first one was. -/
def otherToken (token : String) : String := if token = "one" then "one more" else "one"

theorem watch_of_askTwice :
    (∀ t ∈ askTwice, t.IsOpen) ∧
      (∀ a ∈ Step.tokens askTwice, IsAccepted a ∧ IsAccepted (otherToken a)) ∧
      FingerprintsApart (Step.bearers askTwice) ∧
      FingerprintsApart (Step.bearers (askTwice.map (Step.retoken otherToken))) ∧
      (watch (askTwice.map (Step.retoken otherToken)) { caching := true }).1 =
        (watch askTwice { caching := true }).1 ∧
      (watch askTwice { caching := true }).2.cache.Correspond
        (watch (askTwice.map (Step.retoken otherToken)) { caching := true }).2.cache := by
  have hopen : ∀ t ∈ askTwice, t.IsOpen := by simp [askTwice, Step.IsOpen, Operation.isNamed]
  have hfits : ∀ a ∈ Step.tokens askTwice,
      a.toList.all Client.fitsHeader = true ∧ (otherToken a).toList.all Client.fitsHeader = true := by
    decide
  have haccepted : ∀ a ∈ Step.tokens askTwice, IsAccepted a ∧ IsAccepted (otherToken a) := by
    intro a ha
    exact ⟨fun c => ⟨_, if_pos (hfits a ha).1⟩, fun c => ⟨_, if_pos (hfits a ha).2⟩⟩
  have hinj : ∀ a ∈ Step.tokens askTwice, ∀ b ∈ Step.tokens askTwice,
      otherToken a = otherToken b → a = b := by decide
  have hbearers : Step.bearers askTwice = ["Bearer one", "Bearer two"] := rfl
  have hbearers' : Step.bearers (askTwice.map (Step.retoken otherToken)) =
      ["Bearer one more", "Bearer one"] := rfl
  have hapart : FingerprintsApart (Step.bearers askTwice) := by
    rw [hbearers]
    exact Request.fingerprintsApart_pair (by decide +kernel)
  have hapart' : FingerprintsApart (Step.bearers (askTwice.map (Step.retoken otherToken))) := by
    rw [hbearers']
    exact Request.fingerprintsApart_pair (by decide +kernel)
  exact ⟨hopen, haccepted, hapart, hapart',
    watch_of_other_tokens true hopen haccepted hinj hapart hapart'⟩

example : (watch askTwice { caching := true }).1.map Sight.hit =
    [false, false, false, false, false, true] := by decide +kernel

end Session

end IdentityApi
