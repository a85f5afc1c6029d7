import IdentityApi.Proofs.KeyMap
import IdentityApi.Proofs.Request.Renaming
import IdentityApi.Proofs.Session.Sending

/-! # Sessions that differ in their tokens

Two sessions are twins when their clients, their caches and their scripts agree up to the tokens.
The caches of twins answer alike: entries belong to the same requests, under keys with other
fingerprints. So calls for twins come to the same and leave twins (`AreTwins.callFor`), as long as
different tokens stay different and have different fingerprints.
-/
namespace IdentityApi

open Request (FingerprintsApart)

variable {f : String → String} {values : List String}

/-! ## Caches -/

/-- Different values stay different, and have different fingerprints before and after. -/
structure StayApart (f : String → String) (values : List String) : Prop where
  inj : ∀ a ∈ values, ∀ b ∈ values, f a = f b → a = b
  apart : FingerprintsApart values
  apart' : FingerprintsApart (values.map f)

namespace Cache

variable {cache cache' : Cache} {q : Request}

/-- Replies under the keys of their requests. -/
def ofReplies (key : Request → String) (l : List (Request × Reply)) : List (String × Reply) :=
  l.map fun e => (key e.1, e.2)

theorem mem_ofReplies_iff (key : Request → String) {l : List (Request × Reply)} {r : Reply}
    (hkey : ∀ e ∈ l, key e.1 = key q → e.1 = q) : (key q, r) ∈ ofReplies key l ↔ (q, r) ∈ l := by
  unfold ofReplies
  constructor
  · intro h
    obtain ⟨e, he, heq⟩ := List.mem_map.mp h
    obtain ⟨hq, rfl⟩ := Prod.mk.inj heq
    rw [← hkey e he hq]
    exact he
  · intro h
    exact List.mem_map.mpr ⟨_, h, rfl⟩

/-- The caches hold the same replies to the same requests, under the keys of different tokens. -/
def AreTwins (f : String → String) (values : List String) (cache cache' : Cache) : Prop :=
  ∃ l : List (Request × Reply), (∀ e ∈ l, e.1.method = "GET" ∧ e.1.IsIssued values) ∧
    cache.pairs.Perm (ofReplies Request.cacheKey l) ∧
    cache'.pairs.Perm (ofReplies (fun q => (q.rename f).cacheKey) l)

namespace AreTwins

theorem empty : AreTwins f values ∅ ∅ := ⟨[], nofun, List.Perm.refl _, List.Perm.refl _⟩

/-- Twins give the same answer. -/
theorem get?_eq (h : AreTwins f values cache cache') (hapart : StayApart f values)
    (hq : q.IsIssued values) (hget : q.method = "GET") :
    cache'.get? (q.rename f).cacheKey = cache.get? q.cacheKey := by
  obtain ⟨l, hl, hcache, hcache'⟩ := h
  have hkey : ∀ e ∈ l, e.1.cacheKey = q.cacheKey → e.1 = q := by
    intro e he hkey
    obtain ⟨hmethod, hissued⟩ := hl e he
    exact hissued.eq_of_cacheKey_eq hq hapart.apart hmethod hget hkey
  have hkey' : ∀ e ∈ l, (e.1.rename f).cacheKey = (q.rename f).cacheKey → e.1 = q := by
    intro e he hkey
    obtain ⟨hmethod, hissued⟩ := hl e he
    have heq := (hissued.rename f).eq_of_cacheKey_eq (hq.rename f) hapart.apart' hmethod hget hkey
    exact hissued.eq_of_rename_eq hq hapart.inj hmethod hget heq
  apply Option.ext
  intro r
  rw [KeyMap.get?_eq_some_iff, KeyMap.get?_eq_some_iff, hcache.mem_iff, hcache'.mem_iff,
    mem_ofReplies_iff Request.cacheKey hkey]
  exact mem_ofReplies_iff (fun q => (q.rename f).cacheKey) hkey'

/-- Twins may keep a reply that neither of them has. -/
theorem put (h : AreTwins f values cache cache') (hapart : StayApart f values)
    (hq : q.IsIssued values) (hget : q.method = "GET")
    (hnone : cache.get? q.cacheKey = none) (r : Reply) :
    AreTwins f values (cache.put q.cacheKey r) (cache'.put (q.rename f).cacheKey r) := by
  have hnone' : cache'.get? (q.rename f).cacheKey = none :=
    (h.get?_eq hapart hq hget).trans hnone
  obtain ⟨l, hl, hcache, hcache'⟩ := h
  refine ⟨(q, r) :: l, List.forall_mem_cons.mpr ⟨⟨hget, hq⟩, hl⟩, ?_, ?_⟩
  · exact (KeyMap.put_perm hnone r).trans (hcache.cons _)
  · exact (KeyMap.put_perm hnone' r).trans (hcache'.cons _)

theorem length_eq (h : AreTwins f values cache cache') : cache'.length = cache.length := by
  obtain ⟨l, -, hcache, hcache'⟩ := h
  rw [KeyMap.length, KeyMap.length, hcache.length_eq, hcache'.length_eq, ofReplies, ofReplies,
    List.length_map, List.length_map]

end AreTwins

theorem AreTwins.after (h : AreTwins f values cache cache') (hapart : StayApart f values)
    (hq : q.IsIssued values) (hget : q.method = "GET")
    (hnone : cache.get? q.cacheKey = none) (outcome : Outcome) :
    AreTwins f values (cache.after q outcome) (cache'.after (q.rename f) outcome) := by
  cases outcome with
  | reply r =>
    simp only [Cache.after]
    split_ifs
    · exact h.put hapart hq hget hnone r
    · exact h
  | failed fault => exact h
  | silence => exact h

end Cache

/-! ## Behind the clients -/

namespace Script

/-- The same requests have arrived, up to the tokens, since two scripts became two others. -/
def SameArrived (f : String → String) (s s' t t' : Script) : Prop :=
  ∃ l, t.seen = s.seen ++ l ∧ t'.seen = s'.seen ++ l.map (Request.rename f)

theorem SameArrived.of_eq {s s' t t' : Script} (h : t.seen = s.seen) (h' : t'.seen = s'.seen) :
    SameArrived f s s' t t' :=
  ⟨[], by rw [h, List.append_nil], by rw [h', List.map_nil, List.append_nil]⟩

/-- The same answers are to come, and the same switches are thrown. -/
structure AreTwins (s s' : Script) : Prop where
  pending : s'.pending = s.pending
  thrown : s'.thrown = s.thrown

theorem AreTwins.transport {s s' : Script} (h : s.AreTwins s') (q q' : Request) :
    (Script.transport q' s').1 = (Script.transport q s).1 ∧
      (Script.transport q s).2.AreTwins (Script.transport q' s').2 := by
  obtain ⟨pending, seen, thrown⟩ := s
  obtain ⟨pending', seen', thrown'⟩ := s'
  obtain ⟨rfl, rfl⟩ := h
  cases pending' with
  | nil => exact ⟨rfl, rfl, rfl⟩
  | cons a rest =>
    obtain ⟨throws, outcome⟩ := a
    cases throws <;> exact ⟨rfl, rfl, rfl⟩

theorem AreTwins.isThrown_eq {s s' : Script} (h : s.AreTwins s') (switch : String) :
    s'.isThrown switch = s.isThrown switch := by
  rw [isThrown, isThrown, h.thrown]

end Script

namespace Session

/-- From what is behind two sessions to what is behind them afterwards: it stays the same up to the
tokens, and so is what has arrived. -/
structure Follow (f : String → String) (values : List String) (b b' a a' : Script × Cache) :
    Prop where
  script : a.1.AreTwins a'.1
  cache : a.2.AreTwins f values a'.2
  arrived : Script.SameArrived f b.1 b'.1 a.1 a'.1

variable {b b' : Script × Cache} {q : Request}

theorem Follow.refl (hscript : b.1.AreTwins b'.1) (hcache : b.2.AreTwins f values b'.2) :
    Follow f values b b' b b' :=
  ⟨hscript, hcache, .of_eq rfl rfl⟩

/-- A request that reaches the script, whatever becomes of the cache. -/
theorem Follow.sent (hscript : b.1.AreTwins b'.1) {cache cache' : Cache}
    (hcache : cache.AreTwins f values cache') :
    Follow f values b b' ((Script.transport q b.1).2, cache)
      ((Script.transport (q.rename f) b'.1).2, cache') where
  script := (hscript.transport q (q.rename f)).2
  cache := hcache
  arrived := ⟨[q], (seen_transport q b.1).1, (seen_transport (q.rename f) b'.1).1⟩

/-- Requests that differ in the token come to the same. -/
theorem follow_of_transport (hapart : StayApart f values) {script script' : Script}
    {cache cache' : Cache} (hscript : script.AreTwins script')
    (hcache : cache.AreTwins f values cache') (hq : q.IsIssued values) (caching : Bool) :
    (transport caching (q.rename f) (script', cache')).1 =
        (transport caching q (script, cache)).1 ∧
      Follow f values (script, cache) (script', cache') (transport caching q (script, cache)).2
        (transport caching (q.rename f) (script', cache')).2 := by
  have houtcome := (hscript.transport q (q.rename f)).1
  cases caching with
  | false => exact ⟨houtcome, Follow.sent hscript hcache⟩
  | true =>
    have hcached : transport true = Script.transport.cached := if_pos rfl
    rw [hcached]
    by_cases hget : q.method = "GET"
    · have hentry := hcache.get?_eq hapart hq hget
      cases hfound : cache.get? q.cacheKey with
      | some r =>
        rw [Transport.cached_of_some hget hfound, Transport.cached_of_some (q := q.rename f) hget
          (hentry.trans hfound)]
        exact ⟨rfl, Follow.refl hscript hcache⟩
      | none =>
        have hkept := hcache.after hapart hq hget hfound (Script.transport q script).1
        rw [Transport.cached_of_none hget hfound, Transport.cached_of_none (q := q.rename f) hget
          (hentry.trans hfound), houtcome]
        exact ⟨rfl, Follow.sent hscript hkept⟩
    · rw [Transport.cached_of_other hget, Transport.cached_of_other (q := q.rename f) hget]
      exact ⟨houtcome, Follow.sent hscript hcache⟩

/-! ## Sessions -/

/-- A client that was created: its base was accepted, and its token is one of these. -/
structure IsCreated (values : List String) (c : Client) : Prop where
  base : ∃ text, Client.baseOf text = .ok c.base
  authorization : ∀ a ∈ c.authorization, a ∈ values

/-- The sessions agree up to the tokens. -/
structure AreTwins (f : String → String) (values : List String) (s s' : Session) : Prop where
  caching : s'.caching = s.caching
  clients : s'.clients = s.clients.mapValues (Client.rename f)
  created : ∀ p ∈ s.clients.pairs, IsCreated values p.2
  script : s.script.AreTwins s'.script
  cache : s.cache.AreTwins f values s'.cache

variable {s s' : Session} {c : Client}

theorem AreTwins.get?_clients (h : s.AreTwins f values s') (name : String) :
    s'.clients.get? name = (s.clients.get? name).map (Client.rename f) := by
  rw [h.clients, KeyMap.get?_mapValues]

theorem AreTwins.isCancelled_iff (h : s.AreTwins f values s') :
    s'.IsCancelled (c.rename f) ↔ s.IsCancelled c := by
  unfold IsCancelled
  rw [funext h.script.isThrown_eq]
  rfl

theorem AreTwins.isHit_iff (h : s.AreTwins f values s') (hapart : StayApart f values)
    {q : Request} (hq : q.IsIssued values) : s'.IsHit (q.rename f) ↔ s.IsHit q := by
  unfold IsHit
  rw [h.caching]
  refine and_congr_right fun _ => and_congr_right fun hget => ?_
  rw [h.cache.get?_eq hapart hq hget]

/-- What a step leaves of two sessions, and what it lets arrive. -/
structure Lead (f : String → String) (values : List String) (s s' t t' : Session) : Prop where
  twins : t.AreTwins f values t'
  arrived : Script.SameArrived f s.script s'.script t.script t'.script

theorem AreTwins.lead (h : s.AreTwins f values s') {a a' : Script × Cache}
    (hfollow : Follow f values s.backstage s'.backstage a a') :
    Lead f values s s' (s.withBackstage a) (s'.withBackstage a') where
  twins := { h with script := hfollow.script, cache := hfollow.cache }
  arrived := hfollow.arrived

theorem AreTwins.idle (h : s.AreTwins f values s') : Lead f values s s' s s' :=
  ⟨h, .of_eq rfl rfl⟩

/-- Calls for clients that differ in the token come to the same. -/
theorem AreTwins.callFor (h : s.AreTwins f values s') (hapart : StayApart f values) {α : Type}
    {p : Plan α} (hissued : ∀ q, p.request c = .ok q → q.IsIssued values) :
    (s'.callFor (c.rename f) p).1 = (s.callFor c p).1 ∧
      Lead f values s s' (s.callFor c p).2 (s'.callFor (c.rename f) p).2 := by
  have hrequest := p.request_rename (f := f) c
  cases hq : p.request c with
  | error fault =>
    rw [hq] at hrequest
    rw [callFor_of_fault hq, callFor_of_fault hrequest]
    exact ⟨rfl, h.idle⟩
  | ok q =>
    rw [hq] at hrequest
    by_cases hcancelled : s.IsCancelled c
    · rw [callFor_of_cancelled hq hcancelled,
        callFor_of_cancelled hrequest (h.isCancelled_iff.mpr hcancelled)]
      exact ⟨rfl, h.idle⟩
    · have hthrown : ∀ {b b' : Script}, b.AreTwins b' →
          (c.rename f).cancellation.any b'.isThrown = c.cancellation.any b.isThrown := by
        intro b b' hb
        rw [funext hb.isThrown_eq]
        rfl
      have hfree' := mt h.isCancelled_iff.mp hcancelled
      obtain ⟨houtcome, hfollow⟩ :=
        follow_of_transport hapart h.script h.cache (hissued q hq) s.caching
      rw [snd_callFor hq hcancelled, snd_callFor hrequest hfree', h.caching]
      refine ⟨?_, h.lead hfollow⟩
      unfold Session.callFor
      rw [h.caching]
      exact Client.fst_call_congr hq hrequest (Bool.eq_false_iff.mpr hcancelled)
        (Bool.eq_false_iff.mpr hfree') houtcome (hthrown hfollow.script)

end Session

end IdentityApi
