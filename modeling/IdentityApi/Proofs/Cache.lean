import IdentityApi.Proofs.KeyMap
import IdentityApi.Proofs.Request.Building
import IdentityApi.Proofs.Request.Keys
import IdentityApi.Transport

/-! # What a cache holds

Every entry is the reply to a `GET` under the key of that request. Looking up, keeping and
forgetting preserve this, and when fingerprints do not clash the key tells the whole request.
-/
namespace IdentityApi

/-! ## Keys -/

namespace Request

variable {values : List String} {q r : Request}

/-- A request that a client hands to a transport; its token, if any, is one of the values. -/
structure IsIssued (values : List String) (q : Request) : Prop where
  sendable : q.url.IsSendable
  plain : q.method = "GET" → q = ⟨"GET", q.url, Parameters.headers q.authorization false, none⟩
  authorization : ∀ a ∈ q.authorization, a ∈ values

theorem IsIssued.eq_of_cacheKey_eq (hq : q.IsIssued values) (hr : r.IsIssued values)
    (hapart : FingerprintsApart values) (hget : q.method = "GET") (hget' : r.method = "GET")
    (h : q.cacheKey = r.cacheKey) : q = r := by
  obtain ⟨hurl, hauthorization⟩ := parts_eq_of_cacheKey_eq hq.sendable hr.sendable hapart
    hq.authorization hr.authorization h
  rw [hq.plain hget, hr.plain hget', hurl, hauthorization]

end Request

/-! ## Entries -/

/-- A request that reached a transport, and what became of it. -/
abbrev Exchange := Request × Outcome

namespace Cache

variable {P Q : Request → Reply → Prop} {cache : Cache}

/-- Every entry is a whole reply of success under the key of a `GET`, and it is a reply to that. -/
def IsOf (P : Request → Reply → Prop) (cache : Cache) : Prop :=
  ∀ key r, cache.get? key = some r →
    r.isKept = true ∧ ∃ q : Request, q.method = "GET" ∧ q.cacheKey = key ∧ P q r

namespace IsOf

theorem empty : IsOf P ∅ := by
  intro key r h
  cases h

theorem mono (h : IsOf P cache) (hPQ : ∀ q r, P q r → Q q r) : IsOf Q cache := by
  intro key r hr
  obtain ⟨hkept, q, hget, hkey, hq⟩ := h key r hr
  exact ⟨hkept, q, hget, hkey, hPQ q r hq⟩

theorem put (h : IsOf P cache) {q : Request} {r : Reply} (hget : q.method = "GET")
    (hkept : r.isKept = true) (hq : P q r) : IsOf P (cache.put q.cacheKey r) := by
  intro key s hs
  rw [KeyMap.get?_put] at hs
  split_ifs at hs with hkey
  · obtain rfl := Option.some.inj hs
    exact ⟨hkept, q, hget, hkey.symm, hq⟩
  · exact h key s hs

theorem remove (h : IsOf P cache) (key : String) : IsOf P (cache.remove key) := by
  intro k r hr
  exact h k r (KeyMap.get?_remove_eq_some_iff.mp hr).1

/-- An entry under the key of a request is a reply to that request. -/
theorem of_get? {R : Request → Reply → Prop} {values : List String}
    (h : IsOf (fun q r => R q r ∧ q.IsIssued values) cache)
    (hapart : Request.FingerprintsApart values) {q : Request} (hq : q.IsIssued values)
    (hget : q.method = "GET") {r : Reply} (hr : cache.get? q.cacheKey = some r) : R q r := by
  obtain ⟨-, p, hpget, hkey, hp, hissued⟩ := h _ _ hr
  obtain rfl := hissued.eq_of_cacheKey_eq hq hapart hpget hget hkey
  exact hp

end IsOf

/-- Its entries are what a server says. -/
abbrev Mirrors (server : Request → Outcome) (values : List String) (cache : Cache) : Prop :=
  cache.IsOf fun q r => server q = .reply r ∧ q.IsIssued values

/-- Its entries are replies from a log. -/
abbrev Quotes (log : List Exchange) (values : List String) (cache : Cache) : Prop :=
  cache.IsOf fun q r => (q, .reply r) ∈ log ∧ q.IsIssued values

/-- The cache after an outcome that was not in it. -/
def after (cache : Cache) (q : Request) : Outcome → Cache
  | .reply r => if r.isKept then cache.put q.cacheKey r else cache
  | .failed _ | .silence => cache

end Cache

/-- No reply to be kept. -/
def Outcome.IsPassing (outcome : Outcome) : Prop := ∀ r, outcome = .reply r → r.isKept = false

theorem Outcome.isPassing_or (outcome : Outcome) :
    outcome.IsPassing ∨ ∃ r, outcome = .reply r ∧ r.isKept = true := by
  cases outcome with
  | reply r =>
    cases hkept : r.isKept with
    | true => exact Or.inr ⟨r, rfl, hkept⟩
    | false =>
      refine Or.inl fun r' hr' => ?_
      obtain rfl := Outcome.reply.inj hr'
      exact hkept
  | failed fault => exact Or.inl nofun
  | silence => exact Or.inl nofun

namespace Cache

variable {cache : Cache} {q : Request} {outcome : Outcome}

theorem after_of_kept {r : Reply} (hkept : r.isKept = true) :
    cache.after q (.reply r) = cache.put q.cacheKey r := if_pos hkept

theorem after_of_isPassing (h : outcome.IsPassing) : cache.after q outcome = cache := by
  cases outcome with
  | reply r => exact if_neg (by simp [h r rfl])
  | failed fault => rfl
  | silence => rfl

end Cache

/-! ## One exchange -/

namespace Transport

variable {σ : Type}

/-- A server without a memory. -/
def ofServer (server : Request → Outcome) : Transport Unit := fun q s => (server q, s)

/-- The same transport, with a record of its exchanges from the first to the last. -/
def logged (t : Transport σ) : Transport (σ × List Exchange) := fun q (s, log) =>
  let (outcome, s) := t q s
  (outcome, s, log ++ [(q, outcome)])

section Cases

variable {t : Transport σ} {s : σ} {cache : Cache} {q : Request}

theorem cached_of_other (hget : q.method ≠ "GET") :
    t.cached q (s, cache) = ((t q s).1, (t q s).2, cache) := by
  simp [cached, hget]

theorem cached_of_some (hget : q.method = "GET") {r : Reply}
    (h : cache.get? q.cacheKey = some r) : t.cached q (s, cache) = (.reply r, s, cache) := by
  simp [cached, hget, h]

theorem cached_of_none (hget : q.method = "GET") (h : cache.get? q.cacheKey = none) :
    t.cached q (s, cache) = ((t q s).1, (t q s).2, cache.after q (t q s).1) := by
  obtain ⟨outcome, s', hs⟩ : ∃ outcome s', t q s = (outcome, s') := ⟨_, _, rfl⟩
  cases outcome <;> simp [cached, hget, h, hs, Cache.after]

/-- All that can happen at a cache: an entry answers, a reply is kept, or the request only goes
through. -/
theorem cached_cases (t : Transport σ) (q : Request) (s : σ) (cache : Cache) :
    (∃ r, q.method = "GET" ∧ KeyMap.get? q.cacheKey cache = some r ∧
      t.cached q (s, cache) = (.reply r, s, cache)) ∨
    (∃ r, q.method = "GET" ∧ r.isKept = true ∧ (t q s).1 = .reply r ∧
      t.cached q (s, cache) = (.reply r, (t q s).2, cache.put q.cacheKey r)) ∨
    t.cached q (s, cache) = ((t q s).1, (t q s).2, cache) := by
  by_cases hget : q.method = "GET"
  · cases hentry : KeyMap.get? q.cacheKey cache with
    | some r => exact Or.inl ⟨r, hget, rfl, cached_of_some hget hentry⟩
    | none =>
      refine Or.inr ?_
      rw [cached_of_none hget hentry]
      rcases (t q s).1.isPassing_or with hpassing | ⟨r, hreply, hkept⟩
      · exact Or.inr (by rw [Cache.after_of_isPassing hpassing])
      · exact Or.inl ⟨r, hget, hkept, hreply, by rw [hreply, Cache.after_of_kept hkept]⟩
  · exact Or.inr (Or.inr (cached_of_other hget))

end Cases

variable {values : List String} {q : Request} {cache : Cache}

/-- A cache that mirrors a server goes on doing so, and does not change what the server says. -/
theorem cached_ofServer {server : Request → Outcome} (hapart : Request.FingerprintsApart values)
    (hq : q.IsIssued values) (h : cache.Mirrors server values) :
    ∃ cache' : Cache, (ofServer server).cached q ((), cache) = (server q, (), cache') ∧
      cache'.Mirrors server values := by
  rcases cached_cases (ofServer server) q () cache with ⟨r, hget, hentry, he⟩ |
    ⟨r, hget, hkept, hr, he⟩ | he
  · have hr : server q = .reply r := h.of_get? hapart hq hget hentry
    exact ⟨cache, by rw [he, hr], h⟩
  · have hserver : server q = .reply r := hr
    exact ⟨_, by rw [he, hserver], h.put hget hkept ⟨hserver, hq⟩⟩
  · exact ⟨cache, he, h⟩

/-- The log only grows; entries stay replies from the log, and what is given out is one as well if
fingerprints do not clash. -/
theorem cached_logged {t : Transport σ} {s : σ} {log : List Exchange} (hq : q.IsIssued values)
    (h : cache.Quotes log values) :
    ∃ (outcome : Outcome) (s' : σ) (new : List Exchange) (cache' : Cache),
      t.logged.cached q ((s, log), cache) = (outcome, (s', log ++ new), cache') ∧
      cache'.Quotes (log ++ new) values ∧
      (Request.FingerprintsApart values →
        ∀ r, outcome = .reply r → (q, .reply r) ∈ log ++ new) := by
  have hgrown : cache.Quotes (log ++ [(q, (t q s).1)]) values :=
    h.mono fun p r hp => ⟨List.mem_append_left _ hp.1, hp.2⟩
  rcases cached_cases t.logged q (s, log) cache with ⟨r, hget, hentry, he⟩ |
    ⟨r, hget, hkept, hr, he⟩ | he
  · refine ⟨.reply r, s, [], cache, by rw [he, List.append_nil], by rwa [List.append_nil], ?_⟩
    intro hapart r' hr'
    obtain rfl := Outcome.reply.inj hr'
    rw [List.append_nil]
    exact h.of_get? hapart hq hget hentry
  · have hlast : (q, .reply r) ∈ log ++ [(q, (t q s).1)] := by
      have hr : (t q s).1 = .reply r := hr
      simp [hr]
    refine ⟨.reply r, (t q s).2, _, _, he, hgrown.put hget hkept ⟨hlast, hq⟩, fun _ r' hr' => ?_⟩
    obtain rfl := Outcome.reply.inj hr'
    exact hlast
  · refine ⟨(t q s).1, (t q s).2, _, cache, he, hgrown, fun _ r hr => ?_⟩
    simp [hr]

end Transport

end IdentityApi
