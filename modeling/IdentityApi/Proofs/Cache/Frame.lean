import IdentityApi.Proofs.Cache.Interleaving
import IdentityApi.Proofs.Client.Calling

/-! # What a request changes in a cache

A request changes the cache only if it leads to a new entry (`Transport.Fills`), and then it adds
that entry and nothing else. This is said of a whole execution, of one that is dropped on its way,
and of a call that is cancelled.
-/
namespace IdentityApi

variable {σ : Type}

namespace Transport

/-- The request leads to a new entry: a `GET` under a key that has none, answered by a whole reply
of success. -/
structure Fills (t : Transport σ) (q : Request) (s : σ) (cache : Cache) (r : Reply) : Prop where
  get : q.method = "GET"
  absent : cache.get? q.cacheKey = none
  answered : (t q s).1 = .reply r
  success : r.status.isSuccess = true
  whole : r.body.isSome = true

variable {t : Transport σ} {q : Request} {s : σ} {cache : Cache} {r : Reply}

theorem cached_of_fills (h : t.Fills q s cache r) :
    t.cached q (s, cache) = (.reply r, (t q s).2, cache.put q.cacheKey r) := by
  have hkept : r.isKept = true := by simp [Reply.isKept, h.success, h.whole]
  rw [cached_of_none h.get h.absent, h.answered, Cache.after_of_kept hkept]

/-- An entry that there is answers, or else the transport behind does. -/
theorem cached_origin (t : Transport σ) (q : Request) (s : σ) (cache : Cache) :
    (∃ r, q.method = "GET" ∧ cache.get? q.cacheKey = some r ∧
      t.cached q (s, cache) = (.reply r, s, cache)) ∨
    ((q.method ≠ "GET" ∨ cache.get? q.cacheKey = none) ∧
      (t.cached q (s, cache)).1 = (t q s).1 ∧ (t.cached q (s, cache)).2.1 = (t q s).2) := by
  by_cases hget : q.method = "GET"
  · cases hentry : cache.get? q.cacheKey with
    | some r => exact Or.inl ⟨r, hget, rfl, cached_of_some hget hentry⟩
    | none => exact Or.inr ⟨Or.inr rfl, by rw [cached_of_none hget hentry]; exact ⟨rfl, rfl⟩⟩
  · exact Or.inr ⟨Or.inl hget, by rw [cached_of_other hget]; exact ⟨rfl, rfl⟩⟩

/-- The cache changes exactly if the request leads to a new entry. -/
theorem cache_ne_iff (t : Transport σ) (q : Request) (s : σ) (cache : Cache) :
    (t.cached q (s, cache)).2.2 ≠ cache ↔ ∃ r, t.Fills q s cache r := by
  constructor
  · intro hne
    by_cases hget : q.method = "GET"
    · cases hentry : cache.get? q.cacheKey with
      | some r => exact absurd (by rw [cached_of_some hget hentry]) hne
      | none =>
        rcases (t q s).1.isPassing_or with hpassing | ⟨r, hreply, hkept⟩
        · refine absurd ?_ hne
          rw [cached_of_none hget hentry, Cache.after_of_isPassing hpassing]
        · obtain ⟨hsuccess, hwhole⟩ := Bool.and_eq_true_iff.mp hkept
          exact ⟨r, hget, hentry, hreply, hsuccess, hwhole⟩
    · exact absurd (by rw [cached_of_other hget]) hne
  · rintro ⟨r, h⟩ hsame
    rw [cached_of_fills h] at hsame
    have hput : cache.put q.cacheKey r = cache := hsame
    have hentry := KeyMap.get?_put_self q.cacheKey r cache
    rw [hput, h.absent] at hentry
    cases hentry

theorem get?_cached_of_fills (h : t.Fills q s cache r) (key : String) :
    (t.cached q (s, cache)).2.2.get? key = if key = q.cacheKey then some r else cache.get? key := by
  rw [cached_of_fills h]
  exact KeyMap.get?_put key q.cacheKey r cache

end Transport

/-- A call that changes the cache has got the reply that was kept. -/
theorem Client.result_of_cache_ne {α : Type} {c : Client} {t : Transport σ}
    {isThrown : σ × Cache → String → Bool} {p : Plan α} {s : σ} {cache : Cache}
    (h : (c.call t.cached isThrown p (s, cache)).2.2 ≠ cache) :
    ∃ q r, p.request c = .ok q ∧ t.Fills q s cache r ∧
      (c.call t.cached isThrown p (s, cache)).1 = some (p.result r) := by
  cases hq : p.request c with
  | error fault => exact absurd (by rw [call_of_fault hq]) h
  | ok q =>
    cases hthrown : c.cancellation.any (isThrown (s, cache)) with
    | true => exact absurd (by rw [call_of_thrown hq hthrown]) h
    | false =>
      rw [snd_call_of_sent hq hthrown] at h
      obtain ⟨r, hfills⟩ := (t.cache_ne_iff q s cache).mp h
      refine ⟨q, r, rfl, hfills, ?_⟩
      rw [call, hq]
      dsimp only
      rw [if_neg (Bool.eq_false_iff.mp hthrown), Transport.cached_of_fills hfills]

/-- A cancelled call has left the cache alone. -/
theorem Client.cache_eq_of_cancelled {α : Type} {c : Client} {t : Transport σ}
    {isThrown : σ × Cache → String → Bool} {p : Plan α} {s : σ} {cache : Cache}
    (h : (c.call t.cached isThrown p (s, cache)).1 = some (.error .cancelled)) :
    (c.call t.cached isThrown p (s, cache)).2.2 = cache := by
  by_contra hne
  obtain ⟨q, r, -, -, hresult⟩ := result_of_cache_ne hne
  rw [hresult] at h
  exact r.result_ne_cancelled _ _ (Option.some.inj h)

namespace Transport

/-- What a request does to the cache, and where its answer comes from, whatever the transport behind
the cache does; what it does when it is dropped after some steps; and that a cancelled call does
nothing to the cache. -/
theorem cached_frame (t : Transport σ) (q : Request) (s : σ) (cache : Cache) :
    (∀ outcome s' cache', t.cached q (s, cache) = (outcome, s', cache') →
      (cache' ≠ cache ↔ ∃ r, t.Fills q s cache r) ∧
      (∀ r, t.Fills q s cache r →
        ∀ key, cache'.get? key = if key = q.cacheKey then some r else cache.get? key) ∧
      ((∃ r, q.method = "GET" ∧ cache.get? q.cacheKey = some r ∧ outcome = .reply r ∧ s' = s) ∨
        ((q.method ≠ "GET" ∨ cache.get? q.cacheKey = none) ∧
          outcome = (t q s).1 ∧ s' = (t q s).2))) ∧
    (∀ (traffic : Traffic σ) (steps : Nat), traffic.backstage = (s, cache) → ∃ stage,
      (traffic.lone t q steps).executions = traffic.executions ++ [⟨q, stage⟩] ∧
      ((steps < 3 ∧ (∀ asked outcome moment, stage ≠ .answered asked outcome moment) ∧
          (traffic.lone t q steps).backstage.2 = cache) ∨
        ((∃ asked moment, stage = .answered asked (t.cached q (s, cache)).1 moment) ∧
          (traffic.lone t q steps).backstage = (t.cached q (s, cache)).2))) ∧
    ∀ {α : Type} (c : Client) (p : Plan α) (isThrown : σ × Cache → String → Bool),
      (c.call t.cached isThrown p (s, cache)).1 = some (.error .cancelled) →
      (c.call t.cached isThrown p (s, cache)).2.2 = cache := by
  refine ⟨?_, ?_, fun c p isThrown h => Client.cache_eq_of_cancelled h⟩
  · intro outcome s' cache' h
    have hne := t.cache_ne_iff q s cache
    have hget : ∀ r, t.Fills q s cache r → ∀ key,
        (t.cached q (s, cache)).2.2.get? key =
          if key = q.cacheKey then some r else cache.get? key := fun r => get?_cached_of_fills
    have horigin := t.cached_origin q s cache
    rw [h] at hne hget horigin
    refine ⟨hne, hget, horigin.imp_left ?_⟩
    rintro ⟨r, hmethod, hentry, hanswer⟩
    cases hanswer
    exact ⟨r, hmethod, hentry, rfl, rfl⟩
  · intro traffic steps h
    have hcases := traffic.lone_cases t q steps
    rwa [h] at hcases

/-- A `POST` under a key that has an entry, and a `GET` that is dropped while its reply is on its
way. -/
theorem cached_of_post_over_entry :
    let old : Reply := ⟨⟨200⟩, [], some (octetsOf "old")⟩
    let new : Reply := ⟨⟨201⟩, [], some (octetsOf "new")⟩
    let t : Transport Unit := ofServer fun _ => .reply new
    let url : Url := ⟨"https", some { host := "auth.example.com" }, .segments ["x"], none, none⟩
    let post : Request := { method := "POST", url }
    let get : Request := { method := "GET", url }
    let cache : Cache := KeyMap.put get.cacheKey old ∅
    get.cacheKey = post.cacheKey ∧ t.cached post ((), cache) = (.reply new, (), cache) ∧
      (Traffic.lone t { world := () } get 2).backstage.2 = ∅ := by
  intro old new t url post get cache
  have hother : t.cached post ((), cache) = (.reply new, (), cache) := by
    obtain ⟨hne, -, horigin⟩ := (cached_frame t post () cache).1 _ _ _ rfl
    have hsame : (t.cached post ((), cache)).2.2 = cache := by
      by_contra hchanged
      obtain ⟨r, hfills⟩ := hne.mp hchanged
      exact absurd hfills.get (by decide)
    rcases horigin with ⟨r, hget, -⟩ | ⟨-, houtcome, -⟩
    · exact absurd hget (by decide)
    · exact Prod.ext houtcome (Prod.ext rfl hsame)
  refine ⟨rfl, hother, ?_⟩
  obtain ⟨stage, hexecutions, h⟩ := (cached_frame t get () ∅).2.1 { world := () } 2 rfl
  rcases h with ⟨-, -, hsame⟩ | ⟨⟨asked, moment, rfl⟩, -⟩
  · exact hsame
  · cases hexecutions

end Transport

end IdentityApi
