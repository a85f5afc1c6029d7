import IdentityApi.Proofs.Cache

/-! # One fetch for each key

A run of requests through a cache that starts without entries, one after the other, with removals
between them. The entries of the cache are told by the events so far: the last fetch under a key, if
the key was not removed since (`Holds`). So each key is fetched once between two removals.
-/
namespace IdentityApi.Fetching

variable {σ : Type}

/-! ## Runs and what is seen of them -/

/-- What is done with a cached transport, one thing after the other. -/
inductive Turn where
  | send (q : Request)
  | forget (key : String)
  | forgetAll

/-- What is seen of it. -/
inductive Event where
  /-- A request, what came back, and the exchanges behind the cache. -/
  | sent (q : Request) (outcome : Outcome) (exchanges : List Exchange)
  | forgot (key : String)
  | forgotAll

def turn (t : Transport σ) :
    Turn → (σ × List Exchange) × Cache → Event × ((σ × List Exchange) × Cache)
  | .send q, s =>
    let (outcome, s') := t.logged.cached q s
    (.sent q outcome (s'.1.2.drop s.1.2.length), s')
  | .forget key, (s, cache) => (.forgot key, s, cache.remove key)
  | .forgetAll, (s, _) => (.forgotAll, s, ∅)

/-- What is seen of all turns, from the first to the last. -/
def record (t : Transport σ) :
    List Turn → (σ × List Exchange) × Cache → List Event × ((σ × List Exchange) × Cache)
  | [], s => ([], s)
  | x :: turns, s =>
    let (e, s) := turn t x s
    let (events, s) := record t turns s
    (e :: events, s)

/-! ## What events say about a key -/

namespace Event

/-- A `GET` under the key. -/
def Asks (key : String) : Event → Prop
  | sent q _ _ => q.method = "GET" ∧ q.cacheKey = key
  | forgot _ | forgotAll => False

/-- A `GET` under the key that reached the server and brought a whole reply of success. -/
def Fetches (key : String) (r : Reply) : Event → Prop
  | sent q _ exchanges => q.method = "GET" ∧ q.cacheKey = key ∧ (q, .reply r) ∈ exchanges ∧
      r.status.isSuccess = true ∧ r.body.isSome = true
  | forgot _ | forgotAll => False

def Removes (key : String) : Event → Prop
  | sent _ _ _ => False
  | forgot k => k = key
  | forgotAll => True

variable {key : String} {r : Reply} {e : Event}

theorem Fetches.asks (h : e.Fetches key r) : e.Asks key := by
  cases e with
  | sent q outcome exchanges => exact ⟨h.1, h.2.1⟩
  | forgot k => exact h
  | forgotAll => exact h

theorem fetches_sent_iff {q : Request} {outcome : Outcome} :
    (sent q outcome [(q, outcome)]).Fetches key r ↔
      q.method = "GET" ∧ q.cacheKey = key ∧ outcome = .reply r ∧ r.isKept = true := by
  have hmem : (q, Outcome.reply r) ∈ [(q, outcome)] ↔ outcome = .reply r := by
    rw [List.mem_singleton, Prod.mk.injEq]
    exact ⟨fun h => h.2.symm, fun h => ⟨rfl, h.symm⟩⟩
  rw [Fetches, hmem, Reply.isKept, Bool.and_eq_true]

theorem Removes.not_fetches (h : e.Removes key) : ¬ e.Fetches key r := by
  cases e with
  | sent q outcome exchanges => exact h.elim
  | forgot k => exact id
  | forgotAll => exact id

end Event

/-- The reply was fetched, and the key was not removed since. -/
def Holds (key : String) (r : Reply) : List Event → Prop
  | [] => False
  | e :: later => (e.Fetches key r ∧ ∀ x ∈ later, ¬ x.Removes key) ∨ Holds key r later

variable {key : String} {r : Reply} {events later : List Event} {e : Event}

theorem holds_append : Holds key r (events ++ later) ↔
    (Holds key r events ∧ ∀ x ∈ later, ¬ x.Removes key) ∨ Holds key r later := by
  induction events with
  | nil => simp [Holds]
  | cons e events ih =>
    simp only [List.cons_append, Holds, ih, List.forall_mem_append]
    tauto

theorem holds_of_fetches (h : e.Fetches key r) (hlater : ∀ x ∈ later, ¬ x.Removes key) :
    Holds key r (events ++ e :: later) :=
  holds_append.mpr (Or.inr (Or.inl ⟨h, hlater⟩))

theorem exists_fetches_of_holds (h : Holds key r events) : ∃ e ∈ events, e.Fetches key r := by
  induction events with
  | nil => exact h.elim
  | cons e events ih =>
    rcases h with ⟨he, -⟩ | h
    · exact ⟨e, List.mem_cons_self, he⟩
    · obtain ⟨x, hx, hfetches⟩ := ih h
      exact ⟨x, List.mem_cons_of_mem e hx, hfetches⟩

theorem holds_concat : Holds key r (events ++ [e]) ↔
    (Holds key r events ∧ ¬ e.Removes key) ∨ e.Fetches key r := by
  rw [holds_append]
  simp [Holds]

/-! ## One turn -/

/-- A request is answered with the reply that is held, or it has its own exchange. -/
def IsServed (before : List Event) (q : Request) (outcome : Outcome) (exchanges : List Exchange) :
    Prop :=
  (q.method = "GET" ∧ exchanges = [] ∧ (∃ r, Holds q.cacheKey r before) ∧
    ∀ r, Holds q.cacheKey r before → outcome = .reply r) ∨
  ((q.method = "GET" → ∀ r, ¬ Holds q.cacheKey r before) ∧ exchanges = [(q, outcome)])

/-- The entries are the replies that are held, and every request was served by what was held before
it. -/
structure IsSound (events : List Event) (cache : Cache) : Prop where
  entry : ∀ key r, cache.get? key = some r ↔ Holds key r events
  served : ∀ before q outcome exchanges after,
    events = before ++ .sent q outcome exchanges :: after → IsServed before q outcome exchanges

theorem IsSound.nil : IsSound [] ∅ where
  entry key r := by simp [Holds]
  served before q outcome exchanges after h := by simp at h

/-- The last event is served, if it is a request, and what it says about entries is true of the
cache. -/
theorem IsSound.concat {cache cache' : Cache} (h : IsSound events cache)
    (hentry : ∀ key r, cache'.get? key = some r ↔
      (cache.get? key = some r ∧ ¬ e.Removes key) ∨ e.Fetches key r)
    (hserved : ∀ q outcome exchanges, e = .sent q outcome exchanges →
      IsServed events q outcome exchanges) : IsSound (events ++ [e]) cache' where
  entry key r := by rw [hentry, h.entry, holds_concat]
  served := by
    intro before q outcome exchanges after heq
    -- the request is the last event, or it was served before that
    rcases List.eq_nil_or_concat' after with rfl | ⟨rest, last, rfl⟩
    · obtain ⟨rfl, hlast⟩ := List.append_inj' heq rfl
      exact hserved q outcome exchanges (List.singleton_inj.mp hlast)
    · rw [← List.cons_append, ← List.append_assoc] at heq
      exact h.served before q outcome exchanges rest (List.append_inj' heq rfl).1

variable {t : Transport σ} {s : σ} {log : List Exchange} {cache : Cache} {q : Request}

theorem turn_hit (hget : q.method = "GET") (hentry : cache.get? q.cacheKey = some r) :
    turn t (.send q) ((s, log), cache) = (.sent q (.reply r) [], (s, log), cache) := by
  rw [turn, Transport.cached_of_some hget hentry]
  simp

theorem turn_miss (h : q.method = "GET" → cache.get? q.cacheKey = none) :
    turn t (.send q) ((s, log), cache) =
      (.sent q (t q s).1 [(q, (t q s).1)], ((t q s).2, log ++ [(q, (t q s).1)]),
        if q.method = "GET" then cache.after q (t q s).1 else cache) := by
  rw [turn]
  by_cases hget : q.method = "GET"
  · rw [Transport.cached_of_none hget (h hget), if_pos hget]
    simp [Transport.logged]
  · rw [Transport.cached_of_other hget, if_neg hget]
    simp [Transport.logged]

theorem turn_forget (k : String) : turn t (.forget k) ((s, log), cache) =
    (.forgot k, (s, log), cache.remove k) := rfl

theorem turn_forgetAll : turn t .forgetAll ((s, log), cache) = (.forgotAll, (s, log), ∅) := rfl

/-- What becomes of the entries when a request without one has its exchange. -/
theorem get?_miss_iff (h : q.method = "GET" → cache.get? q.cacheKey = none) (outcome : Outcome)
    (key : String) (r : Reply) :
    KeyMap.get? key (if q.method = "GET" then cache.after q outcome else cache) = some r ↔
      KeyMap.get? key cache = some r ∨ (Event.sent q outcome [(q, outcome)]).Fetches key r := by
  rw [Event.fetches_sent_iff]
  by_cases hget : q.method = "GET"
  · rw [if_pos hget]
    rcases outcome.isPassing_or with hpassing | ⟨r', rfl, hkept⟩
    · rw [Cache.after_of_isPassing hpassing]
      refine ⟨Or.inl, fun hor => hor.resolve_right ?_⟩
      rintro ⟨-, -, hreply, hkept⟩
      simp [hpassing r hreply] at hkept
    · rw [Cache.after_of_kept hkept, KeyMap.get?_put]
      split_ifs with hkey
      · rw [hkey, h hget]
        constructor
        · rintro ⟨⟩
          exact Or.inr ⟨hget, rfl, rfl, hkept⟩
        · rintro (⟨⟨⟩⟩ | ⟨-, -, ⟨⟩, -⟩)
          rfl
      · exact ⟨Or.inl, fun hor => hor.resolve_right fun hfetch => hkey hfetch.2.1.symm⟩
  · rw [if_neg hget]
    exact ⟨Or.inl, fun hor => hor.resolve_right fun hfetch => hget hfetch.1⟩

theorem IsSound.isServed_hit (h : IsSound events cache) (hget : q.method = "GET")
    (hentry : cache.get? q.cacheKey = some r) : IsServed events q (.reply r) [] := by
  refine Or.inl ⟨hget, rfl, ⟨r, (h.entry _ _).mp hentry⟩, fun r' hr' => ?_⟩
  rw [← h.entry, hentry] at hr'
  cases hr'
  rfl

theorem IsSound.isServed_miss (h : IsSound events cache)
    (hmiss : q.method = "GET" → cache.get? q.cacheKey = none) (outcome : Outcome) :
    IsServed events q outcome [(q, outcome)] := by
  refine Or.inr ⟨fun hget r hr => ?_, rfl⟩
  rw [← h.entry, hmiss hget] at hr
  cases hr

theorem IsSound.turn (h : IsSound events cache) (t : Transport σ) (world : σ × List Exchange)
    (x : Turn) : IsSound (events ++ [(Fetching.turn t x (world, cache)).1])
      (Fetching.turn t x (world, cache)).2.2 := by
  obtain ⟨s, log⟩ := world
  cases x with
  | send q =>
    by_cases hhit : q.method = "GET" ∧ ∃ r, KeyMap.get? q.cacheKey cache = some r
    · obtain ⟨hget, r, hentry⟩ := hhit
      rw [turn_hit hget hentry]
      refine h.concat (fun key r => by simp [Event.Removes, Event.Fetches]) ?_
      rintro _ _ _ ⟨⟩
      exact h.isServed_hit hget hentry
    · have hmiss : q.method = "GET" → KeyMap.get? q.cacheKey cache = none := fun hget =>
        Option.eq_none_iff_forall_ne_some.mpr fun r hr => hhit ⟨hget, r, hr⟩
      rw [turn_miss hmiss]
      refine h.concat (fun key r => by simp [get?_miss_iff hmiss, Event.Removes]) ?_
      rintro _ _ _ ⟨⟩
      exact h.isServed_miss hmiss _
  | forget k =>
    rw [turn_forget]
    refine h.concat (fun key r => ?_) ?_
    · rw [KeyMap.get?_remove_eq_some_iff]
      simp [Event.Removes, Event.Fetches, eq_comm]
    · rintro _ _ _ ⟨⟩
  | forgetAll =>
    rw [turn_forgetAll]
    refine h.concat (fun key r => by simp [Event.Removes, Event.Fetches]) ?_
    rintro _ _ _ ⟨⟩

theorem IsSound.record (h : IsSound events cache) (t : Transport σ) (world : σ × List Exchange)
    (turns : List Turn) : IsSound (events ++ (Fetching.record t turns (world, cache)).1)
      (Fetching.record t turns (world, cache)).2.2 := by
  induction turns generalizing events world cache with
  | nil => simpa [Fetching.record] using h
  | cons x turns ih =>
    have hturn := h.turn t world x
    rw [Fetching.record]
    generalize Fetching.turn t x (world, cache) = seen at hturn ⊢
    obtain ⟨e, world', cache'⟩ := seen
    have hrest := ih hturn world'
    rwa [List.append_assoc] at hrest

/-! ## Fetches and removals -/

/-- Between two fetches of a key it is removed. A `GET` that comes after a fetch, with no removal
between, gets the same reply without an exchange; the first one at all, and the first one after a
removal, has its own exchange. -/
theorem fetches_between_removals (t : Transport σ) (s : σ) (turns : List Turn) (key : String) :
    let events := (record t turns ((s, []), ∅)).1
    (∀ (before between after : List Event) (first second : Event) (r r' : Reply),
      events = before ++ first :: between ++ second :: after →
      first.Fetches key r → second.Fetches key r' → ∃ e ∈ between, e.Removes key) ∧
    (∀ (before between after : List Event) (first : Event) (q : Request) (outcome : Outcome)
      (exchanges : List Exchange) (r : Reply),
      events = before ++ first :: between ++ .sent q outcome exchanges :: after →
      first.Fetches key r → (∀ e ∈ between, ¬ e.Removes key) →
      q.method = "GET" → q.cacheKey = key → outcome = .reply r ∧ exchanges = []) ∧
    ∀ (before between after : List Event) (q : Request) (outcome : Outcome)
      (exchanges : List Exchange),
      events = before ++ between ++ .sent q outcome exchanges :: after →
      (before = [] ∨ ∃ earlier removal, before = earlier ++ [removal] ∧ removal.Removes key) →
      (∀ e ∈ between, ¬ e.Asks key) →
      q.method = "GET" → q.cacheKey = key → exchanges = [(q, outcome)] := by
  intro events
  have hsound : IsSound events (record t turns ((s, []), ∅)).2.2 :=
    IsSound.nil.record t (s, []) turns
  have hlater : ∀ (before between after : List Event) (first : Event) (q : Request)
      (outcome : Outcome) (exchanges : List Exchange) (r : Reply),
      events = before ++ first :: between ++ .sent q outcome exchanges :: after →
      first.Fetches key r → (∀ e ∈ between, ¬ e.Removes key) →
      q.method = "GET" → q.cacheKey = key → outcome = .reply r ∧ exchanges = [] := by
    intro before between after first q outcome exchanges r heq hfirst hbetween hget hkey
    have hholds : Holds q.cacheKey r (before ++ first :: between) :=
      hkey ▸ holds_of_fetches hfirst hbetween
    rcases hsound.served _ _ _ _ _ heq with ⟨-, hnone, -, hsame⟩ | ⟨habsent, -⟩
    · exact ⟨hsame r hholds, hnone⟩
    · exact absurd hholds (habsent hget r)
  refine ⟨?_, hlater, ?_⟩
  · intro before between after first second r r' heq hfirst hsecond
    by_contra hbetween
    push Not at hbetween
    cases second with
    | sent q outcome exchanges =>
      obtain ⟨hget, hkey, hmem, -⟩ := hsecond
      obtain ⟨-, rfl⟩ := hlater _ _ _ _ _ _ _ _ heq hfirst hbetween hget hkey
      cases hmem
    | forgot k => exact hsecond
    | forgotAll => exact hsecond
  · intro before between after q outcome exchanges heq hbefore hbetween hget hkey
    -- a held reply would have been fetched before the removal, or between by one who asks
    have hbare : ∀ r, ¬ Holds q.cacheKey r (before ++ between) := by
      intro r hholds
      rw [hkey, holds_append] at hholds
      rcases hholds with ⟨hholds, -⟩ | hholds
      · rcases hbefore with rfl | ⟨earlier, removal, rfl, hremoval⟩
        · exact hholds
        · rcases holds_concat.mp hholds with ⟨-, hkeeps⟩ | hfetches
          · exact hkeeps hremoval
          · exact hremoval.not_fetches hfetches
      · obtain ⟨e, he, hfetches⟩ := exists_fetches_of_holds hholds
        exact hbetween e he hfetches.asks
    rcases hsound.served _ _ _ _ _ heq with ⟨-, -, ⟨r, hholds⟩, -⟩ | ⟨-, hexchanges⟩
    · exact absurd hholds (hbare r)
    · exact hexchanges

/-- A server that numbers its replies: the second request gets the first number, the one after the
removal a new exchange. -/
theorem record_of_numbered_replies :
    let page (n : Nat) : Reply := ⟨⟨200⟩, [], some (octetsOf (toString n))⟩
    let t : Transport Nat := fun _ n => (.reply (page n), n + 1)
    let url : Url := ⟨"https", some { host := "auth.example.com" }, .segments ["x"], none, none⟩
    let q : Request := { method := "GET", url }
    ∃ outcome exchanges outcome' exchanges',
      (record t [.send q, .send q, .forget q.cacheKey, .send q] ((0, []), ∅)).1 =
        [.sent q (.reply (page 0)) [(q, .reply (page 0))], .sent q outcome exchanges,
          .forgot q.cacheKey, .sent q outcome' exchanges'] ∧
      outcome = .reply (page 0) ∧ exchanges = [] ∧ exchanges' = [(q, outcome')] := by
  intro page t url q
  obtain ⟨-, hlater, hagain⟩ :=
    fetches_between_removals t 0 [.send q, .send q, .forget q.cacheKey, .send q] q.cacheKey
  obtain ⟨outcome, exchanges, outcome', exchanges', hrecord⟩ :
      ∃ outcome exchanges outcome' exchanges',
        (record t [.send q, .send q, .forget q.cacheKey, .send q] ((0, []), ∅)).1 =
          [.sent q (.reply (page 0)) [(q, .reply (page 0))], .sent q outcome exchanges,
            .forgot q.cacheKey, .sent q outcome' exchanges'] := ⟨_, _, _, _, rfl⟩
  have hfirst : (Event.sent q (.reply (page 0)) [(q, .reply (page 0))]).Fetches q.cacheKey
      (page 0) := Event.fetches_sent_iff.mpr ⟨rfl, rfl, rfl, rfl⟩
  obtain ⟨houtcome, hexchanges⟩ :=
    hlater [] [] _ _ q outcome exchanges (page 0) hrecord hfirst (by simp) rfl rfl
  have hremoval : (Event.forgot q.cacheKey).Removes q.cacheKey := rfl
  refine ⟨outcome, exchanges, outcome', exchanges', hrecord, houtcome, hexchanges, ?_⟩
  exact hagain [_, _, _] [] [] q outcome' exchanges' hrecord (Or.inr ⟨[_, _], _, rfl, hremoval⟩)
    (by simp) rfl rfl

end IdentityApi.Fetching
