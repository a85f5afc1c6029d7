import IdentityApi.Proofs.Cache

/-! # Executions that share a cache

An execution over a cached transport looks up, exchanges and keeps; between these steps other
executions go on, and entries are forgotten. One that runs alone does what `Transport.cached` does
(`lone_cases`). A reply that was exchanged before its key was forgotten can be given to a request
that looks up afterwards just when an execution holds that reply, exchanged and not yet kept, at the
time of the forgetting (`exists_run_isGiven_iff`): nothing recalls it, and it is kept late.
-/
namespace IdentityApi

/-- Replies, each with the moment of its exchange. -/
abbrev DatedCache := KeyMap (Reply × Nat)

theorem DatedCache.get?_undated (entries : DatedCache) (key : String) :
    KeyMap.get? key (entries.mapValues Prod.fst) = (entries.get? key).map Prod.fst :=
  KeyMap.get?_mapValues Prod.fst

/-! ## Steps -/

/-- Where an execution stands. From its look-up on it has the moment of that, and with a reply the
moment of the exchange that brought it. -/
inductive Execution.Stage where
  | fresh
  | missed (asked : Nat)
  /-- A reply is there and is going to be kept. -/
  | holding (asked : Nat) (r : Reply) (moment : Nat)
  | answered (asked : Nat) (outcome : Outcome) (moment : Nat)

structure Execution where
  request : Request
  stage : Execution.Stage := .fresh

/-- The executions on the way to a world, and the cache in front of it. -/
structure Traffic (σ : Type) where
  /-- The number of moves so far. -/
  now : Nat := 0
  world : σ
  entries : DatedCache := ∅
  executions : List Execution := []

inductive Move where
  | enter (q : Request)
  /-- The execution of this place in the row makes its next step. -/
  | advance (place : Nat)
  | forget (key : String)
  | forgetAll

variable {σ : Type}

/-- The next step. Each is undivided; what is not a `GET` only has its exchange. -/
def Execution.advance (e : Execution) (t : Transport σ) (now : Nat) (world : σ)
    (entries : DatedCache) : Stage × σ × DatedCache :=
  match e.stage with
  | .fresh =>
    if e.request.method ≠ "GET" then
      let (outcome, world) := t e.request world
      (.answered now outcome now, world, entries)
    else
      match entries.get? e.request.cacheKey with
      | some (r, moment) => (.answered now (.reply r) moment, world, entries)
      | none => (.missed now, world, entries)
  | .missed asked =>
    match t e.request world with
    | (.reply r, world) =>
      (if r.isKept then .holding asked r now else .answered asked (.reply r) now, world, entries)
    | (outcome, world) => (.answered asked outcome now, world, entries)
  | .holding asked r moment =>
    (.answered asked (.reply r) moment, world, entries.put e.request.cacheKey (r, moment))
  | .answered asked outcome moment => (.answered asked outcome moment, world, entries)

namespace Traffic

def step (t : Transport σ) (s : Traffic σ) : Move → Traffic σ
  | .enter q => { s with now := s.now + 1, executions := s.executions ++ [⟨q, .fresh⟩] }
  | .advance place =>
    match s.executions[place]? with
    | none => { s with now := s.now + 1 }
    | some e =>
      let (stage, world, entries) := e.advance t s.now s.world s.entries
      { now := s.now + 1, world, entries, executions := s.executions.set place { e with stage } }
  | .forget key => { s with now := s.now + 1, entries := s.entries.remove key }
  | .forgetAll => { s with now := s.now + 1, entries := ∅ }

def run (t : Transport σ) (moves : List Move) (s : Traffic σ) : Traffic σ :=
  moves.foldl (step t) s

/-- The world and the cache, as a cached transport has them. -/
def backstage (s : Traffic σ) : σ × Cache := (s.world, s.entries.mapValues Prod.fst)

variable {t : Transport σ} {s : Traffic σ} {place : Nat} {e : Execution} {q : Request}

theorem step_advance (h : s.executions[place]? = some e) :
    s.step t (.advance place) =
      { now := s.now + 1
        world := (e.advance t s.now s.world s.entries).2.1
        entries := (e.advance t s.now s.world s.entries).2.2
        executions :=
          s.executions.set place ⟨e.request, (e.advance t s.now s.world s.entries).1⟩ } := by
  simp only [step, h]

@[simp] theorem now_step (s : Traffic σ) (move : Move) : (s.step t move).now = s.now + 1 := by
  cases move with
  | advance place =>
    cases h : s.executions[place]? with
    | none => simp only [step, h]
    | some e => rw [step_advance h]
  | enter q => rfl
  | forget key => rfl
  | forgetAll => rfl

/-- What is true of all executions stays so when it is of new ones, is not lost by a step, and not
by waiting. -/
theorem forall_executions_step {P : Nat → Execution → Prop} (hnew : ∀ now q, P now ⟨q, .fresh⟩)
    (hmono : ∀ now e, P now e → P (now + 1) e)
    (hadvance : ∀ e ∈ s.executions, P s.now e →
      P (s.now + 1) ⟨e.request, (e.advance t s.now s.world s.entries).1⟩)
    (h : ∀ e ∈ s.executions, P s.now e) (move : Move) :
    ∀ e ∈ (s.step t move).executions, P (s.step t move).now e := by
  have hwait : ∀ e ∈ s.executions, P (s.now + 1) e := fun e he => hmono _ e (h e he)
  rw [now_step]
  cases move with
  | enter q =>
    intro e he
    rcases List.mem_append.mp he with he | he
    · exact hwait e he
    · obtain rfl := List.mem_singleton.mp he
      exact hnew _ q
  | advance place =>
    cases hplace : s.executions[place]? with
    | none => simpa only [step, hplace] using hwait
    | some e =>
      rw [step_advance hplace]
      intro e' he'
      have he : e ∈ s.executions := List.mem_of_getElem? hplace
      rcases List.mem_or_eq_of_mem_set he' with he' | rfl
      · exact hwait e' he'
      · exact hadvance e he (h e he)
  | forget key => exact hwait
  | forgetAll => exact hwait

end Traffic

/-! ## The steps of an execution -/

namespace Execution

variable {t : Transport σ} {q : Request} {now asked : Nat} {world : σ} {entries : DatedCache}

theorem advance_other (hget : q.method ≠ "GET") :
    advance ⟨q, .fresh⟩ t now world entries =
      (.answered now (t q world).1 now, (t q world).2, entries) := if_pos hget

theorem advance_hit (hget : q.method = "GET") {r : Reply} {moment : Nat}
    (h : entries.get? q.cacheKey = some (r, moment)) :
    advance ⟨q, .fresh⟩ t now world entries =
      (.answered now (.reply r) moment, world, entries) := by
  simp [advance, hget, h]

theorem advance_miss (hget : q.method = "GET") (h : entries.get? q.cacheKey = none) :
    advance ⟨q, .fresh⟩ t now world entries = (.missed now, world, entries) := by
  simp [advance, hget, h]

theorem advance_kept {r : Reply} (h : (t q world).1 = .reply r) (hkept : r.isKept = true) :
    advance ⟨q, .missed asked⟩ t now world entries =
      (.holding asked r now, (t q world).2, entries) := by
  obtain ⟨outcome, world', ht⟩ : ∃ outcome world', t q world = (outcome, world') := ⟨_, _, rfl⟩
  rw [ht] at h ⊢
  obtain rfl : outcome = .reply r := h
  simp [advance, ht, hkept]

theorem advance_passing (h : (t q world).1.IsPassing) :
    advance ⟨q, .missed asked⟩ t now world entries =
      (.answered asked (t q world).1 now, (t q world).2, entries) := by
  obtain ⟨outcome, world', ht⟩ : ∃ outcome world', t q world = (outcome, world') := ⟨_, _, rfl⟩
  rw [ht] at h ⊢
  cases outcome with
  | reply r => simp [advance, ht, h r rfl]
  | failed fault => simp [advance, ht]
  | silence => simp [advance, ht]

/-- A step leaves the entries alone, or keeps the reply that the execution holds. -/
theorem entries_advance (e : Execution) (t : Transport σ) (now : Nat) (world : σ)
    (entries : DatedCache) :
    (e.advance t now world entries).2.2 = entries ∨
      ∃ q asked r moment, e = ⟨q, .holding asked r moment⟩ ∧
        (e.advance t now world entries).2.2 = entries.put q.cacheKey (r, moment) := by
  obtain ⟨q, stage⟩ := e
  cases stage with
  | fresh =>
    refine Or.inl ?_
    by_cases hget : q.method = "GET"
    · cases hlookUp : entries.get? q.cacheKey with
      | some kept => rw [advance_hit hget hlookUp]
      | none => rw [advance_miss hget hlookUp]
    · rw [advance_other hget]
  | missed asked =>
    refine Or.inl ?_
    rcases (t q world).1.isPassing_or with hpassing | ⟨r, hreply, hkept⟩
    · rw [advance_passing hpassing]
    · rw [advance_kept hreply hkept]
  | holding asked r moment => exact Or.inr ⟨q, asked, r, moment, rfl, rfl⟩
  | answered asked outcome moment => exact Or.inl rfl

end Execution

/-! ## One execution alone -/

namespace Execution

/-- The number of steps that lead to a stage at most. -/
@[simp] def Stage.rank : Stage → Nat
  | .fresh => 0
  | .missed _ => 1
  | .holding _ _ _ => 2
  | .answered _ _ _ => 3

/-- How an execution can stand that nothing has come between since it began in a world with a cache,
and what world and cache have become. -/
inductive Reaches (t : Transport σ) (q : Request) (world : σ) (entries : DatedCache) :
    Stage → σ → DatedCache → Prop where
  | fresh : Reaches t q world entries .fresh world entries
  | missed {asked : Nat} (hget : q.method = "GET")
      (habsent : entries.get? q.cacheKey = none) :
      Reaches t q world entries (.missed asked) world entries
  | holding {asked moment : Nat} {r : Reply} (hget : q.method = "GET")
      (habsent : entries.get? q.cacheKey = none) (hreply : (t q world).1 = .reply r)
      (hkept : r.isKept = true) :
      Reaches t q world entries (.holding asked r moment) (t q world).2 entries
  | answered {asked moment : Nat} {outcome : Outcome} {world' : σ} {entries' : DatedCache}
      (h : t.cached q (world, entries.mapValues Prod.fst) =
        (outcome, world', entries'.mapValues Prod.fst)) :
      Reaches t q world entries (.answered asked outcome moment) world' entries'

variable {t : Transport σ} {q : Request} {world world' : σ} {entries entries' : DatedCache}
  {stage : Stage}

/-- A step leads on to what can be reached, and further on unless the execution has its answer. -/
theorem Reaches.advance (h : Reaches t q world entries stage world' entries') (now : Nat) :
    ∃ next world'' entries'',
      Execution.advance ⟨q, stage⟩ t now world' entries' = (next, world'', entries'') ∧
      Reaches t q world entries next world'' entries'' ∧ min 3 (stage.rank + 1) ≤ next.rank := by
  have hentry := entries.get?_undated q.cacheKey
  cases h with
  | fresh =>
    by_cases hget : q.method = "GET"
    · cases hlookUp : entries.get? q.cacheKey with
      | some kept =>
        rw [hlookUp] at hentry
        exact ⟨_, _, _, advance_hit hget hlookUp, .answered (Transport.cached_of_some hget hentry),
          by simp⟩
      | none => exact ⟨_, _, _, advance_miss hget hlookUp, .missed hget hlookUp, by simp⟩
    · exact ⟨_, _, _, advance_other hget, .answered (Transport.cached_of_other hget), by simp⟩
  | missed hget habsent =>
    rw [habsent] at hentry
    rcases (t q world).1.isPassing_or with hpassing | ⟨r, hreply, hkept⟩
    · refine ⟨_, _, _, advance_passing hpassing, .answered ?_, by simp⟩
      rw [Transport.cached_of_none hget hentry, Cache.after_of_isPassing hpassing]
    · exact ⟨_, _, _, advance_kept hreply hkept, .holding hget habsent hreply hkept, by simp⟩
  | holding hget habsent hreply hkept =>
    rw [habsent] at hentry
    refine ⟨_, _, _, rfl, .answered ?_, by simp⟩
    rw [Transport.cached_of_none hget hentry, hreply, Cache.after_of_kept hkept,
      KeyMap.mapValues_put]
  | answered h => exact ⟨_, _, _, rfl, .answered h, by simp⟩

/-- An execution without an answer has left the cache alone. -/
theorem Reaches.entries_eq (h : Reaches t q world entries stage world' entries')
    (hstage : ∀ asked outcome moment, stage ≠ .answered asked outcome moment) :
    entries' = entries := by
  cases h with
  | answered h => exact absurd rfl (hstage _ _ _)
  | fresh | missed _ _ | holding _ _ _ _ => rfl

theorem Reaches.cached_eq {asked moment : Nat} {outcome : Outcome}
    (h : Reaches t q world entries (.answered asked outcome moment) world' entries') :
    t.cached q (world, entries.mapValues Prod.fst) =
      (outcome, world', entries'.mapValues Prod.fst) := by
  cases h with
  | answered h => exact h

end Execution

namespace Traffic

/-- The traffic after a request has entered and its execution has made some steps, alone. -/
def lone (t : Transport σ) (s : Traffic σ) (q : Request) (steps : Nat) : Traffic σ :=
  s.run t (.enter q :: List.replicate steps (.advance s.executions.length))

variable (t : Transport σ) (s : Traffic σ) (q : Request)

theorem lone_succ (steps : Nat) :
    s.lone t q (steps + 1) = (s.lone t q steps).step t (.advance s.executions.length) := by
  rw [lone, lone, List.replicate_succ', ← List.cons_append, run, run, List.foldl_append]
  rfl

theorem reaches_lone (steps : Nat) : ∃ stage,
    (s.lone t q steps).executions = s.executions ++ [⟨q, stage⟩] ∧
    Execution.Reaches t q s.world s.entries stage (s.lone t q steps).world
      (s.lone t q steps).entries ∧
    min 3 steps ≤ stage.rank := by
  induction steps with
  | zero => exact ⟨.fresh, rfl, .fresh, Nat.min_le_right _ _⟩
  | succ steps ih =>
    obtain ⟨stage, hexecutions, hreaches, hrank⟩ := ih
    obtain ⟨next, world, entries, hadvance, hnext, hmore⟩ := hreaches.advance (s.lone t q steps).now
    have hplace : (s.lone t q steps).executions[s.executions.length]? = some ⟨q, stage⟩ := by
      rw [hexecutions, List.getElem?_concat_length]
    rw [lone_succ, step_advance hplace, hadvance]
    refine ⟨next, ?_, hnext, by omega⟩
    rw [hexecutions]
    simp

/-- An execution that nothing comes between has left the cache alone until it has its answer, and
then it has done what a cached transport does. It has an answer after three steps at the latest. -/
theorem lone_cases (steps : Nat) : ∃ stage,
    (s.lone t q steps).executions = s.executions ++ [⟨q, stage⟩] ∧
    ((steps < 3 ∧ (∀ asked outcome moment, stage ≠ .answered asked outcome moment) ∧
        (s.lone t q steps).backstage.2 = s.backstage.2) ∨
      ((∃ asked moment, stage = .answered asked (t.cached q s.backstage).1 moment) ∧
        (s.lone t q steps).backstage = (t.cached q s.backstage).2)) := by
  obtain ⟨stage, hexecutions, hreaches, hrank⟩ := reaches_lone t s q steps
  refine ⟨stage, hexecutions, ?_⟩
  cases stage with
  | answered asked outcome moment =>
    have hcached : t.cached q s.backstage = _ := hreaches.cached_eq
    rw [hcached]
    exact Or.inr ⟨⟨asked, moment, rfl⟩, rfl⟩
  | fresh | missed _ | holding _ _ _ =>
    rw [Execution.Stage.rank] at hrank
    rw [backstage, hreaches.entries_eq (by simp)]
    exact Or.inl ⟨by omega, by simp, rfl⟩

end Traffic

/-! ## Moments -/

namespace Execution

variable {t : Transport σ} {now : Nat} {world : σ} {entries : DatedCache} {e : Execution}

/-- All that it has done lies behind, and what it looked up is a `GET`. -/
def IsTimed (now : Nat) (e : Execution) : Prop :=
  match e.stage with
  | .fresh => True
  | .missed asked => e.request.method = "GET" ∧ asked < now
  | .holding asked _ moment => e.request.method = "GET" ∧ asked < now ∧ moment < now
  | .answered asked _ _ => asked < now

theorem IsTimed.wait (h : e.IsTimed now) : e.IsTimed (now + 1) := by
  obtain ⟨q, stage⟩ := e
  cases stage with
  | fresh => trivial
  | missed asked => exact h.imp_right Nat.lt_succ_of_lt
  | holding asked r moment =>
    exact ⟨h.1, Nat.lt_succ_of_lt h.2.1, Nat.lt_succ_of_lt h.2.2⟩
  | answered asked outcome moment => exact Nat.lt_succ_of_lt h

theorem IsTimed.advance (h : e.IsTimed now) :
    IsTimed (now + 1) ⟨e.request, (e.advance t now world entries).1⟩ := by
  obtain ⟨q, stage⟩ := e
  have hnow : now < now + 1 := Nat.lt_succ_self now
  cases stage with
  | fresh =>
    by_cases hget : q.method = "GET"
    · cases hlookUp : entries.get? q.cacheKey with
      | some kept =>
        rw [advance_hit hget hlookUp]
        exact hnow
      | none =>
        rw [advance_miss hget hlookUp]
        exact ⟨hget, hnow⟩
    · rw [advance_other hget]
      exact hnow
  | missed asked =>
    obtain ⟨hget, hasked⟩ : q.method = "GET" ∧ asked < now := h
    rcases (t q world).1.isPassing_or with hpassing | ⟨r, hreply, hkept⟩
    · rw [advance_passing hpassing]
      exact Nat.lt_succ_of_lt hasked
    · rw [advance_kept hreply hkept]
      exact ⟨hget, Nat.lt_succ_of_lt hasked, hnow⟩
  | holding asked r moment =>
    obtain ⟨-, hasked, -⟩ : q.method = "GET" ∧ asked < now ∧ moment < now := h
    exact Nat.lt_succ_of_lt hasked
  | answered asked outcome moment => exact IsTimed.wait h

/-- What it has for those who look up after a moment was exchanged after that as well, or is one of
some late replies. -/
def IsRecent (since : Nat) (late : Reply → Nat → Prop) (e : Execution) : Prop :=
  match e.stage with
  | .holding _ r moment => since < moment ∨ late r moment
  | .answered asked (.reply r) moment => since < asked → since < moment ∨ late r moment
  | _ => True

theorem isRecent_answered {since asked moment : Nat} {late : Reply → Nat → Prop} {q : Request}
    {outcome : Outcome} (h : since < asked → since < moment) :
    IsRecent since late ⟨q, .answered asked outcome moment⟩ := by
  cases outcome with
  | reply r => exact fun hasked => Or.inl (h hasked)
  | failed fault => trivial
  | silence => trivial

end Execution

namespace Traffic

variable {t : Transport σ} {s : Traffic σ} {key : String} {since : Nat}
  {late : Reply → Nat → Prop}

/-- The moments of a run that began without entries and executions. -/
theorem isTimed_run (t : Transport σ) (world : σ) (moves : List Move) :
    ∀ e ∈ (run t moves { world }).executions, e.IsTimed (run t moves { world }).now := by
  induction moves using List.reverseRecOn with
  | nil => simp [run]
  | append_singleton moves move ih =>
    rw [run, List.foldl_append]
    exact forall_executions_step (fun _ _ => trivial) (fun _ _ he => he.wait)
      (fun _ _ he => he.advance) ih move

/-- What there is under a key for those who look up after a moment is recent. -/
structure IsRecent (key : String) (since : Nat) (late : Reply → Nat → Prop) (s : Traffic σ) :
    Prop where
  now : since < s.now
  entry : ∀ r moment, s.entries.get? key = some (r, moment) → since < moment ∨ late r moment
  execution : ∀ e ∈ s.executions, e.request.cacheKey = key → e.IsRecent since late

/-- A step of an execution keeps nothing under the key but what the execution holds. -/
theorem IsRecent.entry_advance {e : Execution} (h : s.IsRecent key since late)
    (he : e ∈ s.executions) {r : Reply} {moment : Nat}
    (hr : (e.advance t s.now s.world s.entries).2.2.get? key = some (r, moment)) :
    since < moment ∨ late r moment := by
  rcases e.entries_advance t s.now s.world s.entries with hsame | ⟨q, asked, r', moment', rfl, hput⟩
  · rw [hsame] at hr
    exact h.entry r moment hr
  · rw [hput, KeyMap.get?_put] at hr
    split_ifs at hr with hkey
    · cases hr
      exact h.execution _ he hkey.symm
    · exact h.entry r moment hr

theorem IsRecent.advance {e : Execution} (h : s.IsRecent key since late)
    (he : e ∈ s.executions) (hkey : e.request.cacheKey = key) :
    Execution.IsRecent since late ⟨e.request, (e.advance t s.now s.world s.entries).1⟩ := by
  have hrecent := h.execution e he hkey
  obtain ⟨q, stage⟩ := e
  cases stage with
  | fresh =>
    by_cases hget : q.method = "GET"
    · cases hlookUp : s.entries.get? q.cacheKey with
      | none =>
        rw [Execution.advance_miss hget hlookUp]
        trivial
      | some kept =>
        rw [Execution.advance_hit hget hlookUp]
        exact fun _ => h.entry kept.1 kept.2 (hkey ▸ hlookUp)
    · rw [Execution.advance_other hget]
      exact Execution.isRecent_answered id
  | missed asked =>
    rcases (t q s.world).1.isPassing_or with hpassing | ⟨r, hreply, hkept⟩
    · rw [Execution.advance_passing hpassing]
      exact Execution.isRecent_answered fun _ => h.now
    · rw [Execution.advance_kept hreply hkept]
      exact Or.inl h.now
  | holding asked r moment => exact fun _ => hrecent
  | answered asked outcome moment => exact hrecent

theorem IsRecent.step (h : s.IsRecent key since late) (move : Move) :
    (s.step t move).IsRecent key since late := by
  refine ⟨?_, ?_, ?_⟩
  · rw [now_step]
    exact Nat.lt_succ_of_lt h.now
  · intro r moment hr
    cases move with
    | enter q => exact h.entry r moment hr
    | advance place =>
      cases hplace : s.executions[place]? with
      | none =>
        simp only [Traffic.step, hplace] at hr
        exact h.entry r moment hr
      | some e =>
        rw [step_advance hplace] at hr
        exact h.entry_advance (List.mem_of_getElem? hplace) hr
    | forget k => exact h.entry r moment (KeyMap.get?_remove_eq_some_iff.mp hr).1
    | forgetAll => cases hr
  · exact forall_executions_step (P := fun _ e => e.request.cacheKey = key → e.IsRecent since late)
      (fun _ _ _ => trivial) (fun _ _ he => he) (fun e he _ hkey => h.advance he hkey)
      h.execution move

theorem IsRecent.run (h : s.IsRecent key since late) (moves : List Move) :
    (s.run t moves).IsRecent key since late := by
  induction moves generalizing s with
  | nil => exact h
  | cons move moves ih => exact ih (h.step move)

/-! ## Late replies -/

/-- A way to forget the entry of a key. -/
inductive Removal (key : String) where
  | ofKey
  | ofAll

def Removal.move {key : String} : Removal key → Move
  | ofKey => .forget key
  | ofAll => .forgetAll

/-- An execution under the key has the reply, exchanged at the moment and not yet kept. -/
def Holds (s : Traffic σ) (key : String) (r : Reply) (moment : Nat) : Prop :=
  ∃ q asked, ⟨q, .holding asked r moment⟩ ∈ s.executions ∧ q.cacheKey = key

/-- A `GET` under the key that looked up after the one moment has been given the reply exchanged at
the other. -/
def IsGiven (s : Traffic σ) (key : String) (since : Nat) (r : Reply) (moment : Nat) : Prop :=
  ∃ q asked, ⟨q, .answered asked (.reply r) moment⟩ ∈ s.executions ∧
    q.method = "GET" ∧ q.cacheKey = key ∧ since < asked

theorem executions_step_removal (s : Traffic σ) (removal : Removal key) :
    (s.step t removal.move).executions = s.executions := by
  cases removal <;> rfl

theorem get?_entries_step_removal (s : Traffic σ) (removal : Removal key) :
    (s.step t removal.move).entries.get? key = none := by
  cases removal with
  | ofKey => exact KeyMap.get?_remove_self key s.entries
  | ofAll => rfl

/-- Once a key is forgotten, what is not recent under it is held. -/
theorem isRecent_step_removal (h : ∀ e ∈ s.executions, e.IsTimed s.now) (removal : Removal key) :
    (s.step t removal.move).IsRecent key s.now (s.Holds key) := by
  refine ⟨?_, ?_, ?_⟩
  · rw [now_step]
    exact Nat.lt_succ_self _
  · intro r moment hr
    rw [get?_entries_step_removal] at hr
    cases hr
  · rw [executions_step_removal]
    intro e he hkey
    have htimed := h e he
    obtain ⟨q, stage⟩ := e
    cases stage with
    | fresh => trivial
    | missed asked => trivial
    | holding asked r moment => exact Or.inr ⟨q, asked, he, hkey⟩
    | answered asked outcome moment =>
      cases outcome with
      | reply r => exact fun hasked => absurd hasked (Nat.lt_asymm htimed)
      | failed fault => trivial
      | silence => trivial

/-- A reply that is held is kept under its key after all, and given to the next who asks. -/
theorem exists_run_isGiven_of_holds (h : ∀ e ∈ s.executions, e.IsTimed s.now) {r : Reply}
    {moment : Nat} (hholds : s.Holds key r moment) (hsince : since ≤ s.now) :
    ∃ moves, (s.run t moves).IsGiven key since r moment := by
  obtain ⟨q, asked, hmem, hkey⟩ := hholds
  obtain ⟨place, hplace⟩ := List.getElem?_of_mem hmem
  have hget : q.method = "GET" := (h _ hmem).1
  refine ⟨[.advance place, .enter q, .advance s.executions.length], q, s.now + 2, ?_, hget, hkey,
    by omega⟩
  simp only [Traffic.run, List.foldl_cons, List.foldl_nil]
  rw [step_advance hplace]
  simp [Traffic.step, Execution.advance, hget]

/-- After any moves, let a key be forgotten. Some further moves lead to a request that looks up
after that and is given a reply exchanged before it, exactly when at the time of the forgetting an
execution holds the reply. -/
theorem exists_run_isGiven_iff (t : Transport σ) (world : σ) (moves : List Move) (key : String)
    (removal : Removal key) (r : Reply) (moment : Nat) :
    let s := run t moves { world }
    (moment < s.now ∧
      ∃ more, ((s.step t removal.move).run t more).IsGiven key s.now r moment) ↔
      s.Holds key r moment := by
  intro s
  have htimed : ∀ e ∈ s.executions, e.IsTimed s.now := isTimed_run t world moves
  constructor
  · rintro ⟨hmoment, more, q, asked, hmem, -, hkey, hasked⟩
    have hrecent := (isRecent_step_removal (t := t) htimed removal).run (t := t) more
    exact (hrecent.execution _ hmem hkey hasked).resolve_left (Nat.lt_asymm hmoment)
  · intro hholds
    have hmoment : moment < s.now := by
      obtain ⟨q, asked, hmem, -⟩ := hholds
      exact (htimed _ hmem).2.2
    have hexecutions := executions_step_removal (t := t) s removal
    refine ⟨hmoment, exists_run_isGiven_of_holds ?_ ?_ ?_⟩
    · intro e he
      rw [hexecutions] at he
      rw [now_step]
      exact (htimed e he).wait
    · rwa [Holds, hexecutions]
    · rw [now_step]
      exact Nat.le_succ _

/-- A server whose reply changes, and a request with the first one on its way when the key is
forgotten. -/
theorem isGiven_of_lateReply :
    let old : Reply := ⟨⟨200⟩, [], some (octetsOf "old")⟩
    let new : Reply := ⟨⟨200⟩, [], some (octetsOf "new")⟩
    let t : Transport Bool := fun _ changed => (.reply (if changed then new else old), true)
    let url : Url := ⟨"https", some { host := "auth.example.com" }, .segments ["x"], none, none⟩
    let q : Request := { method := "GET", url }
    let s := run t [.enter q, .advance 0, .advance 0] { world := false }
    ∃ more, ((s.step t (.forget q.cacheKey)).run t more).IsGiven q.cacheKey 3 old 2 := by
  intro old new t url q s
  have hholds : s.Holds q.cacheKey old 2 := ⟨q, 1, List.mem_singleton.mpr rfl, rfl⟩
  exact ((exists_run_isGiven_iff t false [.enter q, .advance 0, .advance 0] q.cacheKey .ofKey
    old 2).mpr hholds).2

end Traffic

end IdentityApi
