import IdentityApi.Proofs.Cache.Frame
import IdentityApi.Proofs.Text.Mending

/-! # What a call makes of a reply

A reply with a status of success is read and gives a value or a fault of decoding. Every other reply
gives a fault that tells the status and the text of the reply, whatever was asked for and however it
came (`Client.call_translates`).
-/
namespace IdentityApi

theorem Status.isSuccess_iff {s : Status} : s.isSuccess = true ↔ s.code ∈ Set.Ico 200 300 := by
  simp [isSuccess]

namespace CallFault

/-- The fault tells what a reply says: the status, the text with a replacement for every part of it
that is ill-formed, and whether there is nothing to be found. -/
structure Tells (f : CallFault) (r : Reply) : Prop where
  status : f.status? = some r.status
  text : ∀ body, r.body = some body →
    ∃ text, f.body? = some text ∧ ∀ cs, Utf8.Mends body cs ↔ text.toList = cs
  exact : ∀ text : String, r.body = some (octetsOf text) → f.body? = some text
  broken : r.body = none → f.body? = some ""
  isNotFound : f.isNotFound = true ↔ r.status.code = 404

/-- The fault is none of a server. -/
def IsMute (f : CallFault) : Prop := f.status? = none ∧ f.body? = none

end CallFault

namespace Reply

/-- The fault that a refusal becomes. -/
def fault (r : Reply) : CallFault :=
  .refused r.status (.ofList (Utf8.decodeLossy (r.body.getD [])))

theorem tells_fault (r : Reply) : r.fault.Tells r where
  status := CallFault.status?_refused _ _
  text body hbody := by
    refine ⟨.ofList (Utf8.decodeLossy body), ?_, fun cs => ?_⟩
    · rw [fault, hbody, CallFault.body?_refused]
      rfl
    · rw [String.toList_ofList]
      exact ⟨(Utf8.mends_decodeLossy body).unique, fun h => h ▸ Utf8.mends_decodeLossy body⟩
  exact text hbody := by
    rw [fault, hbody, CallFault.body?_refused, Option.getD_some, octetsOf, Utf8.decodeLossy_encode,
      String.ofList_toList]
  broken hbody := by
    rw [fault, hbody, CallFault.body?_refused]
    rfl
  isNotFound := CallFault.isNotFound_refused_iff

variable {α : Type} {r : Reply} {shape : Shape} {codec : Codec α}

theorem result_of_refusal (h : r.status.isSuccess = false) :
    r.result shape codec = .error r.fault := by
  rw [result, h]
  rfl

/-- What is read of a reply of success is a value, or is faulty in itself. -/
theorem result_of_success (h : r.status.isSuccess = true) :
    (∃ a, r.result shape codec = .ok a) ∨
      ∃ fault, r.result shape codec = .error (.decode fault) := by
  rw [result, if_pos h]
  cases r.body with
  | none => exact Or.inr ⟨_, rfl⟩
  | some body =>
    dsimp only
    cases shape.read codec body with
    | ok a => exact Or.inl ⟨a, rfl⟩
    | error fault => exact Or.inr ⟨fault, rfl⟩

end Reply

namespace Client

variable {σ α : Type}

/-- The call is not cancelled, and its request leads to an outcome. -/
structure Meets (c : Client) (t : Transport σ) (isThrown : σ → String → Bool) (p : Plan α) (s : σ)
    (outcome : Outcome) : Prop where
  active : c.cancellation.any (isThrown s) = false
  answered : ∃ q, p.request c = .ok q ∧ (t q s).1 = outcome

variable {c : Client} {t : Transport σ} {isThrown : σ → String → Bool} {p : Plan α} {s : σ}

theorem call_of_reply {r : Reply} (h : c.Meets t isThrown p s (.reply r)) :
    (c.call t isThrown p s).1 = some (p.result r) := by
  obtain ⟨hactive, q, hq, hreply⟩ := h
  obtain ⟨s', hs⟩ : ∃ s', t q s = (.reply r, s') := ⟨(t q s).2, Prod.ext hreply rfl⟩
  rw [call, hq]
  dsimp only
  rw [if_neg (Bool.eq_false_iff.mp hactive), hs]

theorem call_of_failed {fault : NetworkFault} (h : c.Meets t isThrown p s (.failed fault)) :
    (c.call t isThrown p s).1 = some (.error (.network fault)) := by
  obtain ⟨hactive, q, hq, hfailed⟩ := h
  obtain ⟨s', hs⟩ : ∃ s', t q s = (.failed fault, s') := ⟨(t q s).2, Prod.ext hfailed rfl⟩
  rw [call, hq]
  dsimp only
  rw [if_neg (Bool.eq_false_iff.mp hactive), hs]

/-- A call that is not answered gives no fault of a server. -/
theorem call_of_silence (h : c.Meets t isThrown p s .silence) :
    (c.call t isThrown p s).1 = some (.error .cancelled) ∨ (c.call t isThrown p s).1 = none := by
  obtain ⟨hactive, q, hq, hsilence⟩ := h
  obtain ⟨s', hs⟩ : ∃ s', t q s = (.silence, s') := ⟨(t q s).2, Prod.ext hsilence rfl⟩
  rw [call, hq]
  dsimp only
  rw [if_neg (Bool.eq_false_iff.mp hactive), hs]
  dsimp only
  split_ifs
  · exact Or.inl rfl
  · exact Or.inr rfl

/-- A call ends with a fault of its own, or by what its request leads to. -/
theorem call_cases (c : Client) (t : Transport σ) (isThrown : σ → String → Bool) (p : Plan α)
    (s : σ) : (∃ f, f.IsMute ∧ (c.call t isThrown p s).1 = some (.error f)) ∨
      ∃ outcome, c.Meets t isThrown p s outcome := by
  cases hq : p.request c with
  | error fault => exact Or.inl ⟨.invalidRequest fault, ⟨rfl, rfl⟩, by rw [call_of_fault hq]⟩
  | ok q =>
    cases hactive : c.cancellation.any (isThrown s) with
    | true => exact Or.inl ⟨.cancelled, ⟨rfl, rfl⟩, by rw [call_of_thrown hq hactive]⟩
    | false => exact Or.inr ⟨_, hactive, q, hq, rfl⟩

/-- A call that gives the fault of a server has met the reply that refused. -/
theorem exists_reply_of_fault {f : CallFault} (h : (c.call t isThrown p s).1 = some (.error f))
    (hf : ¬ f.IsMute) :
    ∃ r, c.Meets t isThrown p s (.reply r) ∧ r.status.isSuccess = false ∧ f = r.fault := by
  have hmute : ∀ {g : CallFault}, g.IsMute → (c.call t isThrown p s).1 ≠ some (.error g) := by
    intro g hg hcall
    rw [h] at hcall
    cases hcall
    exact hf hg
  rcases call_cases c t isThrown p s with ⟨g, hg, hcall⟩ | ⟨outcome, hmeets⟩
  · exact absurd hcall (hmute hg)
  · cases outcome with
    | failed fault => exact absurd (call_of_failed hmeets) (hmute ⟨rfl, rfl⟩)
    | silence =>
      rcases call_of_silence hmeets with hcancelled | hnever
      · exact absurd hcancelled (hmute ⟨rfl, rfl⟩)
      · rw [hnever] at h
        cases h
    | reply r =>
      cases hsuccess : r.status.isSuccess with
      | true =>
        rw [call_of_reply hmeets] at h
        obtain ⟨a, ha⟩ | ⟨fault, hfault⟩ :
            (∃ a, r.result p.endpoint.shape p.codec = .ok a) ∨
              ∃ fault, r.result p.endpoint.shape p.codec = .error (.decode fault) :=
          Reply.result_of_success hsuccess
        · rw [Plan.result, ha] at h
          cases h
        · exact absurd ((call_of_reply hmeets).trans (congrArg some hfault)) (hmute ⟨rfl, rfl⟩)
      | false =>
        refine ⟨r, hmeets, hsuccess, ?_⟩
        rw [call_of_reply hmeets, Plan.result, Reply.result_of_refusal hsuccess] at h
        cases h
        rfl

/-- Over a cache a reply is an entry for the request, or comes from the transport behind. -/
theorem meets_cached_iff {isThrown : σ × Cache → String → Bool} {cache : Cache} {r : Reply} :
    c.Meets t.cached isThrown p (s, cache) (.reply r) ↔
      c.cancellation.any (isThrown (s, cache)) = false ∧ ∃ q, p.request c = .ok q ∧
        ((q.method = "GET" ∧ cache.get? q.cacheKey = some r) ∨
          ((q.method ≠ "GET" ∨ cache.get? q.cacheKey = none) ∧ (t q s).1 = .reply r)) := by
  constructor
  · rintro ⟨hactive, q, hq, houtcome⟩
    refine ⟨hactive, q, hq, ?_⟩
    rcases t.cached_origin q s cache with ⟨r', hget, hentry, hanswer⟩ | ⟨hmiss, hanswer, -⟩
    · rw [hanswer] at houtcome
      cases houtcome
      exact Or.inl ⟨hget, hentry⟩
    · exact Or.inr ⟨hmiss, hanswer ▸ houtcome⟩
  · rintro ⟨hactive, q, hq, ⟨hget, hentry⟩ | ⟨hmiss, hanswer⟩⟩
    · exact ⟨hactive, q, hq, by rw [Transport.cached_of_some hget hentry]⟩
    · refine ⟨hactive, q, hq, ?_⟩
      rcases t.cached_origin q s cache with ⟨r', hget, hentry, -⟩ | ⟨-, hsame, -⟩
      · rcases hmiss with hother | hnone
        · exact absurd hget hother
        · rw [hnone] at hentry
          cases hentry
      · rw [hsame, hanswer]

/-- What calls make of replies, over every transport, a cached one among them. A refusal gives one
and the same fault to every call, which tells the reply; a reply of success gives a value or a fault
of decoding; a fault with a status has a reply behind it, and the fault of a failed transport has
neither status nor text. -/
theorem call_translates :
    (∀ r : Reply, r.status.code ∉ Set.Ico 200 300 → ∃ f : CallFault, f.Tells r ∧
      ∀ {σ α : Type} {c : Client} {t : Transport σ} {isThrown : σ → String → Bool} {p : Plan α}
        {s : σ}, c.Meets t isThrown p s (.reply r) →
          (c.call t isThrown p s).1 = some (.error f)) ∧
    ∀ {σ α : Type} (c : Client) (t : Transport σ) (isThrown : σ → String → Bool) (p : Plan α)
      (s : σ),
      (∀ r, c.Meets t isThrown p s (.reply r) → r.status.code ∈ Set.Ico 200 300 →
        (∃ a, (c.call t isThrown p s).1 = some (.ok a)) ∨
          ∃ fault, (c.call t isThrown p s).1 = some (.error (.decode fault)) ∧
            (CallFault.decode fault).IsMute) ∧
      (∀ f status, (c.call t isThrown p s).1 = some (.error f) → f.status? = some status →
        ∃ r, c.Meets t isThrown p s (.reply r) ∧ r.status = status ∧
          status.code ∉ Set.Ico 200 300) ∧
      (∀ fault, c.Meets t isThrown p s (.failed fault) →
        ∃ f, (c.call t isThrown p s).1 = some (.error f) ∧ f.IsMute) ∧
      ∀ (isThrown : σ × Cache → String → Bool) (cache : Cache) (r : Reply),
        c.Meets t.cached isThrown p (s, cache) (.reply r) ↔
          c.cancellation.any (isThrown (s, cache)) = false ∧ ∃ q, p.request c = .ok q ∧
            ((q.method = "GET" ∧ cache.get? q.cacheKey = some r) ∨
              ((q.method ≠ "GET" ∨ cache.get? q.cacheKey = none) ∧ (t q s).1 = .reply r)) := by
  refine ⟨fun r hr => ⟨r.fault, r.tells_fault, fun hmeets => ?_⟩, fun c t isThrown p s => ?_⟩
  · have hrefused : r.status.isSuccess = false := by
      rw [← Bool.not_eq_true, Status.isSuccess_iff]
      exact hr
    rw [call_of_reply hmeets, Plan.result, Reply.result_of_refusal hrefused]
  · refine ⟨fun r hmeets hr => ?_, fun f status hcall hstatus => ?_, fun fault hmeets => ?_,
      fun isThrown cache r => meets_cached_iff⟩
    · rw [call_of_reply hmeets]
      exact (Reply.result_of_success (Status.isSuccess_iff.mpr hr)).imp
        (fun ⟨a, ha⟩ => ⟨a, congrArg some ha⟩)
        fun ⟨fault, hfault⟩ => ⟨fault, congrArg some hfault, rfl, rfl⟩
    · have hmute : ¬ f.IsMute := fun hmute => by
        rw [hmute.1] at hstatus
        cases hstatus
      obtain ⟨r, hmeets, hrefused, rfl⟩ := exists_reply_of_fault hcall hmute
      rw [r.tells_fault.status, Option.some.injEq] at hstatus
      refine ⟨r, hmeets, hstatus, ?_⟩
      rw [← Status.isSuccess_iff, ← hstatus, hrefused]
      exact Bool.false_ne_true
    · exact ⟨.network fault, call_of_failed hmeets, rfl, rfl⟩

/-- A text that breaks off in the middle of a character, with a status that means that there is
nothing, comes over a cache. -/
theorem call_translates_not_found :
    let base : Url := ⟨"https", some ⟨"", "", "[::1]", none⟩, .segments [""], none, none⟩
    let c : Client := { base }
    let r : Reply := ⟨⟨404⟩, [], some [110, 111, 0xE3, 0x81]⟩
    let t : Transport (Unit × Cache) := (Transport.ofServer fun _ => .reply r).cached
    ∃ f, (c.call t (fun _ _ => false) (Operation.user .me).plan ((), ∅)).1 = some (.error f) ∧
      f.status? = some ⟨404⟩ ∧ f.body? = some (.ofList ['n', 'o', Utf8.replacement]) ∧
      f.isNotFound = true := by
  intro base c r t
  obtain ⟨f, htells, hcall⟩ := call_translates.1 r (by decide)
  obtain ⟨q, hq⟩ : ∃ q, (Operation.user .me).plan.request c = .ok q := ⟨_, rfl⟩
  obtain ⟨-, -, -, hcached⟩ := call_translates.2 c (Transport.ofServer fun _ => .reply r)
    (fun _ _ => false) (Operation.user .me).plan ()
  have hmeets : c.Meets t (fun _ _ => false) (Operation.user .me).plan ((), ∅) (.reply r) :=
    (hcached (fun _ _ => false) ∅ r).mpr ⟨rfl, q, hq, Or.inr ⟨Or.inr rfl, rfl⟩⟩
  refine ⟨f, hcall hmeets, htells.status, ?_, htells.isNotFound.mpr rfl⟩
  obtain ⟨text, hbody, hmended⟩ := htells.text _ rfl
  have htext : text.toList = ['n', 'o', Utf8.replacement] :=
    (hmended _).mp (Utf8.mends_decodeLossy [110, 111, 0xE3, 0x81])
  rw [hbody, ← htext, String.ofList_toList]

end Client

end IdentityApi
