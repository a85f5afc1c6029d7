import IdentityApi.Proofs.Cache

/-! # Requests with other tokens

Giving a client another token changes the header that carries it in every request of the client, and
nothing else (`Plan.request_rename`). In the key of the cache it changes what stands behind the last
`#` (`Request.cacheKey_rename`). Different requests stay different as long as different tokens do.
-/
namespace IdentityApi

variable {f g : String → String}

/-! ## Headers and requests -/

namespace Header

/-- The same header, but with another value if it carries a token. -/
def rename (f : String → String) (h : Header) : Header :=
  if h.name = "authorization" then { h with value := f h.value } else h

theorem rename_rename (h : Header) : (h.rename f).rename g = h.rename (g ∘ f) := by
  unfold rename
  split_ifs <;> rfl

end Header

namespace Request

variable {q r : Request} {values : List String}

/-- The same request with another token. -/
def rename (f : String → String) (q : Request) : Request :=
  { q with headers := q.headers.map (Header.rename f) }

/-- All that is to be seen of a request but the token. -/
def conceal (q : Request) : Request := q.rename fun _ => ""

theorem rename_rename (q : Request) : (q.rename f).rename g = q.rename (g ∘ f) := by
  unfold rename
  simp only [List.map_map, mk.injEq, true_and, and_true]
  exact List.map_congr_left fun h _ => h.rename_rename

theorem conceal_rename (q : Request) : (q.rename f).conceal = q.conceal := rename_rename q

theorem authorization_rename (q : Request) :
    (q.rename f).authorization = q.authorization.map f := by
  have hname : ∀ h : Header, (h.rename f).name = h.name := by
    intro h
    unfold Header.rename
    split_ifs <;> rfl
  have hfind : (q.rename f).headers.find? (·.name == "authorization") =
      (q.headers.find? (·.name == "authorization")).map (Header.rename f) := by
    rw [rename, List.find?_map]
    exact congrArg (fun p => (q.headers.find? p).map _) (funext fun h => by simp [hname])
  rw [authorization, hfind, authorization]
  cases hq : q.headers.find? (·.name == "authorization") with
  | none => rfl
  | some h =>
    have hauthorization := List.find?_some hq
    simp [Header.rename, beq_iff_eq.mp hauthorization]

theorem headers_rename (authorization : Option String) (withContent : Bool) :
    (Parameters.headers authorization withContent).map (Header.rename f) =
      Parameters.headers (authorization.map f) withContent := by
  cases authorization <;> cases withContent <;> simp [Parameters.headers, Header.rename]

theorem IsIssued.rename (h : q.IsIssued values) (f : String → String) :
    (q.rename f).IsIssued (values.map f) := by
  refine ⟨h.sendable, fun hget => ?_, ?_⟩
  · rw [authorization_rename, ← headers_rename]
    exact congrArg (Request.rename f) (h.plain hget)
  · rw [authorization_rename]
    intro a ha
    obtain ⟨b, hb, rfl⟩ := Option.map_eq_some_iff.mp ha
    exact List.mem_map_of_mem (h.authorization b hb)

/-- Requests that become the same were the same, if their tokens were. -/
theorem IsIssued.eq_of_rename_eq (hq : q.IsIssued values) (hr : r.IsIssued values)
    (hinj : ∀ a ∈ values, ∀ b ∈ values, f a = f b → a = b) (hget : q.method = "GET")
    (hget' : r.method = "GET") (h : q.rename f = r.rename f) : q = r := by
  have hurl : (q.rename f).url = (r.rename f).url := by rw [h]
  have hvalue : q.authorization.map f = r.authorization.map f := by
    rw [← authorization_rename, ← authorization_rename, h]
  have hauthorization : q.authorization = r.authorization := by
    cases ha : q.authorization with
    | none =>
      rw [ha] at hvalue
      exact (Option.map_eq_none_iff.mp hvalue.symm).symm
    | some a =>
      rw [ha] at hvalue
      obtain ⟨b, hb, hab⟩ := Option.map_eq_some_iff.mp hvalue.symm
      rw [hb, hinj a (hq.authorization a ha) b (hr.authorization b hb) hab.symm]
  change q.url = r.url at hurl
  rw [hq.plain hget, hr.plain hget', hurl, hauthorization]

end Request

/-! ## Keys -/

/-- The keys are the same, or they agree up to their last `#`. -/
def AgreeToMark (k k' : String) : Prop :=
  k = k' ∨ ∃ front back back' : String, k = front ++ "#" ++ back ∧ k' = front ++ "#" ++ back' ∧
    '#' ∉ back.toList ∧ '#' ∉ back'.toList

theorem Request.cacheKey_rename (q : Request) :
    AgreeToMark q.cacheKey (q.rename f).cacheKey := by
  unfold cacheKey
  rw [authorization_rename]
  cases q.authorization with
  | none => exact Or.inl rfl
  | some a =>
    exact Or.inr ⟨q.url.text, Sha256.fingerprint a, Sha256.fingerprint (f a), rfl, rfl,
      Sha256.not_mem_fingerprint a, Sha256.not_mem_fingerprint (f a)⟩

/-! ## Clients -/

/-- The same client with another token. -/
def Client.rename (f : String → String) (c : Client) : Client :=
  { c with authorization := c.authorization.map f }

theorem Plan.request_rename {α : Type} (p : Plan α) (c : Client) :
    p.request (c.rename f) = (p.request c).map (Request.rename f) := by
  unfold request Parameters.request Client.rename
  split_ifs
  · rfl
  · change (p.parameters.url c.base p.endpoint >>= _) = Except.map _ (_ >>= _)
    cases p.parameters.url c.base p.endpoint with
    | error fault => rfl
    | ok u =>
      refine congrArg Except.ok ?_
      rw [← Request.headers_rename]
      rfl

end IdentityApi
