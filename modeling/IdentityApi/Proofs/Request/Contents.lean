import IdentityApi.Proofs.Client.Calling
import IdentityApi.Proofs.Operation.Building
import IdentityApi.Proofs.Text.Utf8

/-! # What requests say

Every request of a client tells the same things about itself: the method of its endpoint, what it
accepts, the token of the client if there is one, and what its body is if its method carries one
(`conforms_of_call`). A token that is accepted stands in the header octet by octet, and it is
accepted exactly if it cannot break out of the header.
-/
namespace IdentityApi

/-! ## Octets of headers -/

/-- A control octet, other than the tab. -/
def IsControl (b : UInt8) : Prop := (b.toNat < 32 ∧ b.toNat ≠ 9) ∨ b.toNat = 127

namespace Client

/-- A character fits a header exactly if none of its octets is a control octet. -/
theorem fitsHeader_iff (c : Char) :
    fitsHeader c = true ↔ ∀ b ∈ Utf8.encodeChar c, ¬ IsControl b := by
  by_cases hc : c.toNat < 0x80
  · have hcode : (UInt8.ofNat c.toNat).toNat = c.toNat := Utf8.toNat_octet (by omega)
    have htab : c = '\t' ↔ c.toNat = 9 := ⟨by rintro rfl; rfl, fun h => Char.toNat_inj.mp h⟩
    rw [Utf8.encodeChar_of_lt hc, List.forall_mem_singleton, IsControl, hcode, fitsHeader]
    simp only [Bool.or_eq_true, Bool.and_eq_true, decide_eq_true_eq, bne_iff_ne, beq_iff_eq, htab]
    omega
  · -- an octet beyond ASCII is no control octet
    have hfits : fitsHeader c = true := by
      simp only [fitsHeader, Bool.or_eq_true, Bool.and_eq_true, decide_eq_true_eq, bne_iff_ne]
      omega
    refine ⟨fun _ b hb => ?_, fun _ => hfits⟩
    have hlow := Utf8.le_of_mem_encodeChar (Nat.le_of_not_lt hc) hb
    rintro (⟨hcontrol, -⟩ | hcontrol) <;> omega

theorem all_fitsHeader_iff (s : String) :
    s.toList.all fitsHeader = true ↔ ∀ b ∈ octetsOf s, ¬ IsControl b := by
  rw [octetsOf, Utf8.encode, List.all_eq_true]
  constructor
  · intro h b hb
    obtain ⟨c, hc, hbc⟩ := List.mem_flatMap.mp hb
    exact (fitsHeader_iff c).mp (h c hc) b hbc
  · intro h c hc
    exact (fitsHeader_iff c).mpr fun b hb => h b (List.mem_flatMap.mpr ⟨c, hc, hb⟩)

theorem withToken_error_iff (c : Client) (token : String) :
    c.withToken token = .error .invalidToken ↔ ∃ b ∈ octetsOf token, IsControl b := by
  rw [withToken]
  by_cases h : token.toList.all fitsHeader = true
  · rw [if_pos h]
    have hall := (all_fitsHeader_iff token).mp h
    exact ⟨nofun, fun ⟨b, hb, hcontrol⟩ => absurd hcontrol (hall b hb)⟩
  · rw [if_neg h]
    refine ⟨fun _ => ?_, fun _ => rfl⟩
    simpa using mt (all_fitsHeader_iff token).mpr h

/-- What a client is made of. -/
theorem create_ok {text : String} {token : Option String} {c : Client}
    (h : create text token = .ok c) :
    baseOf text = .ok c.base ∧ c.authorization = token.map ("Bearer " ++ ·) ∧
      ∀ t ∈ token, ∀ b ∈ octetsOf t, ¬ IsControl b := by
  cases hbase : baseOf text with
  | error fault => cases token <;> simp [create, ofBase, hbase, Except.map, bind, Except.bind] at h
  | ok base =>
    cases token with
    | none =>
      simp only [create, ofBase, hbase, Except.map] at h
      cases h
      exact ⟨rfl, rfl, nofun⟩
    | some t =>
      rw [create, ofBase, hbase] at h
      have htoken : withToken { base } t = .ok c := h
      rw [withToken] at htoken
      split_ifs at htoken with hfits
      cases htoken
      refine ⟨rfl, rfl, ?_⟩
      rintro _ ⟨⟩
      exact (all_fitsHeader_iff t).mp hfits

end Client

namespace Operation

/-- An operation sends a body exactly if its method carries one. -/
theorem isSome_body_iff {o : Operation} (h : o.isNamed = true) :
    o.plan.parameters.body.isSome = true ↔ o.plan.endpoint.method.allowsBody = true := by
  refine ⟨allowsBody_of_body h, ?_⟩
  cases o with
  | free endpoint parameters => cases h
  | _ o => cases o <;> first | exact fun _ => rfl | nofun

end Operation

namespace Parameters

theorem value_of_mem_headers {authorization : Option String} {withContent : Bool} {h : Header}
    (hh : h ∈ headers authorization withContent) : h.value = json ∨ h.value ∈ authorization := by
  rcases List.mem_cons.mp hh with rfl | hh
  · exact Or.inl rfl
  · rcases List.mem_append.mp hh with hh | hh
    · obtain ⟨value, hvalue, rfl⟩ := Option.map_eq_some_iff.mp (Option.mem_toList.mp hh)
      exact Or.inr hvalue
    · cases withContent with
      | false => cases hh
      | true =>
        obtain rfl := List.mem_singleton.mp hh
        exact Or.inl rfl

end Parameters

namespace Request

/-- The values of the headers of a name. -/
def values (q : Request) (name : String) : List String :=
  (q.headers.filter (·.name == name)).map Header.value

/-- What a request for an endpoint says of itself, for a client with this token. -/
structure Conforms (e : Endpoint) (token : Option String) (q : Request) : Prop where
  method : q.method = e.method.name
  accept : q.values "accept" = ["application/json"]
  authorization : (q.values "authorization").map octetsOf =
    (token.map fun t => octetsOf "Bearer " ++ octetsOf t).toList
  body : q.body.isSome = true ↔ q.method ∈ ["POST", "PUT", "PATCH"]
  content : q.values "content-type" = if q.body.isSome then ["application/json"] else []
  printable : ∀ h ∈ q.headers, ∀ b ∈ octetsOf h.value, ¬ IsControl b

end Request

namespace Operation

theorem isSome_body_iff_name {o : Operation} (h : o.isNamed = true) :
    o.plan.parameters.body.isSome = true ↔
      o.plan.endpoint.method.name ∈ ["POST", "PUT", "PATCH"] := by
  rw [isSome_body_iff h]
  cases o.plan.endpoint.method <;> decide

theorem octetsOf_append (s t : String) : octetsOf (s ++ t) = octetsOf s ++ octetsOf t := by
  rw [octetsOf, String.toList_append, Utf8.encode_append]
  rfl

/-- The requests of a client over the endpoints of operations conform. -/
theorem conforms_of_request {text : String} {token : Option String} {c d : Client}
    (hc : Client.create text token = .ok c) (hd : d.authorization = c.authorization)
    {o : Operation} (ho : o.isNamed = true) {q : Request} (hq : o.plan.request d = .ok q) :
    q.Conforms o.plan.endpoint token := by
  obtain ⟨-, hvalue, hplain⟩ := Client.create_ok hc
  obtain ⟨-, hmethod, hheaders, hbody, -⟩ := Parameters.request_ok hq
  rw [hd, hvalue] at hheaders
  have hsome : q.body.isSome = o.plan.parameters.body.isSome := by
    rw [hbody, Option.isSome_map]
  rw [← hsome] at hheaders
  refine ⟨hmethod, ?_, ?_, ?_, ?_, ?_⟩
  · rw [Request.values, hheaders]
    cases token <;> cases q.body.isSome <;> rfl
  · rw [Request.values, hheaders]
    cases token with
    | none => cases q.body.isSome <;> rfl
    | some t => cases q.body.isSome <;> exact congrArg (fun v => [v]) (octetsOf_append "Bearer " t)
  · rw [hsome, hmethod]
    exact isSome_body_iff_name ho
  · rw [Request.values, hheaders]
    cases token <;> cases q.body.isSome <;> rfl
  · intro h hh
    have hjson : ∀ b ∈ octetsOf Parameters.json, ¬ IsControl b :=
      (Client.all_fitsHeader_iff _).mp (by decide)
    have hbearer : ∀ b ∈ octetsOf "Bearer ", ¬ IsControl b :=
      (Client.all_fitsHeader_iff _).mp (by decide)
    rw [hheaders] at hh
    rcases Parameters.value_of_mem_headers hh with hvalue | hvalue
    · rwa [hvalue]
    · obtain ⟨t, ht, hbearer'⟩ := Option.map_eq_some_iff.mp hvalue
      rw [← hbearer', octetsOf_append]
      exact List.forall_mem_append.mpr ⟨hbearer, hplain t ht⟩

/-- What is sent for a client that was created with or without a token, or for its copy with a
switch: every request that an operation hands to any transport conforms. Tokens with a control octet
are refused, and no others. -/
theorem conforms_of_call :
    (∀ (text : String) (token : Option String) (c d : Client) (o : Operation),
      Client.create text token = .ok c → (d = c ∨ ∃ switch, d = c.withCancellation switch) →
      o.isNamed = true → ∀ (σ : Type) (t : Transport σ)
        (isThrown : σ × List Exchange → String → Bool) (s : σ),
        ∀ e ∈ (d.call t.logged isThrown o.plan (s, [])).2.2,
          e.1.Conforms o.plan.endpoint token) ∧
    ∀ (c : Client) (token : String),
      c.withToken token = .error .invalidToken ↔ ∃ b ∈ octetsOf token, IsControl b := by
  refine ⟨?_, Client.withToken_error_iff⟩
  intro text token c d o hc hd ho σ t isThrown s e he
  have hauthorization : d.authorization = c.authorization := by
    rcases hd with rfl | ⟨switch, rfl⟩ <;> rfl
  rcases Client.log_of_call d o.plan t isThrown s [] with hlog | ⟨q, hq, hlog⟩
  · rw [hlog] at he
    cases he
  · rw [hlog] at he
    obtain rfl := List.mem_singleton.mp he
    exact conforms_of_request hc hauthorization ho hq

/-- A token beyond ASCII with a tab, and a body that carries a key. -/
theorem conforms_of_tabbed_token :
    let base : Url := ⟨"https", some ⟨"", "", "[::1]", none⟩, .segments [""], none, none⟩
    let c : Client := { base, authorization := some "Bearer clé\t1" }
    let o : Operation := .token (.setKey "main" ⟨"secret"⟩)
    let silent : Transport Unit := fun _ s => (.silence, s)
    Client.create "https://[::1]" (some "clé\t1") = .ok c ∧
      ∃ e, ((c.withCancellation "off").call silent.logged (fun _ _ => false) o.plan ((), [])).2.2 =
        [e] ∧ e.1.Conforms o.plan.endpoint (some "clé\t1") := by
  intro base c o silent
  have hc : Client.create "https://[::1]" (some "clé\t1") = .ok c := rfl
  have hkept : ∀ p ∈ o.arguments, ¬ p.2.IsDropped := by
    simp [o, Operation.arguments, TokenOperation.arguments, Argument.IsDropped]
  obtain ⟨q, hq⟩ := exists_request (c := c.withCancellation "off") (Client.create_ok hc).1
    rfl hkept
  have hlog : ((c.withCancellation "off").call silent.logged (fun _ _ => false) o.plan
      ((), [])).2.2 = [(q, .silence)] :=
    congrArg Prod.snd (Client.snd_call_of_sent hq rfl)
  refine ⟨hc, _, hlog, ?_⟩
  exact conforms_of_call.1 _ _ c _ o hc (Or.inr ⟨"off", rfl⟩) rfl Unit silent _ () _
    (hlog ▸ List.mem_singleton_self _)

end Operation

end IdentityApi
