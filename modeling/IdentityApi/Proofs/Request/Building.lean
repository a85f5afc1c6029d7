import IdentityApi.Proofs.Request.Target
import IdentityApi.Proofs.Url.Host

/-! # Requests that are built

A request over a web address can be sent: its URL is a web address without a fragment. A `GET` has
no body, so that URL and token say all there is to say about it.
-/
namespace IdentityApi

open Url Url.Reader

namespace Parameters

variable {e : Endpoint} {p : Parameters} {base : Url} {authorization : Option String} {q : Request}

/-- What a request is made of. -/
theorem request_ok (h : p.request base authorization e = .ok q) :
    p.url base e = .ok q.url ∧ q.method = e.method.name ∧
      q.headers = headers authorization p.body.isSome ∧
      q.body = p.body.map (fun v => octetsOf v.compact) ∧
      (p.body.isSome = true → e.method.allowsBody = true) := by
  unfold request at h
  by_cases hstray : (p.body.isSome && !e.method.allowsBody) = true
  · rw [if_pos hstray] at h
    cases h
  · rw [if_neg hstray] at h
    cases hu : p.url base e with
    | error fault =>
      rw [hu] at h
      cases h
    | ok u =>
      rw [hu] at h
      cases h
      refine ⟨rfl, rfl, rfl, rfl, fun hbody => ?_⟩
      simpa [hbody] using hstray

theorem authorization_headers (authorization : Option String) (withContent : Bool) :
    ((headers authorization withContent).find? (·.name == "authorization")).map Header.value =
      authorization := by
  cases authorization with
  | some value => rfl
  | none => cases withContent <;> rfl

theorem authorization_of_request (h : p.request base authorization e = .ok q) :
    q.authorization = authorization := by
  rw [Request.authorization, (request_ok h).2.2.1, authorization_headers]

/-- Every URL for the table over a web address can be sent. -/
theorem isSendable_of_url (hbase : base.IsWebAddress) (he : e ∈ Endpoint.all) {u : Url}
    (hurl : p.url base e = .ok u) : u.IsSendable := by
  obtain ⟨list, hlist, -, hplain⟩ := hbase.path
  rw [url_eq hbase.scheme hlist he] at hurl
  cases ht : p.target e with
  | error fault =>
    rw [ht] at hurl
    cases hurl
  | ok t =>
    rw [ht] at hurl
    rw [← (Except.ok.inj hurl : urlOver base list p t = u)]
    refine ⟨⟨hbase.scheme, hbase.authority, _, rfl, ?_, ?_⟩, ?_, rfl⟩
    · simp [splitAt_ne_nil]
    · intro s hs
      rcases List.mem_append.mp hs with hs | hs
      · exact hplain s (List.mem_of_mem_dropLast hs)
      · obtain ⟨l, hl, rfl⟩ := List.mem_map.mp hs
        obtain ⟨-, -, -, hsegment⟩ := target_plain he ht
        refine avoids_of_forall (p := isPlainChar) (fun c hc => ?_) (by decide)
        rw [String.toList_ofList] at hc
        exact (hsegment l hl).plain c hc
    · intro text htext
      simp only [urlOver, urlQuery] at htext
      split_ifs at htext
      cases htext
      exact not_mem_queryText base.scheme _

theorem isSendable_of_request (hbase : base.IsWebAddress) (he : e ∈ Endpoint.all)
    (h : p.request base authorization e = .ok q) : q.url.IsSendable :=
  isSendable_of_url hbase he (request_ok h).1

/-- A `GET` has no body, and no header but those for the reply and the token. -/
theorem request_get (h : p.request base authorization e = .ok q) (hget : q.method = "GET") :
    q = ⟨"GET", q.url, headers authorization false, none⟩ := by
  obtain ⟨-, hmethod, hheaders, hbody, hallowed⟩ := request_ok h
  have hm : e.method = .get := by
    rw [hmethod] at hget
    cases hk : e.method <;> rw [hk] at hget <;> revert hget <;> decide
  have hnone : p.body = none := by
    cases hp : p.body with
    | none => rfl
    | some v => rw [hp, hm] at hallowed; cases hallowed rfl
  rw [hnone] at hheaders hbody
  cases q
  simp_all

end Parameters

end IdentityApi
