import IdentityApi.Program
import IdentityApi.Proofs.Command
import IdentityApi.Proofs.Config
import IdentityApi.Proofs.Request.Contents

/-! # What the program sends and prints

Whatever environment is loaded, a command that was read leads to one request at most, handed to the
transport once. It is a `GET` for the endpoint of the command over the base of the configuration. No
request is sent only because there is no client, or because a slug would be dropped from the path;
and what is printed in the end is decoded as the value that the reply was decoded as
(`run_of_read`).
-/
namespace IdentityApi

open CommandLine (Invocation)
open Json (ok_of_bind ok_of_map)
open Log (Line Settings)

/-- What comes back from an exchange, if anything does. -/
def Outcome.found : Outcome → Option (Except NetworkFault Reply)
  | reply r => some (.ok r)
  | failed fault => some (.error fault)
  | silence => none

/-- Hands a request to a transport. If nothing comes back, nothing follows. -/
def Transport.send {σ : Type} (t : Transport σ) (q : Request) :
    OptionT (StateM σ) (Except NetworkFault Reply) :=
  OptionT.mk fun s => ((t q s).1.found, (t q s).2)

/-! ## From the environment to a client -/

theorem Client.ofConfig_ok {config : Config} {c : Client} (h : Client.ofConfig config = .ok c) :
    Client.create config.baseUrl config.token = .ok c := by
  unfold ofConfig at h
  split_ifs at h
  exact h

namespace Program

variable {σ : Type} {t : Transport σ} {s : σ} {e : Environment} {words : List String}
  {i : Invocation}

theorem config_ok {url : Option String} {c : Config} (h : config e url = .ok c) :
    url.or (e.get? Config.urlVariable) = some c.baseUrl ∧
      c.token = (e.get? Config.tokenVariable).filter (· ≠ "") := by
  obtain ⟨found, hfound, rfl⟩ := ok_of_map h
  have htold := Config.ofLookup_eq_ok_iff.mp hfound
  exact ⟨htold.url.lookup, htold.token⟩

/-! ## Stages -/

/-- Why nothing is sent: there is no configuration or no client, or the slug is one that would be
dropped from the path. -/
def SendsNothing (e : Environment) (i : Invocation) : Prop :=
  (∃ fault, config e i.url = .error fault) ∨
    (∃ c fault, config e i.url = .ok c ∧ Client.ofConfig c = .error fault) ∨
      ∃ slug user, i.command = .checkAccess slug user ∧ (slug = "" ∨ slug = "." ∨ slug = "..")

/-- Only a slug can make a command fail that has a client. -/
theorem exists_slug_of_error {text : String} {c : Client} (hbase : Client.baseOf text = .ok c.base)
    {command : Command} {fault : Request.Fault}
    (h : command.operation.plan.request c = .error fault) :
    ∃ slug user, command = .checkAccess slug user ∧ (slug = "" ∨ slug = "." ∨ slug = "..") := by
  have hdropped : ∃ p ∈ command.operation.arguments, p.2.IsDropped := by
    by_contra hkept
    push Not at hkept
    obtain ⟨q, hq⟩ := Operation.exists_request hbase command.isNamed_operation hkept
    rw [h] at hq
    cases hq
  obtain ⟨p, hp, hdropped⟩ := hdropped
  cases command with
  | checkAccess slug user =>
    obtain rfl := List.mem_singleton.mp hp
    exact ⟨slug, user, rfl, hdropped⟩
  | getUser id =>
    obtain rfl := List.mem_singleton.mp hp
    exact hdropped.elim
  | _ => cases hp

theorem not_sendsNothing_of_request {c : Config} {d : Client} {q : Request}
    (hconfig : config e i.url = .ok c) (hclient : Client.ofConfig c = .ok d)
    (hrequest : i.command.operation.plan.request d = .ok q) : ¬ SendsNothing e i := by
  rintro (⟨fault, h⟩ | ⟨c', fault, hc', h⟩ | ⟨slug, user, hcommand, hslug⟩)
  · rw [hconfig] at h
    cases h
  · obtain rfl := Except.ok.inj (hconfig.symm.trans hc')
    rw [hclient] at h
    cases h
  · have hbase := (Client.create_ok (Client.ofConfig_ok hclient)).1
    have hmem : ("slug", Argument.text slug) ∈ i.command.operation.arguments := by
      rw [hcommand]
      exact List.mem_singleton_self _
    have hkept := (Operation.request_ok hbase i.command.isNamed_operation hrequest).2.1 _ hmem
    rw [(Argument.isRefused_value_iff (.text slug)).mpr hslug] at hkept
    cases hkept

/-- Without the network the program comes to a report, or to the request of its command. -/
theorem carryOut_cases (e : Environment) (i : Invocation) :
    (∃ lines text, carryOut e i = .finished lines (.report text) ∧ SendsNothing e i) ∨
    ∃ (lines : List Line) (c : Config) (d : Client) (q : Request) (g : Settings),
      config e i.url = .ok c ∧ Client.ofConfig c = .ok d ∧
        i.command.operation.plan.request d = .ok q ∧
          carryOut e i = .sending lines c q (resume g i.command.operation) := by
  rw [carryOut]
  obtain ⟨g, lines, hg⟩ : ∃ g lines, logSettings e i.logFormat = (g, lines) := ⟨_, _, rfl⟩
  rw [hg]
  dsimp only
  cases hconfig : config e i.url with
  | error fault => exact Or.inl ⟨_, _, rfl, Or.inl ⟨fault, hconfig⟩⟩
  | ok c =>
    dsimp only
    cases hclient : Client.ofConfig c with
    | error fault => exact Or.inl ⟨_, _, rfl, Or.inr (Or.inl ⟨c, fault, hconfig, hclient⟩)⟩
    | ok d =>
      have hbase := (Client.create_ok (Client.ofConfig_ok hclient)).1
      dsimp only [prepare]
      cases hrequest : i.command.operation.plan.request d with
      | error fault =>
        exact Or.inl ⟨_, _, rfl, Or.inr (Or.inr (exists_slug_of_error hbase hrequest))⟩
      | ok q => exact Or.inr ⟨_, c, d, q, g, rfl, hclient, hrequest, rfl⟩

/-- The program is what follows in the environment that is loaded. -/
theorem start_of_loaded {l : Launch} (h : l.loaded = some e) : start l = startIn e l.words := by
  rw [start, h]

theorem startIn_of_read (h : CommandLine.read words = .ok i) :
    startIn e words = carryOut e i := by
  rw [startIn, h]

/-- Runs what follows in a loaded environment over a transport: how it ends, if it does, and what it
leaves. -/
def run (t : Transport σ) (e : Environment) (words : List String) (s : σ) :
    Option (Except CommandLine.Fault Ending) × σ :=
  ((startIn e words).conclude (fun _ => pure ()) fun _ => t.send).run.run s

theorem run_of_finished {lines : List Line} {ending : Ending}
    (h : startIn e words = .finished lines ending) : run t e words s = (some (.ok ending), s) := by
  rw [run, h]
  rfl

theorem run_of_sending {lines : List Line} {config : Config} {q : Request}
    {resume : Except NetworkFault Reply → List Line × Ending}
    (h : startIn e words = .sending lines config q resume) :
    run t e words s = ((t q s).1.found.map fun found => .ok (resume found).2, (t q s).2) := by
  rw [run, h]
  simp only [Stage.conclude, pure_bind]
  simp only [bind_pure_comp, OptionT.run_map, StateT.run_map]
  rfl

/-! ## What is asked for -/

/-- The request of an invocation. Its URL is that of the command's endpoint with the command's
parameters, over the base that the command line or else the environment gives; its query holds the
options. -/
structure IsAsked (e : Environment) (i : Invocation) (q : Request) : Prop where
  method : q.method = "GET"
  body : q.body = none
  url : ∃ text base, i.url.or (e.get? Config.urlVariable) = some text ∧
    Client.baseOf text = .ok base ∧
      i.command.parameters.url base i.command.endpoint = .ok q.url
  query : q.url.query = if Query.spread i.command.options = [] then none
    else some (Query.text ⟨Query.spread i.command.options⟩)
  authorization : q.authorization =
    ((e.get? Config.tokenVariable).filter (· ≠ "")).map ("Bearer " ++ ·)

theorem isAsked_of_request {c : Config} {d : Client} {q : Request}
    (hconfig : config e i.url = .ok c) (hclient : Client.ofConfig c = .ok d)
    (hrequest : i.command.operation.plan.request d = .ok q) : IsAsked e i q := by
  obtain ⟨hurl, htoken⟩ := config_ok hconfig
  obtain ⟨hbase, hauthorization, -⟩ := Client.create_ok (Client.ofConfig_ok hclient)
  rw [Plan.request, i.command.plan_endpoint, i.command.plan_parameters] at hrequest
  obtain ⟨hq, hmethod, -, hbody, -⟩ := Parameters.request_ok hrequest
  refine ⟨?_, hbody, ⟨c.baseUrl, d.base, hurl, hbase, hq⟩, ?_, ?_⟩
  · rw [hmethod, i.command.method_endpoint]
    rfl
  · exact Command.query_of_url hbase hq
  · rw [Parameters.authorization_of_request hrequest, hauthorization, htoken]

/-! ## What is printed -/

/-- How a command ends with what came back. It prints something exactly if a reply of success is
decoded, namely a text that is decoded as the same value if the numbers of the body are whole. -/
structure IsTold (c : Command) (outcome : Outcome)
    (ended : Option (Except CommandLine.Fault Ending)) : Prop where
  prints : ∀ r body a, outcome = .reply r → r.status.isSuccess = true → r.body = some body →
    c.endpoint.shape.read c.operation.plan.codec body = .ok a →
      ended = some (.ok (.output (resultText c.operation.plan a)))
  printed : ∀ text, ended = some (.ok (.output text)) → ∃ r body a,
    outcome = .reply r ∧ r.status.isSuccess = true ∧ r.body = some body ∧
      c.endpoint.shape.read c.operation.plan.codec body = .ok a ∧
        (Json.HasWholeNumbers body →
          c.endpoint.shape.read c.operation.plan.codec (octetsOf text) = .ok a)

/-- A result comes from the body of a reply of success. -/
theorem result_eq_ok_iff {c : Command} {r : Reply} {a : c.operation.Result} :
    c.operation.plan.result r = .ok a ↔ r.status.isSuccess = true ∧ ∃ body, r.body = some body ∧
      c.endpoint.shape.read c.operation.plan.codec body = .ok a := by
  rw [Plan.result, c.plan_endpoint, Reply.result]
  cases hsuccess : r.status.isSuccess with
  | false => simp
  | true =>
    cases hbody : r.body with
    | none => simp
    | some body =>
      cases hread : c.endpoint.shape.read c.operation.plan.codec body with
      | error fault => simp [Except.mapError, hread]
      | ok b => simp [Except.mapError, hread]

theorem isTold_of_resume (c : Command) (g : Settings) (outcome : Outcome) :
    IsTold c outcome
      (outcome.found.map fun found => .ok (resume g c.operation found).2) := by
  cases outcome with
  | silence => exact ⟨nofun, nofun⟩
  | failed fault => exact ⟨nofun, nofun⟩
  | reply r =>
    change IsTold c (.reply r) (some (.ok (ending c.operation.plan (c.operation.plan.result r))))
    constructor
    · rintro _ body a ⟨⟩ hsuccess hbody hread
      rw [result_eq_ok_iff.mpr ⟨hsuccess, body, hbody, hread⟩]
      rfl
    · intro text htext
      cases hresult : c.operation.plan.result r with
      | error fault =>
        rw [hresult] at htext
        cases htext
      | ok a =>
        rw [hresult] at htext
        cases htext
        obtain ⟨hsuccess, body, hbody, hread⟩ := result_eq_ok_iff.mp hresult
        exact ⟨r, body, a, rfl, hsuccess, hbody, hread, fun hwhole => c.read_print hwhole hread⟩

/-! ## The whole program -/

/-- What the program does in an environment, once its command is read. The log of the transport shows
it: either nothing is sent, and a report says why there is no client or that the slug would be
dropped, or the request of the command is sent, once, and what comes back is told. Commands of one
kind with the same URL over one base differ in empty texts at most. -/
theorem run_of_read (h : CommandLine.read words = .ok i) (e : Environment) :
    (∀ {σ : Type} (t : Transport σ) (s : σ),
      (SendsNothing e i ∧
        ∃ text, run t.logged e words (s, []) = (some (.ok (.report text)), s, [])) ∨
      (¬ SendsNothing e i ∧
        ∃ q ended, run t.logged e words (s, []) = (ended, (t q s).2, [(q, (t q s).1)]) ∧
          IsAsked e i q ∧ IsTold i.command (t q s).1 ended)) ∧
    ∀ {text : String} {base u v : Url} {c d : Command}, Client.baseOf text = .ok base →
      c.IsLike d → c.parameters.url base c.endpoint = .ok u →
        d.parameters.url base d.endpoint = .ok v → u.text = v.text → c.normal = d.normal := by
  refine ⟨fun t s => ?_, Command.normal_eq_of_text_eq⟩
  have hstart : startIn e words = carryOut e i := startIn_of_read h
  rcases carryOut_cases e i with ⟨lines, text, hfinished, hnothing⟩ |
    ⟨lines, c, d, q, g, hconfig, hclient, hrequest, hsending⟩
  · exact Or.inl ⟨hnothing, text, run_of_finished (hstart.trans hfinished)⟩
  · refine Or.inr ⟨not_sendsNothing_of_request hconfig hclient hrequest, q, _, ?_,
      isAsked_of_request hconfig hclient hrequest, isTold_of_resume i.command g (t q s).1⟩
    exact run_of_sending (hstart.trans hsending)

/-- A slug with a slash in it; the URL is one of the command line, the token that of the settings
file. -/
def slashedLaunch : Launch where
  words := ["--url", "http://[::1]/sso", "apps", "check-access", "a/b", "--user=5"]
  environment := [(Config.urlVariable, "https://auth.example.com")]
  dotenv := some (octetsOf "AUTHENTIK_TOKEN=secret\n")

def slashedEnvironment : Environment :=
  [(Config.urlVariable, "https://auth.example.com"), (Config.tokenVariable, "secret")]

def slashedInvocation : Invocation :=
  ⟨some "http://[::1]/sso", none, .checkAccess "a/b" 5⟩

def grant : Reply := ⟨⟨200⟩, [], some (octetsOf "\x7b\"passing\":true\x7d")⟩

theorem run_of_slashedLaunch :
    let granting : Transport Unit := fun _ s => (.reply grant, s)
    start slashedLaunch = startIn slashedEnvironment slashedLaunch.words ∧
      CommandLine.read slashedLaunch.words = .ok slashedInvocation ∧
      ∃ q, run granting.logged slashedEnvironment slashedLaunch.words ((), []) =
          (some (.ok (.output
            "\x7b\n  \"log_messages\": [],\n  \"messages\": [],\n  \"passing\": true\n\x7d\n")),
            (), [(q, .reply grant)]) ∧
        IsAsked slashedEnvironment slashedInvocation q ∧
          q.authorization = some "Bearer secret" := by
  intro granting
  have hstart : start slashedLaunch = startIn slashedEnvironment slashedLaunch.words :=
    start_of_loaded (by decide +kernel)
  have hread : CommandLine.read slashedLaunch.words = .ok slashedInvocation := rfl
  have hconfig : config slashedEnvironment slashedInvocation.url =
      .ok ⟨"http://[::1]/sso", some "secret", none, "authentik-cli/0.1.0"⟩ := by decide +kernel
  obtain ⟨d, hclient⟩ : ∃ d, Client.ofConfig
      ⟨"http://[::1]/sso", some "secret", none, "authentik-cli/0.1.0"⟩ = .ok d := ⟨_, rfl⟩
  have hkept : ∀ p ∈ slashedInvocation.command.operation.arguments, ¬ p.2.IsDropped := by
    simp [slashedInvocation, Command.operation, Operation.arguments,
      ApplicationOperation.arguments, Argument.IsDropped]
  obtain ⟨q, hq⟩ := Operation.exists_request (Client.create_ok (Client.ofConfig_ok hclient)).1
    slashedInvocation.command.isNamed_operation hkept
  have hsends := not_sendsNothing_of_request hconfig hclient hq
  rcases (run_of_read hread slashedEnvironment).1 granting () with ⟨hnothing, -⟩ |
    ⟨-, q, ended, hrun, hasked, htold⟩
  · exact absurd hnothing hsends
  · have hended := htold.prints grant _ ⟨true, [], []⟩ rfl rfl rfl rfl
    have htext : resultText slashedInvocation.command.operation.plan ⟨true, [], []⟩ =
        "\x7b\n  \"log_messages\": [],\n  \"messages\": [],\n  \"passing\": true\n\x7d\n" := by
      rfl
    refine ⟨hstart, hread, q, ?_, hasked, ?_⟩
    · rw [hrun, hended, htext]
    · rw [hasked.authorization]
      decide +kernel

end Program

end IdentityApi
