import BrowserBridge.Proofs.Session.Handshake
import BrowserBridge.Proofs.Sidecar.Step
import BrowserBridge.Proofs.Url.RoundTrip
import BrowserBridge.Session.Setup
import BrowserBridge.Sidecar.Table

/-!
What becomes of settings.  Whatever is wrong with them is listed in one order; the first of it is
told, and then nothing is done at all.  If nothing is wrong, a service process that cannot be
started does not keep a driver from its handshake.  What does is connecting, and a start that is
cut short because the clock ends before its deadline.
-/

namespace BrowserBridge

namespace Fault

/-- The faults of settings whose tests apply, in order. -/
def applying (tests : List (Bool × ConfigFault)) : List Fault :=
  (tests.filter Prod.fst).map fun test => .config test.2

/-- Refuses with the first of some faults, if there are any. -/
def refuseFirst : List Fault → Except Fault Unit
  | [] => .ok ()
  | fault :: _ => .error fault

theorem refuseFirst_append (front back : List Fault) :
    refuseFirst (front ++ back) = refuseFirst front >>= fun _ => refuseFirst back := by
  cases front <;> rfl

@[simp] theorem refuseFirst_applying_nil : refuseFirst (applying []) = .ok () := rfl

@[simp] theorem refuseFirst_applying_cons (applies : Bool) (cause : ConfigFault)
    (rest : List (Bool × ConfigFault)) :
    refuseFirst (applying ((applies, cause) :: rest)) =
      if applies then .error (.config cause) else refuseFirst (applying rest) := by
  cases applies <;> rfl

theorem eq_config_of_mem_applying {fault : Fault} {tests : List (Bool × ConfigFault)}
    (h : fault ∈ applying tests) : ∃ cause, fault = .config cause := by
  obtain ⟨test, -, rfl⟩ := List.mem_map.mp h
  exact ⟨test.2, rfl⟩

end Fault

open Fault (applying refuseFirst)

/-- What is wrong with an endpoint. -/
def Endpoint.objections (endpoint : Endpoint) : List Fault :=
  applying [(Text.isBlank endpoint.host, .blankHost), (endpoint.port = 0, .zeroPort)]

theorem Endpoint.check_eq (endpoint : Endpoint) :
    endpoint.check = refuseFirst endpoint.objections := by
  simp [check, objections]

/-- What is wrong with the settings of a service process. -/
def SidecarConfig.objections (config : SidecarConfig) : List Fault :=
  applying [(config.port = 0, .zeroPort), (Text.isBlank config.runtime, .blankRuntime),
    (Text.isBlank config.jarName, .blankJarName), (Text.isBlank config.marker, .blankMarker)]

theorem SidecarConfig.check_eq (config : SidecarConfig) :
    config.check = refuseFirst config.objections := by
  simp [check, objections]

namespace Setup

variable {parse : String → Except UrlFault Url} {setup : Setup}

/-- What is wrong with the address of the hub. -/
def hubObjections (setup : Setup) (parse : String → Except UrlFault Url) : List Fault :=
  match parse setup.hub with
  | .error cause => [.invalidUrl setup.hub cause]
  | .ok url =>
    if url.scheme = "http" ∨ url.scheme = "https" then [] else [.config (.scheme url.scheme)]

/-- All that is wrong with settings: with the address of the hub, with the endpoint of the
service, and with the service process if one is looked after. -/
def objections (setup : Setup) (parse : String → Except UrlFault Url) : List Fault :=
  setup.hubObjections parse ++ setup.target.objections ++
    (setup.sidecar.map SidecarConfig.objections).getD []

theorem hubUrl_cases (setup : Setup) (parse : String → Except UrlFault Url) :
    (∃ fault, setup.hubObjections parse = [fault] ∧ setup.hubUrl parse = .error fault) ∨
      setup.hubObjections parse = [] ∧
        ∃ url, parse setup.hub = .ok (.web url) ∧ setup.hubUrl parse = .ok url.text := by
  unfold hubObjections hubUrl
  cases parse setup.hub with
  | error cause => exact .inl ⟨_, rfl, rfl⟩
  | ok url =>
      cases url with
      | other scheme outside =>
          -- A scheme outside the web is neither of the two.
          have hscheme : ¬ (scheme = "http" ∨ scheme = "https") := by
            rintro (rfl | rfl) <;> cases outside
          exact .inl ⟨_, if_neg hscheme, rfl⟩
      | web url =>
          by_cases hscheme : url.scheme = "http" ∨ url.scheme = "https"
          · exact .inr ⟨if_pos hscheme, url, rfl, if_pos (by simpa using hscheme)⟩
          · exact .inl ⟨_, if_neg hscheme, if_neg (by simpa using hscheme)⟩

/-- What goes out as the address of the hub is visible ASCII, and settings that have it for the hub
send the same. -/
theorem hubUrl_again {hub : String} (h : setup.hubUrl Url.parse = .ok hub) :
    ({ setup with hub := hub } : Setup).hubUrl Url.parse = .ok hub ∧
      ∀ c ∈ hub.toList, Percent.IsVisible c := by
  rw [hubUrl] at h
  split at h
  · cases h
  · next url hread =>
    have hform := Url.parse_wellFormed hread
    split at h
    · next hscheme =>
      cases h
      refine ⟨?_, Url.isVisible_text hform⟩
      rw [hubUrl, Url.parse_text hform]
      exact if_pos hscheme
    · cases h
  · cases h

theorem check_eq (setup : Setup) (parse : String → Except UrlFault Url) :
    setup.check parse = setup.hubUrl parse >>= fun hub =>
      refuseFirst (setup.target.objections ++
        (setup.sidecar.map SidecarConfig.objections).getD []) >>= fun _ => pure hub := by
  rw [Fault.refuseFirst_append, ← Endpoint.check_eq, check]
  cases setup.sidecar with
  | none => cases setup.hubUrl parse <;> cases setup.target.check <;> rfl
  | some config =>
      rw [Option.map_some, Option.getD_some, ← SidecarConfig.check_eq]
      dsimp only
      cases setup.hubUrl parse <;> cases setup.target.check <;> cases config.check <;> rfl

/-- The first thing that is wrong is told. -/
theorem check_of_objections {fault : Fault} {rest : List Fault}
    (h : setup.objections parse = fault :: rest) : setup.check parse = .error fault := by
  rw [check_eq]
  rw [objections, List.append_assoc] at h
  rcases setup.hubUrl_cases parse with ⟨cause, hobjections, hhub⟩ | ⟨hnone, url, -, hhub⟩
  · rw [hobjections] at h
    cases h
    rw [hhub]
    rfl
  · rw [hnone, List.nil_append] at h
    rw [hhub, h]
    rfl

theorem check_of_no_objection (h : setup.objections parse = []) :
    ∃ url, parse setup.hub = .ok (.web url) ∧ setup.check parse = .ok url.text := by
  rw [check_eq]
  rw [objections, List.append_assoc, List.append_eq_nil_iff] at h
  rcases setup.hubUrl_cases parse with ⟨cause, hobjections, -⟩ | ⟨-, url, hparse, hhub⟩
  · rw [hobjections] at h
    cases h.1
  · rw [hhub, h.2]
    exact ⟨url, hparse, rfl⟩

/-- What is wrong is that the address of the hub is none, or that a setting cannot be used. -/
theorem mem_objections_cases {fault : Fault} (h : fault ∈ setup.objections parse) :
    (∃ cause, fault = .invalidUrl setup.hub cause) ∨ ∃ cause, fault = .config cause := by
  rw [objections, List.append_assoc, List.mem_append, List.mem_append] at h
  rcases h with hhub | htarget | hsidecar
  · unfold hubObjections at hhub
    split at hhub
    · exact .inl ⟨_, List.mem_singleton.mp hhub⟩
    · split at hhub
      · cases hhub
      · exact .inr ⟨_, List.mem_singleton.mp hhub⟩
  · exact .inr (Fault.eq_config_of_mem_applying htarget)
  · cases hsettings : setup.sidecar with
    | none =>
        rw [hsettings] at hsidecar
        cases hsidecar
    | some config =>
        rw [hsettings] at hsidecar
        exact .inr (Fault.eq_config_of_mem_applying hsidecar)

end Setup

/-- The service that a connector comes by for settings, or why it comes by none. -/
def Connector.reached {σ : Type} (connector : Connector σ) (setup : Setup) : Except Fault σ :=
  match connector with
  | dial connect => (connect setup.target setup.options setup.backoff).outcome
  | owned service => .ok service
  | shared connection => .ok connection.service

/-- The service that a connector was given. -/
def Connector.supplied? {σ : Type} : Connector σ → Option σ
  | dial _ => none
  | owned service => some service
  | shared connection => some connection.service

theorem Connector.service_dropped? {σ : Type} (connector : Connector σ) :
    connector.dropped?.map Connection.service = connector.supplied? := by
  cases connector <;> rfl

/-- A setup got to its handshake with a service.  The calls of the handshake come right after those
that were asked before, the first of them points the service at the hub, and what comes of the
setup is what comes of the handshake. -/
def Build.Reaches {τ σ : Type} [Service σ] (build : Build τ (Recorded σ)) (driver : Driver)
    (service : Recorded σ) : Prop :=
  ∃ outcome calls last, driver.Handshake service.service outcome calls ∧
    calls.head? = some (.attach driver.hub) ∧ build.outcome = .ok (outcome.map fun _ => driver) ∧
    build.connection.map Connection.service = some last ∧ service.calls ++ calls <+: last.calls

namespace Setup

variable {τ σ : Type} [Service σ]

theorem begin_eq (setup : Setup) (hub : String) (link : Link) (connection : Connection σ)
    (attempts : Nat) (host : τ) {outcome : Except Fault Unit} {last : Seat σ}
    (hstart : Driver.start ⟨hub, setup.capabilities, setup.sidecar.isSome⟩
      ⟨.fresh link setup.adapter, connection⟩ = last.ending outcome) :
    setup.begin hub link connection attempts host =
      ⟨.ok (outcome.map fun () => ⟨hub, setup.capabilities, setup.sidecar.isSome⟩),
        some last.executor, some last.connection, attempts, host⟩ := by
  unfold begin
  dsimp only
  rw [hstart]
  cases outcome <;> rfl

/-- A session that is begun at a connection comes to its handshake. -/
theorem begin_reaches (setup : Setup) (hub : String) {link : Link} (hlink : link ≠ .released)
    (connection : Connection (Recorded σ)) (attempts : Nat) (host : τ) :
    let build := setup.begin hub link connection attempts host
    build.host = host ∧
      build.Reaches ⟨hub, setup.capabilities, setup.sidecar.isSome⟩ connection.service := by
  intro build
  let seat : Seat (Recorded σ) := ⟨.fresh link setup.adapter, connection⟩
  have hheld : seat.executor.isReleased = false := decide_eq_false hlink
  obtain ⟨outcome, calls, last, hhandshake, hstart, hcalls⟩ := Driver.start_handshake
    ⟨hub, setup.capabilities, setup.sidecar.isSome⟩ hheld rfl
  have hbegin : build = _ := setup.begin_eq hub link connection attempts host hstart
  rw [hbegin]
  refine ⟨rfl, outcome, calls, last.connection.service, hhandshake, hhandshake.head?_eq, ?_, rfl,
    hcalls⟩
  cases outcome <;> rfl

variable [Host τ] {setup : Setup} {parse : String → Except UrlFault Url} {connector : Connector σ}

/-- A start of the service process does not return only if its deadline is past the end of the
clock. -/
theorem overruns_of_startSidecar_error {wait : Nat} {host : τ} {abort : Abort}
    (h : (setup.startSidecar wait host).1 = .error abort) :
    ∃ config ∈ setup.sidecar,
      (Supervisor.fresh config host).overruns config.port wait = true := by
  rw [startSidecar] at h
  cases hsidecar : setup.sidecar with
  | none =>
      rw [hsidecar] at h
      cases h
  | some config =>
      rw [hsidecar] at h
      refine ⟨config, rfl, ?_⟩
      cases hstart : (Supervisor.start config.port wait (Supervisor.fresh config host)).1 with
      | ok outcome => cases (congrArg (Except.map fun _ => ()) hstart).symm.trans h
      | error cause => exact Supervisor.overruns_of_start_error hstart

/-- Settings with nothing wrong start the service process, and then the session at the connection
that the connector comes by. -/
theorem buildWith_of_reached {hub : String} {service : σ} {wait : Nat} {host machine : τ}
    (hcheck : setup.check parse = .ok hub)
    (hstarted : setup.startSidecar wait host = (.ok (), machine))
    (hreached : connector.reached setup = .ok service) :
    ∃ link connection attempts, link ≠ .released ∧ connection.service = service ∧
      setup.buildWith parse connector wait host =
        setup.begin hub link connection attempts machine := by
  rw [buildWith, hcheck, hstarted]
  cases connector with
  | owned service =>
      cases hreached
      exact ⟨.owned, ⟨service, 1⟩, 0, by decide, rfl, rfl⟩
  | shared connection =>
      cases hreached
      exact ⟨.shared, connection, 0, by decide, rfl, rfl⟩
  | dial connect =>
      dsimp only [Connector.reached] at hreached ⊢
      rw [hreached]
      exact ⟨.owned, ⟨service, 1⟩, _, by decide, rfl, rfl⟩

theorem buildWith_of_unreached {hub : String} {fault : Fault} {wait : Nat} {host machine : τ}
    (hcheck : setup.check parse = .ok hub)
    (hstarted : setup.startSidecar wait host = (.ok (), machine))
    (hreached : connector.reached setup = .error fault) :
    ∃ attempts, setup.buildWith parse connector wait host =
      ⟨.ok (.error fault), none, none, attempts, machine⟩ := by
  rw [buildWith, hcheck, hstarted]
  cases connector with
  | owned service => cases hreached
  | shared connection => cases hreached
  | dial connect =>
      dsimp only [Connector.reached] at hreached ⊢
      rw [hreached]
      exact ⟨_, rfl⟩

theorem buildWith_of_aborted {hub : String} {abort : Abort} {wait : Nat} {host machine : τ}
    (hcheck : setup.check parse = .ok hub)
    (hstarted : setup.startSidecar wait host = (.error abort, machine)) :
    setup.buildWith parse connector wait host =
      ⟨.error abort, none, connector.dropped?, 0, machine⟩ := by
  rw [buildWith, hcheck, hstarted]

/-- Nothing is done with settings of which something is wrong. -/
theorem buildWith_of_objections {fault : Fault} {rest : List Fault}
    (h : setup.objections parse = fault :: rest) (connector : Connector σ) (wait : Nat)
    (host : τ) : setup.buildWith parse connector wait host =
      ⟨.ok (.error fault), none, connector.dropped?, 0, host⟩ := by
  rw [buildWith, check_of_objections h]

end Setup

end BrowserBridge
