import MessageBus.Proofs.Command.Parameters
import MessageBus.Proofs.Config.Registry
import MessageBus.Proofs.Topic.Object
/-!
# Faults of commands

What can be wrong with a command before any service is asked: its configuration, a text among its arguments,
or the name of a service that is not configured (`Faulty`). `faulty_cases`: a command has no job just if it is
faulty, and the code of its failure is that of faulty input.
-/
namespace MessageBus
set_option autoImplicit false

/-! ## Configurations -/

namespace BusConfig
variable {c : BusConfig} {read : String → Except FileError String} {file : Option String}

theorem validate_of_load (h : load read file = .ok c) : c.validate = .ok () := by
  cases file with
  | none =>
    cases h
    rfl
  | some path =>
    rw [load] at h
    split at h
    · exact validate_of_parse h
    · cases h

theorem registry_of_validate (h : c.validate = .ok ()) : ∃ r, c.registry = .ok r ∧ r.Holds c.endpoints := by
  obtain ⟨ht, hs⟩ := sections_of_validate h
  rw [validate_of_sections ht hs] at h
  rcases c.registry_cases with ⟨-, r, hr, hholds⟩ | ⟨e, -, hsome, -⟩
  · exact ⟨r, hr, hholds⟩
  · rw [hsome] at h
    cases h

end BusConfig

theorem Registry.Holds.resolve_eq_ok_iff {r : Registry} {entered : List Endpoint} (h : r.Holds entered)
    {name : String} {e : Endpoint} : r.resolve name = .ok e ↔ e ∈ entered ∧ e.name = name := by
  rw [← find_named_eq_some_iff h.distinct, h.resolve]
  cases entered.find? fun e => e.name = name <;> simp

namespace Command

/-! ## What is at fault -/

/-- The service that an action is for. -/
def Action.service? : Action → Option String
  | .request service _ _ | .subscribe service _ _ => some service
  | .topic _ | .filter _ | .endpoints => none

namespace Invocation

/-- What is wrong with a command for a service, whatever the service and the sockets do. -/
inductive Faulty (read : String → Except FileError String) (i : Invocation) : Prop
  | unreadable {path : String} {e : FileError} (hfile : i.config = some path) (hread : read path = .error e)
  | malformed {path text : String} (hfile : i.config = some path) (hread : read path = .ok text)
      (hform : (Toml.parse? text).bind BusConfig.ofToml? = none)
  | invalid {path text : String} {c : BusConfig} {e : InvalidConfig} (hfile : i.config = some path)
      (hread : read path = .ok text) (hform : (Toml.parse? text).bind BusConfig.ofToml? = some c)
      (hvalid : c.validate = .error e)
  | params {service command text : String} (haction : i.action = .request service command text)
      (htext : ∀ members, ¬Json.Writes (Utf8.bytes text) (.object members))
  | filter {service text : String} {count : Option Nat} (haction : i.action = .subscribe service text count)
      (htext : ∀ v members, Json.Writes (Utf8.bytes text) v → v.canonical = .object members →
        ¬TopicFilter.Tagged members)
  | unknown {service : String} {c : BusConfig} (hconfig : BusConfig.load read i.config = .ok c)
      (haction : i.action.service? = some service) (hname : service ∉ c.endpoints.map Endpoint.name)

end Invocation

/-! ## What a command comes to -/

/-- The job of an action, with nothing at fault. -/
inductive Action.ComesTo (address : String) (c : BusConfig) : Action → Job → Prop
  | call {service command text : String} {params : Params} {e : Endpoint} (htext : readParams text = .ok params)
      (he : e ∈ c.endpoints) (hname : e.name = service) :
      ComesTo address c (.request service command text) (.call (.new e c.transport) ⟨command, params⟩)
  | follow {service text : String} {count : Option Nat} {f : TopicFilter} {e : Endpoint}
      (htext : readFilter text = .ok f) (he : e ∈ c.endpoints) (hname : e.name = service) :
      ComesTo address c (.subscribe service text count)
        (.follow ⟨⟨e, address, c.transport, c.subscriber⟩, f⟩ count)

theorem readFilter_eq_ok_iff {text : String} {f : TopicFilter} :
    readFilter text = .ok f ↔ ∃ v, Json.Writes (Utf8.bytes text) v ∧ TopicFilter.ofJson v = .ok f := by
  simp only [← Json.parse_eq_ok_iff, readFilter, Json.parseText]
  cases Json.parse (Utf8.bytes text) with
  | error e => simp
  | ok v => cases h : TopicFilter.ofJson v <;> simp [Except.mapError, h]

section Codes
variable {text : String} {e : Failure}

theorem code_of_readParams (h : readParams text = .error e) : e.report.code = 2 := by
  unfold readParams at h
  split at h <;> cases h <;> rfl

theorem code_of_readFilter (h : readFilter text = .error e) : e.report.code = 2 := by
  unfold readFilter at h
  split at h
  · cases h
    rfl
  · next v hv =>
    cases hf : TopicFilter.ofJson v <;> rw [hf] at h <;> cases h
    rfl

end Codes

/-- What is read from an argument goes to the endpoint that has the name of the service. -/
def addressed {α : Type} (r : Registry) (service : String) (input : Except Failure α)
    (make : α → Endpoint → Job) : Except Failure Job :=
  input.bind fun a => ((r.resolve service).mapError fun e => .call (.config e)).map (make a)

section Addressed
variable {α : Type} {r : Registry} {service : String} {input : Except Failure α} {make : α → Endpoint → Job}

theorem addressed_eq_ok_iff {c : BusConfig} (hr : r.Holds c.endpoints) {j : Job} :
    addressed r service input make = .ok j ↔
      ∃ a e, input = .ok a ∧ e ∈ c.endpoints ∧ e.name = service ∧ make a e = j := by
  have hresolve : (∃ a e, input = .ok a ∧ e ∈ c.endpoints ∧ e.name = service ∧ make a e = j) ↔
      ∃ a e, input = .ok a ∧ r.resolve service = .ok e ∧ make a e = j := by
    simp only [hr.resolve_eq_ok_iff, and_assoc]
  rw [hresolve, addressed]
  cases input with
  | error e => simp [Except.bind]
  | ok a => cases r.resolve service <;> simp [Except.bind, Except.mapError, Except.map]

theorem code_of_addressed {e : Failure} (hinput : ∀ e, input = .error e → e.report.code = 2)
    (h : addressed r service input make = .error e) : e.report.code = 2 := by
  cases input with
  | error fault =>
    cases h
    exact hinput _ rfl
  | ok a =>
    rw [addressed] at h
    cases hr : r.resolve service <;> rw [hr] at h <;> cases h
    rfl

end Addressed

section Jobs
variable {address : String} {c : BusConfig} {r : Registry}

theorem job_request (hr : c.registry = .ok r) (service command text : String) :
    (Action.request service command text).job address c =
      addressed r service (readParams text) fun params e => .call (.new e c.transport) ⟨command, params⟩ := by
  rw [Action.job, hr, addressed]
  cases readParams text with
  | error e => rfl
  | ok params =>
    change ((Client.forService r service c.transport).mapError Failure.call).bind
      (fun client => .ok (Job.call client ⟨command, params⟩)) = _
    rw [Client.forService]
    cases r.resolve service <;> rfl

theorem job_subscribe (hr : c.registry = .ok r) (service text : String) (count : Option Nat) :
    (Action.subscribe service text count).job address c =
      addressed r service (readFilter text)
        fun f e => .follow ⟨⟨e, address, c.transport, c.subscriber⟩, f⟩ count := by
  rw [Action.job, hr, addressed]
  cases readFilter text with
  | error e => rfl
  | ok f =>
    change ((Subscriber.forService r service address c.transport c.subscriber).mapError Failure.call).bind
      (fun subscriber => .ok (Job.follow (subscriber.subscribe f) count)) = _
    rw [Subscriber.forService]
    cases r.resolve service <;> rfl

theorem comesTo_iff (hv : c.validate = .ok ()) {a : Action} {service : String} (ha : a.service? = some service)
    {j : Job} : a.job address c = .ok j ↔ a.ComesTo address c j := by
  obtain ⟨r, hr, hholds⟩ := BusConfig.registry_of_validate hv
  cases a with
  | request service' command text =>
    rw [job_request hr, addressed_eq_ok_iff hholds]
    constructor
    · rintro ⟨params, e, htext, he, hname, rfl⟩
      exact .call htext he hname
    · rintro ⟨htext, he, hname⟩
      exact ⟨_, _, htext, he, hname, rfl⟩
  | subscribe service' text count =>
    rw [job_subscribe hr, addressed_eq_ok_iff hholds]
    constructor
    · rintro ⟨f, e, htext, he, hname, rfl⟩
      exact .follow htext he hname
    · intro h
      cases h with
      | follow htext he hname => exact ⟨_, _, htext, he, hname, rfl⟩
  | topic | filter | endpoints => cases ha

theorem code_of_action (hv : c.validate = .ok ()) {a : Action} {service : String}
    (ha : a.service? = some service) {e : Failure} (h : a.job address c = .error e) : e.report.code = 2 := by
  obtain ⟨r, hr, -⟩ := BusConfig.registry_of_validate hv
  cases a with
  | request service' command text =>
    rw [job_request hr] at h
    exact code_of_addressed (fun e => code_of_readParams) h
  | subscribe service' text count =>
    rw [job_subscribe hr] at h
    exact code_of_addressed (fun e => code_of_readFilter) h
  | topic | filter | endpoints => cases ha

end Jobs

/-! ## Faults and jobs -/

namespace Invocation
variable {read : String → Except FileError String} {i : Invocation} {c : BusConfig} {address service : String}

theorem faulty_of_load {e : ConfigError} (h : BusConfig.load read i.config = .error e) : i.Faulty read := by
  cases hfile : i.config with
  | none =>
    rw [hfile] at h
    cases h
  | some path =>
    rw [hfile, BusConfig.load] at h
    cases hread : read path with
    | error e => exact .unreadable hfile hread
    | ok text =>
      simp only [hread, BusConfig.parse] at h
      split at h
      · next hform => exact .malformed hfile hread hform
      · next c hform =>
        split at h
        · cases h
        · next hvalid => exact .invalid hfile hread hform hvalid

theorem faulty_or_comesTo (hc : BusConfig.load read i.config = .ok c) (ha : i.action.service? = some service)
    (address : String) : i.Faulty read ∨ ∃ j, i.action.ComesTo address c j := by
  by_cases hname : service ∈ c.endpoints.map Endpoint.name
  · obtain ⟨e, he, rfl⟩ := List.mem_map.mp hname
    cases haction : i.action with
    | request service' command text =>
      cases hread : readParams text with
      | error fault =>
        refine .inl (.params haction fun members hwrites => ?_)
        cases hread.symm.trans (readParams_eq_ok_iff.mpr ⟨members, hwrites, rfl⟩)
      | ok params =>
        rw [haction] at ha
        exact .inr ⟨_, .call hread he (Option.some.inj ha).symm⟩
    | subscribe service' text count =>
      cases hread : readFilter text with
      | error fault =>
        refine .inl (.filter haction fun v members hwrites hobject htagged => ?_)
        obtain ⟨f, hf⟩ := TopicFilter.ofJson_ok_iff.mpr ⟨members, hobject, htagged⟩
        cases hread.symm.trans (readFilter_eq_ok_iff.mpr ⟨v, hwrites, hf⟩)
      | ok f =>
        rw [haction] at ha
        exact .inr ⟨_, .follow hread he (Option.some.inj ha).symm⟩
    | topic | filter | endpoints =>
      rw [haction] at ha
      cases ha
  · exact .inl (.unknown hc ha hname)

theorem not_faulty (hc : BusConfig.load read i.config = .ok c) {j : Job} (h : i.action.ComesTo address c j) :
    ¬i.Faulty read := by
  intro hfaulty
  cases hfaulty with
  | unreadable hfile hread => simp [BusConfig.load, hfile, hread] at hc
  | malformed hfile hread hform => simp [BusConfig.load, hfile, hread, BusConfig.parse, hform] at hc
  | invalid hfile hread hform hvalid =>
    simp [BusConfig.load, hfile, hread, BusConfig.parse, hform, hvalid] at hc
  | params haction htext =>
    rw [haction] at h
    cases h with
    | call hread =>
      obtain ⟨members, hwrites, -⟩ := readParams_eq_ok_iff.mp hread
      exact htext members hwrites
  | filter haction htext =>
    rw [haction] at h
    cases h with
    | follow hread =>
      obtain ⟨v, hwrites, hf⟩ := readFilter_eq_ok_iff.mp hread
      obtain ⟨members, hobject, htagged⟩ := TopicFilter.ofJson_ok_iff.mp ⟨_, hf⟩
      exact htext v members hwrites hobject htagged
  | unknown hc' ha hname =>
    cases hc.symm.trans hc'
    generalize i.action = action at h ha
    cases h with
    | call _ he hname' | follow _ he hname' =>
      obtain rfl := Option.some.inj ha
      exact hname (List.mem_map.mpr ⟨_, he, hname'⟩)

/-- A command for a service has no job just if it is faulty; then its failure has the code of faulty input, and
else its job is the one that its arguments and its configuration give. -/
theorem faulty_cases (ha : i.action.service? = some service) (read : String → Except FileError String)
    (address : String) :
    (i.Faulty read ∧ ∃ e, i.job read address = .error e ∧ e.report.code = 2) ∨
    ¬i.Faulty read ∧ ∃ c j, BusConfig.load read i.config = .ok c ∧ i.action.ComesTo address c j ∧
      i.job read address = .ok j := by
  cases hc : BusConfig.load read i.config with
  | error e =>
    have hjob : i.job read address = .error (.config e) := by rw [job, hc]; rfl
    exact .inl ⟨faulty_of_load hc, _, hjob, rfl⟩
  | ok c =>
    have hv := BusConfig.validate_of_load hc
    have hjob : i.job read address = i.action.job address c := by rw [job, hc]; rfl
    cases haction : i.action.job address c with
    | ok j =>
      have hcomes := (comesTo_iff hv ha).mp haction
      exact .inr ⟨not_faulty hc hcomes, c, j, rfl, hcomes, hjob.trans haction⟩
    | error e =>
      refine .inl ⟨?_, e, hjob.trans haction, code_of_action hv ha haction⟩
      refine (faulty_or_comesTo hc ha address).resolve_right fun ⟨j, hcomes⟩ => ?_
      cases haction.symm.trans ((comesTo_iff hv ha).mpr hcomes)

theorem not_faulty_of_job (ha : i.action.service? = some service)
    (h : (i.job read address).toOption.isSome = true) : ¬i.Faulty read := by
  rcases faulty_cases ha read address with ⟨-, e, hjob, -⟩ | ⟨hgood, -⟩
  · rw [hjob] at h
    cases h
  · exact hgood

end Invocation
end Command
end MessageBus
