import Mathlib.Data.List.Perm.Lattice
import MessageBus.Config.Load
import MessageBus.Proofs.History
import MessageBus.Proofs.Lookup
import MessageBus.Proofs.Text.Order
/-!
# Endpoints and their registry

`registry_agrees`: a configuration has a registry just if its endpoints have distinct names, and validation
finds the same fault. A registry is known by the endpoints that were entered into it, in their order (`Holds`);
validation and registry go through a list of endpoints side by side, and both stop at the first name that
occurred before (`foldlM_insert`).
-/
namespace MessageBus
set_option autoImplicit false

/-- Of these endpoints the first whose name occurred before. -/
def FirstRepeat (endpoints : List Endpoint) (e : Endpoint) : Prop :=
  ∃ before after, endpoints = before ++ e :: after ∧ (before.map Endpoint.name).Nodup ∧
    e.name ∈ before.map Endpoint.name

theorem FirstRepeat.not_nodup {endpoints : List Endpoint} {e : Endpoint} (h : FirstRepeat endpoints e) :
    ¬(endpoints.map Endpoint.name).Nodup := by
  obtain ⟨before, after, rfl, -, hmem⟩ := h
  intro hd
  rw [List.map_append, List.map_cons] at hd
  exact (List.nodup_append.mp hd).2.2 _ hmem _ List.mem_cons_self rfl

section Named
variable {endpoints : List Endpoint} {name : String}

theorem find_named_eq_none_iff :
    (endpoints.find? fun e => e.name = name) = none ↔ name ∉ endpoints.map Endpoint.name := by
  simp [List.find?_eq_none]

theorem find_named_eq_some_iff (hd : (endpoints.map Endpoint.name).Nodup) {e : Endpoint} :
    (endpoints.find? fun e => e.name = name) = some e ↔ e ∈ endpoints ∧ e.name = name := by
  constructor
  · intro h
    exact ⟨List.mem_of_find?_eq_some h, by simpa using List.find?_some h⟩
  · rintro ⟨he, rfl⟩
    cases hfind : endpoints.find? fun e' => e'.name = e.name with
    | none => exact absurd (List.mem_map_of_mem he) (find_named_eq_none_iff.mp hfind)
    | some found =>
      have hname : found.name = e.name := by simpa using List.find?_some hfind
      rw [List.inj_on_of_nodup_map hd (List.mem_of_find?_eq_some hfind) he hname]

end Named

namespace Registry

/-! ## What was entered -/

/-- The registry has these endpoints, entered in this order, and no others. -/
structure Holds (r : Registry) (entered : List Endpoint) : Prop where
  distinct : (entered.map Endpoint.name).Nodup
  find : ∀ name, r.table.get? name = entered.find? fun e => e.name = name

section Holding
variable {r r' : Registry} {entered : List Endpoint} {e : Endpoint}

theorem holds_empty : Holds empty [] := ⟨List.nodup_nil, fun _ => rfl⟩

theorem mem_names {name : String} : name ∈ r.names ↔ r.table.contains name = true :=
  Table.mem_keys.trans Option.isSome_iff_exists.symm

theorem Holds.mem_names (h : r.Holds entered) {name : String} :
    name ∈ r.names ↔ name ∈ entered.map Endpoint.name := by
  rw [Registry.mem_names, Table.contains, h.find, Option.isSome_iff_ne_none, ne_eq, find_named_eq_none_iff,
    Decidable.not_not]

theorem insert_known (h : e.name ∈ r.names) : r.insert e = .error (.duplicate e.name) := by
  rw [insert, if_pos (mem_names.mp h)]

theorem insert_fresh (h : e.name ∉ r.names) : r.insert e = .ok ⟨r.table.insert e.name e⟩ := by
  rw [insert, if_neg (mt mem_names.mpr h)]

theorem Holds.insert (h : r.Holds entered) (hfresh : e.name ∉ r.names) :
    Holds ⟨r.table.insert e.name e⟩ (entered ++ [e]) := by
  rw [h.mem_names] at hfresh
  refine ⟨?_, fun name => ?_⟩
  · rw [List.map_append, List.nodup_append]
    refine ⟨h.distinct, List.nodup_singleton _, fun name hname name' hname' heq => ?_⟩
    obtain rfl : name' = e.name := by simpa using hname'
    exact hfresh (heq ▸ hname)
  · rw [Table.get?_insert, List.find?_append, h.find]
    by_cases heq : name = e.name
    · rw [if_pos heq, heq, find_named_eq_none_iff.mpr hfresh, Option.none_or]
      simp
    · rw [if_neg heq]
      simp [@eq_comm _ e.name, heq]

theorem Holds.names_perm (h : r.Holds entered) : r.names.Perm (entered.map Endpoint.name) := by
  have hnames : r.names.Nodup := r.table.ascending.nodup
  exact (List.perm_ext_iff_of_nodup hnames h.distinct).mpr fun name => h.mem_names

theorem Holds.size (h : r.Holds entered) : r.size = entered.length := by
  have hlength := h.names_perm.length_eq
  rwa [names, Table.keys, List.length_map, List.length_map] at hlength

theorem names_ascending (r : Registry) : r.names.Pairwise fun a b => Utf8.bytes a < Utf8.bytes b :=
  r.table.keys_ascending.imp Utf8.bytes_lt_iff.mpr

theorem Holds.resolve (h : r.Holds entered) (name : String) : r.resolve name =
    (entered.find? fun e => e.name = name).elim (.error (.unknownService name)) .ok := by
  rw [Registry.resolve, h.find]
  cases entered.find? fun e => e.name = name <;> rfl

theorem Holds.resolve_of_mem (h : r.Holds entered) (he : e ∈ entered) : r.resolve e.name = .ok e := by
  rw [h.resolve, (find_named_eq_some_iff h.distinct).mpr ⟨he, rfl⟩]
  rfl

theorem Holds.resolve_unknown (h : r.Holds entered) {name : String}
    (hname : name ∉ entered.map Endpoint.name) : r.resolve name = .error (.unknownService name) := by
  rw [h.resolve, find_named_eq_none_iff.mpr hname]
  rfl

end Holding

/-! ## Insertions -/

/-- Enters an endpoint; a registry that refuses it stays as it was. -/
def enter (r : Registry) (e : Endpoint) : Registry × Except RegistryError Unit :=
  match r.insert e with
  | .ok r' => (r', .ok ())
  | .error fault => (r, .error fault)

/-- An insertion and what was answered. -/
abbrev Insertion := Occurrence Registry Endpoint (Except RegistryError Unit)

/-- Any insertions, one after the other. -/
abbrev Run (r₀ : Registry) : List Insertion → Registry → Prop := Occurs (fun r e => some (r.enter e)) r₀

/-- The endpoint that was entered, if it was not refused. -/
def entered? (o : Insertion) : Option Endpoint :=
  match o.output with
  | .ok () => some o.event
  | .error _ => none

section Insertions
variable {r r' : Registry} {entered : List Endpoint} {e : Endpoint} {history : List Insertion}

theorem enter_known (h : e.name ∈ r.names) : r.enter e = (r, .error (.duplicate e.name)) := by
  rw [enter, insert_known h]

theorem enter_fresh (h : e.name ∉ r.names) : r.enter e = (⟨r.table.insert e.name e⟩, .ok ()) := by
  rw [enter, insert_fresh h]

theorem Holds.enter (h : r.Holds entered) (e : Endpoint) :
    Holds (r.enter e).1 (entered ++ (entered? ⟨r, e, (r.enter e).1, (r.enter e).2⟩).toList) := by
  by_cases hknown : e.name ∈ r.names
  · simpa [enter_known hknown, entered?] using h
  · simpa [enter_fresh hknown, entered?] using h.insert hknown

theorem Run.holds (h : r.Run history r') (hr : r.Holds entered) :
    r'.Holds (entered ++ history.filterMap entered?) := by
  induction h with
  | nothing => simpa using hr
  | @next history s s' e out _ hs ih =>
    have hstep : s.enter e = (s', out) := Option.some.inj hs
    have hnext := ih.enter e
    rw [hstep] at hnext
    rwa [filterMap_concat, ← List.append_assoc]

theorem Run.answered (h : r.Run history r') {o : Insertion} (ho : o ∈ history) :
    (o.event.name ∈ o.before.names → o.output = .error (.duplicate o.event.name) ∧ o.after = o.before) ∧
    (o.event.name ∉ o.before.names → o.output = .ok ()) := by
  obtain ⟨-, -, hs⟩ := h.of_mem ho
  have hstep : o.before.enter o.event = (o.after, o.output) := Option.some.inj hs
  constructor
  · intro hknown
    rw [enter_known hknown] at hstep
    obtain ⟨hafter, houtput⟩ := Prod.mk.inj hstep
    exact ⟨houtput.symm, hafter.symm⟩
  · intro hfresh
    rw [enter_fresh hfresh] at hstep
    exact (Prod.mk.inj hstep).2.symm

end Insertions
end Registry

/-! ## Two checks for one fault -/

/-- Entering endpoints goes on as long as the check for repeated names does, and stops at the same name. -/
theorem Registry.foldlM_insert {r : Registry} {entered : List Endpoint} {seen : List String}
    (hr : r.Holds entered) (hseen : ∀ name, name ∈ seen ↔ name ∈ r.names) (endpoints : List Endpoint) :
    (firstRepeated seen (endpoints.map Endpoint.name) = none ∧
      ∃ r', endpoints.foldlM Registry.insert r = .ok r' ∧ r'.Holds (entered ++ endpoints)) ∨
    ∃ e, FirstRepeat (entered ++ endpoints) e ∧
      firstRepeated seen (endpoints.map Endpoint.name) = some e.name ∧
      endpoints.foldlM Registry.insert r = .error (.duplicate e.name) := by
  induction endpoints generalizing r entered seen with
  | nil =>
    refine .inl ⟨rfl, r, rfl, ?_⟩
    rwa [List.append_nil]
  | cons e endpoints ih =>
    rw [List.map_cons, firstRepeated, List.foldlM_cons]
    by_cases hknown : e.name ∈ r.names
    · have hmem : seen.contains e.name = true := List.contains_iff_mem.mpr ((hseen _).mpr hknown)
      refine .inr ⟨e, ⟨entered, endpoints, rfl, hr.distinct, hr.mem_names.mp hknown⟩, ?_, ?_⟩
      · rw [if_pos hmem]
      · rw [insert_known hknown]
        rfl
    · have hnot : ¬seen.contains e.name = true := fun h => hknown ((hseen _).mp (List.contains_iff_mem.mp h))
      have hr' := hr.insert hknown
      have hseen' : ∀ name, name ∈ e.name :: seen ↔
          name ∈ (⟨r.table.insert e.name e⟩ : Registry).names := by
        intro name
        rw [hr'.mem_names, List.mem_cons, hseen, hr.mem_names]
        simp [or_comm]
      have hlater := ih hr' hseen'
      rw [List.append_assoc, List.singleton_append] at hlater
      rwa [if_neg hnot, insert_fresh hknown]

namespace BusConfig

section Agreement
variable {c : BusConfig}

theorem validate_of_sections (ht : c.transport.validate = .ok ()) (hs : c.subscriber.validate = .ok ()) :
    c.validate = match firstRepeated [] (c.endpoints.map Endpoint.name) with
      | some name => .error (.registry (.duplicate name))
      | none => .ok () := by
  rw [validate, ht, hs]
  rfl

theorem sections_of_validate (h : c.validate = .ok ()) :
    c.transport.validate = .ok () ∧ c.subscriber.validate = .ok () := by
  rw [validate] at h
  cases ht : c.transport.validate with
  | error e =>
    rw [ht] at h
    cases h
  | ok =>
    cases hs : c.subscriber.validate with
    | error e =>
      rw [ht, hs] at h
      cases h
    | ok => exact ⟨rfl, rfl⟩

theorem validate_of_parse {text : String} (h : parse text = .ok c) : c.validate = .ok () := by
  rw [parse] at h
  split at h
  · cases h
  · next read _ =>
    split at h
    · next hvalid =>
      cases h
      exact hvalid
    · cases h

/-- The registry has all endpoints, or it is refused for the first whose name occurred before. -/
theorem registry_cases (c : BusConfig) :
    (firstRepeated [] (c.endpoints.map Endpoint.name) = none ∧
      ∃ r, c.registry = .ok r ∧ r.Holds c.endpoints) ∨
    ∃ e, FirstRepeat c.endpoints e ∧ firstRepeated [] (c.endpoints.map Endpoint.name) = some e.name ∧
      c.registry = .error (.registry (.duplicate e.name)) := by
  have hseen : ∀ name, name ∈ [] ↔ name ∈ Registry.empty.names := fun _ => Iff.rfl
  rcases Registry.foldlM_insert Registry.holds_empty hseen c.endpoints with
    ⟨hnone, r, hfold, hholds⟩ | ⟨e, hfirst, hsome, hfold⟩
  · refine .inl ⟨hnone, r, ?_, hholds⟩
    rw [registry, Registry.ofList, hfold]
  · refine .inr ⟨e, hfirst, hsome, ?_⟩
    rw [registry, Registry.ofList, hfold]

theorem registry_ok_iff (c : BusConfig) :
    (∃ r, c.registry = .ok r) ↔ (c.endpoints.map Endpoint.name).Nodup := by
  rcases c.registry_cases with ⟨-, r, hr, hholds⟩ | ⟨e, hfirst, -, hr⟩
  · exact iff_of_true ⟨r, hr⟩ hholds.distinct
  · refine iff_of_false ?_ hfirst.not_nodup
    rintro ⟨r, hok⟩
    rw [hr] at hok
    cases hok

theorem holds_of_registry {r : Registry} (h : c.registry = .ok r) : r.Holds c.endpoints := by
  rcases c.registry_cases with ⟨-, r', hr, hholds⟩ | ⟨e, -, -, hr⟩
  · rw [hr] at h
    cases h
    exact hholds
  · rw [hr] at h
    cases h

end Agreement

theorem message_duplicate (name : String) : (ConfigError.invalid (.registry (.duplicate name))).message =
    "invalid config: duplicate endpoint name '" ++ name ++ "'" := by
  have hfront : "invalid config: " ++ "duplicate endpoint name '" = "invalid config: duplicate endpoint name '" := by
    decide
  calc (ConfigError.invalid (.registry (.duplicate name))).message
      = "invalid config: " ++ ("duplicate endpoint name '" ++ name ++ "'") := rfl
    _ = "invalid config: " ++ "duplicate endpoint name '" ++ name ++ "'" := by
      simp only [String.append_assoc]
    _ = "invalid config: duplicate endpoint name '" ++ name ++ "'" :=
      congrArg (fun front => front ++ name ++ "'") hfront

/-- Validation and the registry agree, for any endpoints. There is a registry just if the names are distinct;
with valid sections, validation and the registry both succeed or both report the first endpoint whose name
occurred before. So a configuration that was read has a registry of all its endpoints, listed by the bytes of
their names. Whatever is entered later, a name that is there already is refused and nothing changes, and a name
stands for the endpoint that was entered first under it. -/
theorem registry_agrees (c : BusConfig) :
    ((∃ r, c.registry = .ok r) ↔ (c.endpoints.map Endpoint.name).Nodup) ∧
    (c.transport.validate = .ok () → c.subscriber.validate = .ok () →
      (c.validate = .ok () ∧ ∃ r, c.registry = .ok r) ∨
      ∃ e fault, FirstRepeat c.endpoints e ∧ c.validate = .error fault ∧ c.registry = .error fault ∧
        (ConfigError.invalid fault).message = "invalid config: duplicate endpoint name '" ++ e.name ++ "'") ∧
    (∀ text, parse text = .ok c → ∃ r, c.registry = .ok r ∧ r.size = c.endpoints.length ∧
      r.names.Perm (c.endpoints.map Endpoint.name) ∧
      r.names.Pairwise (fun a b => Utf8.bytes a < Utf8.bytes b) ∧
      (∀ e ∈ c.endpoints, r.resolve e.name = .ok e) ∧
      ∀ name, name ∉ c.endpoints.map Endpoint.name → r.resolve name = .error (.unknownService name)) ∧
    ∀ r history r', c.registry = .ok r → r.Run history r' →
      (∀ o ∈ history,
        (o.event.name ∈ o.before.names → o.output = .error (.duplicate o.event.name) ∧ o.after = o.before) ∧
        (o.event.name ∉ o.before.names → o.output = .ok ())) ∧
      ∀ name, r'.resolve name =
        ((c.endpoints ++ history.filterMap Registry.entered?).find? fun e => e.name = name).elim
          (.error (.unknownService name)) .ok := by
  refine ⟨c.registry_ok_iff, fun ht hs => ?_, fun text hparse => ?_, fun r history r' hr hrun => ?_⟩
  · rw [validate_of_sections ht hs]
    rcases c.registry_cases with ⟨hnone, r, hr, -⟩ | ⟨e, hfirst, hsome, hr⟩
    · rw [hnone]
      exact .inl ⟨rfl, r, hr⟩
    · rw [hsome]
      exact .inr ⟨e, _, hfirst, rfl, hr, message_duplicate e.name⟩
  · have hvalid := validate_of_parse hparse
    obtain ⟨ht, hs⟩ := sections_of_validate hvalid
    rw [validate_of_sections ht hs] at hvalid
    rcases c.registry_cases with ⟨-, r, hr, hholds⟩ | ⟨e, -, hsome, -⟩
    · exact ⟨r, hr, hholds.size, hholds.names_perm, r.names_ascending, fun e he => hholds.resolve_of_mem he,
        fun name hname => hholds.resolve_unknown hname⟩
    · rw [hsome] at hvalid
      cases hvalid
  · have hholds := hrun.holds (holds_of_registry hr)
    exact ⟨fun o ho => hrun.answered ho, hholds.resolve⟩

/-- Two endpoints, not in the order of their names. -/
def written : String :=
  "[[endpoints]]\nname = \"über\"\nhost = \"a\"\nport = 1\n[[endpoints]]\nname = \"reader\"\nhost = \"b\"\nport = 2\n"

def configured : BusConfig := ⟨.default, .default, [⟨"über", "a", 1, none, none⟩, ⟨"reader", "b", 2, none, none⟩]⟩

theorem parse_written : parse written = .ok configured := by
  have hread : (parse written).toOption = some configured := by decide +kernel
  cases h : parse written with
  | error e =>
    rw [h] at hread
    cases hread
  | ok c =>
    rw [h] at hread
    exact congrArg Except.ok (Option.some.inj hread)

/-- A name that was read is entered again, in vain, and then a new one. -/
theorem registry_agrees_reentered :
    parse written = .ok configured ∧ ∃ r, configured.registry = .ok r ∧ r.size = 2 ∧
      r.names.Perm ["über", "reader"] ∧ r.names.Pairwise (fun a b => Utf8.bytes a < Utf8.bytes b) ∧
      ∃ history r', r.Run history r' ∧
        history.map (fun o => (o.event.name, o.event.port)) = [("reader", 3), ("static", 4)] ∧
        history.map Occurrence.output = [.error (.duplicate "reader"), .ok ()] ∧
        r'.resolve "reader" = .ok ⟨"reader", "b", 2, none, none⟩ ∧
        r'.resolve "static" = .ok ⟨"static", "c", 4, none, none⟩ ∧
        r'.resolve "ghost" = .error (.unknownService "ghost") := by
  obtain ⟨-, -, hread, hlater⟩ := registry_agrees configured
  obtain ⟨r, hr, hsize, hperm, hsorted, -⟩ := hread written parse_written
  have hknown : "reader" ∈ r.names := hperm.mem_iff.mpr (by decide)
  have hfresh : "static" ∉ r.names := fun h => absurd (hperm.mem_iff.mp h) (by decide)
  have hrefused : r.Run [⟨r, ⟨"reader", "c", 3, none, none⟩, r, .error (.duplicate "reader")⟩] r :=
    Occurs.nothing.next (congrArg some (Registry.enter_known hknown))
  have hrun := hrefused.next (e := ⟨"static", "c", 4, none, none⟩) (congrArg some (Registry.enter_fresh hfresh))
  obtain ⟨-, hresolve⟩ := hlater r _ _ hr hrun
  exact ⟨parse_written, r, hr, hsize, hperm, hsorted, _, _, hrun, rfl, rfl, hresolve "reader", hresolve "static",
    hresolve "ghost"⟩

end BusConfig
end MessageBus
