import ProxyRouting.Profile.Basic

/-! Stored values. A profile is written as a document with a field for each part that is there, and
is read back from it as the same profile, down to its rules and its servers. Where nothing is
written, for an absent part or an empty list, the reader takes the missing field for just that. -/
namespace ProxyRouting

namespace Fields

@[simp] theorem find?_nil (name : String) : Fields.find? name [] = none := rfl

@[simp] theorem find?_cons (name key : String) (value : Doc) (rest : Fields) :
    Fields.find? name ((key, value) :: rest) =
      (Fields.find? name rest).or (if key = name then some value else none) := rfl

/-- Fields behind others count before them. -/
@[simp] theorem find?_append (name : String) (front rest : Fields) :
    Fields.find? name (front ++ rest) =
      (Fields.find? name rest).or (Fields.find? name front) := by
  induction front with
  | nil => simp
  | cons field front ih =>
      obtain ⟨key, value⟩ := field
      rw [List.cons_append, find?_cons, find?_cons, ih, Option.or_assoc]

/-- A part that may be absent has a field when it is there. -/
@[simp] theorem find?_optional {α : Type} (name key : String) (part : Option α) (write : α → Doc) :
    Fields.find? name (part.map fun a => (key, write a)).toList =
      if key = name then part.map write else none := by
  cases part with
  | none => simp
  | some a => simp

theorem find?_eq_none {name : String} {fs : Fields} (h : ∀ field ∈ fs, field.1 ≠ name) :
    Fields.find? name fs = none := by
  induction fs with
  | nil => rfl
  | cons field rest ih =>
      obtain ⟨key, value⟩ := field
      have hKey : key ≠ name := h (key, value) List.mem_cons_self
      rw [find?_cons, ih fun other hOther => h other (List.mem_cons_of_mem _ hOther), if_neg hKey]
      rfl

variable {fs : Fields}

theorem getD_find? (name : String) {d missing : Doc} (h : fs.find? name = some d) :
    (fs.find? name).getD missing = d := by
  rw [h]
  rfl

theorem textOr_ofText (name : String) {t missing : Option String}
    (h : fs.find? name = some (.ofText t)) : fs.textOr name missing = .ok t := by
  rw [textOr, h]
  cases t with
  | none => rfl
  | some s => rfl

/-- A text that is written when it is there, and absent when it is missing. -/
theorem textOr_optional (name : String) {t : Option String} (h : fs.find? name = t.map .text) :
    fs.textOr name none = .ok t := by
  rw [textOr, h]
  cases t with
  | none => rfl
  | some s => rfl

theorem switchOr_bool (name : String) {b missing : Bool} (h : fs.find? name = some (.bool b)) :
    fs.switchOr name missing = b := by
  rw [switchOr, h]
  rfl

variable {α : Type} {read : Doc → Except Fault α} {write : α → Doc} {p : Option α}

/-- What is read only when it is set is read back if nothing that is written counts as unset. -/
theorem whenSet_optional (name : String) (hRead : ∀ a, read (write a) = .ok a)
    (hSet : ∀ a, (write a).isSet = true) (h : fs.find? name = p.map write) :
    fs.whenSet name read = .ok p := by
  rw [whenSet, h]
  cases p with
  | none => rfl
  | some a =>
      show (if (write a).isSet then (read (write a)).map some else .ok none) = .ok (some a)
      rw [if_pos (hSet a), hRead]
      rfl

/-- What is read unless it is null is read back if it is written as an object, an empty one too. -/
theorem whenPresent_optional (name : String) (hRead : ∀ a, read (write a) = .ok a)
    (hObject : ∀ a, ∃ inner, write a = .object inner) (h : fs.find? name = p.map write) :
    fs.whenPresent name read = .ok p := by
  rw [whenPresent, h]
  cases p with
  | none => rfl
  | some a =>
      obtain ⟨inner, hInner⟩ := hObject a
      have hBack := hRead a
      rw [hInner] at hBack
      rw [Option.map_some, hInner]
      show (read (.object inner)).map some = .ok (some a)
      rw [hBack]
      rfl

end Fields

theorem Doc.fields_object_bind {α : Type} (fs : Fields) (read : Fields → Except Fault α) :
    (Doc.object fs).fields >>= read = read fs := rfl

/-- A list is read back item by item. -/
theorem Doc.mapM_map {α : Type} {read : Doc → Except Fault α} {write : α → Doc}
    (hRead : ∀ a, read (write a) = .ok a) (items : List α) :
    (items.map write).mapM read = .ok items := by
  induction items with
  | nil => rfl
  | cons a rest ih =>
      rw [List.map_cons, List.mapM_cons, hRead a, ih]
      rfl

theorem Doc.items_array_bind {α β : Type} {read : Doc → Except Fault α} {write : α → Doc}
    (hRead : ∀ a, read (write a) = .ok a) (items : List α) (next : List α → Except Fault β) :
    ((Doc.array (items.map write)).items >>= fun docs => docs.mapM read >>= next) = next items := by
  show ((items.map write).mapM read >>= next) = next items
  rw [Doc.mapM_map hRead]
  rfl

theorem Doc.optionalText_ofText (t : Option String) : (Doc.ofText t).optionalText = .ok t := by
  cases t with
  | none => rfl
  | some s => rfl

open Fields

namespace Server

theorem ofDoc_toDoc (s : Server) : ofDoc s.toDoc = .ok s := by
  rw [toDoc, ofDoc, Doc.fields_object_bind, ofFields,
    textOr_ofText "scheme" (t := s.scheme) (by simp),
    textOr_ofText "host" (t := s.host) (by simp),
    getD_find? "port" (d := .text s.port) (by simp)]
  rfl

/-- A server is never written as an empty object. -/
theorem isSet_toDoc (s : Server) : s.toDoc.isSet = true := rfl

end Server

namespace ScriptSource

theorem ofDoc_toDoc (s : ScriptSource) : ofDoc s.toDoc = .ok s := by
  rw [toDoc, ofDoc, Doc.fields_object_bind, ofFields,
    textOr_optional "url" (t := s.url) (by simp),
    textOr_optional "data" (t := s.data) (by simp),
    switchOr_bool "mandatory" (b := s.mandatory) (by simp)]
  rfl

end ScriptSource

namespace Rule

theorem ofDoc_toDoc (r : Rule) : ofDoc r.toDoc = .ok r := by
  rw [toDoc, ofDoc, Doc.fields_object_bind, ofFields,
    textOr_ofText "id" (t := r.id) (by simp),
    textOr_ofText "pattern" (t := r.pattern) (by simp),
    textOr_ofText "matchType" (t := r.grammar) (by simp),
    textOr_ofText "proxyType" (t := r.route.kind) (by simp),
    whenSet_optional "inlineProxy" Server.ofDoc_toDoc Server.isSet_toDoc
      (p := r.route.server) (by simp),
    textOr_optional "proxyId" (t := r.route.profile) (by simp),
    switchOr_bool "enabled" (b := r.enabled) (by simp),
    getD_find? "priority" (d := .int r.priority) (by simp)]
  rfl

end Rule

namespace RuleSet

theorem ofDoc_toDoc (s : RuleSet) : ofDoc s.toDoc = .ok s := by
  rw [toDoc, ofDoc, Doc.fields_object_bind, ofFields,
    textOr_ofText "fallbackType" (t := s.fallback.kind) (by simp),
    whenSet_optional "fallbackInlineProxy" Server.ofDoc_toDoc Server.isSet_toDoc
      (p := s.fallback.server) (by simp),
    textOr_optional "fallbackProxyId" (t := s.fallback.profile) (by simp),
    getD_find? "rules" (d := .array (s.rules.map Rule.toDoc)) (by simp)]
  exact Doc.items_array_bind Rule.ofDoc_toDoc s.rules _

end RuleSet

theorem Slot.key_ne_of_ne {slot other : Slot} (h : other ≠ slot) : other.key ≠ slot.key := by
  intro hKey
  apply h
  cases slot <;> cases other <;> simp [Slot.key] at hKey ⊢

namespace ManualServers

/-- Of the servers of some slots, each is found under the name of its own slot. -/
theorem find?_slots (m : ManualServers) (slot : Slot) (slots : List Slot) :
    Fields.find? slot.key ((slots.filterMap fun other => (m.get? other).map (other, ·)).map
      fun entry => (entry.1.key, entry.2.toDoc)) =
        if slot ∈ slots then (m.get? slot).map Server.toDoc else none := by
  induction slots with
  | nil => rfl
  | cons other slots ih =>
      rw [List.filterMap_cons]
      by_cases hSlot : other = slot
      · subst hSlot
        cases hServer : m.get? other with
        | none => simpa [hServer] using ih
        | some server =>
            simp only [Option.map_some, List.map_cons, find?_cons, ih, hServer]
            split <;> simp
      · have hMem : slot ∈ other :: slots ↔ slot ∈ slots := by
          simp [Ne.symm hSlot]
        cases m.get? other with
        | none => simpa [hMem] using ih
        | some server =>
            have hKey := Slot.key_ne_of_ne hSlot
            simp only [Option.map_some, List.map_cons, find?_cons, ih, if_neg hKey, hMem,
              Option.or_none]

theorem find?_filled (m : ManualServers) (slot : Slot) :
    Fields.find? slot.key (m.filled.map fun entry => (entry.1.key, entry.2.toDoc)) =
      (m.get? slot).map Server.toDoc := by
  rw [filled, find?_slots, if_pos]
  cases slot <;> decide

/-- The fields in which a list of passed-by hosts is written; an empty list has none. -/
theorem find?_bypass (name : String) (hosts : List (Option String)) :
    Fields.find? name (if hosts.isEmpty then []
      else [("bypassList", .array (hosts.map Doc.ofText))]) =
        if "bypassList" = name ∧ hosts ≠ [] then some (.array (hosts.map Doc.ofText))
        else none := by
  cases hosts with
  | nil => simp
  | cons host rest => simp

theorem find?_toDoc_slot (m : ManualServers) (slot : Slot) :
    Fields.find? slot.key (m.filled.map (fun entry => (entry.1.key, entry.2.toDoc)) ++
      if m.bypass.isEmpty then [] else [("bypassList", .array (m.bypass.map Doc.ofText))]) =
        (m.get? slot).map Server.toDoc := by
  have hName : "bypassList" ≠ slot.key := by cases slot <;> simp [Slot.key]
  rw [find?_append, find?_bypass, find?_filled, if_neg fun h => hName h.1, Option.none_or]

/-- No slot has the name of the list of passed-by hosts, which is empty when it is missing. -/
theorem getD_find?_toDoc_bypass (m : ManualServers) :
    (Fields.find? "bypassList" (m.filled.map (fun entry => (entry.1.key, entry.2.toDoc)) ++
      if m.bypass.isEmpty then [] else [("bypassList", .array (m.bypass.map Doc.ofText))])).getD
        (.array []) = .array (m.bypass.map Doc.ofText) := by
  have hFilled : Fields.find? "bypassList"
      (m.filled.map fun entry => (entry.1.key, entry.2.toDoc)) = none := by
    apply find?_eq_none
    intro field hField
    obtain ⟨⟨slot, server⟩, -, rfl⟩ := List.mem_map.mp hField
    cases slot <;> simp [Slot.key]
  rw [find?_append, find?_bypass, hFilled]
  cases m.bypass with
  | nil => rfl
  | cons host rest => simp

theorem ofDoc_toDoc (m : ManualServers) : ofDoc m.toDoc = .ok m := by
  have hSlot := fun slot =>
    whenSet_optional slot.key Server.ofDoc_toDoc Server.isSet_toDoc (find?_toDoc_slot m slot)
  rw [toDoc, ofDoc, Doc.fields_object_bind, ofFields, hSlot .shared, hSlot .http, hSlot .https,
    hSlot .ftp, hSlot .fallback, getD_find?_toDoc_bypass]
  exact Doc.items_array_bind Doc.optionalText_ofText m.bypass _

end ManualServers

/-- Every value that is stored is read back from its document: servers, the sources of scripts,
manually entered servers, rules, rule sets, and profiles with all that they hold. Texts may be empty
or absent, and so may lists and parts; nothing of it is lost or changed. -/
theorem stored_is_read_back :
    (∀ s : Server, Server.ofDoc s.toDoc = .ok s) ∧
    (∀ s : ScriptSource, ScriptSource.ofDoc s.toDoc = .ok s) ∧
    (∀ m : ManualServers, ManualServers.ofDoc m.toDoc = .ok m) ∧
    (∀ r : Rule, Rule.ofDoc r.toDoc = .ok r) ∧
    (∀ s : RuleSet, RuleSet.ofDoc s.toDoc = .ok s) ∧
    ∀ p : Profile, Profile.ofDoc p.toDoc = .ok p := by
  refine ⟨Server.ofDoc_toDoc, ScriptSource.ofDoc_toDoc, ManualServers.ofDoc_toDoc,
    Rule.ofDoc_toDoc, RuleSet.ofDoc_toDoc, ?_⟩
  intro p
  rw [Profile.toDoc, Profile.ofDoc, Doc.fields_object_bind, Profile.ofFields,
    textOr_optional "id" (t := p.id) (by simp),
    textOr_ofText "name" (t := p.name) (by simp),
    textOr_ofText "color" (t := p.color) (by simp),
    textOr_ofText "mode" (t := p.mode) (by simp),
    whenPresent_optional "pacScript" ScriptSource.ofDoc_toDoc (fun _ => ⟨_, rfl⟩)
      (p := p.script) (by simp),
    whenPresent_optional "rules" ManualServers.ofDoc_toDoc (fun _ => ⟨_, rfl⟩)
      (p := p.servers) (by simp),
    whenPresent_optional "autoProxy" RuleSet.ofDoc_toDoc (fun _ => ⟨_, rfl⟩)
      (p := p.ruleSet) (by simp),
    switchOr_bool "isActive" (b := p.isActive) (by simp),
    switchOr_bool "quickSwitch" (b := p.quickSwitch) (by simp)]
  rfl

end ProxyRouting
